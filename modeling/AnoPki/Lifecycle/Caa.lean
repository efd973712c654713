import AnoPki.Foundation.Basic
import AnoPki.Foundation.DnsWire
import AnoPki.Domain.Types

/-! # Responses to CAA queries

The records that say which authorities may issue for a name are read from a DNS response. -/
namespace AnoPki.Lifecycle

open Foundation Foundation.Dns Domain List Except ErrKind

def dnsTypeCAA : Nat := 257

inductive CAADNSSECStatus where
  | secure
  | insecure
  | bogus
  | indeterminate
  /-- Any other string; the lookup is an interface. -/
  | other (status : Text)
deriving DecidableEq, Repr

structure CAARecord where
  flag : UInt8
  tag : Bytes
  value : Bytes
deriving DecidableEq, Repr

structure CAALookupResult where
  records : List CAARecord
  dnssecStatus : CAADNSSECStatus
deriving DecidableEq, Repr

/-- The place behind a name. -/
def skipDNSName (message : Bytes) (offset : Nat) : Except Err Nat :=
  match inside : message[offset]? with
  | none => .error (err .invalidRequest)
  | some length =>
    if length = 0 then .ok (offset + 1)
    else if isPointer length then
      if message.length ≤ offset + 1 then .error (err .invalidRequest) else .ok (offset + 1 + 1)
    else if message.length < offset + 1 + length.toNat then .error (err .invalidRequest)
    else skipDNSName message (offset + 1 + length.toNat)
termination_by message.length - offset
decreasing_by
  have := (List.getElem?_eq_some_iff.mp inside).1
  omega

/-- The loop over the questions. -/
def skipQuestions (message : Bytes) : Nat → Nat → Except Err Nat
  | 0, offset => .ok offset
  | count + 1, offset => do
    let offset ← skipDNSName message offset
    if message.length < offset + 4 then .error (err .invalidRequest)
    else skipQuestions message count (offset + 4)

/-- The record in the data of an answer, if it has room for one. -/
def caaRecord : Bytes → Option CAARecord
  | flag :: tagLen :: rest =>
    if tagLen.toNat ≤ rest.length then
      some ⟨flag, rest.take tagLen.toNat, rest.drop tagLen.toNat⟩
    else none
  | _ => none

/-- What an answer adds to the records. -/
def caaRecords (rrType rrClass : Nat) (data : Bytes) : List CAARecord :=
  if rrType = dnsTypeCAA ∧ rrClass = 1 then (caaRecord data).toList else []

/-- The loop over the answers. -/
def readAnswers (message : Bytes) : Nat → Nat → List CAARecord → Except Err (List CAARecord)
  | 0, _, records => .ok records
  | count + 1, offset, records => do
    let offset ← skipDNSName message offset
    if message.length < offset + 10 then .error (err .invalidRequest)
    else
      let rdLen := wordAt message (offset + 8)
      if message.length < offset + 10 + rdLen then .error (err .invalidRequest)
      else
        let data := (message.drop (offset + 10)).take rdLen
        readAnswers message count (offset + 10 + rdLen)
          (records ++ caaRecords (wordAt message offset) (wordAt message (offset + 2)) data)

def parseCAAResponse (message : Bytes) (id : Nat) : Except Err (CAALookupResult × Bool) := do
  if message.length < 12 ∨ wordAt message 0 ≠ id then .error (err .invalidRequest)
  else
    let flags := wordAt message 2
    let status : CAADNSSECStatus := if flags &&& 0x0020 ≠ 0 then .secure else .indeterminate
    let rcode := flags &&& 0x000f
    if rcode = 2 then .ok (⟨[], .bogus⟩, true)
    else if rcode = 3 then .ok (⟨[], status⟩, false)
    else if rcode ≠ 0 then .error {
        kind := .other, detail := "dns response rcode ".toList ++ Text.decimal rcode }
    else
      let offset ← skipQuestions message (wordAt message 4) 12
      let records ← readAnswers message (wordAt message 6) offset []
      .ok (⟨records, status⟩, decide (0 < records.length))

section Reading

variable {message : Bytes} {offset next : Nat}

/-- A name is skipped as it stands on the wire. -/
theorem skipDNSName_ok (skipped : skipDNSName message offset = .ok next) :
    next ≤ message.length ∧ ∃ name, Name name ∧
    message.drop offset = name ++ message.drop next := by
  fun_induction skipDNSName message offset with
  | case1 offset absent => cases skipped
  | case2 offset inside =>
    cases skipped
    obtain ⟨bound, here⟩ := List.getElem?_eq_some_iff.mp inside
    refine ⟨bound, [0], .root, ?_⟩
    rw [drop_eq_getElem_cons bound, here]
    rfl
  | case3 offset length inside nonzero mark short => cases skipped
  | case4 offset length inside nonzero mark room =>
    cases skipped
    obtain ⟨bound, here⟩ := List.getElem?_eq_some_iff.mp inside
    have second : offset + 1 < message.length := by omega
    refine ⟨by omega, [length, message[offset + 1]], .pointer mark, ?_⟩
    rw [drop_eq_getElem_cons bound, here, drop_eq_getElem_cons second]
    rfl
  | case5 offset length inside nonzero mark short => cases skipped
  | case6 offset length inside nonzero mark room ih =>
    obtain ⟨bound, here⟩ := List.getElem?_eq_some_iff.mp inside
    obtain ⟨below, rest, named, same⟩ := ih skipped
    refine ⟨below, length :: ((message.drop (offset + 1)).take length.toNat ++ rest),
      .label nonzero mark (by simp; omega) named, ?_⟩
    rw [drop_eq_getElem_cons bound, here, cons_append, append_assoc, ← same,
      ← @drop_drop _ length.toNat (offset + 1), take_append_drop]

theorem getElem?_of_drop {first rest} (here : message.drop offset = first :: rest) :
    message[offset]? = some first := by
  rw [← head?_drop, here, head?_cons]

/-- What follows some bytes of a message is found behind them. -/
theorem drop_append_length {front rest} (here : message.drop offset = front ++ rest) :
    message.drop (offset + front.length) = rest := by
  rw [← drop_drop, here, drop_left]

theorem length_of_drop {front rest} (here : message.drop offset = front ++ rest)
    (nonempty : 0 < front.length) : offset + front.length ≤ message.length := by
  have same := congrArg length here
  rw [length_drop, length_append] at same
  omega

/-- What stands on the wire as a name is skipped. -/
theorem skipDNSName_name {name rest} (named : Name name)
    (here : message.drop offset = name ++ rest) :
    skipDNSName message offset = .ok (offset + name.length) := by
  induction named generalizing offset with
  | root =>
    rw [skipDNSName, getElem?_of_drop here]
    rfl
  | @pointer high low mark =>
    have room := length_of_drop here (by simp)
    rw [length_cons, length_singleton] at room
    have nonzero : high ≠ 0 := by
      rintro rfl
      cases mark
    rw [skipDNSName, getElem?_of_drop here]
    dsimp only
    rw [if_neg nonzero, if_pos mark, if_neg (by omega)]
    rfl
  | @label length text rest' nonempty plain sized more ih =>
    have room := length_of_drop here (by simp)
    rw [length_cons, length_append] at room
    have behind : message.drop (offset + 1 + length.toNat) = rest' ++ rest := by
      rw [← sized, Nat.add_assoc, Nat.add_comm 1]
      exact @drop_append_length message offset (length :: text) _ (by simp [here])
    rw [skipDNSName, getElem?_of_drop here]
    dsimp only
    rw [if_neg nonempty, if_neg plain, if_neg (by omega), ih behind, length_cons,
      length_append, sized]
    congr 1
    omega

/-- Questions are skipped as they stand on the wire. -/
theorem skipQuestions_ok {count : Nat} (within : offset ≤ message.length)
    (skipped : skipQuestions message count offset = .ok next) :
    next ≤ message.length ∧ ∃ questions, Questions count questions ∧
      message.drop offset = questions ++ message.drop next := by
  induction count generalizing offset with
  | zero =>
    cases skipped
    exact ⟨within, [], .none, rfl⟩
  | succ count ih =>
    obtain ⟨behind, named, rest⟩ := bind_eq_ok.mp skipped
    obtain ⟨below, name, isName, here⟩ := skipDNSName_ok named
    split at rest
    · cases rest
    · next room =>
      obtain ⟨last, questions, others, there⟩ := ih (by omega) rest
      refine ⟨last, name ++ (message.drop behind).take 4 ++ questions,
        .more (.mk isName (by simp; omega)) others, ?_⟩
      rw [here, append_assoc, append_assoc, ← there, ← drop_drop, take_append_drop]

theorem skipQuestions_questions {count : Nat} {questions rest}
    (asked : Questions count questions) (here : message.drop offset = questions ++ rest) :
    skipQuestions message count offset = .ok (offset + questions.length) := by
  induction asked generalizing offset with
  | none => rfl
  | @more _ _ others question _ ih =>
    cases question with
    | @mk name fixed named sized =>
      have whole : message.drop offset = name ++ (fixed ++ (others ++ rest)) := by
        rw [here, append_assoc, append_assoc]
      have behind : message.drop (offset + name.length) = fixed ++ (others ++ rest) :=
        drop_append_length whole
      have room := length_of_drop behind (by omega)
      have next := drop_append_length behind
      rw [sized] at room next
      rw [skipQuestions, skipDNSName_name named whole]
      change (if _ then _ else _) = _
      rw [if_neg (by omega), ih next, length_append, length_append, sized]
      congr 1
      omega

/-- What the answers add to the records. -/
def answerRecords (answers : List Resource) : List CAARecord :=
  answers.flatMap fun answer => caaRecords answer.type answer.cls answer.data

theorem wordAt_drop (place : Nat) :
    wordAt message (offset + place) = wordAt (message.drop offset) place := by
  simp [wordAt, getD_eq_getElem?_getD, Nat.add_assoc]

/-- Ten bytes of a list that has as many. -/
theorem exists_ten {bytes : Bytes} (long : 10 ≤ bytes.length) : ∃ t₁ t₀ c₁ c₀ a b c d l₁ l₀ rest,
    bytes = t₁ :: t₀ :: c₁ :: c₀ :: a :: b :: c :: d :: l₁ :: l₀ :: rest := by
  match bytes, long with
  | t₁ :: t₀ :: c₁ :: c₀ :: a :: b :: c :: d :: l₁ :: l₀ :: rest, _ =>
    exact ⟨t₁, t₀, c₁, c₀, a, b, c, d, l₁, l₀, rest, rfl⟩

/-- Answers are read as they stand on the wire. -/
theorem readAnswers_ok {count : Nat} {records result}
    (read : readAnswers message count offset records = .ok result) :
    ∃ answers bytes rest, Records answers bytes ∧ answers.length = count ∧
      message.drop offset = bytes ++ rest ∧ result = records ++ answerRecords answers := by
  induction count generalizing offset records with
  | zero =>
    cases read
    exact ⟨[], [], message.drop offset, .none, rfl, rfl, by simp [answerRecords]⟩
  | succ count ih =>
    obtain ⟨behind, named, read⟩ := bind_eq_ok.mp read
    obtain ⟨below, name, isName, here⟩ := skipDNSName_ok named
    split at read
    · cases read
    · next room =>
      dsimp only at read
      split at read
      · cases read
      · next enough =>
        obtain ⟨answers, bytes, rest, others, counted, there, rfl⟩ := ih read
        obtain ⟨t₁, t₀, c₁, c₀, a, b, c, d, l₁, l₀, more, fixed⟩ :=
          @exists_ten (message.drop behind) (by simp; omega)
        have size : wordAt message (behind + 8) = word l₁ l₀ := by rw [wordAt_drop, fixed]; rfl
        have type : wordAt message behind = word t₁ t₀ := by
          rw [← Nat.add_zero behind, wordAt_drop, fixed]; rfl
        have cls : wordAt message (behind + 2) = word c₁ c₀ := by rw [wordAt_drop, fixed]; rfl
        have tail : message.drop (behind + 10) = more := by rw [← drop_drop, fixed]; rfl
        rw [size] at enough there
        refine ⟨⟨word t₁ t₀, word c₁ c₀, more.take (word l₁ l₀)⟩ :: answers,
          name ++ t₁ :: t₀ :: c₁ :: c₀ :: a :: b :: c :: d :: l₁ :: l₀ :: more.take
          (word l₁ l₀) ++ bytes, rest,
          .more (.mk isName ?_) others, by rw [length_cons, counted], ?_, ?_⟩
        · have long := congrArg length tail
          rw [length_drop] at long
          rw [length_take]
          omega
        · rw [← drop_drop, tail] at there
          rw [here, fixed, append_assoc, append_assoc, ← there]
          simp
        · rw [size, type, cls, tail, append_assoc]
          rfl

theorem readAnswers_records {answers bytes rest records}
    (wired : Records answers bytes) (here : message.drop offset = bytes ++ rest) :
    readAnswers message answers.length offset records = .ok (records ++ answerRecords answers) := by
  induction wired generalizing offset records with
  | none => simp [readAnswers, answerRecords]
  | @more resource resources first others record _ ih =>
    cases record with
    | @mk name data t₁ t₀ c₁ c₀ a b c d l₁ l₀ named sized =>
      have whole : message.drop offset = name ++
          t₁ :: t₀ :: c₁ :: c₀ :: a :: b :: c :: d :: l₁ :: l₀ :: (data ++ (others ++ rest)) := by
        rw [here]
        simp
      have behind := drop_append_length whole
      have size : wordAt message (offset + name.length + 8) = data.length := by
        rw [wordAt_drop, behind, sized]; rfl
      have type : wordAt message (offset + name.length) = word t₁ t₀ := by
        rw [← Nat.add_zero (_ + _), wordAt_drop, behind]; rfl
      have cls : wordAt message (offset + name.length + 2) = word c₁ c₀ := by
        rw [wordAt_drop, behind]; rfl
      have tail : message.drop (offset + name.length + 10) = data ++ (others ++ rest) := by
        rw [← drop_drop, behind]; rfl
      have room := congrArg length behind
      simp only [length_drop, length_cons, length_append] at room
      rw [length_cons, readAnswers, skipDNSName_name named whole]
      change (if _ then _ else _) = _
      rw [if_neg (by omega)]
      dsimp only
      rw [size, if_neg (by omega), type, cls, tail, take_left, ih (drop_append_length tail),
        append_assoc]
      rfl

/-- A response without an error code is read as its answer section stands on the wire. -/
theorem readMessage_iff {records} (long : 12 ≤ message.length) : (do
      let offset ← skipQuestions message (wordAt message 4) 12
      readAnswers message (wordAt message 6) offset []) = .ok records ↔
    ∃ answers, Answers message answers ∧ records = answerRecords answers := by
  constructor
  · intro read
    obtain ⟨behind, skipped, read⟩ := bind_eq_ok.mp read
    obtain ⟨below, questions, asked, here⟩ := skipQuestions_ok long skipped
    obtain ⟨answers, bytes, rest, wired, counted, there, rfl⟩ := readAnswers_ok read
    refine ⟨answers, ⟨message.take 12, questions, bytes, rest, ?_, by simp; omega, asked,
      wired, counted⟩, rfl⟩
    rw [← there, ← here, take_append_drop]
  · rintro ⟨answers, ⟨header, questions, bytes, rest, whole, sized, asked, wired, counted⟩, rfl⟩
    have first : message.drop 12 = questions ++ (bytes ++ rest) := by
      conv_lhs => rw [whole, ← sized, drop_left]
    refine bind_eq_ok.mpr ⟨_, skipQuestions_questions asked first, ?_⟩
    rw [← counted]
    exact readAnswers_records wired (drop_append_length first)

/-- A message has the records of one answer section. -/
theorem answerRecords_unique {answers answers'} (long : 12 ≤ message.length)
    (left : Answers message answers) (right : Answers message answers') :
    answerRecords answers = answerRecords answers' := by
  have first := (readMessage_iff long).mpr ⟨answers, left, rfl⟩
  have second := (readMessage_iff long).mpr ⟨answers', right, rfl⟩
  exact ok.inj (first.symm.trans second)

end Reading

section Closed

/-- A record of type CAA and class IN. -/
def IsCAA (answer : Resource) : Prop := answer.type = dnsTypeCAA ∧ answer.cls = 1

instance : DecidablePred IsCAA := fun answer =>
  inferInstanceAs (Decidable (answer.type = dnsTypeCAA ∧ answer.cls = 1))

def responseCode (message : Bytes) : Nat := wordAt message 2 &&& 0x000f

/-- What is reported as absent is absent from a complete response, and what is found is all there
is. -/
structure FailsClosed (message : Bytes) (result : CAALookupResult) (found : Bool) : Prop where
  absent : found = false → ¬ truncated message ∧
    ∀ answers, Answers message answers → ∀ answer ∈ answers, ¬ IsCAA answer
  complete : result.records ≠ [] → ∀ answers, Answers message answers →
    (answers.filter IsCAA).map (fun answer => caaRecord answer.data) = result.records.map some

/-- A response that says that the name does not exist is complete and has no CAA record, and in one
without an error every CAA record can be read, and there is one if the response was cut off. -/
structure Telling (message : Bytes) : Prop where
  nameError : responseCode message = 3 → ¬ truncated message ∧
    ∀ answers, Answers message answers → ∀ answer ∈ answers, ¬ IsCAA answer
  noError : responseCode message = 0 → ∀ answers, Answers message answers →
    (∀ answer ∈ answers, IsCAA answer → (caaRecord answer.data).isSome) ∧
      (truncated message → ∃ answer ∈ answers, IsCAA answer)

variable {message : Bytes} {answers : List Resource} {result : CAALookupResult}
  {found : Bool} {id : Nat}

theorem answerRecords_eq_filterMap (answers : List Resource) :
    answerRecords answers = (answers.filter IsCAA).filterMap fun answer =>
      caaRecord answer.data := by
  induction answers with
  | nil => rfl
  | cons answer answers ih =>
    rw [answerRecords, flatMap_cons, ← answerRecords, ih, caaRecords]
    by_cases caa : IsCAA answer
    · rw [if_pos (show answer.type = dnsTypeCAA ∧ answer.cls = 1 from caa),
        filter_cons_of_pos (by simpa using caa)]
      cases read : caaRecord answer.data <;> simp [read]
    · rw [if_neg (show ¬ (answer.type = dnsTypeCAA ∧ answer.cls = 1) from caa),
        filter_cons_of_neg (by simpa using caa), nil_append]

/-- If every CAA record can be read, they are all found, in order. -/
theorem map_caaRecord_eq (readable : ∀ answer ∈ answers, IsCAA answer →
    (caaRecord answer.data).isSome) :
      (answers.filter IsCAA).map (fun answer => caaRecord answer.data) =
        (answerRecords answers).map some := by
  rw [answerRecords_eq_filterMap]
  have each : ∀ answer ∈ answers.filter IsCAA, (caaRecord answer.data).isSome := by
    intro answer inside
    obtain ⟨there, caa⟩ := mem_filter.mp inside
    exact readable answer there (by simpa using caa)
  generalize answers.filter IsCAA = chosen at each
  induction chosen with
  | nil => rfl
  | cons answer rest ih =>
    obtain ⟨record, read⟩ := Option.isSome_iff_exists.mp (each answer mem_cons_self)
    rw [map_cons, ih fun other inside => each other (mem_cons_of_mem _ inside)]
    simp [read]

/-- A CAA record that can be read is found. -/
theorem answerRecords_ne_nil {answer} (inside : answer ∈ answers) (caa : IsCAA answer)
    (readable : (caaRecord answer.data).isSome) : answerRecords answers ≠ [] := by
  obtain ⟨record, read⟩ := Option.isSome_iff_exists.mp readable
  rw [answerRecords_eq_filterMap]
  refine @ne_nil_of_mem _ record _ (mem_filterMap.mpr ⟨answer, ?_, read⟩)
  exact mem_filter.mpr ⟨inside, by simpa using caa⟩

/-- The three ways in which a response is accepted. -/
theorem parseCAAResponse_ok (parsed : parseCAAResponse message id = .ok (result, found)) :
    (responseCode message = 2 ∧ result.records = [] ∧ found = true) ∨
    (responseCode message = 3 ∧ result.records = [] ∧ found = false) ∨
    (responseCode message = 0 ∧ found = decide (0 < result.records.length) ∧
      (∃ answers, Answers message answers) ∧
      ∀ answers, Answers message answers → result.records = answerRecords answers) := by
  rw [parseCAAResponse] at parsed
  split at parsed
  · cases parsed
  · next valid =>
    have long : 12 ≤ message.length := by
      rw [not_or] at valid
      omega
    dsimp only at parsed
    split at parsed
    · next failure =>
      cases ok.inj parsed
      exact .inl ⟨failure, rfl, rfl⟩
    · split at parsed
      · next missing =>
        cases ok.inj parsed
        exact .inr (.inl ⟨missing, rfl, rfl⟩)
      · split at parsed
        · cases parsed
        · next fine =>
          obtain ⟨behind, skipped, parsed⟩ := bind_eq_ok.mp parsed
          obtain ⟨records, read, parsed⟩ := bind_eq_ok.mp parsed
          cases ok.inj parsed
          obtain ⟨answers, wired, rfl⟩ :=
            (readMessage_iff long).mp (bind_eq_ok.mpr ⟨behind, skipped, read⟩)
          refine .inr (.inr ⟨not_not.mp fine, rfl, ⟨answers, wired⟩, ?_⟩)
          intro answers' wired'
          exact answerRecords_unique long wired wired'

/-- A response that was cut off before its answers. -/
def cutResponse : Bytes := [0, 7, 0x82, 0, 0, 0, 0, 0, 0, 0, 0, 0]

/-- The same response in full. -/
def emptyResponse : Bytes := [0, 7, 0x80, 0, 0, 0, 0, 0, 0, 0, 0, 0]

theorem emptyResponse_parses :
    parseCAAResponse emptyResponse 7 = .ok (⟨[], .indeterminate⟩, false) := by
  decide +kernel

theorem emptyResponse_telling : Telling emptyResponse where
  nameError := fun code => absurd code (by decide)
  noError := by
    rintro - answers ⟨header, questions, records, rest, -, -, -, -, counted⟩
    obtain rfl := eq_nil_of_length_eq_zero counted
    exact ⟨nofun, nofun⟩

end Closed

end AnoPki.Lifecycle
