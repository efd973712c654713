import AnoPki.Foundation.Strings
import AnoPki.Lifecycle.Caa

/-! # The climb for CAA records

`LookupCAA` asks for the records of a name and, while there are none, for those of the name without
its first label. The answer that ends the climb is the whole answer: what the levels below it said
of their authentication is forgotten. -/
namespace AnoPki.Lifecycle

open Foundation Foundation.Dns Domain List Except Text

/-- The resolver that `dnsCAALookup` asks, with the random numbers of the queries. -/
structure DNSCAALookup where
  queryID : Text → Except Err UInt16
  /-- The datagram that comes back for a query. -/
  exchange : Bytes → Except Err Bytes

open DNSCAALookup

/-- The labels of a name on the wire. -/
def queryLabels : List Text → Except Err Bytes
  | [] => .ok []
  | label :: labels => do
    let labelLen := label.byteLength
    if labelLen = 0 ∨ 63 < labelLen then .error (ErrKind.err .invalidRequest)
    else
      let rest ← queryLabels labels
      .ok (UInt8.ofNat labelLen :: label.utf8 ++ rest)

/-- `strings.TrimSuffix(name, ".")`. -/
def trimDot (name : Text) : Text := if ['.'] <:+ name then name.dropLast else name

def buildCAAQuery (name : Text) (id : UInt16) : Except Err Bytes := do
  let labels ← queryLabels ((trimDot name).splitOn '.')
  .ok ([(id >>> 8).toUInt8, id.toUInt8, 0x01, 0x00, 0, 1, 0, 0, 0, 0, 0, 0] ++ labels ++
    [0, 1, 1, 0, 1])

def DNSCAALookup.lookupCAAName (l : DNSCAALookup) (name : Text) :
    Except Err (CAALookupResult × Bool) := do
  let id ← l.queryID name
  let query ← buildCAAQuery name id
  let message ← l.exchange query
  parseCAAResponse (message.take 4096) id.toNat

/-- The loop of `LookupCAA`. -/
def DNSCAALookup.climb (l : DNSCAALookup) (name : Text) : Except Err CAALookupResult :=
  if name = [] then .ok ⟨[], .indeterminate⟩
  else do
    let (result, found) ← l.lookupCAAName name
    if found then .ok result
    else
      match _higher : name.cut '.' with
      | none => .ok result
      | some (_, rest) => l.climb rest
termination_by name.length
decreasing_by
  rw [cut_eq_some _higher, length_append, length_cons]
  omega

def DNSCAALookup.lookupCAA (l : DNSCAALookup) (dnsName : Text) : Except Err CAALookupResult :=
  l.climb (trimDot dnsName.trimSpace)

structure PublicTLSCAAPolicy where
  issuerDomain : Text
  accountURI : Text
  validationMethod : Text
  allowDNSSECIndeterminate : Bool
deriving DecidableEq, Repr

section Policy

variable (lower : Char → Char) (folds : Char → Char → Bool)

def hasCAATag (records : List CAARecord) (tag : Text) : Bool :=
  records.any fun record => (ofUtf8 record.tag).trimSpace.equalFold folds tag

def caaValidationMethodsAllow (value validationMethod : Text) : Bool :=
  (value.splitOn ',').any fun method => (trimSpace method).equalFold folds validationMethod

/-- A parameter of a record: one that is not known, or has no value, allows. -/
def caaParamAllows (accountURI validationMethod rawParam : Text) : Bool :=
  match rawParam.trimSpace.cut '=' with
  | none => true
  | some (name, paramValue) =>
    let name := name.trimSpace.toLower lower
    if name = "accounturi".toList then paramValue.trimSpace = accountURI
    else if name = "validationmethods".toList then
      caaValidationMethodsAllow folds paramValue validationMethod
    else true

def caaRecordAllowsIssue (value issuerDomain accountURI validationMethod : Text) : Bool :=
  match value.splitOn ';' with
  | [] => false
  | first :: params =>
    let issuer := trimSpace first
    if issuer = [] ∨ issuer.equalFold folds issuerDomain = false then false
    else params.all (caaParamAllows lower folds accountURI validationMethod)

/-- The tag of a record as it is compared. -/
def recordTag (record : CAARecord) : Text := (ofUtf8 record.tag).trimSpace.toLower lower

/-- A critical record that is not understood. -/
def caaUnknownCritical (record : CAARecord) : Bool :=
  decide (record.flag &&& 128 ≠ 0 ∧ recordTag lower record ≠ "issue".toList ∧
    recordTag lower record ≠ "issuewild".toList ∧ recordTag lower record ≠ "iodef".toList)

/-- What `check` does with the records. -/
def PublicTLSCAAPolicy.checkRecords (p : PublicTLSCAAPolicy) (dnsName : Text)
    (records : List CAARecord) : Except Err Unit :=
  let tag : Text :=
    if ['*', '.'] <+: dnsName ∧ hasCAATag folds records "issuewild" then "issuewild" else "issue"
  if records.any (caaUnknownCritical lower) then .error (ErrKind.err .invalidRequest)
  else
    let records := records.filter fun record => recordTag lower record = tag
    if records = [] then .ok ()
    else if records.any fun record => caaRecordAllowsIssue lower folds (ofUtf8 record.value)
      p.issuerDomain p.accountURI p.validationMethod then .ok ()
    else .error (ErrKind.err .invalidRequest)

/-- `PublicTLSCAAPolicy.check` with any lookup. -/
def PublicTLSCAAPolicy.check (p : PublicTLSCAAPolicy) (lookup : Text → Except Err CAALookupResult)
    (dnsName : Text) : Except Err Unit := do
  let result ← lookup dnsName
  match result.dnssecStatus with
  | .bogus => .error (ErrKind.err .invalidRequest)
  | .indeterminate =>
    if p.allowDNSSECIndeterminate then p.checkRecords lower folds dnsName result.records
    else .error (ErrKind.err .invalidRequest)
  | _ => p.checkRecords lower folds dnsName result.records

end Policy

/-- What is left of a name behind each of its dots. -/
def behindDots : Text → List Text
  | [] => []
  | c :: rest => if c = '.' then rest :: behindDots rest else behindDots rest

/-- A name and its ancestors, the closest first. -/
def levels (name : Text) : List Text := name :: behindDots name

section Levels

variable {name front rest : Text}

theorem behindDots_of_cut_none (whole : name.cut '.' = none) : behindDots name = [] := by
  induction name with
  | nil => rfl
  | cons c name ih =>
    rw [cut] at whole
    rw [behindDots]
    split at whole
    · cases whole
    · next other =>
      rw [if_neg other]
      exact ih (Option.map_eq_none_iff.mp whole)

theorem behindDots_of_cut (parts : name.cut '.' = some (front, rest)) :
    behindDots name = levels rest := by
  induction name generalizing front with
  | nil => cases parts
  | cons c name ih =>
    rw [cut] at parts
    rw [behindDots]
    split at parts
    · next dot =>
      cases Option.some.inj parts
      rw [if_pos dot, levels]
    · next other =>
      obtain ⟨⟨front', _⟩, later, same⟩ := Option.map_eq_some_iff.mp parts
      cases same
      rw [if_neg other]
      exact ih later

end Levels

section Climb

variable {l : DNSCAALookup} {name top : Text} {result : CAALookupResult}

/-- The answer at a level. The empty name is not asked for: nothing is known there. -/
def DNSCAALookup.answerAt (l : DNSCAALookup) (level : Text) : Except Err (CAALookupResult × Bool) :=
  if level = [] then .ok (⟨[], .indeterminate⟩, false) else l.lookupCAAName level

/-- The level was answered, and without records. -/
def DNSCAALookup.Silent (l : DNSCAALookup) (level : Text) : Prop :=
  ∃ result, l.answerAt level = .ok (result, false)

/-- The climb from a name comes to a level: those below it are silent. -/
def DNSCAALookup.Asks (l : DNSCAALookup) (name level : Text) (above : List Text) : Prop :=
  ∃ below, levels name = below ++ level :: above ∧ ∀ lower ∈ below, l.Silent lower

/-- The climb from a name ends with the answer of a level: it has records, or there is none
above. -/
def DNSCAALookup.Ends (l : DNSCAALookup) (name : Text) (result : CAALookupResult) : Prop :=
  ∃ top above found, l.Asks name top above ∧ l.answerAt top = .ok (result, found) ∧
    (found = true ∨ above = [])

/-- The climb ends at its first level if that has records or is the last one. -/
theorem DNSCAALookup.ends_here {found} (answered : l.answerAt name = .ok (result, found))
    (last : found = true ∨ behindDots name = []) : l.Ends name result :=
  ⟨name, behindDots name, found, ⟨[], rfl, by simp⟩, answered, last⟩

/-- The climb goes on above a silent level. -/
theorem DNSCAALookup.ends_above_iff {higher first}
    (silent : l.answerAt name = .ok (first, false)) (more : behindDots name = levels higher) :
    l.Ends name result ↔ l.Ends higher result := by
  constructor
  · rintro ⟨top, above, found, ⟨below, whole, quiet⟩, answered, last⟩
    cases below with
    | nil =>
      obtain ⟨rfl, rfl⟩ := cons.inj whole
      rw [silent] at answered
      cases ok.inj answered
      rw [more] at last
      exact absurd last (by simp [levels])
    | cons lower below =>
      obtain ⟨-, rest⟩ := cons.inj whole
      exact ⟨top, above, found, ⟨below, more.symm.trans rest,
        fun level inside => quiet level (mem_cons_of_mem _ inside)⟩, answered, last⟩
  · rintro ⟨top, above, found, ⟨below, whole, quiet⟩, answered, last⟩
    refine ⟨top, above, found, ⟨name :: below, ?_, ?_⟩, answered, last⟩
    · rw [levels, more, whole, cons_append]
    · intro level inside
      rcases mem_cons.mp inside with rfl | later
      · exact ⟨first, silent⟩
      · exact quiet level later

/-- A climb that ends was answered at its first level, and ends there if that has records or is the
last one. -/
theorem DNSCAALookup.Ends.first (ends : l.Ends name result) :
    ∃ first found, l.answerAt name = .ok (first, found) ∧
      (found = true ∨ behindDots name = [] → first = result) := by
  obtain ⟨top, above, found, ⟨below, whole, quiet⟩, answered, last⟩ := ends
  cases below with
  | nil =>
    obtain ⟨rfl, -⟩ := cons.inj whole
    exact ⟨result, found, answered, fun _ => rfl⟩
  | cons lower below =>
    obtain ⟨rfl, rest⟩ := cons.inj whole
    obtain ⟨first, silent⟩ := quiet name mem_cons_self
    refine ⟨first, false, silent, ?_⟩
    rw [rest]
    intro here
    exact absurd here (by simp)

/-- The loop is the climb. -/
theorem DNSCAALookup.climb_ok_iff : l.climb name = .ok result ↔ l.Ends name result := by
  induction length : name.length using Nat.strong_induction_on generalizing name with
  | _ n ih =>
    subst length
    rw [climb]
    by_cases empty : name = []
    · subst empty
      rw [if_pos rfl]
      constructor
      · intro ended
        cases ended
        exact ends_here (if_pos rfl) (.inr rfl)
      · rintro ⟨top, above, found, ⟨below, whole, -⟩, answered, -⟩
        obtain rfl : top = [] := by
          have inside : top ∈ levels [] := by simp [whole]
          simpa [levels, behindDots] using inside
        rw [answerAt, if_pos rfl] at answered
        cases ok.inj answered
        rfl
    · have asked : l.answerAt name = l.lookupCAAName name := if_neg empty
      rw [if_neg empty, ← asked]
      cases answer : l.answerAt name with
      | error err =>
        constructor
        · rintro ⟨⟩
        · intro ends
          obtain ⟨first, found, answered, -⟩ := ends.first
          rw [answer] at answered
          cases answered
      | ok answered =>
        obtain ⟨first, found⟩ := answered
        change (if found = true then _ else _) = _ ↔ _
        cases found with
        | true =>
          rw [if_pos rfl]
          constructor
          · intro ended
            cases ended
            exact ends_here answer (.inl rfl)
          · intro ends
            obtain ⟨other, found, answered, same⟩ := ends.first
            rw [answer] at answered
            cases ok.inj answered
            rw [same (.inl rfl)]
        | false =>
          rw [if_neg Bool.false_ne_true]
          split
          · next whole =>
            have last := behindDots_of_cut_none whole
            constructor
            · intro ended
              cases ended
              exact ends_here answer (.inr last)
            · intro ends
              obtain ⟨other, found, answered, same⟩ := ends.first
              rw [answer] at answered
              cases ok.inj answered
              rw [same (.inr last)]
          · next front rest parts =>
            have shorter : rest.length < name.length := by
              rw [cut_eq_some parts, length_append, length_cons]
              omega
            rw [ih _ shorter rfl, ends_above_iff answer (behindDots_of_cut parts)]

/-- A level has records exactly if it says so, unless its answer is bogus. Any other answer is
secure or indeterminate. -/
theorem DNSCAALookup.answerAt_ok {level found} (answered : l.answerAt level = .ok (result, found)) :
    (found = true ∧ result.dnssecStatus = .bogus) ∨ ((found = true ↔ result.records ≠ []) ∧
      (result.dnssecStatus = .secure ∨ result.dnssecStatus = .indeterminate)) := by
  rw [answerAt] at answered
  split at answered
  · cases ok.inj answered
    exact .inr ⟨by simp, .inr rfl⟩
  · obtain ⟨id, -, answered⟩ := bind_eq_ok.mp answered
    obtain ⟨query, -, answered⟩ := bind_eq_ok.mp answered
    obtain ⟨message, -, parsed⟩ := bind_eq_ok.mp answered
    rw [parseCAAResponse] at parsed
    split at parsed
    · cases parsed
    dsimp only at parsed
    split at parsed
    · cases ok.inj parsed
      exact .inl ⟨rfl, rfl⟩
    split at parsed
    · cases ok.inj parsed
      exact .inr ⟨by simp, ite_eq_or_eq _ _ _⟩
    split at parsed
    · cases parsed
    · obtain ⟨offset, -, parsed⟩ := bind_eq_ok.mp parsed
      obtain ⟨records, -, parsed⟩ := bind_eq_ok.mp parsed
      cases ok.inj parsed
      exact .inr ⟨by simp [length_pos_iff], ite_eq_or_eq _ _ _⟩

end Climb

section Authentication

variable (lower : Char → Char) (folds : Char → Char → Bool) (l : DNSCAALookup)
  (p : PublicTLSCAAPolicy) (dnsName : Text)

/-- The name at which the climb begins. -/
def climbStart (dnsName : Text) : Text := trimDot dnsName.trimSpace

/-- What the lookup is to guarantee. -/
structure CAAClimbSound : Prop where
  /-- The answer is that of the closest level that has records. -/
  closest : ∀ result, l.lookupCAA dnsName = .ok result → ∀ level above other,
    l.Asks (climbStart dnsName) level above → l.answerAt level = .ok (other, true) →
    other.records ≠ [] → result = other
  /-- If no level has records, the answer is secure only if all of them were. -/
  secure : ∀ result, l.lookupCAA dnsName = .ok result → result.dnssecStatus = .secure →
    (∀ level ∈ levels (climbStart dnsName), l.Silent level) →
    ∀ level ∈ levels (climbStart dnsName), ∀ other, l.answerAt level = .ok (other, false) →
      other.dnssecStatus = .secure
  /-- No name is accepted past a level that was not authenticated when it had no records. -/
  authenticated : p.allowDNSSECIndeterminate = false →
    p.check lower folds l.lookupCAA dnsName = .ok () →
      ∀ level above other, l.Asks (climbStart dnsName) level above →
      l.answerAt level = .ok (other, false) → other.dnssecStatus = .secure

/-- If the climb ends with a secure answer that has no records or records the policy agrees to, the
silent levels on the way were secure. -/
def SilentSecure : Prop :=
  ∀ result, l.Ends (climbStart dnsName) result → result.dnssecStatus = .secure →
    result.records = [] ∨
      (p.allowDNSSECIndeterminate = false ∧
        p.checkRecords lower folds dnsName result.records = .ok ()) →
    ∀ level above other, l.Asks (climbStart dnsName) level above →
      l.answerAt level = .ok (other, false) → other.dnssecStatus = .secure

variable {lower folds l p dnsName}

theorem DNSCAALookup.lookupCAA_ok_iff {result} :
    l.lookupCAA dnsName = .ok result ↔ l.Ends (climbStart dnsName) result :=
  climb_ok_iff

/-- A policy that wants authenticated answers accepts exactly what is secure and agreed to. -/
theorem check_ok_iff (strict : p.allowDNSSECIndeterminate = false) :
    p.check lower folds l.lookupCAA dnsName = .ok () ↔ ∃ result, l.lookupCAA dnsName = .ok result ∧
      result.dnssecStatus = .secure ∧
      p.checkRecords lower folds dnsName result.records = .ok () := by
  rw [PublicTLSCAAPolicy.check, bind_eq_ok]
  refine exists_congr fun result => and_congr_right fun looked => ?_
  obtain ⟨top, above, found, -, answered, -⟩ := lookupCAA_ok_iff.mp looked
  rcases answerAt_ok answered with ⟨-, bogus⟩ | ⟨-, secure | indeterminate⟩
  · simp [bogus]
  · simp [secure]
  · simp [indeterminate, strict]

/-- A level that says it has records ends the climb. -/
theorem DNSCAALookup.Asks.ends {name level above result}
    (asks : l.Asks name level above) (answered : l.answerAt level = .ok (result, true)) :
    l.Ends name result :=
  ⟨level, above, true, asks, answered, .inl rfl⟩

theorem DNSCAALookup.Asks.mem {name level above} (asks : l.Asks name level above) :
    level ∈ levels name := by
  obtain ⟨below, whole, -⟩ := asks
  rw [whole]
  exact mem_append_cons_self

/-- The climb is sound exactly if an answer that is secure hides no silent level that was not. -/
theorem caaClimbSound_iff :
    CAAClimbSound lower folds l p dnsName ↔ SilentSecure lower folds l p dnsName := by
  constructor
  · rintro sound result ends secure (empty | ⟨strict, agreed⟩) level above other asks silent
    · obtain ⟨top, higher, found, ⟨below, whole, quiet⟩, answered, last⟩ := id ends
      have unfound : found = false := by
        rcases answerAt_ok answered with ⟨-, bogus⟩ | records
        · rw [secure] at bogus
          cases bogus
        · simpa [empty] using records.1
      subst unfound
      cases last.resolve_left Bool.false_ne_true
      refine sound.secure result (lookupCAA_ok_iff.mpr ends) secure ?_ level asks.mem other silent
      intro lower inside
      rw [whole] at inside
      rcases mem_append.mp inside with early | here
      · exact quiet lower early
      · cases mem_singleton.mp here
        exact ⟨result, answered⟩
    · refine sound.authenticated strict ((check_ok_iff strict).mpr ?_) level above other asks silent
      exact ⟨result, lookupCAA_ok_iff.mpr ends, secure, agreed⟩
  · intro authentic
    constructor
    · intro result looked level above other asks answered _
      have same := looked.symm.trans (lookupCAA_ok_iff.mpr (asks.ends answered))
      exact ok.inj same
    · intro result looked secure silent level inside other answered
      have ends := lookupCAA_ok_iff.mp looked
      have empty : result.records = [] := by
        obtain ⟨top, above, found, asks, answered, -⟩ := ends
        obtain ⟨quiet, silenced⟩ := silent top asks.mem
        rw [answered] at silenced
        cases ok.inj silenced
        rcases answerAt_ok answered with ⟨⟨⟩, -⟩ | records
        simpa using records.1
      obtain ⟨below, above, whole⟩ := append_of_mem inside
      have asks : l.Asks (climbStart dnsName) level above := by
        refine ⟨below, whole, fun lower early => silent lower ?_⟩
        rw [whole]
        exact mem_append_left _ early
      exact authentic result ends secure (.inl empty) level above other asks answered
    · intro strict accepted level above other asks silent
      obtain ⟨result, looked, secure, agreed⟩ := (check_ok_iff strict).mp accepted
      exact authentic result (lookupCAA_ok_iff.mp looked) secure (.inr ⟨strict, agreed⟩) level
        above other asks silent

end Authentication

/-- A resolver without records that authenticates its answer for the upper of two levels only. -/
def halfSecure : DNSCAALookup where
  queryID _ := .ok 0
  exchange query := .ok [0, 0, 0x80, if query.length = 19 then 0x23 else 0x03, 0, 0,
    0, 0, 0, 0, 0, 0]

def strictPolicy : PublicTLSCAAPolicy where
  issuerDomain := "ca.test"
  accountURI := []
  validationMethod := "http-01"
  allowDNSSECIndeterminate := false

theorem halfSecure_lower : halfSecure.answerAt "a.b" = .ok (⟨[], .indeterminate⟩, false) := by
  decide +kernel

theorem halfSecure_ends : halfSecure.lookupCAA "a.b" = .ok ⟨[], .secure⟩ := by
  refine lookupCAA_ok_iff.mpr
    ⟨"b", [], false, ⟨["a.b"], by decide +kernel, ?_⟩, by decide +kernel, .inr rfl⟩
  intro level inside
  cases mem_singleton.mp inside
  exact ⟨⟨[], .indeterminate⟩, halfSecure_lower⟩

/-- The name is accepted although the answer for the name itself was not authenticated. -/
theorem halfSecure_unsound : halfSecure.answerAt "a.b" = .ok (⟨[], .indeterminate⟩, false) ∧
    halfSecure.lookupCAA "a.b" = .ok ⟨[], .secure⟩ ∧
    strictPolicy.check id (fun _ _ => false) halfSecure.lookupCAA "a.b" = .ok () ∧
    ¬ CAAClimbSound id (fun _ _ => false) halfSecure strictPolicy "a.b" := by
  have accepted : strictPolicy.check id (fun _ _ => false) halfSecure.lookupCAA "a.b" = .ok () :=
    (check_ok_iff rfl).mpr ⟨_, halfSecure_ends, rfl, rfl⟩
  refine ⟨halfSecure_lower, halfSecure_ends, accepted, fun sound => ?_⟩
  have asks : halfSecure.Asks (climbStart "a.b") "a.b" ["b"] := ⟨[], by decide +kernel, by simp⟩
  cases sound.authenticated rfl accepted _ _ _ asks halfSecure_lower

section Acceptance

variable (lower : Char → Char) (folds : Char → Char → Bool) (p : PublicTLSCAAPolicy)
  (dnsName : Text)

/-- A parameter of a record agrees with the policy. -/
def ParamAgrees (rawParam : Text) : Prop :=
  ∀ name value, rawParam.trimSpace.cut '=' = some (name, value) →
    (name.trimSpace.toLower lower = "accounturi".toList → value.trimSpace = p.accountURI) ∧
    (name.trimSpace.toLower lower = "validationmethods".toList → ∃ method ∈ value.splitOn ',',
      (trimSpace method).equalFold folds p.validationMethod)

/-- The value of a record names the issuer domain, with parameters that all agree. -/
def NamesIssuer (value : Text) : Prop :=
  ∃ (first : Text) (params : List Text), value.splitOn ';' = first :: params ∧
    first.trimSpace ≠ [] ∧ first.trimSpace.equalFold folds p.issuerDomain ∧
    ∀ param ∈ params, ParamAgrees lower folds p param

/-- What is to be accepted if a tag is the relevant one. -/
structure AcceptedUnder (result : CAALookupResult) (tag : Text) : Prop where
  status : result.dnssecStatus ≠ .bogus ∧
    (result.dnssecStatus = .indeterminate → p.allowDNSSECIndeterminate)
  known : ∀ record ∈ result.records, record.flag &&& 128 ≠ 0 →
    recordTag lower record ∈ ["issue".toList, "issuewild".toList, "iodef".toList]
  named : (∀ record ∈ result.records, recordTag lower record ≠ tag) ∨
    ∃ record ∈ result.records, recordTag lower record = tag ∧
      NamesIssuer lower folds p (ofUtf8 record.value)

def relevantTag (records : List CAARecord) : Text :=
  if ['*', '.'] <+: dnsName ∧
    ∃ record ∈ records, recordTag lower record = "issuewild".toList then "issuewild"
  else "issue"

/-- The tag that `check` selects: `hasCAATag` compares in another way than the loop over the
records. -/
def selectedTag (records : List CAARecord) : Text :=
  if ['*', '.'] <+: dnsName ∧ hasCAATag folds records "issuewild" then "issuewild" else "issue"

/-- An `issuewild` record is found where there is none, or the one that is there is not found, and
the verdict depends on it. -/
def WildMisread (result : CAALookupResult) : Prop :=
  ['*', '.'] <+: dnsName ∧ ¬ (hasCAATag folds result.records "issuewild" ↔
      ∃ record ∈ result.records, recordTag lower record = "issuewild".toList) ∧
    ¬ (AcceptedUnder lower folds p result "issue" ↔ AcceptedUnder lower folds p result "issuewild")

variable {lower folds p dnsName} {result : CAALookupResult} {records : List CAARecord}

theorem caaParamAllows_iff {param : Text} :
    caaParamAllows lower folds p.accountURI p.validationMethod param ↔
    ParamAgrees lower folds p param := by
  rw [caaParamAllows, ParamAgrees]
  cases param.trimSpace.cut '=' with
  | none => simp
  | some parts =>
    obtain ⟨name, value⟩ := parts
    dsimp only
    split
    · next account => simp [account]
    · next other =>
      split
      · next methods => simp [methods, caaValidationMethodsAllow]
      · next unknown =>
        refine iff_of_true rfl ?_
        rintro _ _ ⟨⟩
        exact ⟨fun account => absurd account other, fun methods => absurd methods unknown⟩

theorem caaRecordAllowsIssue_iff {value : Text} :
    caaRecordAllowsIssue lower folds value p.issuerDomain p.accountURI p.validationMethod ↔
      NamesIssuer lower folds p value := by
  rw [caaRecordAllowsIssue, NamesIssuer]
  cases value.splitOn ';' with
  | nil => simp
  | cons first params => simp [caaParamAllows_iff, and_assoc]

theorem checkRecords_perm {others : List CAARecord} (perm : records.Perm others) :
    p.checkRecords lower folds dnsName records = p.checkRecords lower folds dnsName others := by
  have selected : selectedTag folds dnsName records = selectedTag folds dnsName others := by
    rw [selectedTag, selectedTag, hasCAATag, perm.any_eq, hasCAATag]
  unfold PublicTLSCAAPolicy.checkRecords
  extract_lets tag tagged tag' tagged'
  have same : tag = tag' := selected
  have alike : tagged.Perm tagged' := by
    simp only [tagged, tagged', same]
    exact perm.filter _
  have empty : tagged = [] ↔ tagged' = [] := by
    rw [← perm_nil, alike.congr_left, perm_nil]
  simp only [perm.any_eq, alike.any_eq, empty]

/-- The records are accepted under the tag that is selected, if their status is. -/
theorem checkRecords_ok_iff (status : result.dnssecStatus ≠ .bogus ∧
      (result.dnssecStatus = .indeterminate → p.allowDNSSECIndeterminate)) :
    p.checkRecords lower folds dnsName result.records = .ok () ↔
      AcceptedUnder lower folds p result (selectedTag folds dnsName result.records) := by
  unfold PublicTLSCAAPolicy.checkRecords
  extract_lets tag tagged
  have empty : tagged = [] ↔ ∀ record ∈ result.records, recordTag lower record ≠ tag := by
    simp [tagged, filter_eq_nil_iff]
  have named : (tagged.any fun record => caaRecordAllowsIssue lower folds (ofUtf8 record.value)
      p.issuerDomain p.accountURI p.validationMethod) ↔ ∃ record ∈ result.records,
        recordTag lower record = tag ∧ NamesIssuer lower folds p (ofUtf8 record.value) := by
    simp [tagged, caaRecordAllowsIssue_iff]
  have known : ¬ result.records.any (caaUnknownCritical lower) ↔
      ∀ record ∈ result.records, record.flag &&& 128 ≠ 0 → recordTag lower record ∈
        ["issue".toList, "issuewild".toList, "iodef".toList] := by
    rw [Bool.not_eq_true, any_eq_false]
    refine forall₂_congr fun record _ => ?_
    rw [caaUnknownCritical, decide_eq_true_eq, mem_cons, mem_cons, mem_singleton]
    clear status
    tauto
  constructor
  · intro accepted
    split at accepted
    · cases accepted
    next understood =>
    refine ⟨status, known.mp understood, ?_⟩
    split at accepted
    · next untagged => exact .inl (empty.mp untagged)
    · split at accepted
      · next names => exact .inr (named.mp names)
      · cases accepted
  · rintro ⟨-, understood, untagged | names⟩
    · rw [if_neg (known.mpr understood), if_pos (empty.mpr untagged)]
    · rw [if_neg (known.mpr understood), if_pos (named.mpr names), ite_self]

theorem check_ok_iff_accepted : p.check lower folds (fun _ => .ok result) dnsName = .ok () ↔
    AcceptedUnder lower folds p result (selectedTag folds dnsName result.records) := by
  by_cases status : result.dnssecStatus ≠ .bogus ∧
      (result.dnssecStatus = .indeterminate → p.allowDNSSECIndeterminate)
  · rw [← checkRecords_ok_iff status]
    obtain ⟨records, known⟩ := result
    cases known with
    | bogus => exact absurd rfl status.1
    | indeterminate => exact iff_of_eq (congrArg (· = _) (if_pos (status.2 rfl)))
    | _ => exact .rfl
  · refine iff_of_false ?_ fun accepted => status accepted.status
    obtain ⟨records, known⟩ := result
    cases known with
    | bogus => nofun
    | indeterminate =>
      intro accepted
      have allowed : ¬ p.allowDNSSECIndeterminate := by simpa using status
      change (if _ then _ else _) = _ at accepted
      rw [if_neg allowed] at accepted
      cases accepted
    | _ => simp at status

end Acceptance

/-- The policy depends on the records but not on their order. It accepts what it should unless it
misreads the tags. -/
theorem caaPolicy_accepts_iff (lower : Char → Char) (folds : Char → Char → Bool)
    (p : PublicTLSCAAPolicy) (dnsName : Text) (result : CAALookupResult) :
    (∀ records, records.Perm result.records →
      p.check lower folds (fun _ => .ok { result with records := records }) dnsName =
        p.check lower folds (fun _ => .ok result) dnsName) ∧
    ((p.check lower folds (fun _ => .ok result) dnsName = .ok () ↔
        AcceptedUnder lower folds p result (relevantTag lower dnsName result.records)) ↔
      ¬ WildMisread lower folds p dnsName result) := by
  constructor
  · intro records perm
    obtain ⟨_, status⟩ := result
    have same := @checkRecords_perm lower folds p dnsName _ _ perm
    cases status with
    | bogus => rfl
    | indeterminate => exact if_congr Iff.rfl same rfl
    | _ => exact same
  · rw [check_ok_iff_accepted, selectedTag, relevantTag, WildMisread]
    generalize AcceptedUnder lower folds p result = accepted
    split_ifs <;> grind

/-- A rune that is the letter s for `EqualFold`, and no capital letter. -/
def longS (c d : Char) : Bool := c = 'ſ' && d = 's'

/-- Nobody may issue, and one record has a tag that is close to `issuewild`. -/
def strangeTag : CAALookupResult where
  records := [⟨0, utf8 "issue", utf8 ";"⟩, ⟨0, utf8 "iſſuewild", utf8 ";"⟩]
  dnssecStatus := .secure

/-- The search for a tag folds the long s, and the loop over the records does not. -/
theorem strangeTag_misread :
    strictPolicy.check id longS (fun _ => .ok strangeTag) "*.a" = .ok () ∧
      ¬ AcceptedUnder id longS strictPolicy strangeTag
        (relevantTag id "*.a" strangeTag.records) := by
  refine ⟨by decide +kernel, fun accepted => ?_⟩
  have relevant : relevantTag id "*.a" strangeTag.records = "issue".toList := by decide +kernel
  -- The same records are refused for a name that is no wildcard, whose tag is the relevant one
  -- here.
  have refused : strictPolicy.checkRecords id longS "a"
    strangeTag.records ≠ .ok () := by decide +kernel
  rw [relevant] at accepted
  exact refused ((checkRecords_ok_iff accepted.status).mpr accepted)

end AnoPki.Lifecycle
