import AnoPki.Foundation.Json

/-! # Reading back objects

An object whose values are strings, whole numbers, truth values and lists of strings is read back as
it was written, with its members in the order of their keys. -/
namespace Foundation

open List Text

namespace Json

variable {members : List (Text × Json)} {rest : Text} {bound : Nat} {value : Json} {key : Text}
  {member : Text × Json} {text : Text}

theorem readDigits_of_digits {digits} (nonempty : digits ≠ []) (all : ∀ c ∈ digits, c.isDigit)
    (stop : ∀ c ∈ rest.head?, c.isDigit = false) :
    readDigits (digits ++ rest) = some (digits, rest) := by
  have taken : (digits ++ rest).takeWhile Char.isDigit = digits := by
    rw [takeWhile_append_of_pos all]
    cases rest with
    | nil => simp
    | cons c rest => simp [stop c (by simp)]
  have dropped : (digits ++ rest).dropWhile Char.isDigit = rest := by
    rw [dropWhile_append_of_pos all]
    cases rest with
    | nil => rfl
    | cons c rest => simp [stop c (by simp)]
  rw [readDigits, taken, dropped]
  cases digits with
  | nil => exact absurd rfl nonempty
  | cons c digits => rfl

/-- What may follow a member of an object. -/
def EndsMember (rest : Text) : Prop := ∃ c tail, rest = c :: tail ∧ (c = ',' ∨ c = '\x7d')

theorem readWhole_decimal (n : Nat) (ends : EndsMember rest) :
    readWhole (decimal n ++ rest) = some (decimal n, rest) := by
  obtain ⟨c, tail, rfl, mark⟩ := ends
  have stop : ∀ d ∈ (c :: tail).head?, d.isDigit = false := by
    rintro d ⟨⟩
    rcases mark with rfl | rfl <;> rfl
  rcases Nat.eq_zero_or_pos n with rfl | positive
  · rfl
  · have read := readDigits_of_digits (decimal_ne_nil n)
      (fun c member => isDigit_of_mem_decimal member) stop
    have head := head_decimal positive
    cases shape : decimal n with
    | nil => exact absurd shape (decimal_ne_nil n)
    | cons d digits =>
      rw [shape] at read head
      rw [cons_append] at read ⊢
      rw [readWhole.eq_2 _ (by rintro rest ⟨⟩; exact head rfl), read]

private theorem readFraction_end (ends : EndsMember rest) :
    readFraction rest = some ([], rest) := by
  obtain ⟨c, tail, rfl, rfl | rfl⟩ := ends <;> rfl

private theorem readExponent_end (ends : EndsMember rest) :
    readExponent rest = some ([], rest) := by
  obtain ⟨c, tail, rfl, rfl | rfl⟩ := ends <;> rfl

/-- Reading back a written number. -/
theorem readNumber_decimalInt (i : Int) (ends : EndsMember rest) :
    readNumber (decimalInt i ++ rest) = some (decimalInt i, rest) := by
  cases i with
  | ofNat n =>
    have unsigned : ∀ tail, decimal n ++ rest ≠ '-' :: tail := by
      intro tail same
      obtain ⟨c, digits, shape⟩ := exists_cons_of_ne_nil (decimal_ne_nil n)
      rw [shape] at same
      have minus : '-' ∈ decimal n := by
        rw [shape, ← (cons.inj same).1]
        exact mem_cons_self
      exact absurd (isDigit_of_mem_decimal minus) (by decide)
    simp only [decimalInt, readNumber]
    simp [readWhole_decimal n ends, readFraction_end ends, readExponent_end ends]
  | negSucc n =>
    simp [decimalInt, readNumber, readWhole_decimal (n + 1) ends, readFraction_end ends,
      readExponent_end ends]

/-- A string, a number as it is written, a truth value or a list of strings. -/
inductive IsFlat : Json → Prop
  | string (value : Text) : IsFlat (.string value)
  | number (value : Int) : IsFlat (.number (decimalInt value))
  | bool (value : Bool) : IsFlat (.bool value)
  | texts (values : List Text) : IsFlat (.array (values.map .string))

private theorem length_le_flatMap_escape (text : Text) :
    text.length ≤ (text.flatMap escape).length := by
  induction text with
  | nil => exact le_refl _
  | cons c text ih =>
    have positive : 0 < (escape c).length := by
      unfold escape
      split_ifs <;> simp
    rw [flatMap_cons, length_append, length_cons]
    omega

private theorem readString_quote (text rest : Text) :
    readString (quote text ++ rest) = some (text, rest) := by
  have enough : text.length < (text.flatMap escape ++ '"' :: rest).length + 1 := by
    have longer := length_le_flatMap_escape text
    rw [length_append]
    omega
  simpa [quote, readString] using readChars_write enough rest

private theorem readValue_quote (bound depth : Nat) (text rest : Text) :
    readValue (bound + 1) depth (quote text ++ rest) = some (.string text, rest) := by
  have read := readString_quote text rest
  simp only [quote, cons_append, append_assoc, nil_append] at read
  simp [quote, readValue, skipSpace, read]

/-- Reading back the items of a list of strings. -/
theorem readItems_texts {texts} (inhabited : texts ≠ []) (enough : texts.length < bound)
    (depth : Nat) (rest : Text) :
    readItems bound depth (join ',' (texts.map quote) ++ ']' :: rest) =
      some (texts.map .string, rest) := by
  induction texts generalizing bound with
  | nil => exact absurd rfl inhabited
  | cons text texts ih =>
    obtain ⟨bound, rfl⟩ : ∃ n, bound = n + 2 := ⟨bound - 2, by simp at enough; omega⟩
    cases texts with
    | nil =>
      rw [map_singleton, join, readItems, readValue_quote]
      rfl
    | cons next texts =>
      have later := ih (by simp) (show (next :: texts).length < bound + 1 by simpa using enough)
      rw [map_cons, map_cons, join, ← map_cons, append_assoc, cons_append, readItems,
        readValue_quote]
      · simp only [Option.bind_eq_bind, Option.bind_some, skipSpace, or_self, ite_false, later,
          Char.reduceEq]
        rfl
      · simp

private theorem writeItems_strings (texts : List Text) :
    writeItems (texts.map .string) = texts.map quote := by
  induction texts with
  | nil => rfl
  | cons text texts ih => rw [map_cons, writeItems, ih, write, map_cons]

private theorem readValue_texts (texts : List Text) (enough : texts.length < bound) (depth : Nat)
    (rest : Text) : readValue (bound + 1) (depth + 1) (write (.array (texts.map .string)) ++ rest) =
      some (.array (texts.map .string), rest) := by
  rw [write, writeItems_strings, writeArray]
  cases texts with
  | nil => rfl
  | cons text texts =>
    have items := readItems_texts (by simp) enough depth rest
    obtain ⟨tail, opens⟩ : ∃ tail,
        join ',' ((text :: texts).map quote) ++ ']' :: rest = '"' :: tail := by
      cases texts <;> exact ⟨_, rfl⟩
    rw [cons_append, append_assoc, cons_append, nil_append, opens]
    rw [opens] at items
    have value : readValue (bound + 1) (depth + 1) ('[' :: '"' :: tail) =
        (readItems bound depth ('"' :: tail)).map fun read => (.array read.1, read.2) := rfl
    rw [value, items]
    rfl

/-- Reading back a flat value. -/
theorem readValue_flat (flat : value.IsFlat) (enough : value.write.length < bound) (depth : Nat)
    (ends : EndsMember rest) :
    readValue (bound + 1) (depth + 1) (value.write ++ rest) = some (value, rest) := by
  cases flat with
  | string text => exact readValue_quote bound (depth + 1) text rest
  | bool value => cases value <;> rfl
  | texts values =>
    refine readValue_texts values ?_ depth rest
    have shorter := @length_le_join _ quote (by simp [quote]) values
    rw [write, writeItems_strings, writeArray, length_cons, length_append] at enough
    omega
  | number i =>
    have read := readNumber_decimalInt i ends
    obtain ⟨c, digits, shape⟩ := exists_cons_of_ne_nil (decimalInt_ne_nil i)
    have first : c = '-' ∨ c.isDigit := mem_decimalInt (i := i) (by simp [shape])
    have other : ∀ d : Char, d.isDigit = false → d ≠ '-' → c ≠ d := by
      rintro d notDigit notMinus rfl
      rcases first with minus | digit
      · exact notMinus minus
      · simp [notDigit] at digit
    rw [write]
    rw [shape, cons_append] at read ⊢
    have space : skipSpace (c :: (digits ++ rest)) = c :: (digits ++ rest) := by
      rw [skipSpace, if_neg]
      rintro (rfl | rfl | rfl | rfl)
      all_goals exact absurd rfl (other _ rfl (by decide))
    rw [readValue, space]
    split
    all_goals first
      | next same => exact absurd (cons.inj same).1 (other _ rfl (by decide))
      | simp [read]

/-- The members of an object, entered one after the other. -/
def enter (members entered : List (Text × Json)) : List (Text × Json) :=
  members.foldl (fun entered member => setMember member.1 member.2 entered) entered

section

variable (flat : member.2.IsFlat) (enough : member.2.write.length < bound) (depth : Nat)
  (entered : List (Text × Json)) (tail : Text)

include flat enough

private theorem readMembers_comma : readMembers (bound + 2) (depth + 1) entered
        (quote member.1 ++ ':' :: (member.2.write ++ ',' :: tail)) =
      readMembers (bound + 1) (depth + 1) (setMember member.1 member.2 entered) tail := by
  have space : ∀ tail : Text, skipSpace (quote member.1 ++ tail) = quote member.1 ++ tail :=
    fun _ => rfl
  have value := readValue_flat flat enough depth ⟨_, tail, rfl, .inl rfl⟩
  rw [readMembers, space, readString_quote]
  simp [skipSpace, value]

private theorem readMembers_brace : readMembers (bound + 2) (depth + 1) entered
        (quote member.1 ++ ':' :: (member.2.write ++ '\x7d' :: tail)) =
      some (setMember member.1 member.2 entered, tail) := by
  have space : ∀ tail : Text, skipSpace (quote member.1 ++ tail) = quote member.1 ++ tail :=
    fun _ => rfl
  have value := readValue_flat flat enough depth ⟨_, tail, rfl, .inr rfl⟩
  rw [readMembers, space, readString_quote]
  simp [skipSpace, value]

end

/-- The text of a member. -/
private def writeMember (member : Text × Json) : Text := quote member.1 ++ ':' :: member.2.write

private theorem length_writeMember (member : Text × Json) :
    member.2.write.length + 3 ≤ (writeMember member).length := by
  simp only [writeMember, quote, length_append, length_cons]
  omega

/-- Reading back the members of an object of flat values. -/
theorem readMembers_write (inhabited : members ≠ []) (flat : ∀ member ∈ members, member.2.IsFlat)
    (enough : (join ',' (members.map writeMember)).length < bound) (depth : Nat)
    (entered : List (Text × Json)) (rest : Text) :
    readMembers bound (depth + 1) entered (join ',' (members.map writeMember) ++ '\x7d' :: rest) =
      some (enter members entered, rest) := by
  induction members generalizing bound entered with
  | nil => exact absurd rfl inhabited
  | cons member members ih =>
    have value := flat member mem_cons_self
    have long := length_writeMember member
    cases members with
    | nil =>
      simp only [map_singleton, join] at enough
      obtain ⟨bound, rfl⟩ : ∃ n, bound = n + 2 := ⟨bound - 2, by omega⟩
      have step := readMembers_brace value (show _ < bound by omega) depth entered rest
      rw [← cons_append, ← append_assoc] at step
      exact step
    | cons next members =>
      have parts : (join ',' ((member :: next :: members).map writeMember)).length =
          (writeMember member).length + 1 +
            (join ',' ((next :: members).map writeMember)).length := by
        simp only [map_cons, join, length_append, length_cons]
        omega
      rw [parts] at enough
      obtain ⟨bound, rfl⟩ : ∃ n, bound = n + 2 := ⟨bound - 2, by omega⟩
      have later := ih (by simp) (fun member inside => flat member (mem_cons_of_mem _ inside))
        (show _ < bound + 1 by omega) (setMember member.1 member.2 entered)
      rw [← readMembers_comma value (by omega), ← cons_append, ← append_assoc,
        ← cons_append, ← append_assoc] at later
      exact later

private theorem sortByKey_writeMembers (members : List (Text × Json)) :
    sortByKey (writeMembers members) =
      (members.insertionSort fun a b => a.1 ≤ b.1).map fun member =>
        (member.1, member.2.write) := by
  have pairs : writeMembers members = members.map fun member => (member.1, member.2.write) := by
    induction members with
    | nil => rfl
    | cons member members ih => rw [writeMembers, ih, map_cons]
  rw [pairs, sortByKey]
  symm
  apply map_insertionSort
  intro _ _ _ _
  exact Iff.rfl

private theorem read_brace {tail} (opens : text = '"' :: tail) :
    read ('\x7b' :: text) = match readMembers (2 * ('\x7b' :: text).length + 1) (maxDepth - 1)
    [] text with
      | some (members, rest) => if skipSpace rest = [] then some (.object members) else none
      | none => none := by
  have value : readValue (2 * ('\x7b' :: text).length + 2) maxDepth ('\x7b' :: text) =
      (readMembers (2 * ('\x7b' :: text).length + 1) (maxDepth - 1) [] text).map
        fun read => (.object read.1, read.2) := by
    rw [opens]
    rfl
  rw [read, value]
  cases readMembers (2 * ('\x7b' :: text).length + 1) (maxDepth - 1) [] text <;> rfl

private theorem read_members (flat : ∀ member ∈ members, member.2.IsFlat) :
    read ('\x7b' :: (join ',' (members.map writeMember) ++ ['\x7d'])) =
      some (.object (enter members [])) := by
  cases members with
  | nil => rfl
  | cons member rest =>
    have whole := readMembers_write (by simp) flat
      (show (join ',' ((member :: rest).map writeMember)).length <
        2 * ('\x7b' :: (join ',' ((member :: rest).map writeMember) ++ ['\x7d'])).length + 1 by
          simp only [length_cons, length_append] at *
          omega)
      (maxDepth - 2) [] []
    obtain ⟨tail, opens⟩ : ∃ tail,
        join ',' ((member :: rest).map writeMember) ++ ['\x7d'] = '"' :: tail := by
      cases rest <;> exact ⟨_, rfl⟩
    rw [read_brace opens, show maxDepth - 1 = maxDepth - 2 + 1 from rfl, whole]
    rfl

/-- Reading back an object of flat values: its members in the order of their keys. -/
theorem read_write_object (flat : ∀ member ∈ members, member.2.IsFlat) :
    read (write (.object members)) =
      some (.object (enter (members.insertionSort fun a b => a.1 ≤ b.1) [])) := by
  rw [write, sortByKey_writeMembers, writeObject, map_map]
  have same := perm_insertionSort (fun a b : Text × Json => a.1 ≤ b.1) members
  exact read_members fun member inside => flat member (same.subset inside)

private theorem lookup_cons (name key : Text) (value : Json) (members : List (Text × Json)) :
    ((name, value) :: members).lookup key =
      if key = name then some value else members.lookup key := by
  by_cases same : key = name
  · simp [same]
  · rw [List.lookup_cons, beq_eq_false_iff_ne.mpr same, if_neg same]

theorem lookup_setMember (key other : Text) (value : Json) (members : List (Text × Json)) :
    (setMember key value members).lookup other =
      if other = key then some value else members.lookup other := by
  induction members with
  | nil => rw [setMember, lookup_cons]
  | cons member members ih =>
    obtain ⟨name, old⟩ := member
    rw [setMember]
    split
    · next here =>
      subst here
      rw [lookup_cons, lookup_cons]
      split <;> rfl
    · next elsewhere =>
      rw [lookup_cons, lookup_cons, ih]
      by_cases same : other = name
      · rw [if_pos same, if_pos same, if_neg (same ▸ elsewhere)]
      · rw [if_neg same, if_neg same]

/-- Entering members keeps a value that every member of its key has. -/
theorem lookup_enter {entered} (only : ∀ member ∈ members, member.1 = key → member.2 = value)
    (there : (key, value) ∈ members ∨ entered.lookup key = some value) :
    (enter members entered).lookup key = some value := by
  induction members generalizing entered with
  | nil => simpa [enter] using there
  | cons member members ih =>
    apply ih fun member inside => only member (mem_cons_of_mem _ inside)
    rw [lookup_setMember]
    by_cases same : key = member.1
    · rw [if_pos same, only member mem_cons_self same.symm]
      exact .inr rfl
    · rw [if_neg same]
      rcases there with inside | before
      · rcases mem_cons.mp inside with rfl | later
        · exact absurd rfl same
        · exact .inl later
      · exact .inr before

theorem mem_setMember (inside : member ∈ setMember key value members) :
    member = (key, value) ∨ member ∈ members := by
  induction members with
  | nil => exact .inl (mem_singleton.mp inside)
  | cons first members ih =>
    rw [setMember] at inside
    split at inside
    · rcases mem_cons.mp inside with rfl | later
      · exact .inl rfl
      · exact .inr (mem_cons_of_mem _ later)
    · rcases mem_cons.mp inside with rfl | later
      · exact .inr mem_cons_self
      · exact (ih later).imp_right (mem_cons_of_mem _)

section

variable (distinct : (members.map Prod.fst).Nodup)

include distinct

/-- Entering a member keeps the keys apart. -/
theorem nodup_setMember : ((setMember key value members).map Prod.fst).Nodup := by
  induction members with
  | nil => simp [setMember]
  | cons first members ih =>
    rw [map_cons, nodup_cons] at distinct
    rw [setMember]
    split
    · next same =>
      rw [map_cons, nodup_cons]
      exact ⟨same ▸ distinct.1, distinct.2⟩
    · next other =>
      rw [map_cons, nodup_cons]
      refine ⟨?_, ih distinct.2⟩
      intro again
      obtain ⟨member, inside, same⟩ := mem_map.mp again
      rcases mem_setMember inside with rfl | old
      · exact other same.symm
      · exact distinct.1 (same ▸ mem_map_of_mem old)

theorem lookup_of_mem (inside : (key, value) ∈ members) : members.lookup key = some value := by
  induction members with
  | nil => cases inside
  | cons first members ih =>
    rw [map_cons, nodup_cons] at distinct
    rw [lookup_cons]
    rcases mem_cons.mp inside with rfl | later
    · exact if_pos rfl
    · rw [if_neg, ih distinct.2 later]
      rintro rfl
      exact distinct.1 (mem_map.mpr ⟨_, later, rfl⟩)

/-- A member of an object of flat values is read back. -/
theorem lookup_read_write (flat : ∀ member ∈ members, member.2.IsFlat)
    (found : members.lookup key = some value) :
    ∃ read, Json.read (write (.object members)) = some (.object read) ∧
      read.lookup key = some value := by
  refine ⟨_, read_write_object flat, lookup_enter ?_ (.inl ?_)⟩
  · rintro ⟨name, other⟩ inside rfl
    have again := lookup_of_mem distinct ((mem_insertionSort _).mp inside)
    rw [found] at again
    exact (Option.some.inj again).symm
  · obtain ⟨front, back, rfl, -⟩ := lookup_eq_some_iff.mp found
    simp

end

/-- A member whose string value is put between quotes as it is. -/
def rawMember (member : Text × Text) : Text := quote member.1 ++ ':' :: '"' :: (member.2 ++ ['"'])

/-- An object of strings that are put between quotes as they are. -/
def rawObject (members : List (Text × Text)) : Text :=
  '\x7b' :: (join ',' (members.map rawMember) ++ ['\x7d'])

/-- A control character comes in the text before anything that would end the literal. -/
def Broken (text : Text) : Prop :=
  ∃ front c back, text = front ++ c :: back ∧ (∀ d ∈ front, escape d = [d]) ∧ c.toNat < 0x20

/-- Values without a character that needs an escape are read back. -/
theorem read_rawObject {members} (plain : ∀ member ∈ members, ∀ c ∈ member.2, escape c = [c]) :
    read (rawObject members) =
      some (.object (enter (members.map fun member => (member.1, .string member.2)) [])) := by
  have same : members.map rawMember =
      (members.map fun member => (member.1, Json.string member.2)).map writeMember := by
    rw [map_map]
    refine map_congr_left fun member inside => ?_
    rw [rawMember, Function.comp_apply, writeMember, write, quote_of_plain (plain member inside)]
  have flat : ∀ member ∈ members.map (fun member => (member.1, Json.string member.2)),
      member.2.IsFlat := by
    intro member inside
    obtain ⟨given, -, rfl⟩ := mem_map.mp inside
    exact .string _
  rw [rawObject, same]
  exact read_members flat

theorem readChars_broken (broken : Broken text) (bound : Nat) (rest : Text) :
    readChars bound (text ++ rest) = none := by
  obtain ⟨front, c, back, rfl, plain, control⟩ := broken
  have ends : ∀ d : Char, escape d = [d] ∨ d.toNat < 0x20 → d ≠ '"' ∧ d ≠ '\\' := by
    rintro d other
    constructor
    · rintro rfl
      revert other
      decide
    · rintro rfl
      revert other
      decide
  induction front generalizing bound with
  | nil =>
    cases bound with
    | zero => rfl
    | succ bound => simp [readChars, ends c (.inr control), control]
  | cons d front ih =>
    cases bound with
    | zero => rfl
    | succ bound =>
      have later := ih bound fun e inside => plain e (mem_cons_of_mem _ inside)
      rw [append_assoc, cons_append] at later
      simp [readChars, ends d (.inl (plain d mem_cons_self)), later]

section

variable {members : List (Text × Text)}
  (kinds : ∀ member ∈ members, (∀ c ∈ member.2, escape c = [c]) ∨ Broken member.2)
  (broken : ∃ member ∈ members, Broken member.2)

include kinds broken

private theorem readMembers_broken (bound depth : Nat)
    (entered : List (Text × Json)) (rest : Text) :
    readMembers bound depth entered (join ',' (members.map rawMember) ++ rest) = none := by
  induction members generalizing bound entered with
  | nil => simp at broken
  | cons member members ih =>
    obtain ⟨tail, whole, later⟩ : ∃ tail, join ',' ((member :: members).map rawMember) ++ rest =
          quote member.1 ++ ':' :: '"' :: (member.2 ++ '"' :: tail) ∧
        (members ≠ [] → tail = ',' :: (join ',' (members.map rawMember) ++ rest)) := by
      cases members with
      | nil => exact ⟨rest, by simp [join, rawMember], by simp⟩
      | cons next members => exact ⟨_, by simp [join, rawMember], fun _ => rfl⟩
    cases bound with
    | zero => rfl
    | succ bound =>
      rw [whole, readMembers, show ∀ text, skipSpace (quote member.1 ++ text) =
        quote member.1 ++ text from
        fun _ => rfl, readString_quote]
      have value : readValue bound depth ('"' :: (member.2 ++ '"' :: tail)) = none ∨
          (¬ Broken member.2 ∧
            readValue bound depth ('"' :: (member.2 ++ '"' :: tail)) =
              some (.string member.2, tail)) := by
        cases bound with
        | zero => exact .inl rfl
        | succ bound =>
          by_cases here : Broken member.2
          · refine .inl ?_
            simp [readValue, skipSpace, readString, readChars_broken here]
          · have plain := (kinds member mem_cons_self).resolve_right here
            refine .inr ⟨here, ?_⟩
            have read := readValue_quote bound depth member.2 tail
            rw [quote_of_plain plain] at read
            simpa using read
      rcases value with failed | ⟨fine, value⟩
      · simp [skipSpace, failed]
      · obtain ⟨culprit, there, breaks⟩ := broken
        have further : culprit ∈ members := by
          rcases mem_cons.mp there with rfl | further
          · exact absurd breaks fine
          · exact further
        have next := later (ne_nil_of_mem further)
        have fails := ih (fun other inside => kinds other (mem_cons_of_mem _ inside))
          ⟨culprit, further, breaks⟩ bound (setMember member.1 (.string member.2) entered)
        subst next
        simp [skipSpace, value, fails]

/-- A value with a control character makes the object none. -/
theorem read_rawObject_broken : read (rawObject members) = none := by
  obtain ⟨tail, opens⟩ : ∃ tail, join ',' (members.map rawMember) ++ ['\x7d'] = '"' :: tail := by
    obtain ⟨member, inside, -⟩ := broken
    rcases members with _ | ⟨first, _ | ⟨second, members⟩⟩
    · cases inside
    · exact ⟨_, rfl⟩
    · exact ⟨_, rfl⟩
  rw [rawObject, read_brace opens, readMembers_broken kinds broken]

end

end Json

end Foundation
