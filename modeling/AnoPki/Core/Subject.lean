import AnoPki.Foundation.Text
import AnoPki.Foundation.Fields

/-! # Subjects in the core

`make_subject_from_request` splits the requested subject at slashes and each part at its first
equals sign. `subject_to_string` prints the subject of the new certificate without its first slash;
the service stores that text, and requests it again when the certificate is renewed or reissued. -/
namespace AnoPki.Core

open Foundation List

/-- An attribute type, by the numbers of its object identifier. -/
abbrev AttributeType := List Nat

/-- The entries of a name in their order: a type, and the bytes of a value. -/
abbrev X509Name := List (AttributeType × List UInt8)

def commonName : AttributeType := [2, 5, 4, 3]

def serialNumber : AttributeType := [2, 5, 4, 5]

def slash : UInt8 := 47

def equalsSign : UInt8 := 61

def plusSign : UInt8 := 43

/-- What OpenSSL knows about attribute types. -/
structure NameTypes where
  /-- The type with a short name, a long name or a number (`OBJ_txt2obj`). -/
  find : List UInt8 → Option AttributeType
  /-- What `X509_NAME_oneline` writes for a type. -/
  shortName : AttributeType → List UInt8
  /-- Whether a value has a length and characters that suit its type. -/
  takes : AttributeType → List UInt8 → Bool
  /-- The key that is written for a type is a key for it. -/
  find_shortName {key : List UInt8} {type : AttributeType} :
    find key = some type → find (shortName type) = some type
  /-- A key is a C string that is not empty, with none of the two signs around it. -/
  shortName_plain {key : List UInt8} {type : AttributeType} : find key = some type →
    shortName type ≠ [] ∧ 0 ∉ shortName type ∧ slash ∉ shortName type ∧ equalsSign ∉ shortName type
  /-- A common name and a serial number have at least one character. -/
  takes_filled {type : AttributeType} : type = commonName ∨ type = serialNumber →
    takes type [] = false

variable (types : NameTypes)

/-- The entry that a part adds; `none` where the core throws. -/
def addSubjectPart (part : List UInt8) : Option (AttributeType × List UInt8) :=
  let key := part.takeWhile (· ≠ equalsSign)
  let value := part.drop (key.length + 1)
  if key = part ∨ key = [] then none
  else if 2147483647 < value.length then none
  else
    -- The key is handed on as a C string, which ends at its first zero.
    match types.find (key.takeWhile (· ≠ 0)) with
    | some type => if types.takes type value then some (type, value) else none
    | none => none

/-- Remove one slash in front. -/
def withoutSlash : List UInt8 → List UInt8
  | [] => []
  | first :: rest => if first = slash then rest else first :: rest

/-- The name of a requested subject; `none` where the core throws. -/
def makeSubjectFromRequest (subject : List UInt8) : Option X509Name :=
  (fields slash (withoutSlash subject)).mapM (addSubjectPart types)

def upperHexDigit (n : UInt8) : UInt8 := if n < 10 then 48 + n else 55 + n

def Printable (byte : UInt8) : Prop := 0x20 ≤ byte ∧ byte ≤ 0x7e

instance : DecidablePred Printable := fun _ => inferInstanceAs (Decidable (_ ∧ _))

/-- A byte of a value in `X509_NAME_oneline`: a backslash, an x and two digits if it is not
printable, and else itself, after a backslash if it is a slash or a plus sign. -/
def onelineByte (byte : UInt8) : List UInt8 :=
  if ¬ Printable byte then [92, 120, upperHexDigit (byte / 16), upperHexDigit (byte % 16)]
  else if byte = slash ∨ byte = plusSign then [92, byte]
  else [byte]

def onelineValue (value : List UInt8) : List UInt8 := value.flatMap onelineByte

def onelinePart (entry : AttributeType × List UInt8) : List UInt8 :=
  types.shortName entry.1 ++ equalsSign :: onelineValue entry.2

/-- The text of `X509_NAME_oneline`. -/
def oneline (name : X509Name) : List UInt8 := name.flatMap fun entry =>
    slash :: onelinePart types entry

def subjectToString (name : X509Name) : List UInt8 := withoutSlash (oneline types name)

section Reading

variable {types} {part value value' subject : List UInt8} {type : AttributeType} {name : X509Name}

theorem fields_withoutSlash (text : List UInt8) :
    fields slash (withoutSlash text) = fields slash text := by
  rcases text with - | ⟨first, rest⟩
  · rfl
  rw [withoutSlash]
  split
  · next same => rw [same, fields_separator]
  · rfl

theorem makeSubject_eq_some :
    makeSubjectFromRequest types subject = some name ↔ List.Forall₂
      (fun part entry => addSubjectPart types part = some entry) (fields slash subject) name := by
  rw [makeSubjectFromRequest, fields_withoutSlash, mapM_eq_some_iff]

/-- A part with an equals sign adds its value under the type that its key names. -/
theorem addSubjectPart_split {key} (apart : equalsSign ∉ key) :
    addSubjectPart types (key ++ equalsSign :: value) = some (type, value') ↔
      key ≠ [] ∧ value.length ≤ 2147483647 ∧ types.find (key.takeWhile (· ≠ 0)) = some type ∧
        types.takes type value = true ∧ value = value' := by
  have front : (key ++ equalsSign :: value).takeWhile (· ≠ equalsSign) = key := by
    rw [takeWhile_append_of_pos fun byte inside => by
      simpa using ne_of_mem_of_not_mem inside apart]
    simp
  have back : (key ++ equalsSign :: value).drop (key.length + 1) = value := by simp
  simp only [addSubjectPart, front, back]
  rw [if_congr (or_iff_right (by simp)) rfl rfl]
  cases found : types.find (key.takeWhile (· ≠ 0)) <;> grind

theorem addSubjectPart_eq_some : addSubjectPart types part = some (type, value) ↔ ∃ key,
    part = key ++ equalsSign :: value ∧ equalsSign ∉ key ∧ key ≠ [] ∧
      value.length ≤ 2147483647 ∧ types.find (key.takeWhile (· ≠ 0)) = some type ∧
      types.takes type value = true := by
  constructor
  · intro added
    by_cases inside : equalsSign ∈ part
    · obtain ⟨key, rest, rfl, apart⟩ := eq_append_cons_of_mem inside
      obtain ⟨filled, short, found, taken, rfl⟩ := (addSubjectPart_split apart).mp added
      exact ⟨key, rfl, apart, filled, short, found, taken⟩
    · have whole : part.takeWhile (· ≠ equalsSign) = part := by
        rw [takeWhile_eq_self_iff]
        intro byte here
        simpa using ne_of_mem_of_not_mem here inside
      simp only [addSubjectPart, whole, true_or, if_true, reduceCtorEq] at added
  · rintro ⟨key, rfl, apart, filled, short, found, taken⟩
    exact (addSubjectPart_split apart).mpr ⟨filled, short, found, taken, rfl⟩

end Reading

section Printing

variable {types}

/-- The bytes of an escape are no slashes. -/
theorem slash_not_mem_onelineByte {byte} (other : byte ≠ slash) : slash ∉ onelineByte byte := by
  revert byte
  decide +kernel

theorem slash_not_mem_onelineValue {value} (apart : slash ∉ value) :
    slash ∉ onelineValue value := by
  intro inside
  obtain ⟨byte, there, written⟩ := mem_flatMap.mp inside
  exact slash_not_mem_onelineByte (ne_of_mem_of_not_mem there apart) written

/-- A byte other than a slash is written as it is, or as more than one. -/
theorem onelineByte_cases {byte} (other : byte ≠ slash) :
    (Printable byte ∧ byte ≠ plusSign) ∧ onelineByte byte = [byte] ∨
      ¬ (Printable byte ∧ byte ≠ plusSign) ∧ 1 < (onelineByte byte).length := by
  revert byte
  decide +kernel

/-- A value without a slash is written as it is when all its bytes are printable and no plus signs,
and else becomes longer. -/
theorem onelineValue_eq_self_iff {value} (apart : slash ∉ value) :
    onelineValue value = value ↔ ∀ byte ∈ value, Printable byte ∧ byte ≠ plusSign := by
  have bytes : ∀ byte ∈ value, _ := fun byte inside =>
    onelineByte_cases (ne_of_mem_of_not_mem inside apart)
  constructor
  · intro same
    by_contra other
    push Not at other
    obtain ⟨byte, inside, escaped⟩ := other
    have lengths : ∀ byte ∈ value, 1 ≤ (onelineByte byte).length := by
      intro byte inside
      rcases bytes byte inside with ⟨-, one⟩ | ⟨-, more⟩
      · rw [one, length_singleton]
      · exact more.le
    have longer : (value.map fun _ => 1).sum <
        (value.map fun byte => (onelineByte byte).length).sum := by
      refine sum_lt_sum _ _ lengths ⟨byte, inside, ?_⟩
      rcases bytes byte inside with ⟨plain, -⟩ | ⟨-, more⟩
      · exact absurd (escaped plain.1) plain.2
      · exact more
    have length := congrArg List.length same
    rw [onelineValue, length_flatMap] at length
    simp at longer
    omega
  · intro plain
    have single : ∀ byte ∈ value, onelineByte byte = [byte] := by
      intro byte inside
      rcases bytes byte inside with ⟨-, one⟩ | ⟨other, -⟩
      · exact one
      · exact absurd (plain byte inside) other
    calc value.flatMap onelineByte = value.flatMap fun byte => [byte] := flatMap_congr single
      _ = value := by simp

end Printing

/-- An entry that the core made: its type has a name, its value has no slash. -/
structure Made (entry : AttributeType × List UInt8) : Prop where
  named : ∃ key, types.find key = some entry.1
  apart : slash ∉ entry.2
  short : entry.2.length ≤ 2147483647
  taken : types.takes entry.1 entry.2 = true

section Renewal

variable {types} {subject : List UInt8} {name : X509Name}

theorem makeSubject_made (made : makeSubjectFromRequest types subject = some name) :
    ∀ entry ∈ name, Made types entry := by
  intro entry inside
  obtain ⟨part, there, added⟩ :=
    exists_of_mem_forall₂ (makeSubject_eq_some.mp made) inside
  obtain ⟨key, rfl, -, -, short, found, taken⟩ := addSubjectPart_eq_some.mp added
  have apart := not_mem_of_mem_fields there
  refine ⟨⟨_, found⟩, fun slashed => apart ?_, short, taken⟩
  exact mem_append_right _ (mem_cons_of_mem _ slashed)

/-- The printed entries are read as the entries with their values as they were written. -/
theorem makeSubject_subjectToString (made : ∀ entry ∈ name, Made types entry) :
    makeSubjectFromRequest types (subjectToString types name) = some name ↔
      ∀ entry ∈ name, onelineValue entry.2 = entry.2 := by
  have pieces : fields slash (subjectToString types name) = name.map (onelinePart types) := by
    rw [subjectToString, fields_withoutSlash]
    refine fields_flatMap ?_ ?_
    · intro entry inside
      obtain ⟨⟨key, found⟩, apart, -, -⟩ := made entry inside
      obtain ⟨-, -, noSlash, -⟩ := types.shortName_plain found
      have escaped := slash_not_mem_onelineValue apart
      rw [onelinePart, mem_append, mem_cons, not_or, not_or]
      exact ⟨noSlash, by decide, escaped⟩
    · simp [onelinePart]
  rw [makeSubject_eq_some, pieces, forall₂_map_left_iff, forall₂_same]
  refine forall₂_congr fun entry inside => ?_
  obtain ⟨⟨key, found⟩, apart, short, taken⟩ := made entry inside
  obtain ⟨filled, noZero, -, noEquals⟩ := types.shortName_plain found
  have whole : (types.shortName entry.1).takeWhile (· ≠ 0) = types.shortName entry.1 := by
    rw [takeWhile_eq_self_iff]
    intro byte here
    simpa using ne_of_mem_of_not_mem here noZero
  rw [onelinePart, ← Prod.mk.eta (p := entry), addSubjectPart_split noEquals, whole]
  constructor
  · rintro ⟨-, -, -, -, same⟩
    exact same
  · intro same
    dsimp only at same ⊢
    rw [same]
    exact ⟨filled, short, types.find_shortName found, taken, rfl⟩

/-- A part of the types that OpenSSL knows, by their short names. -/
def shortNames : List (List UInt8 × AttributeType) :=
  [([67, 78], commonName), ([67], [2, 5, 4, 6]), ([76], [2, 5, 4, 7]), ([83, 84], [2, 5, 4, 8]),
    ([79], [2, 5, 4, 10]), ([79, 85], [2, 5, 4, 11])]

theorem mem_shortNames {key type} (found : shortNames.lookup key = some type) :
    type ∈ shortNames.map Prod.snd := by
  obtain ⟨front, back, whole, -⟩ := lookup_eq_some_iff.mp found
  rw [whole]
  simp

/-- They alone, with values of one to 64 bytes. -/
def shortTypes : NameTypes where
  find key := shortNames.lookup key
  shortName type := ((shortNames.map Prod.swap).lookup type).getD []
  takes _ value := 1 ≤ value.length && value.length ≤ 64
  find_shortName {key type} found := by
    have listed := mem_shortNames found
    clear found
    revert type
    decide
  shortName_plain {key type} found := by
    have listed := mem_shortNames found
    clear found
    revert type
    decide
  takes_filled _ := rfl

end Renewal

end AnoPki.Core
