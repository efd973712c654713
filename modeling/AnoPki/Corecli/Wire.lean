import AnoPki.Core.JsonParser

/-! # What the core reads of the JSON the service writes

The service writes request files with Go's encoder and the core reads them with its own parser,
which knows fewer escapes. For each kind of field this module says exactly when the parser accepts
the written value, and that it then reads back the same value. -/
namespace AnoPki.Corecli

open Foundation AnoPki.Core AnoPki.Core.JsonParser List Text AList Json

variable {c : Char} {text rest digits : Text} {bound : Nat} {members : List (Text × FieldValue)}
  {fields : List (Text × Option FieldValue)} {key : Text} {values : Option (List Text)}

/-- The characters that are written in a form the core's parser accepts: all but `<`, `>`, `&`, the
line and paragraph separators, and the control characters other than line ends and tabs. -/
def coreReadable (c : Char) : Bool :=
  !hexEscaped c || c = '\n' || c = '\r' || c = '\t'

/-- A text the core's parser reads back. -/
def CoreReadable (text : Text) : Prop := ∀ c ∈ text, coreReadable c

instance (text : Text) : Decidable (CoreReadable text) := decidableBAll _ text

@[simp] theorem coreReadable_nil : CoreReadable [] := by
  simp [CoreReadable]

@[simp] theorem coreReadable_cons :
    CoreReadable (c :: text) ↔ coreReadable c ∧ CoreReadable text := by
  simp [CoreReadable]

/-- Reading one written character: the character itself, or a failure of the parser. -/
theorem parseChars_escape (c : Char) (rest : Text) : parseChars (escape c ++ rest) =
      if coreReadable c then (parseChars rest).map fun (value, rest) => (c :: value, rest)
      else none := by
  have control : ∀ code, c.toNat = code → c = Char.ofNat code := by
    rintro code rfl
    exact (Char.ofNat_toNat c).symm
  unfold escape
  split
  · next quoted => rcases quoted with rfl | rfl <;> simp [unescape, coreReadable, hexEscaped]
  split
  · next code =>
    obtain rfl := control _ code
    simp [unescape, coreReadable, hexEscaped]
  split
  · next code =>
    obtain rfl := control _ code
    simp [unescape, coreReadable, hexEscaped]
  split
  · next code =>
    subst code
    simp [unescape, coreReadable]
  split
  · next code =>
    subst code
    simp [unescape, coreReadable]
  split
  · next code =>
    subst code
    simp [unescape, coreReadable]
  split
  · next lineFeed carriageReturn tab escaped =>
    simp [unescape, coreReadable, escaped, lineFeed, carriageReturn, tab]
  · next quoted _ _ _ _ _ plain =>
    rw [not_or] at quoted
    simp [parseChars_plain quoted.1 quoted.2, coreReadable, plain]

/-- Reading a written string. -/
theorem parseChars_write (text rest : Text) :
    parseChars (text.flatMap escape ++ '"' :: rest) =
      if CoreReadable text then some (text, rest) else none := by
  induction text with
  | nil => simp
  | cons c text ih =>
    rw [flatMap_cons, append_assoc, parseChars_escape, ih]
    by_cases first : coreReadable c
    · by_cases others : CoreReadable text
      · simp [first, others]
      · simp [first, others]
    · simp [first]

private theorem skipWs_cons (visible : c ≠ ' ' ∧ c ≠ '\t' ∧ c ≠ '\r' ∧ c ≠ '\n') (rest : Text) :
    skipWs (c :: rest) = c :: rest := by
  simp [skipWs, skipSpace, visible]

theorem parseString_quote (text rest : Text) : parseString (quote text ++ rest) =
      if CoreReadable text then some (text, rest) else none := by
  have shape : quote text ++ rest = '"' :: (text.flatMap escape ++ '"' :: rest) := by
    simp [quote]
  rw [shape, parseString, skipWs_cons (by decide)]
  exact parseChars_write text rest

theorem consume_cons {expected} (visible : c ≠ ' ' ∧ c ≠ '\t' ∧ c ≠ '\r' ∧ c ≠ '\n')
    (rest : Text) : consume expected (c :: rest) = if c = expected then some rest else none := by
  rw [consume, skipWs_cons visible]

/-- Reading the items of a written array. -/
private theorem parseStringArrayLoop_write {values} (nonempty : values ≠ [])
    (enough : values.length ≤ bound) (rest : Text) :
    parseStringArrayLoop bound (join ',' (values.map quote) ++ ']' :: rest) =
      if ∀ value ∈ values, CoreReadable value then some (values, rest) else none := by
  induction values generalizing bound with
  | nil => exact absurd rfl nonempty
  | cons value values ih =>
    obtain ⟨bound, rfl⟩ : ∃ n, bound = n + 1 := ⟨bound - 1, by simp at enough; omega⟩
    cases values with
    | nil =>
      by_cases first : CoreReadable value
      · simp [parseStringArrayLoop, join, parseString_quote, first, consume_cons]
      · simp [parseStringArrayLoop, join, parseString_quote, first]
    | cons next values =>
      have tail := ih (by simp) (by simpa using enough)
      simp only [map_cons] at tail
      by_cases first : CoreReadable value
      · simp [parseStringArrayLoop, join, parseString_quote, first, consume_cons, tail]
        split <;> simp
      · simp [parseStringArrayLoop, join, parseString_quote, first]

theorem parseStringArray_write (values : List Text) (rest : Text) :
    parseStringArray (writeArray (values.map quote) ++ rest) =
      if ∀ value ∈ values, CoreReadable value then some (values, rest) else none := by
  have shape : writeArray (values.map quote) ++ rest =
      '[' :: (join ',' (values.map quote) ++ ']' :: rest) := by
    simp [writeArray]
  rw [shape, parseStringArray, consume_cons (by decide)]
  cases values with
  | nil => simp [join, consume_cons]
  | cons value values =>
    have start : ∃ tail, join ',' ((value :: values).map quote) = '"' :: tail := by
      cases values with
      | nil | cons next values => exact ⟨_, rfl⟩
    have notClosed : consume ']' (join ',' ((value :: values).map quote) ++ ']' :: rest) =
        none := by
      obtain ⟨tail, shape⟩ := start
      rw [shape, cons_append, consume_cons (by decide)]
      rfl
    have items := @length_le_join _ quote (by simp [quote]) (value :: values)
    simp only [if_true, Option.bind_eq_bind, Option.bind_some, notClosed]
    exact parseStringArrayLoop_write (by simp)
      (by simp only [length_append, length_cons] at items ⊢; omega) rest

/-- Reading a run of digits up to a character that is none. -/
theorem parseDigits_run {maxValue value : Nat} (large : 9 ≤ maxValue) (within : value ≤ maxValue)
    (allDigits : ∀ c ∈ digits, c.isDigit) (stop : ∀ c ∈ rest.head?, ¬ c.isDigit) :
    parseDigits maxValue value (digits ++ rest) =
      if Nat.ofDigitChars 10 digits value ≤ maxValue then
        some (Nat.ofDigitChars 10 digits value, rest)
      else none := by
  induction digits generalizing value with
  | nil =>
    rw [Nat.ofDigitChars_nil, if_pos within]
    cases rest with
    | nil => rfl
    | cons c rest => simp [parseDigits, stop c (by simp)]
  | cons c digits ih =>
    have digit := allDigits c mem_cons_self
    have ten : c.toNat - '0'.toNat ≤ 9 := Nat.sub_le_sub_right (isDigit_range digit).2 48
    have grows := @Nat.ofDigitChars_eq_ofDigitChars_zero digits (10 * value + (c.toNat - '0'.toNat))
    have scale : 1 ≤ 10 ^ digits.length := Nat.one_le_pow _ _ (by decide)
    rw [Nat.ofDigitChars_cons]
    simp only [cons_append, parseDigits, digit, if_true]
    split
    · have above : maxValue < 10 * value + (c.toNat - '0'.toNat) := by omega
      rw [if_neg (by nlinarith)]
    · rw [Nat.mul_comm value 10, ih (by omega) fun c member =>
        allDigits c (mem_cons_of_mem _ member)]

/-- The integer that a sign and digits denote. -/
def denoted (negative : Bool) (digits : Text) : Int :=
  if negative then -(Nat.ofDigitChars 10 digits 0 : Int) else Nat.ofDigitChars 10 digits 0

/-- The range of the core's `std::int64_t`. -/
abbrev FitsInt64 (n : Int) : Prop := -9223372036854775808 ≤ n ∧ n ≤ 9223372036854775807

def signText (negative : Bool) : Text := if negative then ['-'] else []

theorem parseInteger_run (negative : Bool) (filled : digits ≠ [])
    (allDigits : ∀ c ∈ digits, c.isDigit) (stop : ∀ c ∈ rest.head?, ¬ c.isDigit) :
    parseInteger (signText negative ++ (digits ++ rest)) =
      if FitsInt64 (denoted negative digits) then
        some (denoted negative digits, rest) else none := by
  obtain ⟨c, tail, rfl⟩ := exists_cons_of_ne_nil filled
  have digit := allDigits c mem_cons_self
  have notMinus : c ≠ '-' := by
    rintro rfl
    exact absurd digit (by decide)
  cases negative with
  | true =>
    have run := @parseDigits_run _ _ 9223372036854775808 0 (by decide) (by decide) allDigits stop
    simp only [signText, parseInteger, parseMagnitude, denoted, FitsInt64, if_true, cons_append,
      nil_append, digit] at run ⊢
    rw [run]
    split <;> split <;> first | rfl | omega
  | false =>
    have run := @parseDigits_run _ _ 9223372036854775807 0 (by decide) (by decide) allDigits stop
    simp only [signText, parseInteger, parseMagnitude, denoted, FitsInt64, cons_append,
      nil_append, digit, if_neg notMinus, Bool.false_eq_true, if_false, if_true] at run ⊢
    rw [run]
    split <;> split <;> first | rfl | omega

/-- Reading a written 64-bit integer. -/
theorem parseInteger_write (n : Int64) (stop : ∀ c ∈ rest.head?, ¬ c.isDigit) :
    parseInteger (decimalInt n.toInt ++ rest) = some (n.toInt, rest) := by
  have fits : FitsInt64 n.toInt := ⟨n.le_toInt, Int.le_of_lt_add_one n.toInt_lt⟩
  have run : ∀ negative (m : Nat), FitsInt64 (if negative then -(m : Int) else m) →
      parseInteger (signText negative ++ (decimal m ++ rest)) =
        some (if negative then -(m : Int) else m, rest) := by
    intro negative m fits
    rw [parseInteger_run negative (decimal_ne_nil m)
      (fun c => isDigit_of_mem_decimal) stop, denoted, decimal,
      Nat.ofDigitChars_ten_toDigits, if_pos fits]
  cases shape : n.toInt with
  | ofNat m => exact run false m (by rwa [shape] at fits)
  | negSucc m => exact run true (m + 1) (by rwa [shape] at fits)

/-- The results on `std::uint64_t` in the loop of `parse_integer`: a digit, what is left of the
maximum, and the next value in two steps. -/
def digitResults (maxValue : Int) : Int → Text → List Int
  | _, [] => []
  | value, c :: rest =>
    if c.isDigit then
      let digit : Int := c.toNat - '0'.toNat
      let next := if value > (maxValue - digit) / 10 then []
        else value * 10 :: (value * 10 + digit) :: digitResults maxValue (value * 10 + digit) rest
      digit :: (maxValue - digit) :: next
    else []

/-- The results on `std::int64_t` at the end of `parse_integer`. -/
def signResults (negative : Bool) (maxValue value : Int) : List Int :=
  if negative then if value = maxValue then [] else [value, -value] else [value]

/-- Every result of an operation on the text after the sign is in the range of its type. -/
def NoOverflow (negative : Bool) (text : Text) : Prop :=
  let maxValue : Nat := if negative then 9223372036854775808 else 9223372036854775807
  (∀ n ∈ digitResults maxValue 0 text, 0 ≤ n ∧ n < 2 ^ 64) ∧
    ∀ result ∈ parseDigits maxValue 0 text,
    ∀ n ∈ signResults negative maxValue result.1, FitsInt64 n

/-- The value stays within the maximum, so that no operation of the loop overflows. -/
theorem digitResults_fit {maxValue : Nat} (large : 9 ≤ maxValue)
    (small : maxValue ≤ 2 ^ 63) (text : Text) {value : Nat} (within : value ≤ maxValue) :
    (∀ n ∈ digitResults maxValue value text, 0 ≤ n ∧ n < 2 ^ 64) ∧
      ∀ result ∈ parseDigits maxValue value text, result.1 ≤ maxValue := by
  induction text generalizing value with
  | nil => exact ⟨nofun, by simpa [parseDigits] using within⟩
  | cons c rest ih =>
    by_cases digit : c.isDigit
    · obtain ⟨low, high⟩ := isDigit_range digit
      have read : (c.toNat : Int) - '0'.toNat = (c.toNat - '0'.toNat : Nat) := by simp; omega
      have ten : c.toNat - '0'.toNat ≤ 9 := by simp; omega
      simp only [digitResults, parseDigits, digit, if_true, read, forall_mem_cons]
      generalize c.toNat - '0'.toNat = d at ten
      by_cases beyond : value > (maxValue - d) / 10
      · rw [if_pos beyond, if_pos (by omega)]
        exact ⟨⟨by omega, by omega, nofun⟩, nofun⟩
      · obtain ⟨results, bounded⟩ := @ih (value * 10 + d) (by omega)
        rw [if_neg beyond, if_neg (by omega), forall_mem_cons, forall_mem_cons]
        exact ⟨⟨by omega, by omega, by omega, by omega, by exact_mod_cast results⟩, bounded⟩
    · simpa [digitResults, parseDigits, digit] using within

theorem noOverflow (negative : Bool) (text : Text) : NoOverflow negative text := by
  cases negative with
  | true =>
    obtain ⟨results, bounded⟩ := digitResults_fit (by decide) (by decide) text
      (Nat.zero_le 9223372036854775808)
    refine ⟨results, fun result read n inside => ?_⟩
    have within := bounded result read
    simp only [signResults, if_true] at within inside
    split at inside
    · cases inside
    · simp at inside
      omega
  | false =>
    obtain ⟨results, bounded⟩ := digitResults_fit (by decide) (by decide) text
      (Nat.zero_le 9223372036854775807)
    refine ⟨results, fun result read n inside => ?_⟩
    have within := bounded result read
    simp [signResults] at inside
    omega

/-- The value of a field of a request, as the encoder sees it. -/
inductive FieldValue where
  | string (text : Text)
  /-- A slice of strings; `none` is the nil slice. -/
  | strings (values : Option (List Text))
  | bool (value : Bool)
  | int (value : Int64)

namespace FieldValue

/-- What `encoding/json` writes. -/
def write : FieldValue → Text
  | string text => quote text
  | strings none => "null"
  | strings (some values) => writeArray (values.map quote)
  | bool true => "true"
  | bool false => "false"
  | int value => decimalInt value.toInt

/-- What the core reads of it. -/
def core : FieldValue → JsonValue
  | string text => .string text
  | strings none => .null
  | strings (some values) => .array values
  | bool value => .bool value
  | int value => .number value.toInt

/-- Every string of the value is one the core reads. -/
def Readable : FieldValue → Prop
  | string text => CoreReadable text
  | strings none => True
  | strings (some values) => ∀ value ∈ values, CoreReadable value
  | bool _ => True
  | int _ => True

instance (value : FieldValue) : Decidable value.Readable :=
  match value with
  | string text => inferInstanceAs (Decidable (CoreReadable text))
  | strings none => isTrue trivial
  | strings (some values) => decidableBAll _ values
  | bool _ => isTrue trivial
  | int _ => isTrue trivial

/-- What follows a member of an object: a comma or the closing brace. -/
def Follows (rest : Text) : Prop := ∃ tail, rest = ',' :: tail ∨ rest = '\x7d' :: tail

theorem Follows.notDigit (follows : Follows rest) : ∀ c ∈ rest.head?, ¬ c.isDigit := by
  obtain ⟨tail, rfl | rfl⟩ := follows
  · simp
  · simp

/-- The core reads a readable value back. -/
theorem parseValue_write {value : FieldValue} (readable : value.Readable) {rest}
    (follows : Follows rest) : parseValue (value.write ++ rest) = some (value.core, rest) := by
  match value with
  | string text =>
    have read := (parseString_quote text rest).trans (if_pos (readable : CoreReadable text))
    exact congrArg (Option.map _) read
  | strings (some values) =>
    have read := (parseStringArray_write values rest).trans
      (if_pos (readable : ∀ value ∈ values, CoreReadable value))
    exact congrArg (Option.map _) read
  | strings none => exact parseValue_null rest
  | bool true => exact parseValue_true rest
  | bool false => exact parseValue_false rest
  | int n =>
    have read := parseInteger_write n follows.notDigit
    obtain ⟨c, tail, shape⟩ := exists_cons_of_ne_nil (decimalInt_ne_nil n.toInt)
    have number := mem_decimalInt (shape ▸ mem_cons_self : c ∈ decimalInt n.toInt)
    rw [shape, cons_append] at read
    rw [write, shape, cons_append, parseValue_number number, read]
    rfl

/-- The core refuses a value with a string it cannot read. -/
theorem parseValue_unreadable {value : FieldValue} (unreadable : ¬ value.Readable) (rest : Text) :
    parseValue (value.write ++ rest) = none := by
  match value with
  | string text =>
    have read := (parseString_quote text rest).trans (if_neg (unreadable : ¬ CoreReadable text))
    exact congrArg (Option.map _) read
  | strings (some values) =>
    have read := (parseStringArray_write values rest).trans
      (if_neg (unreadable : ¬ ∀ value ∈ values, CoreReadable value))
    exact congrArg (Option.map _) read
  | strings none => exact absurd trivial unreadable
  | bool _ => exact absurd trivial unreadable
  | int _ => exact absurd trivial unreadable

end FieldValue

/-- A member of a written object. -/
def writeMember (member : Text × FieldValue) : Text :=
  quote member.1 ++ ':' :: member.2.write

/-- The object with the members entered one after the other. -/
def enterMembers (object : JsonObject) (members : List (Text × FieldValue)) : JsonObject :=
  members.foldl (fun object member => object.insert member.1 member.2.core) object

private theorem consume_colon (rest : Text) : consume ':' (':' :: rest) = some rest := rfl

private theorem consume_comma (rest : Text) : consume ',' (',' :: rest) = some rest := rfl

private theorem consume_brace (rest : Text) : consume '\x7d' ('\x7d' :: rest) = some rest := rfl

private theorem consume_brace_comma (rest : Text) : consume '\x7d' (',' :: rest) = none := rfl

/-- Reading the key of a written member. -/
private theorem parseString_writeMember {member} (key : CoreReadable member.1) (rest : Text) :
    parseString (writeMember member ++ rest) =
      some (member.1, ':' :: (member.2.write ++ rest)) := by
  have read := parseString_quote member.1 (':' :: (member.2.write ++ rest))
  rw [if_pos key] at read
  simpa [writeMember] using read

/-- Reading the members of a written object. -/
private theorem parseObjectLoop_write (object : JsonObject) (nonempty : members ≠ [])
    (enough : members.length ≤ bound)
    (keys : ∀ member ∈ members, CoreReadable member.1) (rest : Text) :
    parseObjectLoop bound object (join ',' (members.map writeMember) ++ '\x7d' :: rest) =
      if ∀ member ∈ members, member.2.Readable then some (enterMembers object members, rest)
      else none := by
  induction members generalizing bound object with
  | nil => exact absurd rfl nonempty
  | cons member members ih =>
    obtain ⟨bound, rfl⟩ : ∃ n, bound = n + 1 := ⟨bound - 1, by simp at enough; omega⟩
    have key := parseString_writeMember (keys member mem_cons_self)
    by_cases first : member.2.Readable
    swap
    · have stuck : ¬ ∀ other ∈ member :: members, other.2.Readable :=
        fun all => first (all member mem_cons_self)
      have value := FieldValue.parseValue_unreadable first
      rw [if_neg stuck]
      cases members with
      | nil | cons next members => simp [parseObjectLoop, join, key, consume_colon, value]
    cases members with
    | nil =>
      have value := @FieldValue.parseValue_write _ first ('\x7d' :: rest) ⟨rest, .inr rfl⟩
      simp [parseObjectLoop, join, key, consume_colon, value, consume_brace, first, enterMembers]
    | cons next members =>
      have value := fun tail =>
        @FieldValue.parseValue_write _ first (',' :: tail) ⟨tail, .inl rfl⟩
      have tail := ih (object.insert member.1 member.2.core) (by simp) (by simpa using enough)
        (fun other inside => keys other (mem_cons_of_mem _ inside))
      have joined : join ',' ((member :: next :: members).map writeMember) ++ '\x7d' :: rest =
          writeMember member ++
            ',' :: (join ',' ((next :: members).map writeMember) ++ '\x7d' :: rest) := by
        simp [join]
      rw [joined, parseObjectLoop, key, Option.bind_eq_bind, Option.bind_some]
      simp only [consume_colon, value, consume_brace_comma, consume_comma, Option.bind_eq_bind,
        Option.bind_some, tail, forall_mem_cons, first, true_and]
      rfl

/-- The fields of a request that are written; `none` is a field left out by `omitempty`. -/
def present (fields : List (Text × Option FieldValue)) : List (Text × FieldValue) :=
  fields.filterMap fun field => field.2.map fun value => (field.1, value)

/-- What `json.Marshal` writes of a struct. -/
def marshal (fields : List (Text × Option FieldValue)) : Text :=
  writeObject ((present fields).map fun member => (member.1, member.2.write))

/-- The file the encoder writes: an object on a line of its own. -/
def encode (fields : List (Text × Option FieldValue)) : Text := marshal fields ++ ['\n']

private theorem encode_eq (fields : List (Text × Option FieldValue)) : encode fields =
      '\x7b' :: (join ',' ((present fields).map writeMember) ++ '\x7d' :: ['\n']) := by
  simp [encode, marshal, writeObject, map_map, Function.comp_def]
  rfl

/-- The core accepts a written file exactly when every string of it is readable. -/
theorem parseObject_encode (keys : ∀ field ∈ fields, CoreReadable field.1) :
    parseObject (encode fields) =
      if ∀ member ∈ present fields, member.2.Readable then some (enterMembers ∅ (present fields))
      else none := by
  have memberKeys : ∀ member ∈ present fields, CoreReadable member.1 := by
    intro member inside
    obtain ⟨field, within, shape⟩ := mem_filterMap.mp inside
    obtain ⟨value, -, rfl⟩ := Option.map_eq_some_iff.mp shape
    exact keys field within
  rw [encode_eq, parseObject, show ∀ rest, consume '\x7b' ('\x7b' :: rest) = some rest from
    fun _ => rfl, Option.bind_eq_bind, Option.bind_some]
  cases members : present fields with
  | nil =>
    simp only [map_nil, join, nil_append, consume_brace]
    rfl
  | cons member rest =>
    rw [members] at memberKeys
    have open_ : consume '\x7d'
        (join ',' ((member :: rest).map writeMember) ++ '\x7d' :: ['\n']) = none := by
      cases rest with
      | nil | cons next rest => rfl
    have count := @length_le_join _ writeMember (fun _ => cons_ne_nil _ _) (member :: rest)
    have loop := parseObjectLoop_write ∅ (cons_ne_nil member rest) (show (member :: rest).length ≤
        (join ',' ((member :: rest).map writeMember) ++ '\x7d' :: ['\n']).length by
        simp only [length_append, length_cons] at count ⊢
        omega) memberKeys ['\n']
    simp only [open_, loop]
    split
    · rfl
    · rfl

private theorem lookup_enterMembers_of_notMem (absent : ∀ member ∈ members, member.1 ≠ key)
    (object : JsonObject) : (enterMembers object members).lookup key = object.lookup key := by
  induction members generalizing object with
  | nil => rfl
  | cons member members ih =>
    have first := absent member mem_cons_self
    rw [enterMembers, foldl_cons]
    exact (ih (fun other inside => absent other (mem_cons_of_mem _ inside)) _).trans
      (lookup_insert_ne first.symm)

/-- A field of the request is found in the object under its key. -/
theorem lookup_enterMembers (distinct : (fields.map Prod.fst).Nodup) {value}
    (member : (key, value) ∈ fields) :
    (enterMembers ∅ (present fields)).lookup key = value.map FieldValue.core := by
  obtain ⟨front, back, rfl⟩ := append_of_mem member
  have apart : ∀ field ∈ front ++ back, field.1 ≠ key := by
    rintro field inside rfl
    rw [map_append, map_cons, nodup_middle, nodup_cons, ← map_append] at distinct
    exact distinct.1 (mem_map.mpr ⟨field, inside, rfl⟩)
  have absent : ∀ fields, (∀ field ∈ fields, field ∈ front ++ back) →
      ∀ member ∈ present fields, member.1 ≠ key := by
    intro fields within member inside
    obtain ⟨field, fieldIn, shape⟩ := mem_filterMap.mp inside
    obtain ⟨value, -, rfl⟩ := Option.map_eq_some_iff.mp shape
    exact apart field (within field fieldIn)
  have split : present (front ++ (key, value) :: back) =
      present front ++ ((value.map fun value => (key, value)).toList ++ present back) := by
    cases value <;> simp [present]
  rw [split, enterMembers, foldl_append, foldl_append]
  refine (lookup_enterMembers_of_notMem (absent back (by simp +contextual)) _).trans ?_
  have before := lookup_enterMembers_of_notMem (absent front (by simp +contextual)) ∅
  cases value with
  | none => exact before.trans (lookup_empty key)
  | some value => exact lookup_insert _

/-- A string field with `omitempty`. -/
def omitEmpty (text : Text) : Option FieldValue :=
  if text = [] then none else some (.string text)

/-- A slice field with `omitempty`: a nil and an empty slice are left out. -/
def omitEmptySlice (values : Option (List Text)) : Option FieldValue :=
  if values.getD [] = [] then none else some (.strings values)

/-- A flag with `omitempty`. -/
def omitFalse (value : Bool) : Option FieldValue :=
  if value then some (.bool true) else none

section Getters

variable {fields : List (Text × Option FieldValue)} (distinct : (fields.map Prod.fst).Nodup)
  {key : Text}

include distinct

theorem getStringField_written (member : (key, some (.string text)) ∈ fields) :
    getStringField (enterMembers ∅ (present fields)) key = some text := by
  rw [getStringField, lookup_enterMembers distinct member]
  rfl

theorem getStringField_omitEmpty (member : (key, omitEmpty text) ∈ fields) :
    getStringField (enterMembers ∅ (present fields)) key = some text := by
  rw [getStringField, lookup_enterMembers distinct member]
  by_cases empty : text = []
  · simp [omitEmpty, empty]
  · simp [omitEmpty, empty, FieldValue.core]

theorem getStringArrayField_written (member : (key, some (.strings values)) ∈ fields) :
    getStringArrayField (enterMembers ∅ (present fields)) key = some (values.getD []) := by
  rw [getStringArrayField, lookup_enterMembers distinct member]
  cases values <;> rfl

theorem getStringArrayField_omitEmptySlice (member : (key, omitEmptySlice values) ∈ fields) :
    getStringArrayField (enterMembers ∅ (present fields)) key = some (values.getD []) := by
  rw [getStringArrayField, lookup_enterMembers distinct member]
  by_cases empty : values.getD [] = []
  · simp [omitEmptySlice, empty]
  · cases values with
    | none => exact absurd rfl empty
    | some values => simp_all [omitEmptySlice, FieldValue.core]

theorem getBoolField_omitFalse {value} (member : (key, omitFalse value) ∈ fields) :
    getBoolField (enterMembers ∅ (present fields)) key = some value := by
  rw [getBoolField, lookup_enterMembers distinct member]
  cases value <;> rfl

theorem getInt64Field_written {value} {defaultValue : Int}
    (member : (key, some (.int value)) ∈ fields) :
    getInt64Field (enterMembers ∅ (present fields)) key defaultValue = some value.toInt := by
  rw [getInt64Field, lookup_enterMembers distinct member]
  rfl

/-- A 64-bit number is narrowed to the core's `int` only when it fits. -/
theorem getIntField_written {value : Option Int64} {defaultValue : Int}
    (member : (key, value.map .int) ∈ fields) :
    getIntField (enterMembers ∅ (present fields)) key defaultValue =
      if ∀ n ∈ value, -2147483648 ≤ n.toInt ∧ n.toInt ≤ 2147483647 then
        some ((value.map Int64.toInt).getD defaultValue)
      else none := by
  rw [getIntField, lookup_enterMembers distinct member]
  cases value with
  | none => simp
  | some n =>
    simp only [Option.map_some, FieldValue.core, Option.mem_def, Option.some.injEq, forall_eq',
      Option.getD_some]
    by_cases fits : -2147483648 ≤ n.toInt ∧ n.toInt ≤ 2147483647
    · rw [if_pos fits, if_neg (by omega)]
    · rw [if_neg fits, if_pos (by omega)]

end Getters

end AnoPki.Corecli
