import AnoPki.Foundation.Json

/-! # The JSON parser of the core

The parser of `anopki-core` accepts one object whose values are strings, arrays of strings, literals
and integers. Every failure throws `cli.json_parse_failed`, written `none` here. Positions in the
input are written as the text that is left. The parser works on bytes; none of the bytes it looks
for occurs inside a longer UTF-8 sequence, so it is embedded over characters. -/
namespace AnoPki.Core

open Foundation

inductive JsonValue where
  | string (value : Text)
  | array (values : List Text)
  | null
  | bool (value : Bool)
  | number (value : Int)
deriving DecidableEq, Repr

/-- A parsed object; a key that occurs twice keeps its last value. -/
abbrev JsonObject := AList fun _ : Text => JsonValue

namespace JsonParser

/-- Skip blanks, tabs and line ends. -/
def skipWs (text : Text) : Text := Json.skipSpace text

/-- Skip white space and the expected character; `none` when another one comes. -/
def consume (expected : Char) (text : Text) : Option Text :=
  match skipWs text with
  | c :: rest => if c = expected then some rest else none
  | [] => none

def consumeLiteral (literal text : Text) : Option Text :=
  if literal.isPrefixOf text then some (text.drop literal.length) else none

def unescape (escaped : Char) : Option Char :=
  if escaped = '\\' then some '\\'
  else if escaped = '"' then some '"'
  else if escaped = 'n' then some '\n'
  else if escaped = 'r' then some '\r'
  else if escaped = 't' then some '\t'
  else none

/-- The characters of a string up to its closing quote. -/
def parseChars : Text → Option (Text × Text)
  | [] => none
  | c :: rest =>
    if c = '"' then some ([], rest)
    else if c ≠ '\\' then (parseChars rest).map fun (value, rest) => (c :: value, rest)
    else
      match rest with
      | [] => none
      | escaped :: rest =>
        match unescape escaped with
        | none => none
        | some c => (parseChars rest).map fun (value, rest) => (c :: value, rest)

@[simp] theorem parseChars_closing (rest : Text) : parseChars ('"' :: rest) = some ([], rest) := by
  unfold parseChars
  simp

theorem parseChars_plain {c} (notQuote : c ≠ '"') (notBackslash : c ≠ '\\') (rest : Text) :
    parseChars (c :: rest) = (parseChars rest).map fun (value, rest) => (c :: value, rest) := by
  rw [parseChars.eq_def]
  simp [notQuote, notBackslash]

@[simp] theorem parseChars_escaped (escaped : Char) (rest : Text) :
    parseChars ('\\' :: escaped :: rest) = (unescape escaped).bind fun c =>
      (parseChars rest).map fun (value, rest) => (c :: value, rest) := by
  rw [parseChars.eq_def]
  cases known : unescape escaped <;> simp [known]

def parseString (text : Text) : Option (Text × Text) :=
  match skipWs text with
  | c :: rest => if c = '"' then parseChars rest else none
  | [] => none

/-- The loop of `parse_string_array`, for at most `bound` items. -/
def parseStringArrayLoop : Nat → Text → Option (List Text × Text)
  | 0, _ => none
  | bound + 1, text => do
    let (value, text) ← parseString text
    match consume ']' text with
    | some rest => return ([value], rest)
    | none =>
      let text ← consume ',' text
      let (values, rest) ← parseStringArrayLoop bound text
      return (value :: values, rest)

def parseStringArray (text : Text) : Option (List Text × Text) := do
  let text ← consume '[' text
  match consume ']' text with
  | some rest => return ([], rest)
  | none => parseStringArrayLoop text.length text

/-- The digits of an integer. The check before each digit keeps the value within the maximum. -/
def parseDigits (maxValue : Nat) : Nat → Text → Option (Nat × Text)
  | value, [] => some (value, [])
  | value, c :: rest =>
    if c.isDigit then
      let digit := c.toNat - '0'.toNat
      if value > (maxValue - digit) / 10 then none
      else parseDigits maxValue (value * 10 + digit) rest
    else some (value, c :: rest)

/-- The rest of `parse_integer` after the sign. -/
def parseMagnitude (negative : Bool) (text : Text) : Option (Int × Text) :=
  match text with
  | [] => none
  | c :: _ =>
    if c.isDigit then
      let maxValue := if negative then 9223372036854775808 else 9223372036854775807
      (parseDigits maxValue 0 text).map fun (value, rest) =>
        (if negative then -(value : Int) else value, rest)
    else none

def parseInteger (text : Text) : Option (Int × Text) :=
  match text with
  | [] => none
  | c :: rest => if c = '-' then parseMagnitude true rest else parseMagnitude false text

def parseValue (text : Text) : Option (JsonValue × Text) :=
  let text := skipWs text
  match text with
  | [] => none
  | c :: _ =>
    if c = '"' then (parseString text).map fun (value, rest) => (.string value, rest)
    else if c = '[' then (parseStringArray text).map fun (values, rest) => (.array values, rest)
    else
      match consumeLiteral "null" text with
      | some rest => some (.null, rest)
      | none =>
        match consumeLiteral "true" text with
        | some rest => some (.bool true, rest)
        | none =>
          match consumeLiteral "false" text with
          | some rest => some (.bool false, rest)
          | none =>
            if c = '-' ∨ c.isDigit then
              (parseInteger text).map fun (value, rest) => (.number value, rest)
            else none

theorem parseValue_skipWs (text : Text) : parseValue (skipWs text) = parseValue text := by
  have twice : skipWs (skipWs text) = skipWs text := by
    induction text with
    | nil => rfl
    | cons c rest ih =>
      simp only [skipWs, Json.skipSpace]
      split
      · exact ih
      · next visible => rw [Json.skipSpace, if_neg visible]
  simp only [parseValue, twice]

private theorem consumeLiteral_append (literal rest : Text) :
    consumeLiteral literal (literal ++ rest) = some rest := by
  simp [consumeLiteral]

private theorem consumeLiteral_other {c d} (other : d ≠ c) (literal rest : Text) :
    consumeLiteral (d :: literal) (c :: rest) = none := by
  simp [consumeLiteral, other]

theorem parseValue_null (rest : Text) :
    parseValue ('n' :: 'u' :: 'l' :: 'l' :: rest) = some (.null, rest) := by
  have literal := consumeLiteral_append "null" rest
  simp_all [parseValue, skipWs, Json.skipSpace]

theorem parseValue_true (rest : Text) :
    parseValue ('t' :: 'r' :: 'u' :: 'e' :: rest) = some (.bool true, rest) := by
  have literal := consumeLiteral_append "true" rest
  have notNull := @consumeLiteral_other 't' 'n' (by decide) ['u', 'l', 'l']
    ('r' :: 'u' :: 'e' :: rest)
  simp_all [parseValue, skipWs, Json.skipSpace]

theorem parseValue_false (rest : Text) :
    parseValue ('f' :: 'a' :: 'l' :: 's' :: 'e' :: rest) = some (.bool false, rest) := by
  have literal := consumeLiteral_append "false" rest
  have notNull := @consumeLiteral_other 'f' 'n' (by decide) ['u', 'l', 'l']
    ('a' :: 'l' :: 's' :: 'e' :: rest)
  have notTrue := @consumeLiteral_other 'f' 't' (by decide) ['r', 'u', 'e']
    ('a' :: 'l' :: 's' :: 'e' :: rest)
  simp_all [parseValue, skipWs, Json.skipSpace]

theorem parseValue_number {c} (number : c = '-' ∨ c.isDigit) (rest : Text) :
      parseValue (c :: rest) = (parseInteger (c :: rest)).map fun (value, rest) =>
        (.number value, rest) := by
  have apart : ∀ d : Char, d ≠ '-' → ¬ d.isDigit → d ≠ c := by
    rintro d notMinus notDigit rfl
    exact number.elim notMinus notDigit
  have visible : skipWs (c :: rest) = c :: rest := by
    simp [skipWs, Json.skipSpace, (apart ' ' (by decide) (by decide)).symm,
      (apart '\t' (by decide) (by decide)).symm, (apart '\r' (by decide) (by decide)).symm,
      (apart '\n' (by decide) (by decide)).symm]
  have notNull := consumeLiteral_other (apart 'n' (by decide) (by decide)) ['u', 'l', 'l'] rest
  have notTrue := consumeLiteral_other (apart 't' (by decide) (by decide)) ['r', 'u', 'e'] rest
  have notFalse := consumeLiteral_other (apart 'f' (by decide) (by decide))
    ['a', 'l', 's', 'e'] rest
  simp [parseValue, visible, (apart '"' (by decide) (by decide)).symm,
    (apart '[' (by decide) (by decide)).symm, notNull, notTrue, notFalse, number]

/-- The loop of `parse_object`, for at most `bound` members. -/
def parseObjectLoop : Nat → JsonObject → Text → Option (JsonObject × Text)
  | 0, _, _ => none
  | bound + 1, object, text => do
    let (key, text) ← parseString text
    let text ← consume ':' text
    let (value, text) ← parseValue text
    let object := object.insert key value
    match consume '\x7d' text with
    | some rest => return (object, rest)
    | none =>
      let text ← consume ',' text
      parseObjectLoop bound object text

/-- Nothing but white space is left. -/
def atEnd (object : JsonObject) (text : Text) : Option JsonObject :=
  if skipWs text = [] then some object else none

def parseObject (input : Text) : Option JsonObject := do
  let text ← consume '\x7b' input
  match consume '\x7d' text with
  | some rest => atEnd ∅ rest
  | none =>
    let (object, rest) ← parseObjectLoop text.length ∅ text
    atEnd object rest

end JsonParser

def getStringField (object : JsonObject) (key : Text) : Option Text :=
  match object.lookup key with
  | none => some []
  | some (.string value) => some value
  | some _ => none

def getStringArrayField (object : JsonObject) (key : Text) : Option (List Text) :=
  match object.lookup key with
  | none => some []
  | some .null => some []
  | some (.array values) => some values
  | some _ => none

def getBoolField (object : JsonObject) (key : Text) : Option Bool :=
  match object.lookup key with
  | none => some false
  | some .null => some false
  | some (.bool value) => some value
  | some _ => none

def getIntField (object : JsonObject) (key : Text) (defaultValue : Int) : Option Int :=
  match object.lookup key with
  | none => some defaultValue
  | some .null => some defaultValue
  | some (.number value) =>
    if value < -2147483648 ∨ value > 2147483647 then none else some value
  | some _ => none

def getInt64Field (object : JsonObject) (key : Text) (defaultValue : Int) : Option Int :=
  match object.lookup key with
  | none => some defaultValue
  | some .null => some defaultValue
  | some (.number value) => some value
  | some _ => none

open Json List

def jsonEscapeChar : Char → Text
  | '\\' => ['\\', '\\']
  | '"' => ['\\', '"']
  | '\n' => ['\\', 'n']
  | '\r' => ['\\', 'r']
  | '\t' => ['\\', 't']
  | ch => [ch]

def jsonEscape (value : Text) : Text := value.flatMap jsonEscapeChar

def jsonString (value : Text) : Text := '"' :: (jsonEscape value ++ ['"'])

def RawControl (ch : Char) : Prop := ch.toNat < 32 ∧ ch ∉ ['\n', '\r', '\t']
deriving Decidable

theorem readChars_jsonEscapeChar (bound ch rest) :
    readChars (bound + 1) (jsonEscapeChar ch ++ rest) = if RawControl ch then none
      else (readChars bound rest).map fun (text, rest) => (ch :: text, rest) := by
  unfold jsonEscapeChar
  split <;> simp_all [readChars, readEscape, RawControl, Option.map_eq_bind]

theorem readChars_jsonEscape {value bound} (enough : (jsonEscape value).length < bound) (rest) :
    readChars bound (jsonEscape value ++ '"' :: rest) =
      if ∀ ch ∈ value, ¬ RawControl ch then some (value, rest) else none := by
  induction value generalizing bound with
  | nil =>
    obtain ⟨bound, rfl⟩ := Nat.exists_eq_add_of_lt enough
    simp [readChars, jsonEscape]
  | cons ch value ih =>
    have long : (jsonEscapeChar ch).length ≠ 0 := by fun_cases jsonEscapeChar <;> simp
    rw [jsonEscape, flatMap_cons, ← jsonEscape] at enough ⊢
    obtain ⟨bound, rfl⟩ := Nat.exists_eq_add_of_lt (length_append ▸ enough)
    rw [append_assoc, readChars_jsonEscapeChar, ih (by omega)]
    split_ifs <;> simp_all

/-- The service reads what the core wrote, or refuses a raw control character. -/
theorem readString_jsonString (value rest : Text) : readString (jsonString value ++ rest) =
    if ∀ ch ∈ value, ¬ RawControl ch then some (value, rest) else none := by
  rw [jsonString, cons_append, append_assoc, readString]
  exact readChars_jsonEscape (by simp) rest

end AnoPki.Core
