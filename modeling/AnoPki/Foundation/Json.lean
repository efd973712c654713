import AnoPki.Foundation.Text

/-! # JSON documents

The writer follows the HTML-safe rules of Go's `encoding/json`: `<`, `>`, `&`, the two Unicode line
separators and control characters leave as escapes, and the keys of an object are written in
order. The reader accepts one document and returns what follows it. `readChars_write` is the
round trip of a quoted string, from which a written string is seen to be self-delimiting. -/
namespace Foundation

open Option List

inductive Json where
  | null
  | bool (value : Bool)
  /-- A number, kept as its literal. -/
  | number (literal : Text)
  | string (value : Text)
  | array (items : List Json)
  | object (members : List (Text × Json))

namespace Json

/-- Four lower-case hexadecimal digits. -/
def hex4 (n : Nat) : Text :=
  [Nat.digitChar (n / 4096 % 16), Nat.digitChar (n / 256 % 16), Nat.digitChar (n / 16 % 16),
    Nat.digitChar (n % 16)]

/-- The characters that leave as a `\u` escape: control characters without an escape of their own,
the characters HTML gives a meaning to, and the line and paragraph separators. -/
def hexEscaped (c : Char) : Bool :=
  c.toNat < 0x20 || c = '<' || c = '>' || c = '&' || c.toNat = 0x2028 || c.toNat = 0x2029

/-- One character of a string literal. -/
def escape (c : Char) : Text :=
  if c = '"' ∨ c = '\\' then ['\\', c]
  else if c.toNat = 0x08 then ['\\', 'b']
  else if c.toNat = 0x0c then ['\\', 'f']
  else if c = '\n' then ['\\', 'n']
  else if c = '\r' then ['\\', 'r']
  else if c = '\t' then ['\\', 't']
  else if hexEscaped c then '\\' :: 'u' :: hex4 c.toNat
  else [c]

/-- A quoted string literal. -/
def quote (text : Text) : Text := '"' :: (text.flatMap escape ++ ['"'])

/-- Texts joined by a separator. -/
def join (separator : Char) : List Text → Text
  | [] => []
  | [text] => text
  | text :: rest => text ++ separator :: join separator rest

/-- A list of texts is not longer than what it is joined to. -/
theorem length_le_join {α : Type} {written} (inhabited : ∀ item, written item ≠ [])
    (items : List α) : items.length ≤ (join ',' (items.map written)).length := by
  induction items with
  | nil => exact le_refl _
  | cons item items ih =>
    have first := length_pos_iff.mpr (inhabited item)
    cases items with
    | nil => exact first
    | cons next items =>
      simp only [map_cons, join, length_append, length_cons] at *
      omega

/-- The members of an object, by key. -/
def sortByKey (members : List (Text × Text)) : List (Text × Text) :=
  members.insertionSort (fun a b => a.1 ≤ b.1)

/-- An object from the texts of its members, in the order given. -/
def writeObject (members : List (Text × Text)) : Text :=
  '\x7b' :: (join ',' (members.map fun member => quote member.1 ++ ':' :: member.2) ++ ['\x7d'])

/-- An array from the texts of its items. -/
def writeArray (items : List Text) : Text := '[' :: (join ',' items ++ [']'])

mutual

/-- The compact text of a document. -/
def write : Json → Text
  | null => ['n', 'u', 'l', 'l']
  | bool true => ['t', 'r', 'u', 'e']
  | bool false => ['f', 'a', 'l', 's', 'e']
  | number literal => literal
  | string value => quote value
  | array items => writeArray (writeItems items)
  | object members => writeObject (sortByKey (writeMembers members))

def writeItems : List Json → List Text
  | [] => []
  | item :: rest => write item :: writeItems rest

def writeMembers : List (Text × Json) → List (Text × Text)
  | [] => []
  | (key, value) :: rest => (key, write value) :: writeMembers rest

end

/-- Drop the white space between tokens. -/
def skipSpace : Text → Text
  | [] => []
  | c :: rest => if c = ' ' ∨ c = '\t' ∨ c = '\r' ∨ c = '\n' then skipSpace rest else c :: rest

/-- The value of four hexadecimal digits of either case. -/
def readHex4 : Text → Option (Nat × Text)
  | a :: b :: c :: d :: rest => do
    let a ← Text.hexValue a
    let b ← Text.hexValue b
    let c ← Text.hexValue c
    let d ← Text.hexValue d
    return (4096 * a + 256 * b + 16 * c + d, rest)
  | _ => none

/-- The low half of a surrogate pair, when an escape with one follows. -/
def readLowSurrogate : Text → Option (Nat × Text)
  | '\\' :: 'u' :: rest => do
    let (low, rest) ← readHex4 rest
    if 0xdc00 ≤ low ∧ low < 0xe000 then some (low, rest) else none
  | _ => none

/-- A code unit after `\u`: a surrogate pair is one character, and a lone surrogate is replaced. -/
def readCodeUnit (text : Text) : Option (Char × Text) := do
  let (unit, rest) ← readHex4 text
  if 0xd800 ≤ unit ∧ unit < 0xdc00 then
    match readLowSurrogate rest with
    | some (low, rest) =>
      return (Char.ofNat ((unit - 0xd800) * 0x400 + (low - 0xdc00) + 0x10000), rest)
    | none => return (Char.ofNat 0xfffd, rest)
  else if 0xdc00 ≤ unit ∧ unit < 0xe000 then return (Char.ofNat 0xfffd, rest)
  else return (Char.ofNat unit, rest)

/-- The character of an escape, after the backslash. -/
def readEscape : Text → Option (Char × Text)
  | [] => none
  | c :: rest =>
    if c = '"' ∨ c = '\\' ∨ c = '/' then some (c, rest)
    else if c = 'b' then some (Char.ofNat 0x08, rest)
    else if c = 'f' then some (Char.ofNat 0x0c, rest)
    else if c = 'n' then some ('\n', rest)
    else if c = 'r' then some ('\r', rest)
    else if c = 't' then some ('\t', rest)
    else if c = 'u' then readCodeUnit rest
    else none

/-- The characters of a string literal after its opening quote, for texts shorter than the bound. -/
def readChars : Nat → Text → Option (Text × Text)
  | 0, _ => none
  | _ + 1, [] => none
  | bound + 1, c :: rest =>
    if c = '"' then some ([], rest)
    else if c = '\\' then do
      let (c, rest) ← readEscape rest
      let (text, rest) ← readChars bound rest
      return (c :: text, rest)
    else if c.toNat < 0x20 then none
    else do
      let (text, rest) ← readChars bound rest
      return (c :: text, rest)

def readString : Text → Option (Text × Text)
  | '"' :: rest => readChars (rest.length + 1) rest
  | _ => none

private theorem hexValue_digitChar : ∀ n < 16, Text.hexValue (Nat.digitChar n) = some n := by
  decide

theorem readHex4_hex4 {n : Nat} (small : n < 65536) (rest : Text) :
    readHex4 (hex4 n ++ rest) = some (n, rest) := by
  have whole : 4096 * (n / 4096 % 16) + 256 * (n / 256 % 16) + 16 * (n / 16 % 16) + n % 16 = n := by
    omega
  simp only [hex4, List.cons_append, List.nil_append, readHex4]
  rw [hexValue_digitChar _ (Nat.mod_lt _ (by decide)),
    hexValue_digitChar _ (Nat.mod_lt _ (by decide)),
    hexValue_digitChar _ (Nat.mod_lt _ (by decide)),
    hexValue_digitChar _ (Nat.mod_lt _ (by decide))]
  simp only [Option.bind_eq_bind, Option.bind_some, Option.pure_def, whole]

theorem readCodeUnit_hex4 {c} (small : c.toNat < 0xd800) (rest : Text) :
    readCodeUnit (hex4 c.toNat ++ rest) = some (c, rest) := by
  have high : ¬ (0xd800 ≤ c.toNat ∧ c.toNat < 0xdc00) := by omega
  have low : ¬ (0xdc00 ≤ c.toNat ∧ c.toNat < 0xe000) := by omega
  simp [readCodeUnit, readHex4_hex4 (show c.toNat < 65536 by omega), high, low]

private theorem hexEscaped_small {c : Char} (escaped : hexEscaped c) : c.toNat < 0xd800 := by
  simp only [hexEscaped, Bool.or_eq_true, decide_eq_true_eq] at escaped
  rcases escaped with ((((control | rfl) | rfl) | rfl) | line) | paragraph
  · omega
  · decide
  · decide
  · decide
  · omega
  · omega

theorem isDigit_range {c : Char} (digit : c.isDigit) : 48 ≤ c.toNat ∧ c.toNat ≤ 57 := by
  simpa [Char.isDigit, UInt32.le_iff_toNat_le] using digit

theorem hexEscaped_of_isDigit {c : Char} (digit : c.isDigit) : hexEscaped c = false := by
  have range := isDigit_range digit
  have apart : ∀ d : Char, d.toNat < 48 ∨ 57 < d.toNat → c ≠ d := by
    rintro d outside rfl
    omega
  simp only [hexEscaped, Bool.or_eq_false_iff, decide_eq_false_iff_not]
  refine ⟨⟨⟨⟨⟨?_, apart _ (by decide)⟩, apart _ (by decide)⟩, apart _ (by decide)⟩, ?_⟩, ?_⟩ <;>
    omega

/-- Digits are written as they are. -/
theorem escape_of_isDigit {c : Char} (digit : c.isDigit) : escape c = [c] := by
  have range := isDigit_range digit
  have apart : ∀ d : Char, d.toNat < 48 ∨ 57 < d.toNat → c ≠ d := by
    rintro d outside rfl
    omega
  unfold escape
  rw [if_neg (not_or.mpr ⟨apart _ (by decide), apart _ (by decide)⟩), if_neg (by omega),
    if_neg (by omega), if_neg (apart _ (by decide)), if_neg (apart _ (by decide)),
    if_neg (apart _ (by decide)), if_neg (by simp [hexEscaped_of_isDigit digit])]

/-- A text of characters that need no escape is quoted as it is. -/
theorem quote_of_plain {text} (plain : ∀ c ∈ text, escape c = [c]) :
    quote text = '"' :: (text ++ ['"']) := by
  have whole : text.flatMap escape = text := by
    induction text with
    | nil => rfl
    | cons c rest ih =>
      rw [flatMap_cons, plain c mem_cons_self, ih fun d member =>
        plain d (mem_cons_of_mem _ member)]
      rfl
  rw [quote, whole]

/-- Reading back one written character. -/
theorem readChars_escape (bound : Nat) (c : Char) (rest : Text) :
    readChars (bound + 1) (escape c ++ rest) =
      (readChars bound rest).map fun (text, rest) => (c :: text, rest) := by
  have named : ∀ (code : Nat), c.toNat = code → c = Char.ofNat code := by
    rintro code rfl
    exact (Char.ofNat_toNat c).symm
  unfold escape
  split
  · next quoted => rcases quoted with rfl | rfl <;> simp [readChars, readEscape, map_eq_bind]
  split
  · next code => simp [readChars, readEscape, named _ code, map_eq_bind]
  split
  · next code => simp [readChars, readEscape, named _ code, map_eq_bind]
  split
  · next code => subst code; simp [readChars, readEscape, map_eq_bind]
  split
  · next code => subst code; simp [readChars, readEscape, map_eq_bind]
  split
  · next code => subst code; simp [readChars, readEscape, map_eq_bind]
  split
  · next escaped =>
    simp [readChars, readEscape, readCodeUnit_hex4 (hexEscaped_small escaped), map_eq_bind]
  · next quoted _ _ _ _ _ plain =>
    have printable : ¬ c.toNat < 0x20 := by
      intro control
      simp [hexEscaped, control] at plain
    simp only [not_or] at quoted
    simp [readChars, quoted, printable, map_eq_bind]

/-- Reading back a written string literal, whatever follows it. -/
theorem readChars_write {text} {bound : Nat} (enough : text.length < bound) (rest : Text) :
    readChars bound (text.flatMap escape ++ '"' :: rest) = some (text, rest) := by
  induction text generalizing bound with
  | nil =>
    obtain ⟨bound, rfl⟩ := Nat.exists_eq_add_of_lt enough
    simp [readChars]
  | cons c text ih =>
    simp only [length_cons] at enough
    obtain ⟨bound, rfl⟩ : ∃ n, bound = n + 1 := ⟨bound - 1, by omega⟩
    rw [flatMap_cons, append_assoc, readChars_escape, ih (by omega)]
    rfl

/-- A quoted string ends where its text says it does. -/
theorem quote_append_inj {left right rest rest'}
    (same : quote left ++ rest = quote right ++ rest') : left = right ∧ rest = rest' := by
  have tails : left.flatMap escape ++ '"' :: rest = right.flatMap escape ++ '"' :: rest' := by
    simpa [quote] using same
  have leftRead := readChars_write (show left.length < left.length + right.length + 1 by omega) rest
  have rightRead := readChars_write
    (show right.length < left.length + right.length + 1 by omega) rest'
  rw [tails, rightRead] at leftRead
  simpa [eq_comm] using leftRead

/-- One or more digits. -/
def readDigits (text : Text) : Option (Text × Text) :=
  match text.takeWhile Char.isDigit with
  | [] => none
  | digits => some (digits, text.dropWhile Char.isDigit)

/-- A whole part: a zero, or digits that do not begin with one. -/
def readWhole : Text → Option (Text × Text)
  | '0' :: rest => some (['0'], rest)
  | text => readDigits text

/-- An optional fraction. -/
def readFraction : Text → Option (Text × Text)
  | '.' :: rest => (readDigits rest).map fun (digits, rest) => ('.' :: digits, rest)
  | text => some ([], text)

/-- An optional exponent. -/
def readExponent : Text → Option (Text × Text)
  | c :: rest =>
    if c = 'e' ∨ c = 'E' then
      match rest with
      | sign :: rest' =>
        if sign = '+' ∨ sign = '-' then
          (readDigits rest').map fun (digits, rest) => (c :: sign :: digits, rest)
        else (readDigits rest).map fun (digits, rest) => (c :: digits, rest)
      | [] => none
    else some ([], c :: rest)
  | [] => some ([], [])

def readNumber (text : Text) : Option (Text × Text) := do
  let (sign, text) := match text with
    | '-' :: rest => (['-'], rest)
    | _ => ([], text)
  let (whole, text) ← readWhole text
  let (fraction, text) ← readFraction text
  let (exponent, text) ← readExponent text
  return (sign ++ whole ++ fraction ++ exponent, text)

/-- Enter a member into an object, replacing an earlier one of the same key. -/
def setMember (key : Text) (value : Json) : List (Text × Json) → List (Text × Json)
  | [] => [(key, value)]
  | (other, old) :: rest =>
    if other = key then (key, value) :: rest else (other, old) :: setMember key value rest

/-- How deep arrays and objects may be nested. -/
def maxDepth : Nat := 10000

mutual

/-- One value and the text after it. `bound` limits the calls, `depth` the nesting. -/
def readValue : Nat → Nat → Text → Option (Json × Text)
  | 0, _, _ => none
  | bound + 1, depth, text =>
    match skipSpace text with
    | '"' :: rest => (readString ('"' :: rest)).map fun (value, rest) => (.string value, rest)
    | '[' :: rest =>
      if depth = 0 then none else
      match skipSpace rest with
      | ']' :: rest => some (.array [], rest)
      | rest => (readItems bound (depth - 1) rest).map fun (items, rest) => (.array items, rest)
    | '\x7b' :: rest =>
      if depth = 0 then none else
      match skipSpace rest with
      | '\x7d' :: rest => some (.object [], rest)
      | rest =>
        (readMembers bound (depth - 1) [] rest).map fun (members, rest) => (.object members, rest)
    | 'n' :: 'u' :: 'l' :: 'l' :: rest => some (.null, rest)
    | 't' :: 'r' :: 'u' :: 'e' :: rest => some (.bool true, rest)
    | 'f' :: 'a' :: 'l' :: 's' :: 'e' :: rest => some (.bool false, rest)
    | rest => (readNumber rest).map fun (literal, rest) => (.number literal, rest)

/-- The items of an array after its opening bracket, to the closing one. -/
def readItems : Nat → Nat → Text → Option (List Json × Text)
  | 0, _, _ => none
  | bound + 1, depth, text => do
    let (item, rest) ← readValue bound depth text
    match skipSpace rest with
    | ',' :: rest =>
      let (items, rest) ← readItems bound depth rest
      return (item :: items, rest)
    | ']' :: rest => return ([item], rest)
    | _ => none

/-- The members of an object after its opening brace, entered one by one. -/
def readMembers : Nat → Nat → List (Text × Json) → Text → Option (List (Text × Json) × Text)
  | 0, _, _, _ => none
  | bound + 1, depth, members, text => do
    let (key, rest) ← readString (skipSpace text)
    match skipSpace rest with
    | ':' :: rest =>
      let (value, rest) ← readValue bound depth rest
      let members := setMember key value members
      match skipSpace rest with
      | ',' :: rest => readMembers bound depth members rest
      | '\x7d' :: rest => return (members, rest)
      | _ => none
    | _ => none

end

/-- A text that holds one document with nothing but white space around it. -/
def read (text : Text) : Option Json :=
  match readValue (2 * text.length + 2) maxDepth text with
  | some (document, rest) => if skipSpace rest = [] then some document else none
  | none => none

end Json
end Foundation
