import Mathlib

/-! # Text as a sequence of characters

A text is the list of its characters, so that programs over texts evaluate by structural
recursion. Numbers are written in decimal with and without zero padding, bytes in lower-case
hexadecimal; each writer comes with the lemma that it loses nothing. -/
namespace Foundation

open List

variable {n : Nat} {c separator : Char} {front front' back back' : Text} {width m : Nat} {i : Int}

/-- A valid UTF-8 string, as the list of its code points. -/
abbrev Text := List Char

instance : Coe String Text := ⟨String.toList⟩

namespace Text

/-- The UTF-8 encoding of a text. -/
def utf8 (text : Text) : List UInt8 := text.flatMap String.utf8EncodeChar

/-- The number of bytes of the UTF-8 encoding. -/
def byteLength (text : Text) : Nat := (text.map Char.utf8Size).sum

/-- Decimal digits without leading zeros. -/
def decimal (n : Nat) : Text := Nat.toDigits 10 n

/-- Decimal digits of a signed number, with a minus sign below zero. -/
def decimalInt : Int → Text
  | .ofNat n => decimal n
  | .negSucc n => '-' :: decimal (n + 1)

/-- Decimal digits, padded with zeros on the left up to `width`. -/
def padded (width n : Nat) : Text :=
  replicate (width - (decimal n).length) '0' ++ decimal n

/-- The two lower-case hexadecimal digits of a byte. -/
def hexByte (byte : UInt8) : Text :=
  [Nat.digitChar (byte.toNat / 16), Nat.digitChar (byte.toNat % 16)]

/-- Lower-case hexadecimal text of a byte sequence. -/
def hexEncode (bytes : List UInt8) : Text := bytes.flatMap hexByte

/-- The value of a hexadecimal digit of either case. -/
def hexValue (c : Char) : Option Nat :=
  if '0' ≤ c ∧ c ≤ '9' then some (c.toNat - '0'.toNat)
  else if 'a' ≤ c ∧ c ≤ 'f' then some (c.toNat - 'a'.toNat + 10)
  else if 'A' ≤ c ∧ c ≤ 'F' then some (c.toNat - 'A'.toNat + 10)
  else none

/-- Bytes of a hexadecimal text of even length; `none` for any other text. -/
def hexDecode : Text → Option (List UInt8)
  | [] => some []
  | [_] => none
  | high :: low :: rest => do
    let h ← hexValue high
    let l ← hexValue low
    let bytes ← hexDecode rest
    return UInt8.ofNat (16 * h + l) :: bytes

/-- A separator that occurs in neither front splits a text in one way. -/
theorem split_unique (absent : separator ∉ front) (absent' : separator ∉ front')
    (same : front ++ separator :: back = front' ++ separator :: back') :
    front = front' ∧ back = back' := by
  induction front generalizing front' with
  | nil =>
    cases front' with
    | nil => exact ⟨rfl, (cons.inj same).2⟩
    | cons c rest => exact absurd (cons.inj same).1 (ne_of_not_mem_cons absent')
  | cons c rest ih =>
    cases front' with
    | nil => exact absurd (cons.inj same).1.symm (ne_of_not_mem_cons absent)
    | cons c' rest' =>
      obtain ⟨rfl, tails⟩ := cons.inj same
      obtain ⟨rfl, rfl⟩ :=
        ih (not_mem_of_not_mem_cons absent) (not_mem_of_not_mem_cons absent') tails
      exact ⟨rfl, rfl⟩

/-- A separator that occurs in neither back splits a text in one way. -/
theorem split_unique_last (absent : separator ∉ back) (absent' : separator ∉ back')
    (same : front ++ separator :: back = front' ++ separator :: back') :
    front = front' ∧ back = back' := by
  have reversed := congrArg reverse same
  simp only [reverse_append, reverse_cons, append_assoc, singleton_append] at reversed
  obtain ⟨backs, fronts⟩ := split_unique (by simpa using absent) (by simpa using absent') reversed
  exact ⟨reverse_injective fronts, reverse_injective backs⟩

theorem utf8_injective {left right : Text} (same : left.utf8 = right.utf8) : left = right := by
  have encoded : left.utf8Encode = right.utf8Encode := by
    simpa [utf8Encode, utf8] using same
  have decoded := congrArg ByteArray.utf8Decode? encoded
  simpa using decoded

@[simp] theorem utf8_append (left right : Text) :
    utf8 (left ++ right) = left.utf8 ++ right.utf8 := by
  simp [utf8]

theorem decimal_ne_nil (n : Nat) : decimal n ≠ [] := Nat.toDigits_ne_nil

theorem isDigit_of_mem_decimal (member : c ∈ decimal n) : c.isDigit :=
  Nat.isDigit_of_mem_toDigits (by decide) (by decide) member

theorem decimal_injective (same : decimal m = decimal n) : m = n := by
  have values := congrArg (fun digits => Nat.ofDigitChars 10 digits 0) same
  simpa [decimal, Nat.ofDigitChars_ten_toDigits] using values

/-- Only zero is written with a zero in front. -/
theorem head_decimal (positive : 0 < n) : (decimal n).head? ≠ some '0' := by
  induction n using Nat.strong_induction_on with
  | _ n ih =>
    rw [decimal, Nat.toDigits_eq_if (by decide)]
    split
    · next small =>
      interval_cases n <;> decide
    · next large =>
      have shorter := ih (n / 10) (by omega) (by omega)
      rw [decimal] at shorter
      rw [head?_append_of_ne_nil _ Nat.toDigits_ne_nil]
      exact shorter

theorem mem_decimalInt (member : c ∈ decimalInt i) : c = '-' ∨ c.isDigit := by
  cases i with
  | ofNat n => exact .inr (isDigit_of_mem_decimal member)
  | negSucc n =>
    rcases mem_cons.mp member with rfl | member
    · exact .inl rfl
    · exact .inr (isDigit_of_mem_decimal member)

theorem decimalInt_ne_nil (i : Int) : decimalInt i ≠ [] := by
  cases i with
  | ofNat n => exact decimal_ne_nil n
  | negSucc n => exact cons_ne_nil _ _

private theorem minus_notMem_decimal (n : Nat) : '-' ∉ decimal n := by
  intro member
  have digit := isDigit_of_mem_decimal member
  simp at digit

theorem decimalInt_injective {j : Int} (same : decimalInt i = decimalInt j) : i = j := by
  cases i with
  | ofNat m =>
    cases j with
    | ofNat n => exact congrArg Int.ofNat (decimal_injective same)
    | negSucc n =>
      have minus : '-' ∈ decimalInt (.negSucc n) := mem_cons_self
      rw [← same] at minus
      exact absurd minus (minus_notMem_decimal m)
  | negSucc m =>
    cases j with
    | ofNat n =>
      have minus : '-' ∈ decimalInt (.negSucc m) := mem_cons_self
      rw [same] at minus
      exact absurd minus (minus_notMem_decimal n)
    | negSucc n =>
      have digits := decimal_injective (cons.inj same).2
      rw [Nat.succ.inj digits]

theorem isDigit_of_mem_padded (member : c ∈ padded width n) : c.isDigit := by
  rcases mem_append.mp member with zero | digit
  · rw [(mem_replicate.mp zero).2]
    decide
  · exact isDigit_of_mem_decimal digit

theorem padded_injective (same : padded width m = padded width n) : m = n := by
  have values := congrArg (fun digits => Nat.ofDigitChars 10 digits 0) same
  simpa [padded, decimal, Nat.ofDigitChars_append, Nat.ofDigitChars_replicate_zero,
    Nat.ofDigitChars_ten_toDigits] using values

theorem length_padded (positive : 0 < width) (fits : n < 10 ^ width) :
    (padded width n).length = width := by
  have short : (decimal n).length ≤ width :=
    (Nat.length_toDigits_le_iff (by decide) positive).mpr fits
  simp only [padded, length_append, length_replicate]
  omega

private theorem hexValue_digitChar : ∀ n < 16, hexValue (Nat.digitChar n) = some n := by
  decide

theorem hexDecode_hexEncode (bytes : List UInt8) : hexDecode (hexEncode bytes) = some bytes := by
  induction bytes with
  | nil => rfl
  | cons byte rest ih =>
    have bound := byte.toNat_lt
    have whole : 16 * (byte.toNat / 16) + byte.toNat % 16 = byte.toNat := Nat.div_add_mod _ _
    change hexDecode (_ :: _ :: hexEncode rest) = _
    rw [hexDecode, hexValue_digitChar _ (by omega), hexValue_digitChar _ (by omega), ih]
    simp only [Option.bind_eq_bind, Option.bind_some, Option.pure_def, whole, UInt8.ofNat_toNat]

theorem hexEncode_injective {left right} (same : hexEncode left = hexEncode right) :
    left = right := by
  have decoded := congrArg hexDecode same
  simpa [hexDecode_hexEncode] using decoded

@[simp] theorem length_hexEncode (bytes : List UInt8) :
    (hexEncode bytes).length = 2 * bytes.length := by
  simp [hexEncode, hexByte, length_flatMap, Nat.mul_comm]

/-- A hexadecimal text has no zero character. -/
theorem zero_notMem_hexEncode (bytes : List UInt8) : Char.ofNat 0 ∉ hexEncode bytes := by
  have nonzero : ∀ n < 16, Nat.digitChar n ≠ Char.ofNat 0 := by decide
  intro member
  obtain ⟨byte, -, member⟩ := mem_flatMap.mp member
  have bound := byte.toNat_lt
  simp only [hexByte, mem_cons, not_mem_nil, or_false] at member
  rcases member with same | same
  · exact nonzero _ (by omega) same.symm
  · exact nonzero _ (by omega) same.symm

private theorem digitChar_ascii :
    ∀ n < 16, (Nat.digitChar n).utf8Size = 1 ∧ Nat.digitChar n ≠ '\x7b' := by
  decide

theorem mem_hexEncode {bytes} (member : c ∈ hexEncode bytes) : c.utf8Size = 1 ∧ c ≠ '\x7b' := by
  obtain ⟨byte, -, member⟩ := mem_flatMap.mp member
  have bound := byte.toNat_lt
  simp only [hexByte, mem_cons, not_mem_nil, or_false] at member
  rcases member with rfl | rfl
  · exact digitChar_ascii _ (by omega)
  · exact digitChar_ascii _ (by omega)

/-- A separator that is in neither front tells the front from the back. -/
theorem append_cons_inj (absent : separator ∉ front) (absent' : separator ∉ front')
    (same : front ++ separator :: back = front' ++ separator :: back') :
    front = front' ∧ back = back' := by
  rcases append_eq_append_iff.mp same with ⟨middle, whole, rest⟩ | ⟨middle, whole, rest⟩
  · cases middle with
    | nil => simp_all
    | cons c middle =>
      obtain ⟨rfl, -⟩ := cons.inj rest
      simp [whole] at absent'
  · cases middle with
    | nil => simp_all
    | cons c middle =>
      obtain ⟨rfl, -⟩ := cons.inj rest
      simp [whole] at absent

theorem byteLength_eq_length {text : Text} (ascii : ∀ c ∈ text, c.utf8Size = 1) :
    text.byteLength = text.length := by
  induction text with
  | nil => rfl
  | cons c rest ih =>
    have tail := ih fun d member => ascii d (mem_cons_of_mem _ member)
    simp only [byteLength, map_cons, sum_cons, length_cons] at tail ⊢
    rw [ascii c mem_cons_self, tail, Nat.add_comm]

end Text

end Foundation
