import AnoPki.Foundation.Text

/-! # Base64 with the URL alphabet and no padding

Go's `base64.RawURLEncoding`. The encoder is undone by the decoder; the decoder also passes over
line ends and does not look at the bits that the last character has left. -/
namespace Foundation.Base64

open List Option

/-- The six bits of a character. -/
def value (c : Char) : Option Nat :=
  if 'A' ≤ c ∧ c ≤ 'Z' then some (c.toNat - 65)
  else if 'a' ≤ c ∧ c ≤ 'z' then some (c.toNat - 71)
  else if '0' ≤ c ∧ c ≤ '9' then some (c.toNat + 4)
  else if c = '-' then some 62
  else if c = '_' then some 63
  else none

def digit (n : Nat) : Char :=
  if n < 26 then Char.ofNat (n + 65)
  else if n < 52 then Char.ofNat (n + 71)
  else if n < 62 then Char.ofNat (n - 4)
  else if n = 62 then '-'
  else '_'

def isLineEnd (c : Char) : Bool := c = '\r' || c = '\n'

/-- The bytes of the six-bit values; one value alone is no byte. -/
def ofSextets : List Nat → Option (List UInt8)
  | [] => some []
  | [_] => none
  | [a, b] => some [.ofNat (a * 4 + b / 16)]
  | [a, b, c] => some [.ofNat (a * 4 + b / 16), .ofNat (b % 16 * 16 + c / 4)]
  | a :: b :: c :: d :: rest => (ofSextets rest).map fun bytes =>
    .ofNat (a * 4 + b / 16) :: .ofNat (b % 16 * 16 + c / 4) :: .ofNat (c % 4 * 64 + d) :: bytes

/-- `RawURLEncoding.DecodeString`. -/
def rawURLDecode (text : Text) : Option (List UInt8) :=
  ((text.filter fun c => !isLineEnd c).mapM value).bind ofSextets

def sextets : List UInt8 → List Nat
  | [] => []
  | [x] => [x.toNat / 4, x.toNat % 4 * 16]
  | [x, y] => [x.toNat / 4, x.toNat % 4 * 16 + y.toNat / 16, y.toNat % 16 * 4]
  | x :: y :: z :: rest => x.toNat / 4 :: (x.toNat % 4 * 16 + y.toNat / 16) ::
    (y.toNat % 16 * 4 + z.toNat / 64) :: z.toNat % 64 :: sextets rest

/-- `RawURLEncoding.EncodeToString`. -/
def rawURLEncode (bytes : List UInt8) : Text := (sextets bytes).map digit

theorem value_digit : ∀ n < 64, value (digit n) = some n := by decide

theorem isLineEnd_of_value {c} {n : Nat} (given : value c = some n) : isLineEnd c = false := by
  simp only [isLineEnd, Bool.or_eq_false_iff, decide_eq_false_iff_not]
  constructor
  · rintro rfl
    cases given
  · rintro rfl
    cases given

theorem sextets_lt (bytes : List UInt8) : ∀ n ∈ sextets bytes, n < 64 := by
  induction bytes using sextets.induct with
  | case1 => simp [sextets]
  | case2 x =>
    have := x.toNat_lt
    simp only [sextets, mem_cons, not_mem_nil, or_false]
    omega
  | case3 x y =>
    have := x.toNat_lt
    have := y.toNat_lt
    simp only [sextets, mem_cons, not_mem_nil, or_false]
    omega
  | case4 x y z rest ih =>
    have := x.toNat_lt
    have := y.toNat_lt
    simp only [sextets, mem_cons]
    rintro n (rfl | rfl | rfl | rfl | later)
    · omega
    · omega
    · have := z.toNat_lt
      omega
    · omega
    · exact ih n later

theorem ofSextets_sextets (bytes : List UInt8) : ofSextets (sextets bytes) = some bytes := by
  have same : ∀ {x : UInt8} {n : Nat}, n = x.toNat → UInt8.ofNat n = x := by
    rintro x n rfl
    exact x.ofNat_toNat
  induction bytes using sextets.induct with
  | case1 => rfl
  | case2 x =>
    have := x.toNat_lt
    rw [sextets, ofSextets, same (x := x) (by omega)]
  | case3 x y =>
    have := x.toNat_lt
    have := y.toNat_lt
    rw [sextets, ofSextets, same (x := x) (by omega), same (x := y) (by omega)]
  | case4 x y z rest ih =>
    have := x.toNat_lt
    have := y.toNat_lt
    have := z.toNat_lt
    rw [sextets, ofSextets, ih, map_some, same (x := x) (by omega), same (x := y) (by omega),
      same (x := z) (by omega)]

theorem rawURLDecode_encode (bytes : List UInt8) :
    rawURLDecode (rawURLEncode bytes) = some bytes := by
  have small := sextets_lt bytes
  have plain : (rawURLEncode bytes).filter (fun c => !isLineEnd c) = rawURLEncode bytes := by
    refine filter_eq_self.mpr fun c inside => ?_
    obtain ⟨n, there, rfl⟩ := mem_map.mp inside
    rw [isLineEnd_of_value (value_digit n (small n there))]
    rfl
  have values : (rawURLEncode bytes).mapM value = some (sextets bytes) := by
    rw [rawURLEncode]
    generalize sextets bytes = list at small
    induction list with
    | nil => rfl
    | cons n rest ih =>
      rw [map_cons, mapM_cons, value_digit n (small n mem_cons_self),
        ih fun m there => small m (mem_cons_of_mem _ there)]
      rfl
  rw [rawURLDecode, plain, values]
  exact ofSextets_sextets bytes

theorem rawURLEncode_injective {left right} (same : rawURLEncode left = rawURLEncode right) :
    left = right := by
  have decoded := congrArg rawURLDecode same
  rw [rawURLDecode_encode, rawURLDecode_encode] at decoded
  exact Option.some.inj decoded

theorem isSome_of_mapM {text : Text} {values} (read : text.mapM value = some values) :
    ∀ c ∈ text, (value c).isSome := by
  induction text generalizing values with
  | nil => simp
  | cons c rest ih =>
    rw [mapM_cons] at read
    obtain ⟨n, first, later⟩ := bind_eq_some_iff.mp read
    obtain ⟨others, second, -⟩ := bind_eq_some_iff.mp later
    intro d inside
    rcases mem_cons.mp inside with rfl | further
    · rw [first]
      rfl
    · exact ih second d further

/-- A text that is decoded has characters of the alphabet and line ends. -/
theorem mem_of_rawURLDecode {text bytes} (decoded : rawURLDecode text = some bytes)
    {c} (inside : c ∈ text) : isLineEnd c = true ∨ (value c).isSome := by
  by_cases ending : isLineEnd c = true
  · exact .inl ending
  · obtain ⟨values, read, -⟩ := bind_eq_some_iff.mp decoded
    have kept : c ∈ text.filter fun c => !isLineEnd c := mem_filter.mpr ⟨inside, by simp [ending]⟩
    exact .inr (isSome_of_mapM read c kept)

end Foundation.Base64
