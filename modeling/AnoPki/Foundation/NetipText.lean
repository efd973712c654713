import AnoPki.Foundation.Json
import AnoPki.Foundation.Netip

/-! # Addresses written in full

An address as its bytes, in dotted decimal or as eight groups of four hexadecimal digits. The text
is read back as the bytes. -/
namespace Foundation.Netip

open List Text Json

/-- `Addr.AsSlice`: the bytes of an address, without its zone. -/
def Addr.asSlice (addr : Addr) : List UInt8 :=
  (places 256 (if addr.is6 then 16 else 4) addr.value).map UInt8.ofNat

/-- The number with these digits. -/
def ofPlaces (base : Nat) (digits : List Nat) : Nat :=
  digits.foldl (fun value digit => value * base + digit) 0

theorem places_ofPlaces {base : Nat} {digits} (small : ∀ digit ∈ digits, digit < base) :
    places base digits.length (ofPlaces base digits) = digits := by
  induction digits using reverseRecOn with
  | nil => rfl
  | append_singleton digits last ih =>
    have below := small last (by simp)
    have front := ih fun digit inside => small digit (mem_append_left _ inside)
    rw [ofPlaces, foldl_append, length_append, length_singleton, places, foldl_cons,
      foldl_nil, ← ofPlaces, Nat.mul_add_mod_self_right, Nat.mod_eq_of_lt below, Nat.mul_comm,
      Nat.mul_add_div (by omega), Nat.div_eq_of_lt below, Nat.add_zero, front]

/-- The bytes of a number, from the byte values that it is made of. -/
theorem asSlice_of_bytes {is6 zone bytes} (size : bytes.length = if is6 then 16 else 4) :
    (⟨is6, ofPlaces 256 (bytes.map UInt8.toNat), zone⟩ : Addr).asSlice = bytes := by
  have digits : places 256 bytes.length (ofPlaces 256 (bytes.map UInt8.toNat)) =
      bytes.map UInt8.toNat := by
    rw [← length_map (f := UInt8.toNat)]
    refine places_ofPlaces fun digit inside => ?_
    obtain ⟨byte, -, rfl⟩ := mem_map.mp inside
    exact byte.toNat_lt
  rw [Addr.asSlice, ← size, digits, map_map]
  exact map_id'' (fun byte => byte.ofNat_toNat) bytes

/-- Four bytes in decimal. -/
def dotted (bytes : List UInt8) : Text :=
  intercalate ['.'] (bytes.map fun byte => decimal byte.toNat)

theorem readOctet_decimal (byte : UInt8) : readOctet (decimal byte.toNat) = some byte.toNat := by
  have all : ∀ n < 256, readOctet (decimal n) = some n := by decide +kernel
  exact all byte.toNat byte.toNat_lt

theorem parseAddr_dotted {bytes} (size : bytes.length = 4) :
    parseAddr (dotted bytes) = some ⟨false, ofPlaces 256 (bytes.map UInt8.toNat), []⟩ := by
  obtain ⟨a, b, c, d, rfl⟩ : ∃ a b c d, bytes = [a, b, c, d] := by
    match bytes, size with
    | [a, b, c, d], _ => exact ⟨a, b, c, d, rfl⟩
  have apart : ∀ text ∈ [a, b, c, d].map fun byte => decimal byte.toNat, '.' ∉ text := by
    intro text inside dot
    obtain ⟨byte, -, rfl⟩ := mem_map.mp inside
    exact absurd (isDigit_of_mem_decimal dot) (by decide)
  have value : parseIPv4 (dotted [a, b, c, d]) =
      some (ofPlaces 256 ([a, b, c, d].map UInt8.toNat)) := by
    rw [parseIPv4, dotted, splitOn_intercalate _ apart (by simp)]
    simp [readOctet_decimal, ofPlaces]
  have first : (dotted [a, b, c, d]).find? (fun c => c = '.' || c = ':' || c = '%') = some '.' := by
    have digits : (decimal a.toNat).find? (fun c => c = '.' || c = ':' || c = '%') = none := by
      refine find?_eq_none.mpr fun c inside => ?_
      have digit := isDigit_of_mem_decimal inside
      simp only [Bool.or_eq_true, decide_eq_true_eq, not_or]
      refine ⟨⟨?_, ?_⟩, ?_⟩
      all_goals
        rintro rfl
        exact absurd digit (by decide)
    simp [dotted, intercalate, digits]
  rw [parseAddr, first]
  simp [value]

/-- The two bytes of each group. -/
def pairs : List UInt8 → List Nat
  | [] => []
  | [_] => []
  | a :: b :: rest => (a.toNat * 256 + b.toNat) :: pairs rest

/-- Groups of four hexadecimal digits. -/
def grouped (groups : List Nat) : Text := intercalate [':'] (groups.map hex4)

theorem hexDigit_digitChar : ∀ n < 16, hexDigit (Nat.digitChar n) = some n := by decide

theorem isSome_hexDigit_of_mem_hex4 {n : Nat} {c} (inside : c ∈ hex4 n) : (hexDigit c).isSome := by
  simp only [hex4, mem_cons, not_mem_nil, or_false] at inside
  rcases inside with rfl | rfl | rfl | rfl
  all_goals rw [hexDigit_digitChar _ (Nat.mod_lt _ (by decide))]; rfl

theorem readHex_hex4 {n : Nat} (small : n < 65536) : readHex (hex4 n) = n := by
  simp only [readHex, hex4, foldl_cons, foldl_nil,
    hexDigit_digitChar _ (Nat.mod_lt _ (show 0 < 16 by decide)), Option.getD_some]
  omega

theorem takeWhile_hex4 {n : Nat} {rest} (ends : ∀ c ∈ rest.head?, (hexDigit c).isSome = false) :
    (hex4 n ++ rest).takeWhile (fun c => (hexDigit c).isSome) = hex4 n := by
  rw [takeWhile_append_of_pos fun c inside => isSome_hexDigit_of_mem_hex4 inside]
  cases rest with
  | nil => simp
  | cons c rest => simp [ends c rfl]

theorem hex4_eq_cons (n : Nat) : ∃ c tail, hex4 n = c :: tail ∧ (hexDigit c).isSome :=
  ⟨_, _, rfl, isSome_hexDigit_of_mem_hex4 mem_cons_self⟩

/-- One group is read, and another comes behind it. -/
theorem parseGroups_step {group next : Nat} (small : group < 65536) (fuel : Nat) (rest : Text)
    (before : List Nat) :
    parseGroups (fuel + 1) (hex4 group ++ ':' :: (hex4 next ++ rest)) before none =
      parseGroups fuel (hex4 next ++ rest) (before ++ [group]) none := by
  have digits := @takeWhile_hex4 group (':' :: (hex4 next ++ rest)) (by simp [hexDigit])
  obtain ⟨c, tail, opens, hex⟩ := hex4_eq_cons next
  have other : c ≠ ':' := by
    rintro rfl
    exact absurd hex (by decide)
  rw [parseGroups, digits, drop_left, opens, readHex_hex4 small]
  rw [if_neg (by simp [hex4])]
  simp [other]

theorem parseGroups_last {group : Nat} (small : group < 65536) (fuel : Nat) (before : List Nat) :
    parseGroups (fuel + 1) (hex4 group) before none = some (before ++ [group], none) := by
  have digits := @takeWhile_hex4 group [] (by simp)
  rw [append_nil] at digits
  rw [parseGroups, digits, drop_length, readHex_hex4 small]
  rw [if_neg (by simp [hex4])]

/-- The groups are read one after the other. -/
theorem parseGroups_grouped {groups} (inhabited : groups ≠ [])
    (small : ∀ group ∈ groups, group < 65536) (before : List Nat) :
    parseGroups groups.length (grouped groups) before none = some (before ++ groups, none) := by
  induction groups generalizing before with
  | nil => exact absurd rfl inhabited
  | cons group groups ih =>
    have fits := small group mem_cons_self
    cases groups with
    | nil => simpa [grouped] using parseGroups_last fits 0 before
    | cons next groups =>
      have later := ih (by simp) (fun other inside => small other (mem_cons_of_mem _ inside))
        (before ++ [group])
      obtain ⟨rest, front⟩ : ∃ rest, grouped (next :: groups) = hex4 next ++ rest := by
        cases groups with
        | nil => exact ⟨[], by simp [grouped]⟩
        | cons => exact ⟨_, intercalate_cons_cons ..⟩
      have whole : grouped (group :: next :: groups) =
          hex4 group ++ ':' :: (hex4 next ++ rest) := by
        rw [← front]
        exact intercalate_cons_cons ..
      rw [whole, length_cons, parseGroups_step fits, ← front, later, append_assoc]
      rfl

theorem length_pairs {bytes} : (pairs bytes).length = bytes.length / 2 := by
  induction bytes using pairs.induct with
  | case1 | case2 a => simp [pairs]
  | case3 a b rest ih =>
    simp only [pairs, length_cons, ih]
    omega

theorem pairs_lt {bytes} : ∀ group ∈ pairs bytes, group < 65536 := by
  induction bytes using pairs.induct with
  | case1 | case2 a => simp [pairs]
  | case3 a b rest ih =>
    have := a.toNat_lt
    have := b.toNat_lt
    simp only [pairs, mem_cons]
    rintro group (rfl | later)
    · omega
    · exact ih group later

/-- The groups of two bytes make up the same number as the bytes. -/
theorem foldl_pairs {bytes} (even : bytes.length % 2 = 0) (value : Nat) :
    (pairs bytes).foldl (fun value group => value * 65536 + group) value =
      (bytes.map UInt8.toNat).foldl (fun value digit => value * 256 + digit) value := by
  induction bytes using pairs.induct generalizing value with
  | case1 => rw [pairs, map_nil, foldl_nil, foldl_nil]
  | case2 a => cases even
  | case3 a b rest ih =>
    simp only [length_cons] at even
    have same : value * 65536 + (a.toNat * 256 + b.toNat) =
        (value * 256 + a.toNat) * 256 + b.toNat := by
      omega
    rw [pairs, foldl_cons, map_cons, map_cons, foldl_cons, foldl_cons, ih (by omega), same]

theorem parseAddr_grouped {bytes} (size : bytes.length = 16) :
    parseAddr (grouped (pairs bytes)) = some ⟨true, ofPlaces 256 (bytes.map UInt8.toNat), []⟩ := by
  have count : (pairs bytes).length = 8 := by rw [length_pairs, size]
  have inhabited : pairs bytes ≠ [] := by
    intro empty
    rw [empty] at count
    cases count
  have read := parseGroups_grouped inhabited pairs_lt []
  rw [count, nil_append] at read
  obtain ⟨first, second, rest, whole⟩ :
      ∃ first second rest, pairs bytes = first :: second :: rest := by
    match pairs bytes, count with
    | first :: second :: rest, _ => exact ⟨first, second, rest, rfl⟩
  obtain ⟨tail, front⟩ : ∃ tail, grouped (pairs bytes) = hex4 first ++ ':' :: tail :=
    ⟨_, by rw [whole]; exact intercalate_cons_cons ..⟩
  have colon : (grouped (pairs bytes)).find? (fun c => c = '.' || c = ':' || c =
      '%') = some ':' := by
    have digits : (hex4 first).find? (fun c => c = '.' || c = ':' || c = '%') = none := by
      refine find?_eq_none.mpr fun c inside => ?_
      have hex := isSome_hexDigit_of_mem_hex4 inside
      simp only [Bool.or_eq_true, decide_eq_true_eq, not_or]
      refine ⟨⟨?_, ?_⟩, ?_⟩
      all_goals
        rintro rfl
        exact absurd hex (by decide)
    rw [front, find?_append, digits]
    rfl
  have percent : '%' ∉ grouped (pairs bytes) := by
    intro inside
    rcases mem_intercalate inside with other | ⟨text, there, mem⟩
    · exact absurd other (by decide)
    · obtain ⟨group, -, rfl⟩ := mem_map.mp there
      exact absurd (isSome_hexDigit_of_mem_hex4 mem) (by decide)
  have uncut : cut '%' (grouped (pairs bytes)) = none := by
    rcases found : cut '%' (grouped (pairs bytes)) with _ | ⟨before, after⟩
    · rfl
    · exact absurd (cut_eq_some found ▸ mem_append_cons_self) percent
  obtain ⟨c, others, opens, hex⟩ := hex4_eq_cons first
  have start : c ≠ ':' := by
    rintro rfl
    exact absurd hex (by decide)
  rw [parseAddr, colon]
  simp only [parseIPv6, uncut, Option.getD_none, percent, and_false, if_false]
  have body : grouped (pairs bytes) = c :: (others ++ ':' :: tail) := by rw [front, opens]; rfl
  rw [body] at read ⊢
  split
  · next same => exact absurd (cons.inj same).1 start
  · next same => exact absurd (cons.inj same).1 start
  · simp [read, expandGroups, count, foldl_pairs (show bytes.length % 2 = 0 by rw [size]), ofPlaces]

end Foundation.Netip
