import AnoPki.Foundation.Base64
import AnoPki.Foundation.JsonObject
import AnoPki.Foundation.Sha256
import AnoPki.Foundation.Strings

/-! # Keys of ACME accounts

A client sends its public key as a JWK. The service decides on the decoded members whether it takes
the key, and works with their texts: the stored document puts them between quotes, and the
thumbprint is a hash of that document. -/
namespace AnoPki.Httpapi

open Foundation Option List Json Base64

structure ACMEJWK where
  kty : Text := []
  crv : Text := []
  x : Text := []
  y : Text := []
  n : Text := []
  e : Text := []
deriving DecidableEq, Repr

/-- The letter that stands for a letter and its other cases; two of them have a form outside
ASCII. -/
def foldRune (c : Char) : Char :=
  if c.toNat = 0x212a then 'K' else if c.toNat = 0x17f then 'S' else c.toUpper

/-- A string member of the document goes to the field of its name, in whatever case it is
written. -/
def ACMEJWK.set (jwk : ACMEJWK) (key value : Text) : ACMEJWK :=
  let name := key.map foldRune
  if name = "KTY".toList then { jwk with kty := value }
  else if name = "CRV".toList then { jwk with crv := value }
  else if name = "X".toList then { jwk with x := value }
  else if name = "Y".toList then { jwk with y := value }
  else if name = "N".toList then { jwk with n := value }
  else if name = "E".toList then { jwk with e := value }
  else jwk

/-- A member of the document: `null` leaves a field as it is, and what is no string fits no
field. -/
def ACMEJWK.enter (jwk : ACMEJWK) (member : Text × Json) : Option ACMEJWK :=
  match member.2 with
  | .string value => some (jwk.set member.1 value)
  | .null => some jwk
  | _ => if ["KTY".toList, "CRV".toList, "X".toList, "Y".toList, "N".toList,
      "E".toList].contains (member.1.map foldRune) then none else some jwk

/-- `json.Unmarshal` of a document whose keys are different. -/
def unmarshalACMEJWK (text : Text) : Option ACMEJWK :=
  match read text with
  | some (.object members) => members.foldlM ACMEJWK.enter {}
  | some .null => some {}
  | _ => none

section Keys

/-- The parameters of the curve P-256: the prime of its field and the constant of its equation. -/
def p256 : Nat := 2 ^ 256 - 2 ^ 224 + 2 ^ 192 + 2 ^ 96 - 1

def p256B : Nat := 0x5ac635d8aa3a93e7b3ebbd55769886bc651d06b0cc53b0f63bce3c3e27d2604b

/-- What `ecdh.P256().NewPublicKey` looks at in an uncompressed point. -/
def onP256 (x y : Nat) : Bool :=
  x < p256 && y < p256 && y * y % p256 = (x * x * x + 3 * (p256 - x) + p256B) % p256

/-- `big.Int.SetBytes`. -/
def bigEndian (bytes : List UInt8) : Nat :=
  bytes.foldl (fun value byte => value * 256 + byte.toNat) 0

/-- A public key: a point of P-256, a modulus with its exponent, or the bytes of an Ed25519 key. -/
inductive PublicKey where
  | ecdsa (x y : Nat)
  | rsa (n e : Nat)
  | ed25519 (bytes : List UInt8)
deriving DecidableEq, Repr

variable (jwk : ACMEJWK)

def isValidACMEECJWK : Bool :=
  jwk.kty = "EC".toList && jwk.crv = "P-256".toList && jwk.x ≠ [] && jwk.y ≠ [] && jwk.n =
    [] && jwk.e = []

def isValidACMERSAJWK : Bool :=
  jwk.kty = "RSA".toList && jwk.n ≠ [] && jwk.e ≠ [] && jwk.crv = [] && jwk.x = [] && jwk.y = []

def isValidACMEOKPJWK : Bool :=
  jwk.kty = "OKP".toList && jwk.crv = "Ed25519".toList && jwk.x ≠ [] && jwk.y = [] && jwk.n = [] &&
    jwk.e = []

def acmeECJWKPublicKey : Option PublicKey := do
  if isValidACMEECJWK jwk = false then none
  let xBytes ← rawURLDecode jwk.x
  let yBytes ← rawURLDecode jwk.y
  if xBytes.length ≠ 32 ∨ yBytes.length ≠ 32 then none
  if onP256 (bigEndian xBytes) (bigEndian yBytes) = false then none
  return .ecdsa (bigEndian xBytes) (bigEndian yBytes)

def acmeRSAJWKPublicKey : Option PublicKey := do
  if isValidACMERSAJWK jwk = false then none
  let nBytes ← rawURLDecode jwk.n
  let eBytes ← rawURLDecode jwk.e
  if bigEndian nBytes = 0 ∨ 2 ^ 63 ≤ bigEndian eBytes ∨ bigEndian eBytes ≤ 1 then none
  return .rsa (bigEndian nBytes) (bigEndian eBytes)

def acmeOKPJWKPublicKey : Option PublicKey := do
  if isValidACMEOKPJWK jwk = false then none
  let xBytes ← rawURLDecode jwk.x
  if xBytes.length ≠ 32 then none
  return .ed25519 xBytes

/-- The key that a JWK denotes. -/
def ACMEJWK.publicKey : Option PublicKey :=
  if jwk.kty = "EC".toList then acmeECJWKPublicKey jwk
  else if jwk.kty = "RSA".toList then acmeRSAJWKPublicKey jwk
  else if jwk.kty = "OKP".toList then acmeOKPJWKPublicKey jwk
  else none

/-- The JWK of a protected header, which is written out and read again. -/
def acmeJWKFromProtected : Json → Option ACMEJWK
  | .null => none
  | value => (unmarshalACMEJWK value.write).filter fun jwk =>
    isValidACMEECJWK jwk || isValidACMERSAJWK jwk || isValidACMEOKPJWK jwk

/-- The members that the document of a key has, in the order of the format strings. -/
def ACMEJWK.canonicalMembers : List (Text × Text) :=
  if jwk.kty = "EC".toList then [("crv", jwk.crv), ("kty", jwk.kty), ("x", jwk.x), ("y", jwk.y)]
  else if jwk.kty = "RSA".toList then [("e", jwk.e), ("kty", jwk.kty), ("n", jwk.n)]
  else [("crv", jwk.crv), ("kty", jwk.kty), ("x", jwk.x)]

/-- The document that is stored with an account: the members are put into it as they are. -/
def canonicalACMEJWKJSON : Option Text :=
  jwk.publicKey.map fun _ => rawObject jwk.canonicalMembers

def acmeJWKThumbprint : Option Text :=
  (canonicalACMEJWKJSON jwk).map fun canonical => rawURLEncode (sha256 canonical.utf8)

/-- How `decodeACMEJWS` comes to the key of an account that a request names. -/
def accountJWK (keyJWKJSON keyThumbprint : Text) : Option ACMEJWK :=
  if keyJWKJSON = [] ∨ keyThumbprint = [] then none else unmarshalACMEJWK keyJWKJSON

end Keys

section Members

variable {jwk other : ACMEJWK} {key : PublicKey}

/-- The fields of a JWK that denotes a key: those of its type decode, and the others are empty. -/
inductive ACMEJWK.Shaped : ACMEJWK → Prop
  | ec {x y : Text} (xs : (rawURLDecode x).isSome) (ys : (rawURLDecode y).isSome) :
      Shaped { kty := "EC", crv := "P-256", x, y }
  | rsa {n e : Text} (ns : (rawURLDecode n).isSome) (es : (rawURLDecode e).isSome) :
      Shaped { kty := "RSA", n, e }
  | okp {x : Text} (xs : (rawURLDecode x).isSome) :
      Shaped { kty := "OKP", crv := "Ed25519", x }

theorem ACMEJWK.shaped (denotes : jwk.publicKey = some key) : jwk.Shaped := by
  obtain ⟨kty, crv, x, y, n, e⟩ := jwk
  rw [publicKey] at denotes
  split at denotes
  · simp only [acmeECJWKPublicKey, isValidACMEECJWK, bind_eq_bind] at denotes
    split at denotes
    · cases denotes
    · next valid =>
      simp only [Bool.and_eq_true, decide_eq_true_eq, Bool.not_eq_false] at valid
      obtain ⟨⟨⟨⟨⟨rfl, rfl⟩, -⟩, -⟩, rfl⟩, rfl⟩ := valid
      obtain ⟨xs, readX, denotes⟩ := bind_eq_some_iff.mp denotes
      obtain ⟨ys, readY, -⟩ := bind_eq_some_iff.mp denotes
      exact .ec (readX ▸ rfl) (readY ▸ rfl)
  · split at denotes
    · simp only [acmeRSAJWKPublicKey, isValidACMERSAJWK, bind_eq_bind] at denotes
      split at denotes
      · cases denotes
      · next valid =>
        simp only [Bool.and_eq_true, decide_eq_true_eq, Bool.not_eq_false] at valid
        obtain ⟨⟨⟨⟨⟨rfl, -⟩, -⟩, rfl⟩, rfl⟩, rfl⟩ := valid
        obtain ⟨ns, readN, denotes⟩ := bind_eq_some_iff.mp denotes
        obtain ⟨es, readE, -⟩ := bind_eq_some_iff.mp denotes
        exact .rsa (readN ▸ rfl) (readE ▸ rfl)
    · split at denotes
      · simp only [acmeOKPJWKPublicKey, isValidACMEOKPJWK, bind_eq_bind] at denotes
        split at denotes
        · cases denotes
        · next valid =>
          simp only [Bool.and_eq_true, decide_eq_true_eq, Bool.not_eq_false] at valid
          obtain ⟨⟨⟨⟨⟨rfl, rfl⟩, -⟩, rfl⟩, rfl⟩, rfl⟩ := valid
          obtain ⟨xs, readX, -⟩ := bind_eq_some_iff.mp denotes
          exact .okp (readX ▸ rfl)
      · cases denotes

theorem escape_of_value {c} (given : (value c).isSome) : escape c = [c] := by
  have small : c.toNat < 123 := by
    by_contra large
    have outside : ∀ d : Char, d.toNat < 123 → ¬ c ≤ d := fun d below above => by
      have := Char.le_def.mp above
      rw [UInt32.le_iff_toNat_le] at this
      exact absurd (lt_of_le_of_lt this below) large
    simp only [value] at given
    simp only [outside 'Z' (by decide), outside 'z' (by decide), outside '9' (by decide), and_false,
      if_false] at given
    split at given
    · next same => exact large (same ▸ by decide)
    · split at given
      · next same => exact large (same ▸ by decide)
      · cases given
  have all : ∀ n < 123, (value (Char.ofNat n)).isSome →
      escape (Char.ofNat n) = [Char.ofNat n] := by decide +kernel
  have here := all c.toNat small
  rw [Char.ofNat_toNat] at here
  exact here given

/-- A text that decodes has no character that needs an escape, or breaks at a line end. -/
theorem plain_or_broken {text} (decoded : (rawURLDecode text).isSome) :
    ((∀ c ∈ text, isLineEnd c = false) ∧ ∀ c ∈ text, escape c = [c]) ∨
      ((∃ c ∈ text, isLineEnd c = true) ∧ Json.Broken text) := by
  obtain ⟨bytes, read⟩ := isSome_iff_exists.mp decoded
  have chars : ∀ c ∈ text, isLineEnd c = true ∨ (value c).isSome :=
    fun c inside => mem_of_rawURLDecode read inside
  clear decoded read
  induction text with
  | nil => simp
  | cons c rest ih =>
    rcases chars c mem_cons_self with ending | given
    · refine .inr ⟨⟨c, mem_cons_self, ending⟩, [], c, rest, rfl, by simp, ?_⟩
      rcases (show c = '\r' ∨ c = '\n' by simpa [isLineEnd] using ending) with rfl | rfl
      · decide
      · decide
    · have plain := escape_of_value given
      obtain ⟨n, value⟩ := isSome_iff_exists.mp given
      have whole := isLineEnd_of_value value
      rcases ih fun d inside => chars d (mem_cons_of_mem _ inside) with
        ⟨no, others⟩ | ⟨⟨d, inside, ending⟩, front, e, back, rfl, before, control⟩
      · exact .inl ⟨by simpa [whole] using no, by simpa [plain] using others⟩
      · refine .inr ⟨⟨d, mem_cons_of_mem _ inside, ending⟩, c :: front, e, back, rfl, ?_, control⟩
        simpa [plain] using before

theorem quote_notMem {text} (decoded : (rawURLDecode text).isSome) : '"' ∉ text := by
  intro inside
  obtain ⟨bytes, decoded⟩ := isSome_iff_exists.mp decoded
  rcases mem_of_rawURLDecode decoded inside with ending | given
  · exact absurd ending (by decide)
  · exact absurd given (by decide)

/-- A quoted text without quotes ends at the first quote. -/
theorem quoted_inj {a b front back} (first : '"' ∉ a) (second : '"' ∉ b)
    (same : a ++ '"' :: front = b ++ '"' :: back) : a = b ∧ front = back := by
  have cut := congrArg (Text.cut '"') same
  rw [Text.cut_append first, Text.cut_append second] at cut
  exact Prod.mk.inj (some.inj cut)

/-- The document of a key tells the texts of its members. -/
theorem canonicalMembers_injective (shaped : jwk.Shaped) (shaped' : other.Shaped)
    (same : Json.rawObject jwk.canonicalMembers = Json.rawObject other.canonicalMembers) :
    jwk = other := by
  -- Documents of different types differ at the beginning.
  cases shaped <;> cases shaped' <;>
    simp [Json.rawObject, ACMEJWK.canonicalMembers, Json.rawMember, Json.join,
      Json.quote, Json.escape, Json.hexEscaped] at same
  case ec.ec x y xs ys x' y' xs' ys' =>
    obtain ⟨rfl, later⟩ := quoted_inj (quote_notMem xs) (quote_notMem xs') same
    simp only [List.cons.injEq, true_and] at later
    obtain ⟨rfl, -⟩ := quoted_inj (quote_notMem ys) (quote_notMem ys') later
    rfl
  case rsa.rsa n e ns es n' e' ns' es' =>
    obtain ⟨rfl, later⟩ := quoted_inj (quote_notMem es) (quote_notMem es') same
    simp only [List.cons.injEq, true_and] at later
    obtain ⟨rfl, -⟩ := quoted_inj (quote_notMem ns) (quote_notMem ns') later
    rfl
  case okp.okp x xs x' xs' =>
    rw [same]

end Members

section Results

variable {jwk other : ACMEJWK} {key : PublicKey}

/-- Two different documents with one hash. -/
def Collide (left right : Text) : Prop := left ≠ right ∧ sha256 left.utf8 = sha256 right.utf8

/-- Two JWKs of one key have one thumbprint exactly when they are written alike, collisions of the
hash apart. -/
theorem acmeJWKThumbprint_eq_iff (denotes : jwk.publicKey = some key)
    (denotes' : other.publicKey = some key) :
    acmeJWKThumbprint jwk = acmeJWKThumbprint other ↔ jwk = other ∨
      Collide (rawObject jwk.canonicalMembers) (rawObject other.canonicalMembers) := by
  have print : ∀ given : ACMEJWK, given.publicKey = some key → acmeJWKThumbprint given =
      some (rawURLEncode (sha256 (rawObject given.canonicalMembers).utf8)) := by
    intro given named
    rw [acmeJWKThumbprint, canonicalACMEJWKJSON, named]
    rfl
  rw [print jwk denotes, print other denotes', some.injEq]
  constructor
  · intro same
    by_cases texts : rawObject jwk.canonicalMembers = rawObject other.canonicalMembers
    · exact .inl (canonicalMembers_injective (ACMEJWK.shaped denotes)
        (ACMEJWK.shaped denotes') texts)
    · exact .inr ⟨texts, rawURLEncode_injective same⟩
  · rintro (rfl | ⟨-, hashes⟩)
    · rfl
    · rw [hashes]

/-- The document of an Ed25519 key that a client sends. -/
def okpDocument (x : Text) : Json :=
  .object [("crv", .string "Ed25519"), ("kty", .string "OKP"), ("x", .string x)]

def okpJWK (x : Text) : ACMEJWK := { kty := "OKP", crv := "Ed25519", x }

/-- Thirty-two zero bytes, written with a last character that has bits left. -/
def zeroKey (last : Text) : Text := replicate 42 'A' ++ last

/-- The thumbprints of two spellings differ, since their hashes do. -/
theorem zeroKey_print :
    acmeJWKThumbprint (okpJWK (zeroKey ['A'])) ≠ acmeJWKThumbprint (okpJWK (zeroKey ['B'])) := by
  have denotes : ∀ last ∈ [['A'], ['B']],
      (okpJWK (zeroKey last)).publicKey = some (.ed25519 (replicate 32 0)) := by
    decide +kernel
  rw [Ne, acmeJWKThumbprint_eq_iff (denotes _ (by simp)) (denotes _ (by simp))]
  rintro (same | ⟨-, hashes⟩)
  · exact absurd same (by decide +kernel)
  · exact absurd hashes (by decide +kernel)

/-- One key in two spellings, both of which are accepted: the bits that are left are not looked
at. -/
theorem zeroKey_spellings :
    acmeJWKFromProtected (okpDocument (zeroKey ['A'])) = some (okpJWK (zeroKey ['A'])) ∧
      acmeJWKFromProtected (okpDocument (zeroKey ['B'])) = some (okpJWK (zeroKey ['B'])) ∧
      (okpJWK (zeroKey ['A'])).publicKey = some (.ed25519 (replicate 32 0)) ∧
      (okpJWK (zeroKey ['B'])).publicKey = some (.ed25519 (replicate 32 0)) ∧
      acmeJWKThumbprint (okpJWK (zeroKey ['A'])) ≠ acmeJWKThumbprint (okpJWK (zeroKey ['B'])) := by
  decide +kernel

/-- No member has a line end. -/
def ACMEJWK.Unbroken (jwk : ACMEJWK) : Prop :=
  ∀ c ∈ jwk.x ++ jwk.y ++ jwk.n ++ jwk.e, c ≠ '\r' ∧ c ≠ '\n'

instance (jwk : ACMEJWK) : Decidable jwk.Unbroken := decidableBAll _ _

theorem canonicalMembers_kinds (shaped : jwk.Shaped) : ∀ member ∈ jwk.canonicalMembers,
    ((∀ c ∈ member.2, isLineEnd c = false) ∧ ∀ c ∈ member.2, escape c = [c]) ∨
      ((∃ c ∈ member.2, isLineEnd c = true) ∧ Json.Broken member.2) := by
  have fixed : ∀ {text : Text},
      (text.all fun c => !isLineEnd c && decide (escape c = [c])) = true →
      (∀ c ∈ text, isLineEnd c = false) ∧ ∀ c ∈ text, escape c = [c] := by
    intro text all
    simpa [forall_and] using all
  cases shaped with
  | ec xs ys =>
    rintro _ (_ | ⟨_, _ | ⟨_, _ | ⟨_, _ | ⟨_, ⟨⟩⟩⟩⟩⟩)
    · exact .inl (fixed rfl)
    · exact .inl (fixed rfl)
    · exact plain_or_broken xs
    · exact plain_or_broken ys
  | rsa ns es =>
    rintro _ (_ | ⟨_, _ | ⟨_, _ | ⟨_, ⟨⟩⟩⟩⟩)
    · exact plain_or_broken es
    · exact .inl (fixed rfl)
    · exact plain_or_broken ns
  | okp xs =>
    rintro _ (_ | ⟨_, _ | ⟨_, _ | ⟨_, ⟨⟩⟩⟩⟩)
    · exact .inl (fixed rfl)
    · exact .inl (fixed rfl)
    · exact plain_or_broken xs

theorem ACMEJWK.unbroken_iff (shaped : jwk.Shaped) : jwk.Unbroken ↔
    ∀ member ∈ jwk.canonicalMembers, ∀ c ∈ member.2, isLineEnd c = false := by
  cases shaped <;>
    simp [Unbroken, canonicalMembers, isLineEnd, or_imp, forall_and]
  case rsa => tauto

/-- The document of a key is read back as its JWK unless a member has a line end. -/
theorem unmarshal_canonical (shaped : jwk.Shaped) :
    unmarshalACMEJWK (rawObject jwk.canonicalMembers) = if jwk.Unbroken then
      some jwk else none := by
  have kinds := canonicalMembers_kinds shaped
  by_cases whole : jwk.Unbroken
  · have plain : ∀ member ∈ jwk.canonicalMembers, ∀ c ∈ member.2, escape c = [c] := by
      intro member inside
      rcases kinds member inside with ⟨-, plain⟩ | ⟨⟨c, there, ending⟩, -⟩
      · exact plain
      · rw [(ACMEJWK.unbroken_iff shaped).mp whole member inside c there] at ending
        cases ending
    rw [unmarshalACMEJWK, read_rawObject plain, if_pos whole]
    cases shaped <;> rfl
  · have broken : ∃ member ∈ jwk.canonicalMembers, Json.Broken member.2 := by
      by_contra none
      refine whole ((ACMEJWK.unbroken_iff shaped).mpr fun member inside => ?_)
      rcases kinds member inside with ⟨ends, -⟩ | ⟨-, breaks⟩
      · exact ends
      · exact absurd ⟨member, inside, breaks⟩ none
    rw [unmarshalACMEJWK, read_rawObject_broken
      (fun member inside => (kinds member inside).imp And.right And.right) broken, if_neg whole]

/-- The key of an account is found again with the document and the thumbprint that were stored for
it exactly when no member of its JWK has a line end. -/
theorem accountJWK_readable_iff {text thumbprint : Text}
    (stored : canonicalACMEJWKJSON jwk = some text)
    (hashed : acmeJWKThumbprint jwk = some thumbprint) :
      (∃ again, accountJWK text thumbprint = some again ∧ again.publicKey = jwk.publicKey) ↔
      jwk.Unbroken := by
  obtain ⟨key, denotes, rfl⟩ := map_eq_some_iff.mp stored
  rw [acmeJWKThumbprint, stored] at hashed
  cases hashed
  have given : rawURLEncode (sha256 (rawObject jwk.canonicalMembers).utf8) ≠ [] := by
    intro blank
    have empty := rawURLEncode_injective (blank.trans (show [] = rawURLEncode [] from rfl))
    exact absurd (congrArg length empty) (by rw [length_sha256]; decide)
  rw [accountJWK, if_neg (not_or.mpr ⟨by rintro ⟨⟩, given⟩),
    unmarshal_canonical (ACMEJWK.shaped denotes)]
  by_cases whole : jwk.Unbroken
  · simp [whole]
  · simp [whole]

/-- A key that is read back as it was stored. -/
theorem zeroKey_readable : ∃ text thumbprint again,
    canonicalACMEJWKJSON (okpJWK (zeroKey ['A'])) = some text ∧
      acmeJWKThumbprint (okpJWK (zeroKey ['A'])) = some thumbprint ∧
      accountJWK text thumbprint = some again ∧
      again.publicKey = (okpJWK (zeroKey ['A'])).publicKey := by
  have denotes : (okpJWK (zeroKey ['A'])).publicKey = some (.ed25519 (replicate 32 0)) := by
    decide +kernel
  have stored : canonicalACMEJWKJSON (okpJWK (zeroKey ['A'])) =
      some (rawObject (okpJWK (zeroKey ['A'])).canonicalMembers) := by
    rw [canonicalACMEJWKJSON, denotes]
    rfl
  have hashed : ∃ thumbprint, acmeJWKThumbprint (okpJWK (zeroKey ['A'])) = some thumbprint := by
    rw [acmeJWKThumbprint, stored, map_some]
    exact ⟨_, rfl⟩
  obtain ⟨thumbprint, hashed⟩ := hashed
  have whole : (okpJWK (zeroKey ['A'])).Unbroken := by decide +kernel
  obtain ⟨again, found, same⟩ := (accountJWK_readable_iff stored hashed).mpr whole
  exact ⟨_, _, again, stored, hashed, found, same⟩

/-- A key with a line end behind it is accepted. What is stored for it is no document. -/
theorem zeroKey_broken :
    acmeJWKFromProtected (okpDocument (zeroKey ['A', '\n'])) = some (okpJWK (zeroKey ['A', '\n'])) ∧
      (okpJWK (zeroKey ['A', '\n'])).publicKey = some (.ed25519 (replicate 32 0)) ∧
      (canonicalACMEJWKJSON (okpJWK (zeroKey ['A', '\n']))).bind read = none := by
  decide +kernel

end Results

end AnoPki.Httpapi
