import AnoPki.Foundation.Listing
import AnoPki.Lifecycle.Configuration

/-! # What the limits of a profile mean

The validity of a profile is a number of seconds that is multiplied in 64-bit arithmetic, and its
lists of names and ranges are gone through in their order. -/
namespace AnoPki.Lifecycle

open Foundation Domain List

/-- The most seconds whose nanoseconds are a 64-bit number. -/
def maxExactSeconds : Int := 9223372036

/-- The product of the seconds is exact as long as it is a 64-bit number. -/
theorem validityPeriod_exact_iff {seconds} (positive : 0 < seconds.toInt) :
    validityPeriod seconds = seconds.toInt * 1000000000 ↔ seconds.toInt ≤ maxExactSeconds := by
  have high := seconds.toInt_lt
  rw [validityPeriod, Int64.toInt_mul, maxExactSeconds]
  simp only [Int.bmod, show (1000000000 : Int64).toInt = 1000000000 from rfl]
  omega

/-- What the checks of a new profile say of its validity. -/
theorem validityPeriod_of_accepted {lower req now override}
    (accepted : validateCreateCertificateProfileRequest lower req now override = .ok ()) :
    0 < req.validityPeriodSeconds.toInt ∧ (req.publicTLS →
      validityPeriod req.validityPeriodSeconds ≤ publicTLSValidityCeiling now override) := by
  simp only [validateCreateCertificateProfileRequest, Except.bind_eq_ok, demand_ok_iff] at accepted
  obtain ⟨-, named, -, -, -, -, -, -, -, short, -⟩ := accepted
  refine ⟨?_, fun isPublic => not_lt.mp fun long => short ⟨isPublic, long⟩⟩
  have above : ¬ req.validityPeriodSeconds ≤ 0 := fun low => named (.inr (.inr low))
  rw [Int64.le_iff_toInt_le] at above
  exact not_le.mp above

/-- An accepted profile that is for public TLS is valid for no longer than the ceiling, and the end
that an enrollment is held to is as many seconds away as the profile has, exactly when the seconds
are no more than a 64-bit number of nanoseconds. -/
theorem profileValidity_exact_iff {lower : Char → Char} {req : CreateCertificateProfileRequest}
    {now : Time} {override : Int64}
    (accepted : validateCreateCertificateProfileRequest lower req now override = .ok ()) :
    ((req.publicTLS →
        req.validityPeriodSeconds.toInt * 1000000000 ≤ publicTLSValidityCeiling now override) ∧
      ∀ id created enrolled, maxNotAfter (newCertificateProfile lower id req created) enrolled =
        enrolled.add (req.validityPeriodSeconds.toInt * 1000000000)) ↔
      req.validityPeriodSeconds.toInt ≤ maxExactSeconds := by
  obtain ⟨positive, limited⟩ := validityPeriod_of_accepted accepted
  rw [← validityPeriod_exact_iff positive]
  constructor
  · rintro ⟨-, ends⟩
    have same := congrArg Time.nanos (ends [] now now)
    simpa [maxNotAfter, newCertificateProfile, Time.add, validityPeriod] using same
  · intro exact
    refine ⟨fun isPublic => exact ▸ limited isPublic, fun id created enrolled => ?_⟩
    rw [← exact]
    rfl

/-- A profile for public TLS that is valid for an hour. -/
def hourProfile : CreateCertificateProfileRequest :=
  { name := "profile", issuerID := "issuer", validityPeriodSeconds := 3600, publicTLS := true }

/-- A profile of an hour. -/
theorem hourProfile_exact :
      validateCreateCertificateProfileRequest id hourProfile .zero 0 = .ok () ∧
        maxNotAfter (newCertificateProfile id "profile" hourProfile .zero) .zero =
          Time.zero.add (3600 * 1000000000) := by
  have accepted : validateCreateCertificateProfileRequest id hourProfile .zero 0 = .ok () := by
    decide +kernel
  exact ⟨accepted, ((profileValidity_exact_iff accepted).mpr (by decide +kernel)).2
    "profile" .zero .zero⟩

/-- A profile for public TLS that is valid for five hundred years: the product of its seconds comes
to less than one second. -/
def longProfile : CreateCertificateProfileRequest :=
  { hourProfile with validityPeriodSeconds := 18446744074 }

/-- A profile whose seconds overflow is accepted. -/
theorem longProfile_accepted :
    validateCreateCertificateProfileRequest id longProfile .zero 0 = .ok () ∧
      publicTLSValidityCeiling .zero 0 < longProfile.validityPeriodSeconds.toInt * 1000000000 ∧
      maxNotAfter (newCertificateProfile id "profile" longProfile .zero) .zero =
        Time.zero.add 290448384 := by
  decide +kernel

section Lists

variable {lower : Char → Char} {name address : Text} {patterns ranges : List Text}

/-- What one pattern says of a name that has been trimmed and lowered. -/
def patternVerdict (lower : Char → Char) (name pattern : Text) : Option Bool :=
  let pattern := pattern.trimSpace.toLower lower
  if pattern = [] then some false
  else if pattern = name ∨ (['*', '.'] <+: pattern ∧ pattern.drop 1 <:+ name ∧
      (pattern.drop 1).length < name.length) then some true
  else none

theorem dnsAllowedByPatterns_eq :
    dnsAllowedByPatterns lower name patterns =
      firstVerdict (patternVerdict lower name) patterns := by
  induction patterns with
  | nil => rfl
  | cons pattern rest ih =>
    simp only [dnsAllowedByPatterns, firstVerdict, List.findSome?_cons, patternVerdict] at ih ⊢
    by_cases blank : pattern.trimSpace.toLower lower = []
    · rw [if_pos blank, if_pos blank]
      rfl
    · rw [if_neg blank, if_neg blank]
      by_cases same : pattern.trimSpace.toLower lower = name
      · rw [if_pos same, if_pos (.inl same)]
        rfl
      · by_cases wild : ['*', '.'] <+: pattern.trimSpace.toLower lower ∧
          (pattern.trimSpace.toLower lower).drop 1 <:+ name ∧
          ((pattern.trimSpace.toLower lower).drop 1).length < name.length
        · rw [if_neg same, if_pos wild, if_pos (.inr wild)]
          rfl
        · rw [if_neg same, if_neg wild, if_neg (not_or.mpr ⟨same, wild⟩), ih]

theorem perm_eq_nil_iff {other} (perm : other.Perm patterns) : other = [] ↔ patterns = [] := by
  rw [← length_eq_zero_iff, perm.length_eq, length_eq_zero_iff]

/-- What one range says of an address. -/
def rangeVerdict (addr : Netip.Addr) (rawRange : Text) : Option Bool :=
  match Netip.parsePrefix rawRange.trimSpace with
  | none => some false
  | some range => if range.contains addr then some true else none

theorem ipAllowedByRanges_eq {addr} :
    ipAllowedByRanges addr ranges = firstVerdict (rangeVerdict addr) ranges := by
  induction ranges with
  | nil => rfl
  | cons rawRange rest ih =>
    simp only [ipAllowedByRanges, firstVerdict, List.findSome?_cons, rangeVerdict] at ih ⊢
    cases Netip.parsePrefix rawRange.trimSpace with
    | none => rfl
    | some range =>
      cases inside : range.contains addr with
      | true => simp [inside]
      | false => simp [inside, ih]

/-- The name is blank, no pattern is, or no pattern has the name. -/
def DnsOrderFree (lower : Char → Char) (name : Text) (patterns : List Text) : Prop :=
  name.trimSpace.toLower lower = [] ∨
    ¬ ((∃ pattern ∈ patterns, patternVerdict lower (name.trimSpace.toLower lower)
      pattern = some true) ∧
      ∃ pattern ∈ patterns, patternVerdict lower (name.trimSpace.toLower lower)
        pattern = some false)

/-- The address is none, all ranges are ranges, or no range has the address. -/
def IpOrderFree (address : Text) (ranges : List Text) : Prop :=
  ∀ addr, Netip.parseAddr address.trimSpace = some addr →
    ¬ ((∃ rawRange ∈ ranges, rangeVerdict addr rawRange = some true) ∧
      ∃ rawRange ∈ ranges, rangeVerdict addr rawRange = some false)

theorem dnsAllowedByProfile_perm_iff : (∀ other : List Text, other.Perm patterns →
      dnsAllowedByProfile lower name other = dnsAllowedByProfile lower name patterns) ↔
      DnsOrderFree lower name patterns := by
  rw [DnsOrderFree, ← firstVerdict_perm_iff]
  simp only [dnsAllowedByProfile, dnsAllowedByPatterns_eq]
  by_cases nameless : name.trimSpace.toLower lower = []
  · simp only [nameless, if_true, true_or, iff_true]
    intro other perm
    simp only [perm_eq_nil_iff perm]
  · simp only [nameless, if_false, false_or]
    by_cases empty : patterns = []
    · simp only [empty, perm_nil]
      simp
    · refine forall₂_congr fun other perm => ?_
      rw [if_neg empty, if_neg ((perm_eq_nil_iff perm).not.mpr empty)]

theorem ipAllowedByProfile_perm_iff : (∀ other : List Text, other.Perm ranges →
      ipAllowedByProfile address other = ipAllowedByProfile address ranges) ↔
      IpOrderFree address ranges := by
  simp only [IpOrderFree, ipAllowedByProfile, ipAllowedByRanges_eq, ← firstVerdict_perm_iff]
  by_cases empty : ranges = []
  · simp only [empty, perm_nil]
    simp
  · rcases parsed : Netip.parseAddr address.trimSpace with _ | addr
    · simp only [reduceCtorEq, false_imp_iff, implies_true, iff_true]
      intro other perm
      simp only [perm_eq_nil_iff perm]
    · simp only [Option.some.injEq, forall_eq']
      refine forall₂_congr fun other perm => ?_
      rw [if_neg empty, if_neg ((perm_eq_nil_iff perm).not.mpr empty)]

theorem wildcardAllowedByProfile_perm {other} (perm : other.Perm patterns) :
    wildcardAllowedByProfile lower name other = wildcardAllowedByProfile lower name patterns :=
  perm.any_eq

/-- The lists of a profile are sets for a name and an address exactly when none of them has an entry
that ends its loop in a refusal beside one that ends it in a match. -/
theorem allowLists_orderFree_iff (lower : Char → Char) (name address : Text)
    (patterns ranges : List Text) :
    ((∀ other : List Text, other.Perm patterns →
        dnsAllowedByProfile lower name other = dnsAllowedByProfile lower name patterns) ↔
      DnsOrderFree lower name patterns) ∧
    ((∀ other : List Text, other.Perm ranges →
        ipAllowedByProfile address other = ipAllowedByProfile address ranges) ↔
      IpOrderFree address ranges) ∧
    ∀ other : List Text, other.Perm patterns →
      wildcardAllowedByProfile lower name other = wildcardAllowedByProfile lower name patterns :=
  ⟨dnsAllowedByProfile_perm_iff, ipAllowedByProfile_perm_iff, fun _ =>
    wildcardAllowedByProfile_perm⟩

/-- A blank pattern, or a range that is none, refuses what stands behind it and nothing before
it. -/
theorem blankPattern_ordered :
    dnsAllowedByProfile id "a.test" ["a.test".toList, []] = true ∧
      dnsAllowedByProfile id "a.test" [[], "a.test".toList] = false ∧
      ipAllowedByProfile "10.0.0.1" ["10.0.0.0/8".toList, "10.0.0.0".toList] = true ∧
      ipAllowedByProfile "10.0.0.1" ["10.0.0.0".toList, "10.0.0.0/8".toList] = false := by
  decide +kernel

end Lists

end AnoPki.Lifecycle
