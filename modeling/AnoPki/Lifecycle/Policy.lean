import AnoPki.Lifecycle.Audit
import AnoPki.Foundation.Netip

/-! # Enrollment policy

What the service checks of a request before it stores an enrollment, and again before it signs: the
request itself, the profile's limits and the identity's lists. -/
namespace AnoPki.Lifecycle

open Foundation Domain

def isBlank (value : Text) : Bool := decide (value.trimSpace = [])

def sameStringSet (left right : List Text) : Bool :=
  decide (left.length = right.length ∧ Text.sorted left = Text.sorted right)

theorem perm_of_sameStringSet {left right} (same : sameStringSet left right) : left.Perm right := by
  simp only [sameStringSet, decide_eq_true_eq] at same
  exact Text.perm_of_sorted_eq same.2

def policyDecision (reason : Text) : Err :=
  { kind := .invalidRequest, policy := some { reason } }

def attachPolicyValidationEvidence (refs : List Text) (err : Err) : Err :=
  { err with policy := err.policy.map fun decision => { decision with evidenceRefs := refs } }

/-- Refuse unless the condition holds. -/
def demand (holds : Prop) [Decidable holds] (err : Err) : Except Err Unit :=
  if holds then .ok () else .error err

theorem demand_ok_iff {holds} [Decidable holds] {err : Err} {u} :
    demand holds err = .ok u ↔ holds := by
  by_cases h : holds
  · simp [demand, h]
  · simp [demand, h]

section Unicode

variable (lower : Char → Char)

def normalizeAlgorithm (value : Text) : Text := value.trimSpace.toLower lower

def stringInList (value : Text) (allowed : List Text) : Bool :=
  allowed.any fun candidate => decide (normalizeAlgorithm lower candidate =
    normalizeAlgorithm lower value)

/-- The loop of `dnsAllowedByProfile`: an empty pattern ends it. -/
def dnsAllowedByPatterns (name : Text) : List Text → Bool
  | [] => false
  | pattern :: rest =>
    let pattern := pattern.trimSpace.toLower lower
    if pattern = [] then false
    else if pattern = name then true
    else if ['*', '.'] <+: pattern ∧ pattern.drop 1 <:+ name ∧
        (pattern.drop 1).length < name.length then true
    else dnsAllowedByPatterns name rest

def dnsAllowedByProfile (name : Text) (patterns : List Text) : Bool :=
  if patterns = [] then true
  else
    let name := name.trimSpace.toLower lower
    if name = [] then false else dnsAllowedByPatterns lower name patterns

def wildcardAllowedByProfile (name : Text) (patterns : List Text) : Bool :=
  let name := name.trimSpace.toLower lower
  patterns.any fun pattern =>
    let pattern := pattern.trimSpace.toLower lower
    decide (['*', '.'] <+: pattern) && dnsAllowedByProfile lower name [pattern]

end Unicode

/-- The loop of `ipAllowedByProfile`: a range that does not parse ends it. -/
def ipAllowedByRanges (addr : Netip.Addr) : List Text → Bool
  | [] => false
  | rawRange :: rest =>
    match Netip.parsePrefix rawRange.trimSpace with
    | none => false
    | some range => range.contains addr || ipAllowedByRanges addr rest

def ipAllowedByProfile (address : Text) (ranges : List Text) : Bool :=
  if ranges = [] then true
  else
    match Netip.parseAddr address.trimSpace with
    | none => false
    | some addr => ipAllowedByRanges addr ranges

def valueAllowedByList (value : Text) (allowed : List Text) : Bool :=
  if allowed = [] then true
  else if value.trimSpace = [] then false
  else allowed.any fun candidate => decide (candidate.trimSpace = value.trimSpace)

def validateCreateEnrollmentRequest (req : CreateEnrollmentRequest) (now : Time) :
    Except Err Unit := do
  demand (¬ (isBlank req.identityID ∨ isBlank req.issuerID ∨ isBlank req.csrPEM ∨
    isBlank req.requestedSubject)) (ErrKind.err .invalidRequest)
  demand (req.requestedNotAfter.after now) (ErrKind.err .invalidRequest)

def maxCSRSANs : Nat := 100

def validateCSRPolicy (lower : Char → Char) (req : CreateEnrollmentRequest)
    (profile : CertificateProfile) (csrInfo : CSRInfo) : Except Err Unit := do
  let totalSANs := req.requestedDNSNames.length + req.requestedIPAddresses.length
  demand (totalSANs ≠ 0 ∧ totalSANs ≤ maxCSRSANs) (policyDecision "csr_san_count_invalid")
  demand (¬ csrInfo.extensionOIDs.any fun oid =>
      oid.trimSpace ∈ ["2.5.29.15".toList, "2.5.29.19".toList, "2.5.29.37".toList])
    (policyDecision "csr_forbidden_extension_requested")
  demand (req.requestedDNSNames.all fun dnsName =>
      !decide (['*', '.'] <+: dnsName.trimSpace) ||
        wildcardAllowedByProfile lower dnsName profile.allowedDNSPatterns)
    (policyDecision "profile_wildcard_dns_not_allowed")
  demand (¬ (profile.publicTLS ∧ req.requestedIPAddresses ≠ [] ∧ profile.allowedIPRanges = []))
    (policyDecision "profile_public_tls_ip_san_not_allowed")

def profileSignatureAlgorithm (lower : Char → Char) (profile : CertificateProfile) : Text :=
  match profile.allowedSignatureAlgorithms with
  | [] => "ecdsa_with_sha256"
  | first :: _ => normalizeAlgorithm lower first

def profileRequiresCSRPolicy (profile : CertificateProfile) : Bool :=
  profile.id ≠ [] || profile.allowedKeyAlgorithms ≠ [] || profile.minKeySizeBits > 0

/-- The end of a validity period that starts now; the product of seconds and nanoseconds is one of
64-bit integers. -/
def maxNotAfter (profile : CertificateProfile) (now : Time) : Time :=
  now.add (profile.validityPeriodSeconds * 1000000000).toInt

def validateEnrollmentProfilePolicy (lower : Char → Char) (req : CreateEnrollmentRequest)
    (profile : CertificateProfile) (csrInfo : CSRInfo) (now : Time) : Except Err Unit := do
  validateCSRPolicy lower req profile csrInfo
  if profile.id = [] then .ok ()
  else
    demand (¬ (profile.validityPeriodSeconds > 0 ∧
        req.requestedNotAfter.after (maxNotAfter profile now)))
      (policyDecision "profile_validity_exceeded")
    demand (req.requestedDNSNames.all fun dnsName =>
        dnsAllowedByProfile lower dnsName profile.allowedDNSPatterns)
      (policyDecision "profile_dns_not_allowed")
    demand (req.requestedIPAddresses.all fun ipAddress =>
        ipAllowedByProfile ipAddress profile.allowedIPRanges)
      (policyDecision "profile_ip_not_allowed")
    demand (profile.allowedKeyAlgorithms = [] ∨ stringInList lower
        (normalizeAlgorithm lower csrInfo.publicKeyAlgorithm) profile.allowedKeyAlgorithms)
      (policyDecision "profile_key_algorithm_not_allowed")
    demand (¬ (profile.minKeySizeBits > 0 ∧ csrInfo.publicKeySizeBits < profile.minKeySizeBits))
      (policyDecision "profile_key_size_too_small")
    demand (profile.allowedSignatureAlgorithms = [] ∨ stringInList lower
        (profileSignatureAlgorithm lower profile) profile.allowedSignatureAlgorithms)
      (policyDecision "profile_signature_algorithm_not_allowed")

def validateEnrollmentIdentityPolicy (req : CreateEnrollmentRequest) (identity : Identity) :
    Except Err Unit := do
  if identity.id = [] then .ok ()
  else
    demand (req.requestedDNSNames.all fun dnsName =>
        valueAllowedByList dnsName identity.allowedDNSNames)
      (policyDecision "identity_dns_not_allowed")
    demand (req.requestedIPAddresses.all fun ipAddress =>
        valueAllowedByList ipAddress identity.allowedIPAddresses)
      (policyDecision "identity_ip_not_allowed")

def identityCompletenessWarnings (identity : Identity) : List Text :=
  (if isBlank identity.owner then ["missing_owner".toList] else []) ++
    (if isBlank identity.team then ["missing_team".toList] else []) ++
    (if isBlank identity.service then ["missing_service".toList] else [])

def enrollmentProfilePolicyRequest (enrollment : Enrollment) : CreateEnrollmentRequest where
  identityID := enrollment.identityID
  issuerID := enrollment.issuerID
  certificateProfileID := enrollment.certificateProfileID
  csrPEM := enrollment.csrPEM
  requestedSubject := enrollment.requestedSubject
  requestedDNSNames := enrollment.requestedDNSNames
  requestedIPAddresses := enrollment.requestedIPAddresses
  requestedNotAfter := enrollment.requestedNotAfter

def sha256EvidenceReference (kind : Text) (payload : Text) : Text :=
  kind ++ ":sha256:" ++ Text.hexEncode (sha256 payload.utf8)

def policyValidationEvidenceSchema : Text := "anopki.policy.validation.v1"

/-- An integer field with `omitempty`. -/
def omitZero (value : Int64) : Option Corecli.FieldValue :=
  if value = 0 then none else some (.int value)

/-- A slice field with `omitempty`, in ascending order. -/
def omitEmptySorted (values : List Text) : Option Corecli.FieldValue :=
  Corecli.omitEmptySlice (some (Text.sorted values))

/-- The fields of `policyValidationEvidenceInput`. -/
def policyValidationEvidenceInput (req : CreateEnrollmentRequest) (profile : CertificateProfile)
    (identity : Identity) (csrRef : Text) : List (Text × Option Corecli.FieldValue) := [
  ("schema", some (.string policyValidationEvidenceSchema)),
  ("identity_id", Corecli.omitEmpty identity.id),
  ("identity_allowed_dns_names", omitEmptySorted identity.allowedDNSNames),
  ("identity_allowed_ip_addresses", omitEmptySorted identity.allowedIPAddresses),
  ("issuer_id", some (.string req.issuerID)),
  ("profile_id", Corecli.omitEmpty profile.id),
  ("profile_validity_seconds", omitZero profile.validityPeriodSeconds),
  ("profile_public_tls", some (.bool profile.publicTLS)),
  ("profile_allowed_dns_patterns", omitEmptySorted profile.allowedDNSPatterns),
  ("profile_allowed_ip_ranges", omitEmptySorted profile.allowedIPRanges),
  ("profile_allowed_key_algorithms", omitEmptySorted profile.allowedKeyAlgorithms),
  ("profile_min_key_size_bits", omitZero profile.minKeySizeBits),
  ("profile_allowed_signature_algorithms", omitEmptySorted profile.allowedSignatureAlgorithms),
  ("requested_subject", some (.string req.requestedSubject.trimSpace)),
  ("requested_dns_names", omitEmptySorted req.requestedDNSNames),
  ("requested_ip_addresses", omitEmptySorted req.requestedIPAddresses),
  ("requested_not_after", some (.string req.requestedNotAfter.utc.rfc3339Nano)),
  ("csr_reference", some (.string csrRef))]

def policyValidationEvidenceRefs (req : CreateEnrollmentRequest) (profile : CertificateProfile)
    (identity : Identity) : List Text :=
  let csrRef := sha256EvidenceReference "csr" req.csrPEM
  let encoded := Corecli.marshal (policyValidationEvidenceInput req profile identity csrRef)
  [("schema:" : Text) ++ policyValidationEvidenceSchema] ++
    (if identity.id = [] then [] else [("identity:" : Text) ++ identity.id]) ++
    (if req.issuerID = [] then [] else [("issuer:" : Text) ++ req.issuerID]) ++
    (if profile.id = [] then [] else [("profile:" : Text) ++ profile.id]) ++
    (if req.csrPEM.trimSpace = [] then [] else [csrRef]) ++
    [sha256EvidenceReference "policy-input" encoded]

/-- The checks of a new enrollment against the certificate request, the profile and the identity. -/
def Service.checkEnrollment (s : Service) (req : CreateEnrollmentRequest)
    (profile : CertificateProfile) (identity : Identity) (csrInfo : CSRInfo) (now : Time) :
    Except Err Unit := do
  demand (sameStringSet req.requestedDNSNames csrInfo.dnsNames ∧
    sameStringSet req.requestedIPAddresses csrInfo.ipAddresses) (ErrKind.err .invalidRequest)
  let refs := policyValidationEvidenceRefs req profile identity
  (validateEnrollmentProfilePolicy s.lowerRune req profile csrInfo now).mapError
    (attachPolicyValidationEvidence refs)
  (validateEnrollmentIdentityPolicy req identity).mapError (attachPolicyValidationEvidence refs)

end AnoPki.Lifecycle
