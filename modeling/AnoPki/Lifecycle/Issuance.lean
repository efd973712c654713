import AnoPki.Lifecycle.Enrollment
import AnoPki.Lifecycle.Signing

/-! # Issuing certificates

`IssueCertificate` claims the enrollment's issuance attempt, has the core sign, stores the signed
material and finalizes it into a certificate. Each of these is a transaction of its own, so several
nodes may be at different points for one enrollment. -/
namespace AnoPki.Lifecycle

open Foundation Domain Store ErrKind

/-- Five minutes. -/
def defaultIssuanceSigningLease : Int := 300000000000

/-- The attempt of an enrollment that had none. -/
def firstAttempt (enrollmentID : Text) (now : Time) : IssuanceAttempt where
  enrollmentID := enrollmentID
  status := .signing
  leaseExpiresAt := now.add defaultIssuanceSigningLease
  signingStartedAt := now
  createdAt := now
  updatedAt := now

/-- An attempt claimed for signing again. -/
def reclaimed (current : IssuanceAttempt) (now : Time) : IssuanceAttempt :=
  { current with
    status := .signing
    leaseExpiresAt := now.add defaultIssuanceSigningLease
    signingStartedAt := now
    lastError := []
    updatedAt := now }

/-- The transaction of `claimIssuanceAttempt`: the attempt, and whether the caller is to sign. -/
def claimIssuanceAttemptTx (enrollmentID : Text) (now : Time) : Repo (IssuanceAttempt × Bool) := do
  match ← Tx.attempt (getIssuanceAttempt enrollmentID) with
  | .error err =>
    if err.kind = .issuanceAttemptNotFound then do
      createIssuanceAttempt (firstAttempt enrollmentID now)
      pure (firstAttempt enrollmentID now, true)
    else Tx.fail err
  | .ok current =>
    match current.status with
    | .signed | .finalized => pure (current, false)
    | .signing => do
      Tx.require (¬ current.leaseExpiresAt.after now) (err .invalidTransition)
      updateIssuanceAttemptIfCurrent (reclaimed current now) current
      pure (reclaimed current now, true)
    | .failed => do
      updateIssuanceAttemptIfCurrent (reclaimed current now) current
      pure (reclaimed current now, true)

def claimIssuanceAttempt (enrollmentID : Text) (now : Time) : Op (IssuanceAttempt × Bool) :=
  withinTx (claimIssuanceAttemptTx enrollmentID now)
    fun (attempt, shouldSign) => if shouldSign then some (.claimed attempt) else none

/-- The attempt with the signed material. -/
def signedAttempt (current : IssuanceAttempt) (certificateID : Text) (result : IssueResult)
    (now : Time) : IssuanceAttempt :=
  { current with
    status := .signed
    leaseExpiresAt := Time.zero
    certificateID := certificateID
    certificatePEM := result.certificatePEM
    serialNumber := result.serialNumber
    subject := result.subject
    notBefore := result.notBefore
    notAfter := result.notAfter
    signedAt := now
    lastError := []
    signingEvidenceJSON := signingEvidenceJSON result.signingEvidence
    updatedAt := now }

def Service.persistSignedIssuanceAttemptTx (s : Service) (current : IssuanceAttempt)
    (result : IssueResult) (now : Time) : Repo IssuanceAttempt := do
  let certificateID ← s.newID
  let signed := signedAttempt current certificateID result now
  updateIssuanceAttemptIfCurrent signed current
  pure signed

def Service.persistSignedIssuanceAttempt (s : Service) (current : IssuanceAttempt)
    (result : IssueResult) (now : Time) : Op IssuanceAttempt :=
  withinTx (s.persistSignedIssuanceAttemptTx current result now)
    fun signed => some (.persisted current signed)

/-- The certificate of an enrollment and its signed attempt. -/
def issuedCertificate (enrollment : Enrollment) (attempt : IssuanceAttempt) (now : Time) :
    Certificate where
  id := attempt.certificateID
  identityID := enrollment.identityID
  issuerID := enrollment.issuerID
  enrollmentID := enrollment.id
  certificateProfileID := enrollment.certificateProfileID
  serialNumber := attempt.serialNumber
  subject := attempt.subject
  dnsNames := enrollment.requestedDNSNames
  ipAddresses := enrollment.requestedIPAddresses
  notBefore := attempt.notBefore
  notAfter := attempt.notAfter
  status := .valid
  certificatePEM := attempt.certificatePEM
  createdAt := now
  updatedAt := now

/-- The transaction of `finalizeSignedIssuanceAttempt`: the certificate, and whether it is new. -/
def finalizeSignedIssuanceAttemptTx (enrollmentID : Text) (attempt : IssuanceAttempt)
    (now : Time) : Repo (Certificate × Bool) := do
  let currentEnrollment ← getEnrollment enrollmentID
  if currentEnrollment.status = .issued then do
    let certificate ← getCertificateByEnrollmentID enrollmentID
    pure (certificate, false)
  else do
    Tx.require (currentEnrollment.status = .approved) (err .invalidTransition)
    let currentAttempt ← getIssuanceAttempt enrollmentID
    Tx.require (currentAttempt.status = .signed ∧
      currentAttempt.certificateID = attempt.certificateID ∧
      currentAttempt.serialNumber = attempt.serialNumber) (err .invalidTransition)
    updateEnrollmentIfStatus { currentEnrollment with
      status := .issued, updatedAt := now } .approved
    let certificate := issuedCertificate currentEnrollment currentAttempt now
    createCertificate certificate
    updateIssuanceAttemptIfCurrent
      { currentAttempt with status := .finalized, finalizedAt := now, updatedAt := now }
      currentAttempt
    pure (certificate, true)

/-- The attempt marked failed with the error of its finalization. -/
def failedAttempt (attempt : IssuanceAttempt) (err : Err) (now : Time) : IssuanceAttempt :=
  { attempt with status := .failed, lastError := err.text, updatedAt := now }

def finalizeSignedIssuanceAttempt (enrollmentID : Text) (attempt : IssuanceAttempt) (now : Time) :
    Op Certificate := do
  if attempt.status = .finalized then repo (getCertificateByEnrollmentID enrollmentID)
  else do
    Op.require (attempt.status = .signed) .invalidTransition
    let outcome ← Op.attempt (withinTx (finalizeSignedIssuanceAttemptTx enrollmentID attempt now)
      fun (_, new) => if new then some (.finalized enrollmentID) else none)
    match outcome with
    | .ok (certificate, _) => pure certificate
    | .error err =>
      if err.kind = .invalidTransition then do
        match ← Op.attempt (repo (getCertificateByEnrollmentID enrollmentID)) with
        | .ok existing => pure existing
        | .error lookupErr =>
          Op.ofExcept (demand (lookupErr.kind = .certificateNotFound) lookupErr)
          withinTx (updateIssuanceAttemptIfCurrent (failedAttempt attempt err now) attempt)
            fun _ => some (.markedFailed enrollmentID)
          Op.fail err
      else Op.fail err

def legacyPolicyEvidenceRefs (certificate : Certificate) : List Text :=
  [("schema:" : Text) ++ policyValidationEvidenceSchema,
    ("identity:" : Text) ++ certificate.identityID,
    ("issuer:" : Text) ++ certificate.issuerID,
    ("enrollment:" : Text) ++ certificate.enrollmentID] ++
    (if certificate.certificateProfileID = [] then []
    else [("profile:" : Text) ++ certificate.certificateProfileID])

/-- The record, or `none` when the lookup fails with the given error. -/
def orMissing {α : Type} (body : Repo α) (missing : ErrKind) : Repo (Option α) := do
  match ← Tx.attempt body with
  | .ok value => pure (some value)
  | .error err => if err.kind = missing then pure none else Tx.fail err

def addCertificatePolicyAuditFields (certificate : Certificate) (fields : Fields) :
    Repo Fields := do
  let unknown := addPolicyDecisionAuditFields fields "unknown" "legacy_policy_evidence_unavailable"
    (legacyPolicyEvidenceRefs certificate)
  match ← orMissing (getEnrollment certificate.enrollmentID) .enrollmentNotFound with
  | none => pure unknown
  | some enrollment =>
    match ← orMissing (getIdentity certificate.identityID) .identityNotFound with
    | none => pure unknown
    | some identity =>
      let lookup := orMissing (getCertificateProfile certificate.certificateProfileID)
        .certificateProfileNotFound
      match ← if certificate.certificateProfileID = [] then pure (some {}) else lookup with
      | none => pure unknown
      | some profile =>
        pure (addPolicyDecisionAuditFields fields "allow" "issuance_policy_passed"
          (policyValidationEvidenceRefs (enrollmentProfilePolicyRequest enrollment) profile
            identity))

def addReplacementCertificateLinkage (certificate : Certificate) (fields : Fields) :
    Repo Fields := do
  match ← orMissing (getEnrollment certificate.enrollmentID) .enrollmentNotFound with
  | none => pure fields
  | some enrollment =>
    if enrollment.sourceCertificateID = [] then pure fields
    else do
      let fields := fields.setText "source_certificate_id" enrollment.sourceCertificateID
      match ← orMissing (getCertificate enrollment.sourceCertificateID) .certificateNotFound with
      | none => pure fields
      | some source =>
        pure ((fields.setText "previous_serial_number" source.serialNumber).setText
          "successor_serial_number" certificate.serialNumber)

/-- What the audit event of an issuance says about the key: the evidence stored with the attempt, or
the class of the issuer's key. -/
def Service.addSigningAuditFields (s : Service) (certificate : Certificate) (fields : Fields) :
    Repo Fields := do
  match ← orMissing (getIssuanceAttempt certificate.enrollmentID) .issuanceAttemptNotFound with
  | some attempt =>
    if attempt.signingEvidenceJSON.trimSpace ≠ [] then
      match decodeSigningEvidence attempt.signingEvidenceJSON with
      | none => Tx.fail { kind := .other, detail := "decode persisted signing evidence" }
      | some evidence =>
        match validateSigningEvidence evidence "certificate_issue"
            evidence.requestedSignatureAlgorithm with
        | .error err =>
          Tx.fail {
            kind := .other, detail := ("validate persisted signing evidence: " : Text) ++ err.text }
        | .ok () => pure (coreSigningAuditFields evidence fields)
    else legacy
  | none => legacy
where
  legacy : Repo Fields := do
    match ← orMissing (getIssuer certificate.issuerID) .issuerNotFound with
    | some issuer => pure (legacyKeyProviderAuditFields s.lowerRune issuer.keyRef fields)
    | none => pure fields

def certificateAuditFields (certificate : Certificate) : Fields :=
  auditFields [
    ("identity_id", certificate.identityID),
    ("issuer_id", certificate.issuerID),
    ("enrollment_id", certificate.enrollmentID),
    ("certificate_id", certificate.id),
    ("serial_number", certificate.serialNumber),
    ("profile_id", certificate.certificateProfileID)]

/-- The transaction of `ensureCertificateIssuedAuditEvent`. -/
def Service.certificateIssuedAuditTx (s : Service) (ctx : Context) (actor : Text)
    (certificate : Certificate) (now : Time) : Repo Unit := do
  let fields ← addCertificatePolicyAuditFields certificate (certificateAuditFields certificate)
  let fields ← addReplacementCertificateLinkage certificate fields
  let fields ← s.addSigningAuditFields certificate fields
  let fields ← addIdentityDeploymentTarget certificate.identityID fields
  s.createAuditEvent ctx actor "certificate.issued" "certificate" certificate.id now fields

def Service.ensureCertificateIssuedAuditEvent (s : Service) (ctx : Context) (actor : Text)
    (certificate : Certificate) (now : Time) : Op Unit := do
  let events ← repo listAuditEvents
  if events.any fun event => decide (event.action = "certificate.issued".toList ∧
      event.resourceType = "certificate".toList ∧ event.resourceID = certificate.id) then pure ()
  else withinTx (s.certificateIssuedAuditTx ctx actor certificate now) fun _ => none

/-- The request the core is asked to sign. -/
def coreIssueRequest (lower : Char → Char) (enrollment : Enrollment) (issuer : Issuer)
    (profile : CertificateProfile) (now : Time) : Corecli.IssueRequest where
  csrPEM := enrollment.csrPEM
  issuerCertificatePEM := issuer.certificatePEM
  issuerKeyRef := issuer.keyRef
  aiaURL := issuer.aiaURL
  crlDistributionPoints := some issuer.crlDistributionPoints
  subject := enrollment.requestedSubject
  dnsNames := some enrollment.requestedDNSNames
  ipAddresses := some enrollment.requestedIPAddresses
  notBefore := now
  notAfter := enrollment.requestedNotAfter
  signatureAlgorithm := profileSignatureAlgorithm lower profile
  profileID := profile.id
  basicConstraintsCritical := profile.basicConstraints.critical
  basicConstraintsCA := profile.basicConstraints.ca
  basicConstraintsMaxPathLen := profile.basicConstraints.maxPathLen
  keyUsageCritical := profile.keyUsage.critical
  keyUsage := some profile.keyUsage.values
  extendedKeyUsageCritical := profile.extendedKeyUsage.critical
  extendedKeyUsage := some profile.extendedKeyUsage.values
  subjectKeyIdentifier := profile.subjectKeyIdentifier
  authorityKeyIdentifier := profile.authorityKeyIdentifier

/-- The certificate of an enrollment that is already issued. -/
def Service.issuedAlready (s : Service) (ctx : Context) (actor enrollmentID : Text) :
    Op Certificate := do
  match ← Op.attempt (repo (getCertificateByEnrollmentID enrollmentID)) with
  | .ok certificate =>
    let now ← Op.now
    s.ensureCertificateIssuedAuditEvent ctx actor certificate now
    pure certificate
  | .error err =>
    Op.ofExcept (demand (err.kind = .certificateNotFound) err)
    Op.fail (ErrKind.err .invalidTransition)

/-- `validatePublicTLSLint`. -/
def Service.validatePublicTLSLint (s : Service) (profile : CertificateProfile) : Op Unit :=
  if profile.publicTLS = false then pure ()
  else do
    Op.require (s.publicTLSLintHook = true) .invalidRequest
    Op.ask (fun oracle => oracle.lint) fun _ => none

/-- The profile of an enrollment; no profile when it names none. -/
def enrollmentProfile (enrollment : Enrollment) : Op CertificateProfile :=
  if enrollment.certificateProfileID = [] then pure {}
  else repo (getCertificateProfile enrollment.certificateProfileID)

/-- The request is looked at only when the profile has something to say about it. -/
def inspectCSRFor (profile : CertificateProfile) (csrPEM : Text) : Op CSRInfo :=
  if profileRequiresCSRPolicy profile then inspectCSR csrPEM else pure {}

/-- What `IssueCertificate` checks before it claims the attempt: the issuer, the profile and the
time it goes on with. -/
def Service.checkIssuance (s : Service) (enrollment : Enrollment) :
    Op (Issuer × CertificateProfile × Time) := do
  let issuer ← repo (getIssuer enrollment.issuerID)
  let identity ← repo (getIdentity enrollment.identityID)
  Op.require (¬ (s.productionPolicy ∧ identityCompletenessWarnings identity ≠ [])) .invalidRequest
  let profile ← enrollmentProfile enrollment
  let now ← Op.now
  let csrInfo ← inspectCSRFor profile enrollment.csrPEM
  let policyRequest := enrollmentProfilePolicyRequest enrollment
  let refs := policyValidationEvidenceRefs policyRequest profile identity
  Op.ofExcept ((validateEnrollmentProfilePolicy s.lowerRune policyRequest profile csrInfo
    now).mapError (attachPolicyValidationEvidence refs))
  Op.ofExcept ((validateEnrollmentIdentityPolicy policyRequest identity).mapError
    (attachPolicyValidationEvidence refs))
  s.validatePublicTLSLint profile
  pure (issuer, profile, now)

/-- The core's signature and the evidence for it. -/
def Service.sign (s : Service) (enrollment : Enrollment) (issuer : Issuer)
    (profile : CertificateProfile) (now : Time) : Op IssueResult := do
  Op.ask (fun oracle => oracle.checkReady) fun _ => none
  let request := coreIssueRequest s.lowerRune enrollment issuer profile now
  let result ← requestSignature request
  Op.ofExcept ((validateSigningEvidence result.signingEvidence "certificate_issue"
    (profileSignatureAlgorithm s.lowerRune profile)).mapError mapIssueError)
  pure result
where
  -- The event is left however the core answers.
  requestSignature (request : Corecli.IssueRequest) : Op IssueResult := do
    let answer ← Op.ask (fun oracle => .ok oracle.issue)
      fun _ => some (.issueRequested enrollment.id request)
    Op.ofExcept (answer.mapError mapIssueError)

/-- The attempt with signed material: the one that was found, or the one this call signs. -/
def Service.signClaimed (s : Service) (enrollment : Enrollment) (issuer : Issuer)
    (profile : CertificateProfile) (now : Time) (attempt : IssuanceAttempt) (shouldSign : Bool) :
    Op IssuanceAttempt :=
  if shouldSign then do
    let result ← s.sign enrollment issuer profile now
    s.persistSignedIssuanceAttempt attempt result now
  else pure attempt

/-- From the claim to the certificate. -/
def Service.issueApproved (s : Service) (ctx : Context) (actor : Text) (enrollmentID : Text)
    (enrollment : Enrollment) : Op Certificate := do
  let (issuer, profile, now) ← s.checkIssuance enrollment
  let (attempt, shouldSign) ← claimIssuanceAttempt enrollmentID now
  let attempt ← s.signClaimed enrollment issuer profile now attempt shouldSign
  let certificate ← finalizeSignedIssuanceAttempt enrollmentID attempt now
  s.ensureCertificateIssuedAuditEvent ctx actor certificate now
  pure certificate

def Service.issueCertificate (s : Service) (node : Node) (ctx : Context)
    (actor enrollmentID : Text) : Op Certificate := do
  Op.require (¬ isBlank enrollmentID) .invalidRequest
  withIssueMu node do
    let enrollment ← repo (getEnrollment enrollmentID)
    if enrollment.status = .issued then s.issuedAlready ctx actor enrollmentID
    else do
      Op.require (enrollment.status = .approved) .invalidTransition
      s.issueApproved ctx actor enrollmentID enrollment

end AnoPki.Lifecycle
