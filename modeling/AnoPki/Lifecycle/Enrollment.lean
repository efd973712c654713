import AnoPki.Lifecycle.Policy

/-! # Enrollments

Creating, approving and rejecting enrollments, and enrollments that replace a certificate. -/
namespace AnoPki.Lifecycle

open Foundation Domain Store

/-- `mapCSRInspectError`. -/
def mapCSRInspectError (err : CoreError) : Err :=
  { kind := .csrParseFailed, detail := err.text }

def inspectCSR (csrPEM : Text) : Op CSRInfo :=
  Op.ask (fun oracle => oracle.inspectCSR.mapError mapCSRInspectError)
    fun info => some (.csrInspected csrPEM info)

/-- The profile a request names, which must be one of the issuer; no profile when it names none. -/
def requestedProfile (profileID issuerID : Text) : Op CertificateProfile :=
  if profileID = [] then pure {}
  else do
    let profile ← repo (getCertificateProfile profileID)
    Op.require (profile.issuerID = issuerID) .invalidRequest
    pure profile

/-- A new enrollment for a request that passed the checks. -/
def newEnrollment (id : Text) (req : CreateEnrollmentRequest) (csrInfo : CSRInfo) (now : Time) :
    Enrollment where
  id := id
  identityID := req.identityID
  issuerID := req.issuerID
  certificateProfileID := req.certificateProfileID
  csrPEM := req.csrPEM
  status := .pending
  requestedSubject := req.requestedSubject
  requestedDNSNames := req.requestedDNSNames
  requestedIPAddresses := req.requestedIPAddresses
  csrDNSNames := csrInfo.dnsNames
  csrIPAddresses := csrInfo.ipAddresses
  requestedNotAfter := req.requestedNotAfter
  createdAt := now
  updatedAt := now

def enrollmentAuditFields (enrollment : Enrollment) : Fields :=
  auditFields [
    ("identity_id", enrollment.identityID),
    ("issuer_id", enrollment.issuerID),
    ("enrollment_id", enrollment.id),
    ("profile_id", enrollment.certificateProfileID)]

/-- The transaction of `CreateEnrollment`. -/
def Service.createEnrollmentTx (s : Service) (ctx : Context) (actor : Text)
    (req : CreateEnrollmentRequest) (csrInfo : CSRInfo) (refs : List Text) (now : Time) :
    Repo Enrollment := do
  let id ← s.newID
  let enrollment := newEnrollment id req csrInfo now
  let _ ← getIdentity req.identityID
  let _ ← getIssuer req.issuerID
  Store.createEnrollment enrollment
  let fields ← addIdentityDeploymentTarget enrollment.identityID (enrollmentAuditFields enrollment)
  let fields := addPolicyDecisionAuditFields fields "allow" "enrollment_policy_passed" refs
  s.createAuditEvent ctx actor "enrollment.created" "enrollment" enrollment.id now fields
  pure enrollment

def Service.createEnrollment (s : Service) (ctx : Context) (actor : Text)
    (req : CreateEnrollmentRequest) : Op Enrollment := do
  let now ← Op.now
  Op.ofExcept (validateCreateEnrollmentRequest req now)
  let identity ← repo (getIdentity req.identityID)
  let _ ← repo (getIssuer req.issuerID)
  let profile ← requestedProfile req.certificateProfileID req.issuerID
  let csrInfo ← inspectCSR req.csrPEM
  Op.ofExcept (s.checkEnrollment req profile identity csrInfo now)
  withinTx (s.createEnrollmentTx ctx actor req csrInfo
      (policyValidationEvidenceRefs req profile identity) now)
    fun enrollment => some (.enrollmentCreated enrollment.id)

/-- The request that replaces a certificate. -/
def replacementRequest (certificate : Certificate) (csrPEM : Text) (requestedNotAfter : Time) :
    CreateEnrollmentRequest where
  identityID := certificate.identityID
  issuerID := certificate.issuerID
  certificateProfileID := certificate.certificateProfileID
  csrPEM := csrPEM
  requestedSubject := certificate.subject
  requestedDNSNames := certificate.dnsNames
  requestedIPAddresses := certificate.ipAddresses
  requestedNotAfter := requestedNotAfter

/-- The transaction's look at the profile an enrollment names. -/
def checkProfileIssuer (enrollment : Enrollment) : Repo Unit :=
  if enrollment.certificateProfileID = [] then pure ()
  else do
    let profile ← getCertificateProfile enrollment.certificateProfileID
    Tx.require (profile.issuerID = enrollment.issuerID) (ErrKind.err .invalidRequest)

def replacementAuditFields (enrollment : Enrollment) (certificate : Certificate) : Fields :=
  auditFields [
    ("identity_id", enrollment.identityID),
    ("issuer_id", enrollment.issuerID),
    ("enrollment_id", enrollment.id),
    ("certificate_id", certificate.id),
    ("serial_number", certificate.serialNumber),
    ("previous_serial_number", certificate.serialNumber),
    ("profile_id", enrollment.certificateProfileID)]

/-- The transaction of `createCertificateReplacementEnrollment`. -/
def Service.replacementEnrollmentTx (s : Service) (ctx : Context) (actor certificateID : Text)
    (req : CreateEnrollmentRequest) (csrInfo : CSRInfo) (refs : List Text) (action : Text)
    (now : Time) : Repo Enrollment := do
  let id ← s.newID
  let currentCertificate ← getCertificate certificateID
  Tx.require (currentCertificate.status = .valid) (ErrKind.err .invalidTransition)
  let enrollment := {
    newEnrollment id req csrInfo now with sourceCertificateID := currentCertificate.id }
  let _ ← getIdentity enrollment.identityID
  let _ ← getIssuer enrollment.issuerID
  checkProfileIssuer enrollment
  Store.createEnrollment enrollment
  let fields ← addIdentityDeploymentTarget enrollment.identityID
    (replacementAuditFields enrollment currentCertificate)
  let fields := addPolicyDecisionAuditFields fields "allow" "enrollment_policy_passed" refs
  s.createAuditEvent ctx actor action "enrollment" enrollment.id now fields
  s.createOutboxMessage action now fields
  pure enrollment

def Service.createCertificateReplacementEnrollment (s : Service) (ctx : Context)
    (actor certificateID csrPEM : Text) (requestedNotAfter : Time) (action : Text) :
    Op Enrollment := do
  Op.require (¬ isBlank certificateID) .invalidRequest
  let certificate ← repo (getCertificate certificateID)
  Op.require (certificate.status = .valid) .invalidTransition
  let req := replacementRequest certificate csrPEM requestedNotAfter
  let now ← Op.now
  Op.ofExcept (validateCreateEnrollmentRequest req now)
  let csrInfo ← inspectCSR req.csrPEM
  -- The names are compared before the profile and the identity are read.
  Op.require (sameStringSet req.requestedDNSNames csrInfo.dnsNames ∧
    sameStringSet req.requestedIPAddresses csrInfo.ipAddresses) .invalidRequest
  let profile ← requestedProfile req.certificateProfileID req.issuerID
  let identity ← repo (getIdentity req.identityID)
  Op.ofExcept (s.checkEnrollment req profile identity csrInfo now)
  withinTx (s.replacementEnrollmentTx ctx actor certificateID req csrInfo
      (policyValidationEvidenceRefs req profile identity) action now)
    fun enrollment => some (.enrollmentCreated enrollment.id)

def Service.renewCertificate (s : Service) (ctx : Context) (actor certificateID : Text)
    (req : RenewCertificateRequest) : Op Enrollment :=
  s.createCertificateReplacementEnrollment ctx actor certificateID req.csrPEM
    req.requestedNotAfter "certificate.renewal_requested"

def Service.reissueCertificate (s : Service) (ctx : Context) (actor certificateID : Text)
    (req : ReissueCertificateRequest) : Op Enrollment := do
  Op.require (¬ isBlank certificateID) .invalidRequest
  let certificate ← repo (getCertificate certificateID)
  s.createCertificateReplacementEnrollment ctx actor certificateID req.csrPEM
    certificate.notAfter "certificate.reissue_requested"

/-- The transaction of `ApproveEnrollmentWithReason`. -/
def Service.approveEnrollmentTx (s : Service) (ctx : Context) (actor id reason : Text)
    (now : Time) : Repo Enrollment := do
  let enrollment ← getEnrollment id
  Tx.require (enrollment.status = .pending) (ErrKind.err .invalidTransition)
  let enrollment := { enrollment with
    status := .approved
    approvedBy := actor
    approvedAt := now
    updatedAt := now }
  updateEnrollmentIfStatus enrollment .pending
  let fields := addStatusTransition (enrollmentAuditFields enrollment)
    EnrollmentStatus.pending.text enrollment.status.text
  let fields ← addIdentityDeploymentTarget enrollment.identityID fields
  let fields := if isBlank reason then fields
    else fields.setText "approval_reason" reason.trimSpace
  s.createAuditEvent ctx actor "enrollment.approved" "enrollment" enrollment.id now fields
  pure enrollment

def Service.approveEnrollmentWithReason (s : Service) (ctx : Context) (actor id reason : Text) :
    Op Enrollment := do
  Op.require (¬ isBlank id) .invalidRequest
  let now ← Op.now
  withinTx (s.approveEnrollmentTx ctx actor id reason now)
    fun enrollment => some (.enrollmentApproved enrollment.id)

def Service.approveEnrollment (s : Service) (ctx : Context) (actor id : Text) : Op Enrollment :=
  s.approveEnrollmentWithReason ctx actor id []

/-- The transaction of `RejectEnrollment`. -/
def Service.rejectEnrollmentTx (s : Service) (ctx : Context) (actor id : Text) (now : Time) :
    Repo Enrollment := do
  let enrollment ← getEnrollment id
  Tx.require (enrollment.status = .pending) (ErrKind.err .invalidTransition)
  let enrollment := { enrollment with status := .rejected, updatedAt := now }
  updateEnrollmentIfStatus enrollment .pending
  let fields := addStatusTransition (enrollmentAuditFields enrollment)
    EnrollmentStatus.pending.text enrollment.status.text
  let fields ← addIdentityDeploymentTarget enrollment.identityID fields
  s.createAuditEvent ctx actor "enrollment.rejected" "enrollment" enrollment.id now fields
  pure enrollment

def Service.rejectEnrollment (s : Service) (ctx : Context) (actor id : Text) : Op Enrollment := do
  Op.require (¬ isBlank id) .invalidRequest
  let now ← Op.now
  withinTx (s.rejectEnrollmentTx ctx actor id now) fun _ => none

end AnoPki.Lifecycle
