import AnoPki.Lifecycle.Issuance

/-! # The status of certificates

Suspending, resuming, revoking and expiring certificates. Each change is one transaction that also
writes the audit event and the outbox message for it. -/
namespace AnoPki.Lifecycle

open Foundation Domain Store

/-- The transaction of `transitionCertificateStatus`. -/
def Service.transitionCertificateStatusTx (s : Service) (ctx : Context)
    (actor certificateID : Text) (currentStatus nextStatus : CertificateStatus) (action : Text)
    (now : Time) : Repo Certificate := do
  let certificate ← getCertificate certificateID
  Tx.require (certificate.status = currentStatus) (ErrKind.err .invalidTransition)
  let certificate := { certificate with status := nextStatus, updatedAt := now }
  updateCertificateIfStatus certificate currentStatus
  let fields ← addIdentityDeploymentTarget certificate.identityID
    (certificateAuditFields certificate)
  let fields := addStatusTransition fields currentStatus.text nextStatus.text
  s.createAuditEvent ctx actor action "certificate" certificate.id now fields
  s.createOutboxMessage action now fields
  pure certificate

def Service.transitionCertificateStatus (s : Service) (ctx : Context)
    (actor certificateID : Text) (currentStatus nextStatus : CertificateStatus) (action : Text) :
    Op Certificate := do
  let now ← Op.now
  withinTx (s.transitionCertificateStatusTx ctx actor certificateID currentStatus nextStatus action
    now) fun _ => none

def Service.suspendCertificate (s : Service) (ctx : Context) (actor certificateID : Text) :
    Op Certificate := do
  Op.require (¬ isBlank certificateID) .invalidRequest
  s.transitionCertificateStatus ctx actor certificateID .valid .suspended "certificate.suspended"

def Service.resumeCertificate (s : Service) (ctx : Context) (actor certificateID : Text) :
    Op Certificate := do
  Op.require (¬ isBlank certificateID) .invalidRequest
  s.transitionCertificateStatus ctx actor certificateID .suspended .valid "certificate.resumed"

def canRevokeCertificateStatus (status : CertificateStatus) (force : Bool) : Bool :=
  status = .valid || (force && status = .suspended)

def isValidRevocationReason : RevocationReason → Bool
  | .unknown _ => false
  | _ => true

def revocationAction (force : Bool) : Text :=
  if force then "certificate.force_revoked" else "certificate.revoked"

def revocationAuditFields (certificate : Certificate) (reason : RevocationReason) : Fields :=
  auditFields [
    ("identity_id", certificate.identityID),
    ("issuer_id", certificate.issuerID),
    ("enrollment_id", certificate.enrollmentID),
    ("certificate_id", certificate.id),
    ("serial_number", certificate.serialNumber),
    ("profile_id", certificate.certificateProfileID),
    ("revocation_reason", reason.text)]

/-- The transaction of `revokeCertificate`. -/
def Service.revokeCertificateTx (s : Service) (ctx : Context) (actor certificateID : Text)
    (reason : RevocationReason) (force : Bool) (now : Time) : Repo Certificate := do
  let certificate ← getCertificate certificateID
  Tx.require (canRevokeCertificateStatus certificate.status force) (ErrKind.err .invalidTransition)
  let currentStatus := certificate.status
  let certificate := { certificate with status := .revoked, updatedAt := now }
  updateCertificateIfStatus certificate currentStatus
  let id ← s.newID
  createRevocation {
    id, reason
    certificateID := certificate.id
    revokedBy := actor
    revokedAt := now
    createdAt := now }
  let fields ← addIdentityDeploymentTarget certificate.identityID
    (revocationAuditFields certificate reason)
  let fields := addStatusTransition fields currentStatus.text certificate.status.text
  s.createAuditEvent ctx actor (revocationAction force) "certificate" certificate.id now fields
  s.createOutboxMessage (revocationAction force) now fields
  pure certificate

/-- `revokeCertificate`. -/
def Service.revokeWith (s : Service) (ctx : Context) (actor certificateID : Text)
    (reason : RevocationReason) (force : Bool) : Op Certificate := do
  Op.require (¬ (isBlank certificateID ∨ isValidRevocationReason reason = false)) .invalidRequest
  let now ← Op.now
  withinTx (s.revokeCertificateTx ctx actor certificateID reason force now) fun _ => none

def Service.revokeCertificate (s : Service) (ctx : Context) (actor certificateID : Text)
    (reason : RevocationReason) : Op Certificate :=
  s.revokeWith ctx actor certificateID reason false

def Service.forceRevokeCertificate (s : Service) (ctx : Context) (actor certificateID : Text)
    (reason : RevocationReason) : Op Certificate :=
  s.revokeWith ctx actor certificateID reason true

def certificateIsExpiredCandidate (certificate : Certificate) (now : Time) : Prop :=
  (certificate.status = .valid ∨ certificate.status = .suspended) ∧
    ¬ certificate.notAfter.after now
deriving Decidable

def certificateNeedsRenewalWarning (certificate : Certificate) (now warningBefore : Time) : Prop :=
  certificate.status = .valid ∧ certificate.notAfter.after now ∧
    ¬ certificate.notAfter.after warningBefore ∧ certificate.renewalNotifiedAt.isZero
deriving Decidable

def certificateExpirationAuditFields (certificate : Certificate) (warningWindow : Int64) : Fields :=
  let fields := (certificateAuditFields certificate).setText "not_after"
    certificate.notAfter.rfc3339
  -- `int64(warningWindow.Seconds())`
  fields.set "warning_window_seconds"
    (.number (Text.decimalInt (warningWindow.toInt.tdiv 1000000000)))

/-- A change of a certificate by the scan, with its audit event and message. A certificate whose
status has changed meanwhile is passed over. -/
def Service.scanChange (s : Service) (ctx : Context) (actor : Text) (warningWindow : Int64)
    (now : Time) (updated : Certificate) (expected : CertificateStatus) (action : Text) :
    Repo Bool := do
  match ← Tx.attempt (updateCertificateIfStatus updated expected) with
  | .error err => if err.kind = .invalidTransition then pure false else Tx.fail err
  | .ok () =>
    let fields ← addIdentityDeploymentTarget updated.identityID
      (certificateExpirationAuditFields updated warningWindow)
    s.createAuditEvent ctx actor action "certificate" updated.id now fields
    s.createOutboxMessage action now fields
    pure true

structure CertificateExpirationScanResult where
  expired : List Certificate := []
  expirationWarnings : List Certificate := []
deriving DecidableEq, Repr

/-- One turn of the scan's loop. -/
def Service.scanCertificate (s : Service) (ctx : Context) (actor : Text)
    (req : ScanCertificateExpirationsRequest) (now : Time)
    (result : CertificateExpirationScanResult) (certificate : Certificate) :
    Repo CertificateExpirationScanResult :=
  if certificateIsExpiredCandidate certificate now then do
    let updated := { certificate with status := .expired, updatedAt := now }
    let changed ← s.scanChange ctx actor req.warningWindow now updated certificate.status
      "certificate.expired"
    pure (if changed then { result with expired := result.expired ++ [updated] } else result)
  else if certificateNeedsRenewalWarning certificate now (now.add req.warningWindow.toInt) then do
    let updated := { certificate with renewalNotifiedAt := now, updatedAt := now }
    let changed ← s.scanChange ctx actor req.warningWindow now updated .valid
      "certificate.expiration_warning"
    pure (if changed then
      { result with expirationWarnings := result.expirationWarnings ++ [updated] } else result)
  else pure result

/-- The transaction of `ScanCertificateExpirations`. -/
def Service.scanTx (s : Service) (ctx : Context) (actor : Text)
    (req : ScanCertificateExpirationsRequest) (now : Time) :
    Repo CertificateExpirationScanResult := do
  let candidates ← listCertificatesForExpirationScan now (now.add req.warningWindow.toInt) req.limit
  Tx.fold (s.scanCertificate ctx actor req now) {} candidates

def Service.scanCertificateExpirations (s : Service) (ctx : Context) (actor : Text)
    (req : ScanCertificateExpirationsRequest) : Op CertificateExpirationScanResult := do
  Op.require (¬ (req.warningWindow < 0 ∨ req.limit ≤ 0)) .invalidRequest
  let now ← Op.now
  withinTx (s.scanTx ctx actor req now) fun _ => none

end AnoPki.Lifecycle
