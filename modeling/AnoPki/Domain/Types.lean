import AnoPki.Foundation.Time

/-! # Domain records

The records the service stores and the errors its operations return. -/
namespace AnoPki.Domain

open Foundation

/-- The sentinel an error wraps. -/
inductive ErrKind where
  | invalidRequest
  | unsupportedMediaType
  | unauthorized
  | forbidden
  | identityNotFound
  | issuerNotFound
  | ocspResponderNotFound
  | certificateProfileNotFound
  | enrollmentNotFound
  | certificateNotFound
  | issuanceAttemptNotFound
  | crlPublicationNotFound
  | crlGenerationClaimNotFound
  | outboxMessageNotFound
  | webhookDeliveryNotFound
  | apiKeyNotFound
  | acmeAccountNotFound
  | acmeAccountDeactivated
  | acmeOrderNotFound
  | acmeAuthorizationNotFound
  | acmeChallengeNotFound
  | invalidTransition
  | csrParseFailed
  | certificateIssuanceFailed
  | crlGenerationFailed
  | ocspDecodeFailed
  | ocspResponseFailed
  | ocspResponderValidationFailed
  | auditIntegrity
  | storageFailure
  | outboxHandlerNotFound
  /-- An error that wraps none of the sentinels. -/
  | other
deriving DecidableEq, Repr

/-- The text of a sentinel. -/
def ErrKind.text : ErrKind → Text
  | invalidRequest => "invalid request"
  | unsupportedMediaType => "unsupported media type"
  | unauthorized => "unauthorized"
  | forbidden => "forbidden"
  | identityNotFound => "identity not found"
  | issuerNotFound => "issuer not found"
  | ocspResponderNotFound => "ocsp responder not found"
  | certificateProfileNotFound => "certificate profile not found"
  | enrollmentNotFound => "enrollment not found"
  | certificateNotFound => "certificate not found"
  | issuanceAttemptNotFound => "issuance attempt not found"
  | crlPublicationNotFound => "crl publication not found"
  | crlGenerationClaimNotFound => "crl generation claim not found"
  | outboxMessageNotFound => "outbox message not found"
  | webhookDeliveryNotFound => "webhook delivery not found"
  | apiKeyNotFound => "api key not found"
  | acmeAccountNotFound => "acme account not found"
  | acmeAccountDeactivated => "acme account deactivated"
  | acmeOrderNotFound => "acme order not found"
  | acmeAuthorizationNotFound => "acme authorization not found"
  | acmeChallengeNotFound => "acme challenge not found"
  | invalidTransition => "invalid lifecycle transition"
  | csrParseFailed => "csr parse failed"
  | certificateIssuanceFailed => "certificate issuance failed"
  | crlGenerationFailed => "crl generation failed"
  | ocspDecodeFailed => "ocsp decode failed"
  | ocspResponseFailed => "ocsp response failed"
  | ocspResponderValidationFailed => "ocsp responder validation failed"
  | auditIntegrity => "audit integrity check failed"
  | storageFailure => "storage failure"
  | outboxHandlerNotFound => "outbox handler not found"
  | other => []

/-- Why a policy refused a request, with references to what was checked. -/
structure PolicyDecision where
  reason : Text
  evidenceRefs : List Text := []
deriving DecidableEq, Repr

/-- An error: the sentinel it wraps, if any, the text that follows the sentinel's own, and the
policy decision it reports. -/
structure Err where
  kind : ErrKind
  detail : Text := []
  policy : Option PolicyDecision := none
deriving DecidableEq, Repr

/-- What `Error()` returns. -/
def Err.text (err : Err) : Text :=
  if err.kind = .other then err.detail
  else if err.detail = [] then err.kind.text
  else err.kind.text ++ [':', ' '] ++ err.detail

def ErrKind.err (kind : ErrKind) : Err := { kind }

structure AuditEvent where
  id : Text
  sequence : Int64
  actor : Text
  action : Text
  resourceType : Text
  resourceID : Text
  metadataJSON : Text
  hashAlgorithm : Text
  previousEventHash : Text
  eventHash : Text
  createdAt : Time
deriving DecidableEq, Repr

structure AuditChainCheckpoint where
  sequence : Int64
  hashAlgorithm : Text
  eventHash : Text
deriving DecidableEq, Repr

/-- The report of a verification of the audit chain. -/
structure AuditIntegrity where
  valid : Bool
  hashAlgorithm : Text
  eventCount : Nat
  firstSequence : Int64
  lastSequence : Int64
  lastEventHash : Text
  checkpointSequence : Int64
  checkpointEventHash : Text
  failureReason : Text
deriving DecidableEq, Repr

inductive EnrollmentStatus where
  | pending
  | approved
  | rejected
  | issued
  | canceled
deriving DecidableEq, Repr

def EnrollmentStatus.text : EnrollmentStatus → Text
  | pending => "pending"
  | approved => "approved"
  | rejected => "rejected"
  | issued => "issued"
  | canceled => "canceled"

inductive IssuanceAttemptStatus where
  | signing
  | signed
  | finalized
  | failed
deriving DecidableEq, Repr

inductive CertificateStatus where
  | valid
  | suspended
  | revoked
  | expired
deriving DecidableEq, Repr

def CertificateStatus.text : CertificateStatus → Text
  | valid => "valid"
  | suspended => "suspended"
  | revoked => "revoked"
  | expired => "expired"

inductive OutboxMessageStatus where
  | pending
  | processing
  | completed
  | failed
  | deadLetter
deriving DecidableEq, Repr

inductive JobAttemptStatus where
  | succeeded
  | failed
deriving DecidableEq, Repr

inductive NotificationEndpointType where
  | webhook
deriving DecidableEq, Repr

inductive OCSPResponderStatus where
  | active
  | disabled
deriving DecidableEq, Repr

inductive NotificationEndpointStatus where
  | active
  | disabled
deriving DecidableEq, Repr

inductive APIKeyStatus where
  | active
  | disabled
deriving DecidableEq, Repr

def APIKeyStatus.text : APIKeyStatus → Text
  | active => "active"
  | disabled => "disabled"

inductive APIKeyScope where
  | read
  | write
  | operator
deriving DecidableEq, Repr

def APIKeyScope.text : APIKeyScope → Text
  | read => "read"
  | write => "write"
  | operator => "operator"

inductive ACMEAccountStatus where
  | valid
  | deactivated
deriving DecidableEq, Repr

inductive ACMEOrderStatus where
  | pending
  | ready
  | valid
  | invalid
deriving DecidableEq, Repr

inductive ACMEAuthorizationStatus where
  | pending
  | valid
  | invalid
deriving DecidableEq, Repr

inductive ACMEChallengeType where
  | http01
  | dns01
deriving DecidableEq, Repr

def ACMEChallengeType.text : ACMEChallengeType → Text
  | http01 => "http-01"
  | dns01 => "dns-01"

inductive ACMEChallengeStatus where
  | pending
  | processing
  | valid
  | invalid
deriving DecidableEq, Repr

/-- A revocation reason; a request may also bring a text that is none of them. -/
inductive RevocationReason where
  | keyCompromise
  | caCompromise
  | affiliationChanged
  | superseded
  | cessationOfOperation
  | privilegeWithdrawn
  | unspecified
  | unknown (text : Text)
deriving DecidableEq, Repr

def RevocationReason.text : RevocationReason → Text
  | keyCompromise => "key_compromise"
  | caCompromise => "ca_compromise"
  | affiliationChanged => "affiliation_changed"
  | superseded => "superseded"
  | cessationOfOperation => "cessation_of_operation"
  | privilegeWithdrawn => "privilege_withdrawn"
  | unspecified => "unspecified"
  | unknown text => text

/-- A kind of identity; a request may also bring a text that is none of them. -/
inductive IdentityType where
  | user
  | machine
  | service
  | iotDevice
  | workload
  | unknown (text : Text)
deriving DecidableEq, Repr

inductive IdentityStatus where
  | active
  | disabled
deriving DecidableEq, Repr

structure Identity where
  id : Text
  type : IdentityType := .unknown []
  name : Text := []
  externalID : Text := []
  owner : Text := []
  team : Text := []
  service : Text := []
  environment : Text := []
  deploymentTarget : Text := []
  lastSeenAt : Time := Time.zero
  metadataJSON : Text := []
  allowedDNSNames : List Text := []
  allowedIPAddresses : List Text := []
  status : IdentityStatus := .active
  createdAt : Time := Time.zero
  updatedAt : Time := Time.zero
deriving DecidableEq, Repr

/-- A kind of issuer; a request may also bring a text that is none of them. -/
inductive IssuerKind where
  | rootCA
  | intermediateCA
  | unknown (text : Text)
deriving DecidableEq, Repr

inductive IssuerStatus where
  | active
  | disabled
deriving DecidableEq, Repr

structure Issuer where
  id : Text
  name : Text := []
  kind : IssuerKind := .unknown []
  status : IssuerStatus := .active
  parentIssuerID : Text := []
  certificatePEM : Text := []
  keyRef : Text := []
  aiaURL : Text := []
  crlDistributionPoints : List Text := []
  trustAnchor : Bool := false
  createdAt : Time := Time.zero
  updatedAt : Time := Time.zero
deriving DecidableEq, Repr

structure StringListExtensionPolicy where
  critical : Bool := false
  values : List Text := []
deriving DecidableEq, Repr

structure BasicConstraintsPolicy where
  critical : Bool := false
  ca : Bool := false
  maxPathLen : Option Int64 := none
deriving DecidableEq, Repr

/-- A profile; the value without any field given stands for no profile. -/
structure CertificateProfile where
  id : Text := []
  name : Text := []
  description : Text := []
  issuerID : Text := []
  validityPeriodSeconds : Int64 := 0
  publicTLS : Bool := false
  subjectTemplate : Text := []
  allowedDNSPatterns : List Text := []
  allowedIPRanges : List Text := []
  allowedKeyAlgorithms : List Text := []
  minKeySizeBits : Int64 := 0
  allowedSignatureAlgorithms : List Text := []
  keyUsage : StringListExtensionPolicy := {}
  extendedKeyUsage : StringListExtensionPolicy := {}
  basicConstraints : BasicConstraintsPolicy := {}
  subjectKeyIdentifier : Bool := false
  authorityKeyIdentifier : Bool := false
  createdAt : Time := Time.zero
  updatedAt : Time := Time.zero
deriving DecidableEq, Repr

structure Enrollment where
  id : Text
  identityID : Text
  issuerID : Text
  certificateProfileID : Text
  sourceCertificateID : Text := []
  csrPEM : Text
  status : EnrollmentStatus
  requestedSubject : Text
  requestedDNSNames : List Text
  requestedIPAddresses : List Text
  csrDNSNames : List Text
  csrIPAddresses : List Text
  requestedNotAfter : Time
  approvedBy : Text := []
  approvedAt : Time := Time.zero
  createdAt : Time
  updatedAt : Time
deriving DecidableEq, Repr

structure Certificate where
  id : Text
  identityID : Text
  issuerID : Text
  enrollmentID : Text
  certificateProfileID : Text
  serialNumber : Text
  subject : Text
  dnsNames : List Text
  ipAddresses : List Text
  notBefore : Time
  notAfter : Time
  status : CertificateStatus
  certificatePEM : Text
  renewalNotifiedAt : Time := Time.zero
  createdAt : Time
  updatedAt : Time
deriving DecidableEq, Repr

structure IssuanceAttempt where
  enrollmentID : Text
  status : IssuanceAttemptStatus
  leaseExpiresAt : Time
  certificateID : Text := []
  certificatePEM : Text := []
  serialNumber : Text := []
  subject : Text := []
  notBefore : Time := Time.zero
  notAfter : Time := Time.zero
  signingStartedAt : Time
  signedAt : Time := Time.zero
  finalizedAt : Time := Time.zero
  lastError : Text := []
  signingEvidenceJSON : Text := []
  createdAt : Time
  updatedAt : Time
deriving DecidableEq, Repr

structure Revocation where
  id : Text
  certificateID : Text
  reason : RevocationReason
  revokedBy : Text
  revokedAt : Time
  createdAt : Time
deriving DecidableEq, Repr

/-- A revoked certificate as a list of revoked certificates names it. -/
structure RevokedCertificateEntry where
  certificateID : Text
  serialNumber : Text
  revokedAt : Time
  reason : RevocationReason
deriving DecidableEq, Repr

inductive CRLPublicationStatus where
  | published
deriving DecidableEq, Repr

structure CRLPublication where
  id : Text
  issuerID : Text
  distributionPoint : Text
  crlNumber : Int64
  thisUpdate : Time
  nextUpdate : Time
  status : CRLPublicationStatus
  crlPEM : Text
  createdAt : Time
  updatedAt : Time
deriving DecidableEq, Repr

structure CRLGenerationClaim where
  issuerID : Text
  distributionPoint : Text
  crlNumber : Int64
  leaseExpiresAt : Time
  createdAt : Time
  updatedAt : Time
deriving DecidableEq, Repr

structure OutboxMessage where
  id : Text
  type : Text
  payloadJSON : Text
  status : OutboxMessageStatus
  availableAt : Time
  processingDeadlineAt : Time := Time.zero
  attemptCount : Int64 := 0
  maxAttempts : Int64
  lastError : Text := []
  createdAt : Time
  updatedAt : Time
deriving DecidableEq, Repr

structure JobAttempt where
  id : Text
  outboxMessageID : Text
  status : JobAttemptStatus
  error : Text
  startedAt : Time
  finishedAt : Time
  createdAt : Time
deriving DecidableEq, Repr

structure OCSPResponder where
  id : Text
  issuerID : Text
  name : Text
  status : OCSPResponderStatus
  certificatePEM : Text
  keyRef : Text
  createdAt : Time
  updatedAt : Time
deriving DecidableEq, Repr

structure NotificationEndpoint where
  id : Text
  type : NotificationEndpointType
  status : NotificationEndpointStatus
  url : Text
  secret : Text
  eventTypes : List Text
  createdAt : Time
deriving DecidableEq, Repr

structure WebhookDelivery where
  outboxMessageID : Text
  endpointID : Text
  status : JobAttemptStatus
  attemptCount : Int64
  lastError : Text
  lastAttemptedAt : Time
  createdAt : Time
  updatedAt : Time
deriving DecidableEq, Repr

structure APIKey where
  id : Text
  name : Text
  tokenHash : Text
  status : APIKeyStatus
  actor : Text
  scopes : List APIKeyScope
  expiresAt : Time := Time.zero
  lastUsedAt : Time := Time.zero
  createdAt : Time
  updatedAt : Time
deriving DecidableEq, Repr

structure ACMEAccount where
  id : Text
  contacts : List Text := []
  status : ACMEAccountStatus
  termsOfServiceAgreed : Bool := false
  keyThumbprint : Text
  keyJWKJSON : Text := []
  createdAt : Time := Time.zero
  updatedAt : Time := Time.zero
deriving DecidableEq, Repr

structure ACMEOrder where
  id : Text
  accountID : Text
  identityID : Text
  issuerID : Text
  certificateProfileID : Text
  status : ACMEOrderStatus
  csrPEM : Text := []
  requestedSubject : Text := []
  requestedDNSNames : List Text
  requestedIPAddresses : List Text
  requestedNotAfter : Time
  enrollmentID : Text := []
  certificateID : Text := []
  expiresAt : Time
  createdAt : Time
  updatedAt : Time
deriving DecidableEq, Repr

structure ACMEAuthorization where
  id : Text
  orderID : Text
  identifierType : Text
  identifierValue : Text
  status : ACMEAuthorizationStatus
  expiresAt : Time
  validationReuseExpiresAt : Time := Time.zero
  createdAt : Time
  updatedAt : Time
deriving DecidableEq, Repr

structure ACMEChallenge where
  id : Text
  authorizationID : Text
  type : ACMEChallengeType
  token : Text
  status : ACMEChallengeStatus
  validatedAt : Time := Time.zero
  createdAt : Time
  updatedAt : Time
deriving DecidableEq, Repr

end AnoPki.Domain
