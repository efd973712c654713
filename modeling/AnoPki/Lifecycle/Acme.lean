import AnoPki.Lifecycle.Certificates

/-! # ACME orders

Orders, their authorizations and challenges, and the finalization of an order: a chain of separate
transactions that creates, approves and issues an enrollment before it updates the order. -/
namespace AnoPki.Lifecycle

open Foundation Domain Store ErrKind

/-- A day. -/
def defaultACMEAuthorizationLifetime : Int := 86400000000000

def acmeExpired (expiresAt now : Time) : Prop := ¬ expiresAt.isZero ∧ ¬ expiresAt.after now
deriving Decidable

def validateCreateACMEOrderRequest (req : CreateACMEOrderRequest) (now : Time) :
    Except Err Unit := do
  let invalid := err .invalidRequest
  demand (¬ (isBlank req.accountID ∨ isBlank req.identityID ∨ isBlank req.issuerID)) invalid
  demand (¬ (req.requestedDNSNames = [] ∧ req.requestedIPAddresses = [])) invalid
  demand (req.requestedNotAfter.after now) invalid
  demand (¬ req.requestedDNSNames.any isBlank) invalid
  demand (¬ req.requestedIPAddresses.any isBlank) invalid

/-- `validatePublicTLSCAA`: each name is checked in turn. -/
def Service.validatePublicTLSCAA (s : Service) (dnsNames : List Text) : Op Unit :=
  if dnsNames = [] then pure ()
  else do
    Op.require (s.publicTLSCAAPolicy = true) .invalidRequest
    Op.forEach dnsNames fun dnsName =>
      Op.ask (fun oracle => oracle.checkCAA) fun _ => some (.caaAllowed dnsName)

def newACMEOrder (id : Text) (req : CreateACMEOrderRequest) (now : Time) : ACMEOrder where
  id := id
  accountID := req.accountID
  identityID := req.identityID
  issuerID := req.issuerID
  certificateProfileID := req.certificateProfileID
  status := .pending
  requestedDNSNames := req.requestedDNSNames
  requestedIPAddresses := req.requestedIPAddresses
  requestedNotAfter := req.requestedNotAfter
  expiresAt := now.add defaultACMEAuthorizationLifetime
  createdAt := now
  updatedAt := now

def newACMEAuthorization (id orderID identifierType identifierValue : Text) (now : Time) :
    ACMEAuthorization where
  id := id
  orderID := orderID
  identifierType := identifierType
  identifierValue := identifierValue
  status := .pending
  expiresAt := now.add defaultACMEAuthorizationLifetime
  createdAt := now
  updatedAt := now

def newACMEChallenge (id authorizationID token : Text) (type : ACMEChallengeType) (now : Time) :
    ACMEChallenge where
  id := id
  authorizationID := authorizationID
  type := type
  token := token
  status := .pending
  createdAt := now
  updatedAt := now

/-- An authorization with its one challenge. -/
def Service.createACMEAuthorization (s : Service) (orderID identifierType : Text) (now : Time)
    (identifierValue : Text) : Repo Unit := do
  let id ← s.newID
  Store.createACMEAuthorization (newACMEAuthorization id orderID identifierType identifierValue now)
  let challengeID ← s.newID
  let token ← s.newID
  createACMEChallenge (newACMEChallenge challengeID id token .http01 now)

def Service.createACMEAuthorizations (s : Service) (order : ACMEOrder) (now : Time) :
    Repo Unit := do
  Tx.fold (fun _ name => s.createACMEAuthorization order.id "dns" now name) ()
    order.requestedDNSNames
  Tx.fold (fun _ address => s.createACMEAuthorization order.id "ip" now address) ()
    order.requestedIPAddresses

/-- What an order's request asks of the identity. -/
def orderPolicyRequest (req : CreateACMEOrderRequest) : CreateEnrollmentRequest where
  identityID := req.identityID
  issuerID := req.issuerID
  certificateProfileID := req.certificateProfileID
  requestedDNSNames := req.requestedDNSNames
  requestedIPAddresses := req.requestedIPAddresses
  requestedNotAfter := req.requestedNotAfter

/-- The account may be used. -/
def requireValidAccount (account : ACMEAccount) : Repo Unit := do
  Tx.require (account.status ≠ .deactivated) (err .acmeAccountDeactivated)
  Tx.require (account.status = .valid) (err .invalidRequest)

/-- The profile an order names has to exist. -/
def checkProfileExists (profileID : Text) : Repo Unit :=
  if profileID = [] then pure ()
  else do
    let _ ← getCertificateProfile profileID
    pure ()

/-- The transaction of `CreateACMEOrder`. -/
def Service.createACMEOrderTx (s : Service) (ctx : Context) (actor : Text)
    (req : CreateACMEOrderRequest) (now : Time) : Repo ACMEOrder := do
  let id ← s.newID
  let order := newACMEOrder id req now
  let account ← getACMEAccount req.accountID
  requireValidAccount account
  let identity ← getIdentity req.identityID
  Tx.query fun _ => validateEnrollmentIdentityPolicy (orderPolicyRequest req) identity
  let _ ← getIssuer req.issuerID
  checkProfileExists req.certificateProfileID
  Store.createACMEOrder order
  s.createACMEAuthorizations order now
  s.createAuditEvent ctx actor "acme.order.created" "acme_order" order.id now (auditFields [
    ("acme_account_id", order.accountID),
    ("acme_order_id", order.id),
    ("identity_id", order.identityID),
    ("issuer_id", order.issuerID),
    ("profile_id", order.certificateProfileID)])
  pure order

/-- The names of an order for a public profile need the CAA policy's consent. -/
def Service.checkOrderProfile (s : Service) (req : CreateACMEOrderRequest) : Op Unit :=
  if req.certificateProfileID = [] then pure ()
  else do
    let profile ← repo (getCertificateProfile req.certificateProfileID)
    if profile.publicTLS then s.validatePublicTLSCAA req.requestedDNSNames else pure ()

def Service.createACMEOrder (s : Service) (ctx : Context) (actor : Text)
    (req : CreateACMEOrderRequest) : Op ACMEOrder := do
  let now ← Op.now
  Op.ofExcept (validateCreateACMEOrderRequest req now)
  s.checkOrderProfile req
  withinTx (s.createACMEOrderTx ctx actor req now) fun _ => none

/-- The start of an era of public TLS and the longest time a validation may be reused in it, in
nanoseconds. -/
def publicTLSValidationReuseCeilingSchedule : List (Time × Int) :=
  [(⟨63909129600000000000, 0⟩, 200 * 86400000000000),
    (⟨63940665600000000000, 0⟩, 100 * 86400000000000),
    (⟨64003824000000000000, 0⟩, 10 * 86400000000000)]

example : publicTLSValidationReuseCeilingSchedule.map (fun era => era.1.rfc3339) =
    ["2026-03-15T00:00:00Z".toList, "2027-03-15T00:00:00Z".toList,
      "2029-03-15T00:00:00Z".toList] := by
  decide +kernel

def publicTLSValidationReuseCeiling (now : Time) : Int :=
  publicTLSValidationReuseCeilingSchedule.foldl
    (fun maxValidity ceiling => if now.before ceiling.1 then maxValidity else ceiling.2)
    (200 * 86400000000000)

def promoteACMEOrderIfReady (order : ACMEOrder) (now : Time) : Repo Unit := do
  if order.status ≠ .pending then pure ()
  else do
    let authorizations ← listACMEAuthorizationsByOrder order.id
    if authorizations.any fun authorization => decide (authorization.status ≠ .valid) then pure ()
    else updateACMEOrderIfStatus { order with status := .ready, updatedAt := now } .pending

def promoteACMEAuthorizationIfReady (authorization : ACMEAuthorization) (now : Time) :
    Repo Unit := do
  let challenges ← listACMEChallengesByAuthorization authorization.id
  if challenges.any fun challenge => decide (challenge.status ≠ .valid) then pure ()
  else do
    updateACMEAuthorizationIfStatus { authorization with
      status := .valid
      validationReuseExpiresAt := now.add (publicTLSValidationReuseCeiling now)
      updatedAt := now } .pending
    let order ← getACMEOrder authorization.orderID
    promoteACMEOrderIfReady order now

def acmeChallengeAuditFields (challenge : ACMEChallenge) (authorization : ACMEAuthorization) :
    Fields :=
  let fields := auditFields [
    ("acme_challenge_id", challenge.id),
    ("acme_authorization_id", authorization.id),
    ("acme_order_id", authorization.orderID),
    ("identifier_type", authorization.identifierType),
    ("identifier_value", authorization.identifierValue),
    ("challenge_type", challenge.type.text),
    ("validation_method", challenge.type.text)]
  let fields := if challenge.validatedAt.isZero then fields
    else fields.setText "validated_at" challenge.validatedAt.rfc3339
  if authorization.validationReuseExpiresAt.isZero then fields
  else fields.setText "validation_reuse_expires_at" authorization.validationReuseExpiresAt.rfc3339

/-- A challenge that is still open, with its authorization. -/
def openChallenge (challengeID : Text) : Repo (ACMEChallenge × ACMEAuthorization) := do
  let challenge ← getACMEChallenge challengeID
  Tx.require (challenge.status = .pending ∨ challenge.status = .processing)
    (err .invalidTransition)
  let authorization ← getACMEAuthorization challenge.authorizationID
  Tx.require (authorization.status = .pending) (err .invalidTransition)
  pure (challenge, authorization)

/-- The transaction of `CompleteACMEChallenge`. -/
def Service.completeACMEChallengeTx (s : Service) (ctx : Context) (actor challengeID : Text)
    (now : Time) : Repo ACMEChallenge := do
  let (challenge, authorization) ← openChallenge challengeID
  let completed := { challenge with status := .valid, validatedAt := now, updatedAt := now }
  updateACMEChallengeIfStatus completed challenge.status
  promoteACMEAuthorizationIfReady authorization now
  let authorization ← getACMEAuthorization authorization.id
  s.createAuditEvent ctx actor "acme.challenge.completed" "acme_challenge" completed.id now
    (acmeChallengeAuditFields completed authorization)
  pure completed

def Service.completeACMEChallenge (s : Service) (ctx : Context) (actor challengeID : Text) :
    Op ACMEChallenge := do
  Op.require (¬ isBlank challengeID) .invalidRequest
  let now ← Op.now
  withinTx (s.completeACMEChallengeTx ctx actor challengeID now) fun _ => none

/-- The transaction of `markACMEChallengeProcessing`. -/
def Service.markACMEChallengeProcessingTx (s : Service) (ctx : Context)
    (actor challengeID : Text) (now : Time) : Repo ACMEChallenge := do
  let (challenge, authorization) ← openChallenge challengeID
  let processing := { challenge with status := .processing, updatedAt := now }
  updateACMEChallengeIfStatus processing challenge.status
  s.createAuditEvent ctx actor "acme.challenge.processing" "acme_challenge" processing.id now
    (acmeChallengeAuditFields processing authorization)
  pure processing

def Service.markACMEChallengeProcessing (s : Service) (ctx : Context)
    (actor challengeID : Text) : Op ACMEChallenge := do
  let now ← Op.now
  withinTx (s.markACMEChallengeProcessingTx ctx actor challengeID now) fun _ => none

structure ACMEHTTP01ValidationContext where
  challenge : ACMEChallenge
  identifierValue : Text
  keyAuthorization : Text

def acmeHTTP01ValidationContext (challengeID : Text) : Op ACMEHTTP01ValidationContext := do
  Op.require (¬ isBlank challengeID) .invalidRequest
  let challenge ← repo (getACMEChallenge challengeID)
  Op.require (challenge.type = .http01 ∧
    (challenge.status = .pending ∨ challenge.status = .processing)) .invalidTransition
  let authorization ← repo (getACMEAuthorization challenge.authorizationID)
  Op.require (authorization.status = .pending) .invalidTransition
  let order ← repo (getACMEOrder authorization.orderID)
  Op.require (order.status = .pending) .invalidTransition
  let now ← Op.now
  Op.require (¬ (acmeExpired order.expiresAt now ∨ acmeExpired authorization.expiresAt now))
    .invalidTransition
  let account ← repo (getACMEAccount order.accountID)
  Op.require (account.status ≠ .deactivated) .acmeAccountDeactivated
  Op.require (account.status = .valid ∧ account.keyThumbprint ≠ []) .invalidRequest
  pure {
    challenge
    identifierValue := authorization.identifierValue
    keyAuthorization := challenge.token ++ ['.'] ++ account.keyThumbprint }

def Service.validateACMEHTTP01Challenge (s : Service) (ctx : Context)
    (actor challengeID : Text) : Op ACMEChallenge := do
  let validation ← acmeHTTP01ValidationContext challengeID
  match ← Op.attempt (Op.ask (fun oracle => oracle.verifyHTTP01) fun _ => none) with
  | .error _ => s.markACMEChallengeProcessing ctx actor validation.challenge.id
  | .ok () => s.completeACMEChallenge ctx actor challengeID

def Service.pollACMEAuthorization (s : Service) (ctx : Context) (actor authorizationID : Text) :
    Op ACMEAuthorization := do
  Op.require (¬ isBlank authorizationID) .invalidRequest
  let authorization ← repo (getACMEAuthorization authorizationID)
  if authorization.status ≠ .pending then pure authorization
  else do
    let challenges ← repo (listACMEChallengesByAuthorization authorizationID)
    Op.forEach challenges fun challenge =>
      if challenge.type = .http01 ∧ challenge.status = .processing then do
        let _ ← s.validateACMEHTTP01Challenge ctx actor challenge.id
        pure ()
      else pure ()
    repo (getACMEAuthorization authorizationID)

/-- The transaction of `invalidateACMEOrder`. -/
def Service.invalidateACMEOrderTx (s : Service) (ctx : Context) (actor : Text) (order : ACMEOrder)
    (now : Time) : Repo Unit := do
  updateACMEOrderIfStatus { order with status := .invalid, updatedAt := now } .ready
  s.createAuditEvent ctx actor "acme.order.invalid" "acme_order" order.id now (auditFields [
    ("acme_account_id", order.accountID),
    ("acme_order_id", order.id)])

def Service.invalidateACMEOrder (s : Service) (ctx : Context) (actor : Text) (order : ACMEOrder) :
    Op Unit := do
  let now ← Op.now
  withinTx (s.invalidateACMEOrderTx ctx actor order now) fun _ => none

def validateACMEPublicTLSValidationEvidence (order : ACMEOrder) (now : Time) : Op Unit := do
  if order.certificateProfileID = [] then pure ()
  else do
    let profile ← repo (getCertificateProfile order.certificateProfileID)
    if profile.publicTLS = false then pure ()
    else do
      let authorizations ← repo (listACMEAuthorizationsByOrder order.id)
      Op.require (authorizations.all fun authorization =>
        decide (authorization.status = .valid ∧
          ¬ acmeExpired authorization.validationReuseExpiresAt now ∧
          ¬ authorization.validationReuseExpiresAt.isZero)) .invalidTransition

/-- The enrollment an order is finalized with. -/
def orderEnrollmentRequest (order : ACMEOrder) (req : FinalizeACMEOrderRequest) :
    CreateEnrollmentRequest where
  identityID := order.identityID
  issuerID := order.issuerID
  certificateProfileID := order.certificateProfileID
  csrPEM := req.csrPEM
  requestedSubject := req.requestedSubject
  requestedDNSNames := order.requestedDNSNames
  requestedIPAddresses := order.requestedIPAddresses
  requestedNotAfter := order.requestedNotAfter

/-- The order with its certificate. -/
def finalizedOrder (order : ACMEOrder) (req : FinalizeACMEOrderRequest) (enrollment : Enrollment)
    (certificate : Certificate) (now : Time) : ACMEOrder :=
  { order with
    csrPEM := req.csrPEM
    requestedSubject := req.requestedSubject
    enrollmentID := enrollment.id
    certificateID := certificate.id
    status := .valid
    updatedAt := now }

/-- What follows the checks of `FinalizeACMEOrder`. -/
def Service.finalizeReadyOrder (s : Service) (node : Node) (ctx : Context) (actor : Text)
    (order : ACMEOrder) (req : FinalizeACMEOrderRequest) : Op ACMEOrder := do
  let enrollment ← s.createEnrollment ctx actor (orderEnrollmentRequest order req)
  let _ ← s.approveEnrollment ctx actor enrollment.id
  let certificate ← s.issueCertificate node ctx actor enrollment.id
  let now ← Op.now
  let order := finalizedOrder order req enrollment certificate now
  withinTx (updateACMEOrderIfStatus order .ready) fun _ => none
  withinTx (s.createAuditEvent ctx actor "acme.order.finalized" "acme_order" order.id now
    (auditFields [
      ("acme_account_id", order.accountID),
      ("acme_order_id", order.id),
      ("enrollment_id", enrollment.id),
      ("certificate_id", certificate.id)])) fun _ => none
  pure order

def Service.finalizeACMEOrder (s : Service) (node : Node) (ctx : Context) (actor orderID : Text)
    (req : FinalizeACMEOrderRequest) : Op ACMEOrder := do
  Op.require (¬ (isBlank orderID ∨ isBlank req.csrPEM ∨ isBlank req.requestedSubject))
    .invalidRequest
  let order ← repo (getACMEOrder orderID)
  if order.status = .valid then pure order
  else do
    Op.require (order.status = .ready) .invalidTransition
    let now ← Op.now
    if acmeExpired order.expiresAt now then do
      s.invalidateACMEOrder ctx actor order
      Op.fail (err .invalidTransition)
    else do
      let now ← Op.now
      validateACMEPublicTLSValidationEvidence order now
      s.finalizeReadyOrder node ctx actor order req

end AnoPki.Lifecycle
