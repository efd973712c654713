import AnoPki.Store.Memory
import AnoPki.Corecli.Runner
import AnoPki.Foundation.Concurrent
import AnoPki.Foundation.Strings

/-! # The service and what it runs on

The configuration of a service, the world its nodes share, and the operations they run: programs
whose atomic steps are readings of the clock, repository calls, transactions and calls of the signer
and the other services around it. -/
namespace AnoPki.Lifecycle

open Foundation Domain Store

/-- The evidence the core leaves of a signing operation. -/
structure SigningEvidence where
  schemaVersion : Int64
  evidenceSource : Text
  operation : Text
  providerID : Text
  providerClass : Text
  providerReadiness : Text
  providerExportability : Text
  referenceClass : Text
  keyAlgorithm : Text
  requestedSignatureAlgorithm : Text
  issuerBindingVerified : Bool
  fallbackUsed : Bool
  resultCode : Text
deriving DecidableEq, Repr

structure IssueResult where
  certificatePEM : Text
  serialNumber : Text
  subject : Text
  notBefore : Time
  notAfter : Time
  signingEvidence : SigningEvidence
deriving DecidableEq, Repr

structure GenerateCRLResult where
  crlPEM : Text
  signingEvidence : SigningEvidence
deriving DecidableEq, Repr

structure CSRInfo where
  subject : Text := []
  dnsNames : List Text := []
  ipAddresses : List Text := []
  publicKeyAlgorithm : Text := []
  publicKeySizeBits : Int64 := 0
  signatureAlgorithm : Text := []
  extensionOIDs : List Text := []
deriving DecidableEq, Repr

/-- A failure of the core: the code of a command error, if it is one, and the error's text. -/
structure CoreError where
  code : Option Text
  text : Text
deriving DecidableEq, Repr

/-- The configuration of a service. -/
structure Service where
  /-- The ID generator: the ID it returns the n-th time. -/
  idgen : Nat → Text
  /-- The lower case of the runes outside ASCII. -/
  lowerRune : Char → Char
  productionPolicy : Bool
  /-- Whether a CAA policy is configured. -/
  publicTLSCAAPolicy : Bool
  /-- Whether a lint hook is configured. -/
  publicTLSLintHook : Bool
  /-- The longest validity of public profiles that is configured, in nanoseconds; the schedule holds
  when it is not positive. -/
  publicTLSMaxValidityOverride : Int64
  /-- What the hashes of API tokens are keyed with, if anything. -/
  apiKeyPepper : Text := []

/-- The generator never returns an ID twice, and never a blank one or one with a zero character. -/
structure Service.FreshIDs (s : Service) : Prop where
  injective : Function.Injective s.idgen
  nonblank : ∀ n, (s.idgen n).trimSpace ≠ []
  nonzero : ∀ n, Char.ofNat 0 ∉ s.idgen n

theorem Service.FreshIDs.ne_nil {s : Service} (ids : s.FreshIDs) (n : Nat) : s.idgen n ≠ [] := by
  intro empty
  exact ids.nonblank n (by rw [empty]; rfl)

/-- What the outside answers while a step runs. -/
structure Oracle where
  /-- The repository fails with this text. -/
  storage : Option Text
  inspectCSR : Except CoreError CSRInfo
  checkReady : Except Err Unit
  issue : Except CoreError IssueResult
  generateCRL : Except CoreError GenerateCRLResult
  verifyHTTP01 : Except Err Unit
  checkCAA : Except Err Unit
  lint : Except Err Unit
  /-- The answer of an endpoint to a webhook's POST. -/
  postWebhook : Except Err Unit
  /-- A new random token. -/
  generateAPIKeyToken : Except Err Text
  /-- Whether a certificate is one of a responder of an issuer. -/
  validateOCSPResponder : Except CoreError Bool

abbrev Node : Type := Nat

/-- What the nodes share, and the mutex each node has of its own. -/
structure World where
  db : Db
  drawn : Nat
  clock : Time
  /-- The nodes whose issuance mutex is held. -/
  issueMu : List Node

/-- What a call sees of its request's context when it writes an audit event. -/
structure AuditRequestMetadata where
  requestID : Text
  traceparent : Text
  clientIP : Text
  userAgent : Text
  authMethod : Text
  /-- The milliseconds since the request started, when its start is known. -/
  elapsedMs : Option Int64
deriving DecidableEq, Repr

structure AuthorizationAuditMetadata where
  outcome : Text
  decisionID : Text
  reasonCode : Text
  policyRevision : Text
  evaluatorStatus : Text
deriving DecidableEq, Repr

structure APIKeyAuditMetadata where
  id : Text
  name : Text
  actor : Text
  fingerprint : Text
  scopes : List Text
deriving DecidableEq, Repr

structure Context where
  request : Option AuditRequestMetadata := none
  authorization : Option AuthorizationAuditMetadata := none
  apiKey : Option APIKeyAuditMetadata := none
deriving DecidableEq, Repr

structure CreateIdentityRequest where
  type : IdentityType
  name : Text
  externalID : Text := []
  owner : Text := []
  team : Text := []
  service : Text := []
  environment : Text := []
  deploymentTarget : Text := []
  lastSeenAt : Time := Time.zero
  metadataJSON : Text := []
  allowedDNSNames : List Text := []
  allowedIPAddresses : List Text := []
deriving DecidableEq, Repr

structure CreateIssuerRequest where
  name : Text
  kind : IssuerKind
  parentIssuerID : Text := []
  certificatePEM : Text
  keyRef : Text
  aiaURL : Text := []
  crlDistributionPoints : List Text := []
  trustAnchor : Bool := false
deriving DecidableEq, Repr

structure CreateCertificateProfileRequest where
  name : Text
  description : Text := []
  issuerID : Text
  validityPeriodSeconds : Int64
  publicTLS : Bool := false
  subjectTemplate : Text := []
  allowedDNSPatterns : List Text := []
  allowedIPRanges : List Text := []
  allowedKeyAlgorithms : List Text := []
  minKeySizeBits : Int64 := 0
  allowedSignatureAlgorithms : List Text := []
  keyUsage : StringListExtensionPolicy := {}
  extendedKeyUsage : StringListExtensionPolicy := {}
  basicConstraints : BasicConstraintsPolicy := {}
  subjectKeyIdentifier : Bool := false
  authorityKeyIdentifier : Bool := false
deriving DecidableEq, Repr

/-- A transition of a profile's issuer; a request may also bring a text that is none of them. -/
inductive CertificateProfileIssuerTransition where
  | rollover
  | rollback
  | unknown (text : Text)
deriving DecidableEq, Repr

def CertificateProfileIssuerTransition.text : CertificateProfileIssuerTransition → Text
  | rollover => "rollover"
  | rollback => "rollback"
  | unknown text => text

structure TransitionCertificateProfileIssuerRequest where
  profileID : Text
  currentIssuerID : Text
  nextIssuerID : Text
  transition : CertificateProfileIssuerTransition
  reason : Text
deriving DecidableEq, Repr

structure CreateACMEAccountRequest where
  contacts : List Text
  termsOfServiceAgreed : Bool
  keyThumbprint : Text := []
  keyJWKJSON : Text := []
deriving DecidableEq, Repr

structure UpdateACMEAccountRequest where
  contacts : List Text := []
  updateContacts : Bool := false
  deactivate : Bool := false
deriving DecidableEq, Repr

structure UpdateACMEAccountKeyRequest where
  keyThumbprint : Text
  keyJWKJSON : Text
deriving DecidableEq, Repr

structure PublishCRLRequest where
  issuerID : Text
  distributionPoint : Text
  nextUpdate : Time
deriving DecidableEq, Repr

structure CreateEnrollmentRequest where
  identityID : Text
  issuerID : Text
  certificateProfileID : Text := []
  csrPEM : Text := []
  requestedSubject : Text := []
  requestedDNSNames : List Text
  requestedIPAddresses : List Text
  requestedNotAfter : Time
deriving DecidableEq, Repr

structure RenewCertificateRequest where
  csrPEM : Text
  requestedNotAfter : Time
deriving DecidableEq, Repr

structure ReissueCertificateRequest where
  csrPEM : Text
deriving DecidableEq, Repr

structure ScanCertificateExpirationsRequest where
  /-- A duration in nanoseconds. -/
  warningWindow : Int64
  limit : Int64
deriving DecidableEq, Repr

structure CreateACMEOrderRequest where
  accountID : Text
  identityID : Text
  issuerID : Text
  certificateProfileID : Text := []
  requestedDNSNames : List Text
  requestedIPAddresses : List Text
  requestedNotAfter : Time
deriving DecidableEq, Repr

structure FinalizeACMEOrderRequest where
  csrPEM : Text
  requestedSubject : Text
deriving DecidableEq, Repr

/-- The calls of the service that the runs are made of. -/
inductive Call where
  | createIdentity (ctx : Context) (actor : Text) (req : CreateIdentityRequest)
  | createIssuer (ctx : Context) (actor : Text) (req : CreateIssuerRequest)
  | createCertificateProfile (ctx : Context) (actor : Text) (req : CreateCertificateProfileRequest)
  | transitionCertificateProfileIssuer (ctx : Context) (actor : Text)
      (req : TransitionCertificateProfileIssuerRequest)
  | createACMEAccount (ctx : Context) (actor : Text) (req : CreateACMEAccountRequest)
  | createOrGetACMEAccount (ctx : Context) (actor : Text) (req : CreateACMEAccountRequest)
  | updateACMEAccount (ctx : Context) (actor id : Text) (req : UpdateACMEAccountRequest)
  | updateACMEAccountKey (ctx : Context) (actor id : Text) (req : UpdateACMEAccountKeyRequest)
  | publishCRL (ctx : Context) (actor : Text) (req : PublishCRLRequest)
  | createEnrollment (ctx : Context) (actor : Text) (req : CreateEnrollmentRequest)
  | approveEnrollment (ctx : Context) (actor id reason : Text)
  | rejectEnrollment (ctx : Context) (actor id : Text)
  | renewCertificate (ctx : Context) (actor id : Text) (req : RenewCertificateRequest)
  | reissueCertificate (ctx : Context) (actor id : Text) (req : ReissueCertificateRequest)
  | issueCertificate (ctx : Context) (actor enrollmentID : Text)
  | suspendCertificate (ctx : Context) (actor id : Text)
  | resumeCertificate (ctx : Context) (actor id : Text)
  | revokeCertificate (ctx : Context) (actor id : Text) (reason : RevocationReason)
  | forceRevokeCertificate (ctx : Context) (actor id : Text) (reason : RevocationReason)
  | scanCertificateExpirations (ctx : Context) (actor : Text)
      (req : ScanCertificateExpirationsRequest)
  | createACMEOrder (ctx : Context) (actor : Text) (req : CreateACMEOrderRequest)
  | completeACMEChallenge (ctx : Context) (actor id : Text)
  | validateACMEHTTP01Challenge (ctx : Context) (actor id : Text)
  | pollACMEAuthorization (ctx : Context) (actor id : Text)
  | finalizeACMEOrder (ctx : Context) (actor orderID : Text) (req : FinalizeACMEOrderRequest)
deriving DecidableEq

/-- What the history keeps of the dispatchers and of those who have messages sent again. -/
inductive OutboxEvent where
  | clockRead (time : Time)
  /-- `claim` took this message out of an expired lease. -/
  | recovered (message : OutboxMessage)
  /-- `claim` returned this message. -/
  | claimed (message : OutboxMessage)
  /-- `finish` stored this message and the attempt. -/
  | finished (message : OutboxMessage) (attempt : JobAttempt)
  /-- These messages were made pending again. -/
  | replayed (messages : List OutboxMessage)
deriving DecidableEq

/-- What the history keeps of the API keys. -/
inductive APIKeyEvent where
  /-- `AuthenticateAPIKey` stored this key and returned it. -/
  | authenticated (key : APIKey)
  | disabled (key : APIKey)
  /-- `RotateAPIKey` disabled the first key and stored the second. -/
  | rotated (oldKey newKey : APIKey)
deriving DecidableEq

/-- What the history keeps of the OCSP responders. -/
inductive ResponderEvent where
  | created (responder : OCSPResponder)
  | disabled (responder : OCSPResponder)
  /-- `RotateOCSPResponder` disabled the first responder and stored the second. -/
  | rotated (current responder : OCSPResponder)
deriving DecidableEq

/-- What the history keeps of a run. -/
inductive Event where
  | started (call : Call)
  /-- `InspectCSR` reported this of the request. -/
  | csrInspected (csrPEM : Text) (info : CSRInfo)
  | enrollmentCreated (enrollmentID : Text)
  | enrollmentApproved (enrollmentID : Text)
  /-- `claimIssuanceAttempt` returned this attempt with `shouldSign` set. -/
  | claimed (attempt : IssuanceAttempt)
  | issueRequested (enrollmentID : Text) (request : Corecli.IssueRequest)
  /-- `persistSignedIssuanceAttempt` stored this attempt in the place of the first. -/
  | persisted (current signed : IssuanceAttempt)
  | finalized (enrollmentID : Text)
  | markedFailed (enrollmentID : Text)
  /-- `PublicTLSCAAPolicy.check` allowed this name. -/
  | caaAllowed (dnsName : Text)
  /-- `claimCRLGeneration` returned this claim. -/
  | crlClaimed (claim : CRLGenerationClaim)
  /-- `PublishCRL` read these entries under the claim. -/
  | revocationsListed (claim : CRLGenerationClaim) (entries : List RevokedCertificateEntry)
  | crlRequested (claim : CRLGenerationClaim) (request : Corecli.GenerateCRLRequest)
  /-- `PublishCRL` stored this publication of the signed request and gave up the claim. -/
  | crlPublished (claim : CRLGenerationClaim) (request : Corecli.GenerateCRLRequest)
      (publication : CRLPublication)
  /-- `PublishCRL` gave up the claim without a publication. -/
  | crlReleased (claim : CRLGenerationClaim)
  /-- A call that is not one of the lifecycle was started. -/
  | tasked
  | outbox (event : OutboxEvent)
  | apiKey (event : APIKeyEvent)
  | responder (event : ResponderEvent)
deriving DecidableEq

/-- An operation: a program that may fail. -/
abbrev Op (α : Type) : Type 1 := ExceptT Err (Prog World Oracle Event) α

namespace Op

variable {α : Type}

/-- One atomic step that never waits. -/
def atomic (act : Oracle → World → Except Err α × World) (event : α → Option Event) : Op α :=
  ExceptT.mk (.step (fun answer world => some (act answer world))
    (fun result => result.toOption.bind event) .ret)

def fail (err : Err) : Op α := ExceptT.mk (.ret (.error err))

def ofExcept (result : Except Err α) : Op α := ExceptT.mk (.ret result)

def require (holds : Prop) [Decidable holds] (kind : ErrKind) : Op Unit :=
  ofExcept (if holds then .ok () else .error kind.err)

/-- The result of an operation, whether it failed or not. -/
def attempt (op : Op α) : Op (Except Err α) :=
  ExceptT.mk (Prog.bind op.run fun result => .ret (.ok result))

/-- A body run on each item in turn. -/
def forEach (items : List α) (body : α → Op Unit) : Op Unit :=
  match items with
  | [] => pure ()
  | item :: items => do
    body item
    forEach items body

/-- `clock.Now()`. -/
def now : Op Time := atomic (fun _ world => (.ok world.clock, world)) fun _ => none

/-- A call of something outside that does not touch the store. -/
def ask (answer : Oracle → Except Err α) (event : α → Option Event) : Op α :=
  atomic (fun oracle world => (answer oracle, world)) event

end Op

/-- The world after a transaction. A failed one leaves the tables as they were; the IDs it drew stay
drawn. -/
def World.commit {α : Type} (world : World) (outcome : Except Err α × Session) :
    Except Err α × World :=
  match outcome with
  | (.ok value, session) => (.ok value, { world with db := session.db, drawn := session.drawn })
  | (.error err, session) => (.error err, { world with drawn := session.drawn })

variable {α : Type}

/-- A transaction: all of its body, or nothing. The repository may also fail on its own. -/
def runTx (body : Repo α) (answer : Oracle) (world : World) : Except Err α × World :=
  match answer.storage with
  | some text => (.error { kind := .storageFailure, detail := text }, world)
  | none => world.commit (body ⟨world.db, world.drawn⟩)

/-- `repo.WithinTx`, with the event it leaves when it commits. -/
def withinTx (body : Repo α) (event : α → Option Event) : Op α := Op.atomic (runTx body) event

/-- A call of the repository outside a transaction. -/
def repo (body : Repo α) : Op α := withinTx body fun _ => none

/-- `issueMu.Lock()`: waits while another call of the node holds the mutex. -/
def lockIssueMu (node : Node) : Op Unit :=
  ExceptT.mk (.step
    (fun _ world =>
      if node ∈ world.issueMu then none
      else some (.ok (), { world with issueMu := node :: world.issueMu }))
    (fun _ => none) .ret)

def unlockIssueMu (node : Node) : Op Unit :=
  Op.atomic (fun _ world => (.ok (), { world with issueMu := world.issueMu.erase node }))
    fun _ => none

/-- An operation under the mutex, which is released however the operation ends. -/
def withIssueMu (node : Node) (op : Op α) : Op α := do
  lockIssueMu node
  let result ← op.attempt
  unlockIssueMu node
  Op.ofExcept result

/-- `idgen.NewID()`. An ID is drawn in the step that uses it: a fresh ID is the same to everyone
else whenever it is drawn. -/
def Service.newID (s : Service) : Repo Text where
  run session := (.ok (s.idgen session.drawn), { session with drawn := session.drawn + 1 })
  forward session := Nat.le_succ session.drawn

end AnoPki.Lifecycle
