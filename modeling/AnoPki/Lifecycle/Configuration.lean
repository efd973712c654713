import AnoPki.Lifecycle.Signing

/-! # Configuration

Identities, issuers, certificate profiles and ACME accounts: the records the other calls rely on.
Each call is one transaction that writes its audit event as well. -/
namespace AnoPki.Lifecycle

open Foundation Domain Store ErrKind

def isValidIdentityType : IdentityType → Bool
  | .unknown _ => false
  | _ => true

def isValidIssuerKind : IssuerKind → Bool
  | .unknown _ => false
  | _ => true

def validateCreateIdentityRequest (req : CreateIdentityRequest) (productionPolicy : Bool) :
    Except Err Unit := do
  let invalid := err .invalidRequest
  demand (isValidIdentityType req.type ∧ ¬ isBlank req.name) invalid
  if productionPolicy then
    demand (identityCompletenessWarnings
      { id := [], owner := req.owner, team := req.team, service := req.service } = []) invalid

def newIdentity (id : Text) (req : CreateIdentityRequest) (now : Time) : Identity where
  id := id
  type := req.type
  name := req.name
  externalID := req.externalID
  owner := req.owner
  team := req.team
  service := req.service
  environment := req.environment
  deploymentTarget := req.deploymentTarget
  lastSeenAt := req.lastSeenAt
  metadataJSON := req.metadataJSON
  allowedDNSNames := req.allowedDNSNames
  allowedIPAddresses := req.allowedIPAddresses
  status := .active
  createdAt := now
  updatedAt := now

/-- The transaction of `CreateIdentity`. -/
def Service.createIdentityTx (s : Service) (ctx : Context) (actor : Text)
    (req : CreateIdentityRequest) (now : Time) : Repo Identity := do
  let id ← s.newID
  let identity := newIdentity id req now
  createIdentity identity
  s.createAuditEvent ctx actor "identity.created" "identity" identity.id now (auditFields [
    ("identity_id", identity.id),
    ("owner", identity.owner),
    ("team", identity.team),
    ("service", identity.service),
    ("environment", identity.environment),
    ("deployment_target", identity.deploymentTarget),
    ("allowed_dns_names", Text.decimal identity.allowedDNSNames.length),
    ("allowed_ip_addresses", Text.decimal identity.allowedIPAddresses.length)])
  pure identity

def Service.createIdentity (s : Service) (ctx : Context) (actor : Text)
    (req : CreateIdentityRequest) : Op Identity := do
  Op.ofExcept (validateCreateIdentityRequest req s.productionPolicy)
  let now ← Op.now
  withinTx (s.createIdentityTx ctx actor req now) fun _ => none

def validateSupportedSigningKeyRef (lower : Char → Char) (ref : Text) : Except Err Unit :=
  demand (Keyref.classOf lower ref = Keyref.classFile) (err .invalidRequest)

def validateCreateIssuerRequest (lower : Char → Char) (req : CreateIssuerRequest)
    (productionPolicy : Bool) : Except Err Unit := do
  let invalid := err .invalidRequest
  demand (¬ (isBlank req.name ∨ ¬ isValidIssuerKind req.kind ∨ isBlank req.certificatePEM ∨
    isBlank req.keyRef)) invalid
  demand (¬ (productionPolicy ∧ Keyref.classOf lower req.keyRef = Keyref.classFile)) invalid
  validateSupportedSigningKeyRef lower req.keyRef
  demand (¬ (req.kind = .rootCA ∧ ¬ isBlank req.parentIssuerID)) invalid
  demand (¬ req.crlDistributionPoints.any isBlank) invalid

def newIssuer (id : Text) (req : CreateIssuerRequest) (now : Time) : Issuer where
  id := id
  name := req.name
  kind := req.kind
  status := .active
  parentIssuerID := req.parentIssuerID
  certificatePEM := req.certificatePEM
  keyRef := req.keyRef
  aiaURL := req.aiaURL
  crlDistributionPoints := req.crlDistributionPoints
  trustAnchor := req.trustAnchor || req.kind = .rootCA
  createdAt := now
  updatedAt := now

/-- The issuer a new one names as its parent has to exist. -/
def checkParentIssuer (parentIssuerID : Text) : Repo Unit :=
  if parentIssuerID = [] then pure ()
  else do
    let _ ← getIssuer parentIssuerID
    pure ()

/-- A key reference passes the checks of `CreateIssuer` and `CreateOCSPResponder`. -/
def Service.AcceptsKeyRef (s : Service) (ref : Text) : Prop :=
  ¬ isBlank ref ∧ ¬ (s.productionPolicy ∧ Keyref.classOf s.lowerRune ref = Keyref.classFile) ∧
    Keyref.classOf s.lowerRune ref = Keyref.classFile

/-- The transaction of `CreateIssuer`. -/
def Service.createIssuerTx (s : Service) (ctx : Context) (actor : Text)
    (req : CreateIssuerRequest) (now : Time) : Repo Issuer := do
  let id ← s.newID
  let issuer := newIssuer id req now
  checkParentIssuer req.parentIssuerID
  createIssuer issuer
  let fields := legacyKeyProviderAuditFields s.lowerRune req.keyRef (auditFields [
    ("issuer_id", issuer.id),
    ("parent_issuer_id", issuer.parentIssuerID)])
  s.createAuditEvent ctx actor "issuer.created" "issuer" issuer.id now fields
  pure issuer

def Service.createIssuer (s : Service) (ctx : Context) (actor : Text) (req : CreateIssuerRequest) :
    Op Issuer := do
  Op.ofExcept (validateCreateIssuerRequest s.lowerRune req s.productionPolicy)
  let now ← Op.now
  withinTx (s.createIssuerTx ctx actor req now) fun _ => none

/-- The start of an era of public TLS and the longest validity of a certificate in it, in
nanoseconds. -/
def publicTLSValidityCeilingSchedule : List (Time × Int) :=
  [(⟨63909129600000000000, 0⟩, 200 * 86400000000000),
    (⟨63940665600000000000, 0⟩, 100 * 86400000000000),
    (⟨64003824000000000000, 0⟩, 47 * 86400000000000)]

def publicTLSValidityCeiling (now : Time) (override : Int64) : Int :=
  if override > 0 then override.toInt
  else publicTLSValidityCeilingSchedule.foldl
    (fun maxValidity ceiling => if now.before ceiling.1 then maxValidity else ceiling.2)
    (200 * 86400000000000)

section Unicode

variable (lower : Char → Char)

def isSupportedKeyAlgorithm (value : Text) : Bool :=
  ["rsa".toList, "ecdsa".toList, "ed25519".toList].contains (normalizeAlgorithm lower value)

def isSupportedSignatureAlgorithm (value : Text) : Bool :=
  ["sha256".toList, "sha384".toList, "sha512".toList,
    "rsa_with_sha256".toList, "rsa_with_sha384".toList, "rsa_with_sha512".toList,
    "ecdsa_with_sha256".toList, "ecdsa_with_sha384".toList, "ecdsa_with_sha512".toList,
    "ed25519".toList].contains (normalizeAlgorithm lower value)

def normalizeStringList (values : List Text) : List Text := values.map (normalizeAlgorithm lower)

def validateCertificateProfileExtensionCombination (req : CreateCertificateProfileRequest) :
    Except Err Unit :=
  if req.basicConstraints.ca then
    demand (¬ req.extendedKeyUsage.values.any fun usage =>
      ["server_auth".toList, "client_auth".toList, "code_signing".toList,
        "email_protection".toList, "time_stamping".toList, "ocsp_signing".toList].contains
        (normalizeAlgorithm lower usage)) (err .invalidRequest)
  else
    demand (¬ req.keyUsage.values.any fun usage =>
      ["key_cert_sign".toList, "crl_sign".toList].contains (normalizeAlgorithm lower usage))
      (err .invalidRequest)

/-- The validity of a profile; the product of seconds and nanoseconds is one of 64-bit integers. -/
def validityPeriod (seconds : Int64) : Int := (seconds * 1000000000).toInt

def validateCreateCertificateProfileRequest (req : CreateCertificateProfileRequest) (now : Time)
    (publicTLSMaxValidityOverride : Int64) : Except Err Unit := do
  let invalid := err .invalidRequest
  demand (¬ (isBlank req.name ∨ isBlank req.issuerID ∨ req.validityPeriodSeconds ≤ 0)) invalid
  demand (¬ req.minKeySizeBits < 0) invalid
  demand (req.allowedKeyAlgorithms.all (isSupportedKeyAlgorithm lower)) invalid
  demand (req.allowedSignatureAlgorithms.all (isSupportedSignatureAlgorithm lower)) invalid
  demand (¬ (req.publicTLS ∧ validityPeriod req.validityPeriodSeconds >
    publicTLSValidityCeiling now publicTLSMaxValidityOverride)) invalid
  demand (req.basicConstraints.maxPathLen.all fun maxPathLen =>
    !decide (maxPathLen < 0 ∨ req.basicConstraints.ca = false)) invalid
  validateCertificateProfileExtensionCombination lower req

def newCertificateProfile (id : Text) (req : CreateCertificateProfileRequest) (now : Time) :
    CertificateProfile where
  id := id
  name := req.name
  description := req.description
  issuerID := req.issuerID
  validityPeriodSeconds := req.validityPeriodSeconds
  publicTLS := req.publicTLS
  subjectTemplate := req.subjectTemplate
  allowedDNSPatterns := req.allowedDNSPatterns
  allowedIPRanges := req.allowedIPRanges
  allowedKeyAlgorithms := normalizeStringList lower req.allowedKeyAlgorithms
  minKeySizeBits := req.minKeySizeBits
  allowedSignatureAlgorithms := normalizeStringList lower req.allowedSignatureAlgorithms
  keyUsage := req.keyUsage
  extendedKeyUsage := req.extendedKeyUsage
  basicConstraints := req.basicConstraints
  subjectKeyIdentifier := req.subjectKeyIdentifier
  authorityKeyIdentifier := req.authorityKeyIdentifier
  createdAt := now
  updatedAt := now

end Unicode

/-- The transaction of `CreateCertificateProfile`. -/
def Service.createCertificateProfileTx (s : Service) (ctx : Context) (actor : Text)
    (req : CreateCertificateProfileRequest) (now : Time) : Repo CertificateProfile := do
  let id ← s.newID
  let profile := newCertificateProfile s.lowerRune id req now
  let _ ← getIssuer req.issuerID
  createCertificateProfile profile
  s.createAuditEvent ctx actor "certificate_profile.created" "certificate_profile" profile.id now
    (auditFields [
      ("issuer_id", profile.issuerID),
      ("profile_id", profile.id)])
  pure profile

def Service.createCertificateProfile (s : Service) (ctx : Context) (actor : Text)
    (req : CreateCertificateProfileRequest) : Op CertificateProfile := do
  let now ← Op.now
  Op.ofExcept (validateCreateCertificateProfileRequest s.lowerRune req now
    s.publicTLSMaxValidityOverride)
  withinTx (s.createCertificateProfileTx ctx actor req now) fun _ => none

def validateCertificateProfileIssuerTransitionRequest
    (req : TransitionCertificateProfileIssuerRequest) : Except Err Unit := do
  let invalid := err .invalidRequest
  demand (¬ (isBlank req.profileID ∨ isBlank req.currentIssuerID ∨ isBlank req.nextIssuerID ∨
    req.currentIssuerID = req.nextIssuerID)) invalid
  demand (req.transition = .rollover ∨ req.transition = .rollback) invalid
  let reason := req.reason.trimSpace
  demand (¬ (reason = [] ∨ reason.byteLength > 256 ∨ '\r' ∈ reason ∨ '\n' ∈ reason)) invalid

/-- The parent that the two issuers of a transition share. -/
def validateIntermediateIssuerTransition (currentIssuer nextIssuer : Issuer) : Repo Text := do
  Tx.require (¬ (currentIssuer.id = nextIssuer.id ∨
      currentIssuer.status ≠ .active ∨
      nextIssuer.status ≠ .active ∨
      currentIssuer.kind ≠ .intermediateCA ∨
      nextIssuer.kind ≠ .intermediateCA ∨
      isBlank currentIssuer.parentIssuerID ∨
      currentIssuer.parentIssuerID ≠ nextIssuer.parentIssuerID)) (err .invalidRequest)
  let parent ← getIssuer currentIssuer.parentIssuerID
  Tx.require (parent.status = .active ∧ parent.kind = .rootCA ∧ parent.trustAnchor)
    (err .invalidRequest)
  pure parent.id

def issuerTransitionAction (transition : CertificateProfileIssuerTransition) : Text :=
  if transition = .rollback then "certificate_profile.issuer_rolled_back"
  else "certificate_profile.issuer_rolled_over"

/-- The transaction of `TransitionCertificateProfileIssuer`. -/
def Service.transitionCertificateProfileIssuerTx (s : Service) (ctx : Context) (actor : Text)
    (req : TransitionCertificateProfileIssuerRequest) (now : Time) : Repo CertificateProfile := do
  let profile ← getCertificateProfile req.profileID
  Tx.require (profile.issuerID = req.currentIssuerID) (err .invalidTransition)
  let currentIssuer ← getIssuer req.currentIssuerID
  let nextIssuer ← getIssuer req.nextIssuerID
  let parentID ← validateIntermediateIssuerTransition currentIssuer nextIssuer
  let updated := { profile with issuerID := nextIssuer.id, updatedAt := now }
  updateCertificateProfileIssuerIfCurrent updated currentIssuer.id profile.updatedAt
  let action := issuerTransitionAction req.transition
  let fields := auditFields [
    ("profile_id", updated.id),
    ("previous_issuer_id", currentIssuer.id),
    ("next_issuer_id", nextIssuer.id),
    ("parent_issuer_id", parentID),
    ("transition", req.transition.text),
    ("reason", req.reason.trimSpace)]
  s.createAuditEvent ctx actor action "certificate_profile" updated.id now fields
  s.createOutboxMessage action now fields
  pure updated

def Service.transitionCertificateProfileIssuer (s : Service) (ctx : Context) (actor : Text)
    (req : TransitionCertificateProfileIssuerRequest) : Op CertificateProfile := do
  Op.ofExcept (validateCertificateProfileIssuerTransitionRequest req)
  let now ← Op.now
  withinTx (s.transitionCertificateProfileIssuerTx ctx actor req now) fun _ => none

def validateCreateACMEAccountRequest (req : CreateACMEAccountRequest) : Except Err Unit := do
  demand (¬ (req.contacts = [] ∨ req.termsOfServiceAgreed = false)) (err .invalidRequest)
  demand (¬ req.contacts.any isBlank) (err .invalidRequest)

def newACMEAccount (id : Text) (req : CreateACMEAccountRequest) (now : Time) : ACMEAccount where
  id := id
  contacts := req.contacts
  status := .valid
  termsOfServiceAgreed := req.termsOfServiceAgreed
  keyThumbprint := req.keyThumbprint.trimSpace
  keyJWKJSON := req.keyJWKJSON.trimSpace
  createdAt := now
  updatedAt := now

/-- The audit event of a change of an account. -/
def Service.auditACMEAccount (s : Service) (ctx : Context) (actor action : Text)
    (account : ACMEAccount) (now : Time) : Repo Unit :=
  s.createAuditEvent ctx actor action "acme_account" account.id now
    (auditFields [("acme_account_id", account.id)])

/-- The transaction of `createACMEAccount`. -/
def Service.createACMEAccountTx (s : Service) (ctx : Context) (actor : Text)
    (req : CreateACMEAccountRequest) (now : Time) : Repo ACMEAccount := do
  let id ← s.newID
  let account := newACMEAccount id req now
  createACMEAccount account
  s.auditACMEAccount ctx actor "acme.account.created" account now
  pure account

/-- `createACMEAccount`, which both calls that create accounts end in. -/
def Service.storeACMEAccount (s : Service) (ctx : Context) (actor : Text)
    (req : CreateACMEAccountRequest) : Op ACMEAccount := do
  let now ← Op.now
  withinTx (s.createACMEAccountTx ctx actor req now) fun _ => none

def Service.createACMEAccount (s : Service) (ctx : Context) (actor : Text)
    (req : CreateACMEAccountRequest) : Op ACMEAccount := do
  Op.ofExcept (validateCreateACMEAccountRequest req)
  s.storeACMEAccount ctx actor req

structure CreateACMEAccountResult where
  account : ACMEAccount
  created : Bool
deriving DecidableEq, Repr

/-- The account with a key, if the key is given and an account has it. -/
def findACMEAccountByKey (keyThumbprint : Text) : Op (Option ACMEAccount) :=
  if keyThumbprint = [] then pure none
  else do
    let accounts ← repo listACMEAccounts
    pure (accounts.find? fun account => decide (account.keyThumbprint = keyThumbprint))

def Service.createOrGetACMEAccount (s : Service) (ctx : Context) (actor : Text)
    (req : CreateACMEAccountRequest) : Op CreateACMEAccountResult := do
  Op.ofExcept (validateCreateACMEAccountRequest req)
  match ← findACMEAccountByKey req.keyThumbprint.trimSpace with
  | some account => pure { account, created := false }
  | none =>
    let account ← s.storeACMEAccount ctx actor req
    pure { account, created := true }

/-- The account as an update leaves it. -/
def updatedAccount (account : ACMEAccount) (req : UpdateACMEAccountRequest) (now : Time) :
    ACMEAccount :=
  { account with
    contacts := if req.updateContacts then req.contacts else account.contacts
    status := if req.deactivate then .deactivated else account.status
    updatedAt := now }

/-- An account that can be changed. -/
def changeableAccount (accountID : Text) : Repo ACMEAccount := do
  let account ← getACMEAccount accountID
  Tx.require (account.status ≠ .deactivated) (err .acmeAccountDeactivated)
  Tx.require (account.status = .valid) (err .invalidTransition)
  pure account

/-- The transaction of `UpdateACMEAccount`. -/
def Service.updateACMEAccountTx (s : Service) (ctx : Context) (actor accountID : Text)
    (req : UpdateACMEAccountRequest) (now : Time) : Repo ACMEAccount := do
  let account ← changeableAccount accountID
  let updated := updatedAccount account req now
  updateACMEAccountIfStatus updated .valid
  s.auditACMEAccount ctx actor
    (if req.deactivate then "acme.account.deactivated" else "acme.account.updated") updated now
  pure updated

def Service.updateACMEAccount (s : Service) (ctx : Context) (actor accountID : Text)
    (req : UpdateACMEAccountRequest) : Op ACMEAccount := do
  Op.require (¬ (isBlank accountID ∨ (req.updateContacts = false ∧ req.deactivate = false)))
    .invalidRequest
  let now ← Op.now
  withinTx (s.updateACMEAccountTx ctx actor accountID req now) fun _ => none

/-- The account with another key. -/
def rekeyedAccount (account : ACMEAccount) (req : UpdateACMEAccountKeyRequest) (now : Time) :
    ACMEAccount :=
  { account with
    keyThumbprint := req.keyThumbprint.trimSpace
    keyJWKJSON := req.keyJWKJSON.trimSpace
    updatedAt := now }

/-- The transaction of `UpdateACMEAccountKey`. -/
def Service.updateACMEAccountKeyTx (s : Service) (ctx : Context) (actor accountID : Text)
    (req : UpdateACMEAccountKeyRequest) (now : Time) : Repo ACMEAccount := do
  let account ← changeableAccount accountID
  let updated := rekeyedAccount account req now
  updateACMEAccountIfStatus updated .valid
  s.auditACMEAccount ctx actor "acme.account.key_updated" updated now
  pure updated

def Service.updateACMEAccountKey (s : Service) (ctx : Context) (actor accountID : Text)
    (req : UpdateACMEAccountKeyRequest) : Op ACMEAccount := do
  Op.require (¬ (isBlank accountID ∨ isBlank req.keyThumbprint ∨ isBlank req.keyJWKJSON))
    .invalidRequest
  let now ← Op.now
  withinTx (s.updateACMEAccountKeyTx ctx actor accountID req now) fun _ => none

end AnoPki.Lifecycle
