import AnoPki.Lifecycle.Acme
import AnoPki.Lifecycle.Configuration
import AnoPki.Lifecycle.Crl

/-! # The ledger

What the runs are about: the tables that calls change, and the changes an atomic step of a call can
make to them. Everything that is said about runs is derived from `Change`. -/
namespace AnoPki.Lifecycle

open Foundation Domain Store

/-- The tables the calls change. -/
structure Ledger where
  enrollments : Table Enrollment
  certificates : Table Certificate
  attempts : Table IssuanceAttempt
  revocations : Table Revocation
  orders : Table ACMEOrder
  authzs : Table ACMEAuthorization
  challenges : Table ACMEChallenge
  identities : Table Identity
  issuers : Table Issuer
  profiles : Table CertificateProfile
  accounts : Table ACMEAccount
  crls : Table CRLPublication
  crlClaims : Table CRLGenerationClaim

def Ledger.of (db : Db) : Ledger where
  enrollments := db.enrollments
  certificates := db.certificates
  attempts := db.issuanceAttempts
  revocations := db.revocations
  orders := db.acmeOrders
  authzs := db.acmeAuthzs
  challenges := db.acmeChallenges
  identities := db.identities
  issuers := db.issuers
  profiles := db.profiles
  accounts := db.acmeAccounts
  crls := db.crls
  crlClaims := db.crlClaims

abbrev State : Type := Shared World Event

/-- The ledger of a state. -/
def ledger (state : State) : Ledger := .of state.world.db

/-- What a transaction sees of a state. -/
def session (state : State) : Session := ⟨state.world.db, state.world.drawn⟩

/-- Two versions of an enrollment: only the decision and the status differ. -/
def EnrollmentSame (before after : Enrollment) : Prop :=
  after = { before with
    status := after.status
    approvedBy := after.approvedBy
    approvedAt := after.approvedAt
    updatedAt := after.updatedAt }

/-- Two versions of a certificate. -/
def CertificateSame (before after : Certificate) : Prop :=
  after = { before with
    status := after.status
    renewalNotifiedAt := after.renewalNotifiedAt
    updatedAt := after.updatedAt }

/-- Two versions of an order: what it was created with stays. -/
def OrderSame (before after : ACMEOrder) : Prop :=
  after = { before with
    status := after.status
    csrPEM := after.csrPEM
    requestedSubject := after.requestedSubject
    enrollmentID := after.enrollmentID
    certificateID := after.certificateID
    updatedAt := after.updatedAt }

/-- Two versions of a profile: only the issuer differs. -/
def ProfileSame (before after : CertificateProfile) : Prop :=
  after = { before with issuerID := after.issuerID, updatedAt := after.updatedAt }

/-- An earlier and a later version of an order: it does not become pending again. -/
structure OrderLater (before after : ACMEOrder) : Prop where
  same : OrderSame before after
  decided : after.status = .pending → before.status = .pending

/-- An earlier and a later version of an account: a deactivated one stays as it is. -/
structure AccountLater (before after : ACMEAccount) : Prop where
  id : after.id = before.id
  deactivated : before.status = .deactivated → after = before

theorem EnrollmentSame.refl (enrollment : Enrollment) : EnrollmentSame enrollment enrollment := rfl

theorem CertificateSame.refl (certificate : Certificate) :
    CertificateSame certificate certificate := rfl

theorem OrderSame.refl (order : ACMEOrder) : OrderSame order order := rfl

theorem ProfileSame.refl (profile : CertificateProfile) : ProfileSame profile profile := rfl

theorem OrderLater.refl (order : ACMEOrder) : OrderLater order order := ⟨.refl order, id⟩

theorem AccountLater.refl (account : ACMEAccount) : AccountLater account account :=
  ⟨rfl, fun _ => rfl⟩

theorem EnrollmentSame.trans {a b c} (first : EnrollmentSame a b)
    (second : EnrollmentSame b c) : EnrollmentSame a c := by
  rw [EnrollmentSame] at *
  rw [second, first]

theorem CertificateSame.trans {a b c} (first : CertificateSame a b)
    (second : CertificateSame b c) : CertificateSame a c := by
  rw [CertificateSame] at *
  rw [second, first]

theorem OrderSame.trans {a b c} (first : OrderSame a b) (second : OrderSame b c) :
    OrderSame a c := by
  rw [OrderSame] at *
  rw [second, first]

theorem ProfileSame.trans {a b c} (first : ProfileSame a b)
    (second : ProfileSame b c) : ProfileSame a c := by
  rw [ProfileSame] at *
  rw [second, first]

theorem OrderLater.trans {a b c} (first : OrderLater a b) (second : OrderLater b c) :
    OrderLater a c :=
  ⟨first.same.trans second.same, fun pending => first.decided (second.decided pending)⟩

theorem AccountLater.trans {a b c} (first : AccountLater a b)
    (second : AccountLater b c) : AccountLater a c where
  id := second.id.trans first.id
  deactivated inactive := by
    have same := first.deactivated inactive
    exact (second.deactivated (by rw [same, inactive])).trans same

/-- The status changes of a certificate, each with the action it is reported as. -/
inductive StatusChange : CertificateStatus → Text → CertificateStatus → Prop
  | suspend : StatusChange .valid "certificate.suspended" .suspended
  | resume : StatusChange .suspended "certificate.resumed" .valid
  | revoke : StatusChange .valid "certificate.revoked" .revoked
  | forceRevoke {status : CertificateStatus} (active : status = .valid ∨ status = .suspended) :
      StatusChange status "certificate.force_revoked" .revoked
  | expire {status : CertificateStatus} (active : status = .valid ∨ status = .suspended) :
      StatusChange status "certificate.expired" .expired

/-- The actions that report a status change. -/
def statusActions : List Text :=
  ["certificate.suspended", "certificate.resumed", "certificate.revoked",
    "certificate.force_revoked", "certificate.expired"]

section

variable {before after : CertificateStatus} {action : Text}
  (change : StatusChange before action after)

include change

theorem StatusChange.mem_statusActions : action ∈ statusActions := by
  cases change <;> simp [statusActions]

theorem StatusChange.eq_expired (reported : action = "certificate.expired") : after = .expired := by
  cases change with
  | expire => rfl
  | _ => exact absurd reported (by decide)

theorem StatusChange.eq_revoked (reported : action = "certificate.force_revoked") :
    after = .revoked := by
  cases change with
  | forceRevoke => rfl
  | _ => exact absurd reported (by decide)

end

/-- The certificate a message is about, as its payload says. -/
def messageCertificateID (message : OutboxMessage) : Option Text :=
  match Json.read message.payloadJSON with
  | some (.object members) =>
    match members.lookup "certificate_id".toList with
    | some (.string id) => some id
    | _ => none
  | _ => none

/-- What a transaction tells: its audit events as they are stored, and its outbox messages, each
with the number of the ID it was given. -/
structure Report where
  events : List AuditEvent := []
  messages : List (Nat × OutboxMessage) := []

/-- The types of the messages about requests for new certificates. -/
def requestActions : List Text :=
  ["certificate.renewal_requested".toList, "certificate.reissue_requested".toList]

/-- Nothing is told about the status of a certificate. Messages are about requests for new
certificates, or about the issuer of a profile, which only one call changes. -/
structure Report.Quiet (call : Nat) (before : State) (report : Report) : Prop where
  events : ∀ event ∈ report.events, event.action ∉ statusActions
  messages : ∀ message ∈ report.messages, message.2.type ∉ statusActions
  types : ∀ message ∈ report.messages, message.2.type ∈ requestActions ∨ ∃ ctx actor req,
    (call, .started (.transitionCertificateProfileIssuer ctx actor req)) ∈ before.history

theorem Report.Quiet.nothing {call : Nat} {before} : Report.Quiet call before {} :=
  ⟨by simp, by simp, by simp⟩

/-- A number that was given out between two states of the generator. -/
def Drawn (before after number : Nat) : Prop := before ≤ number ∧ number < after

/-- A message as it is created. -/
structure Posted (message : OutboxMessage) : Prop where
  status : message.status = .pending
  availableAt : message.availableAt = message.createdAt
  processingDeadlineAt : message.processingDeadlineAt = Time.zero
  attemptCount : message.attemptCount = 0
  maxAttempts : message.maxAttempts = defaultOutboxMaxAttempts
  lastError : message.lastError = []
  updatedAt : message.updatedAt = message.createdAt

/-- The audit events and the outbox messages that are new after a transaction. -/
structure Told (s : Service) (before after : Session) (report : Report) : Prop where
  audit : after.db.audit.events = before.db.audit.events ++ report.events
  outbox : after.db.outbox =
    Table.insertAll OutboxMessage.id (report.messages.map Prod.snd) before.db.outbox
  numbered : ∀ message ∈ report.messages,
    Drawn before.drawn after.drawn message.1 ∧ message.2.id = s.idgen message.1
  posted : ∀ message ∈ report.messages, Posted message.2
  distinct : (report.messages.map Prod.fst).Nodup
  annex : after.db.annex = before.db.annex
  forward : before.drawn ≤ after.drawn
  sound : before.db.audit.Sound → after.db.audit.Sound

/-- One certificate's part in a change: the versions, and what is told and recorded of it. -/
structure CertificateUpdate where
  old : Certificate
  new : Certificate
  action : Text
  event : AuditEvent
  message : Nat × OutboxMessage
  revocation : Option (Nat × Revocation)

/-- What the parts of a certificate's update have to do with each other. -/
structure CertificateUpdate.Legal (s : Service) (call : Nat) (before : State) (drawn : Nat)
    (update : CertificateUpdate) : Prop where
  found : (ledger before).certificates.lookup update.old.id = some update.old
  same : CertificateSame update.old update.new
  change : StatusChange update.old.status update.action update.new.status ∨
    (update.new.status = update.old.status ∧ update.old.status ≠ .revoked ∧
      update.action = "certificate.expiration_warning")
  expired : update.action = "certificate.expired" →
    update.old.notAfter.nanos ≤ before.world.clock.nanos
  forced : update.action = "certificate.force_revoked" → ∃ ctx actor reason,
    (call, .started (.forceRevokeCertificate ctx actor update.old.id reason)) ∈ before.history
  event : update.event.action = update.action ∧
    update.event.resourceType = "certificate" ∧ update.event.resourceID = update.old.id
  message : update.message.2.type = update.action ∧
    messageCertificateID update.message.2 = some update.old.id
  recorded : update.new.status = .revoked → ∃ number revocation,
    update.revocation = some (number, revocation) ∧
      Drawn before.world.drawn drawn number ∧ revocation.id = s.idgen number ∧
      revocation.certificateID = update.old.id
  unrecorded : update.new.status ≠ .revoked → update.revocation = none

/-- The revocations that are recorded with updates. -/
def recordedRevocations (updates : List CertificateUpdate) : List (Nat × Revocation) :=
  updates.filterMap CertificateUpdate.revocation

/-- The certificates after updates, and the revocations recorded with them. -/
def Ledger.recertify (l : Ledger) (updates : List CertificateUpdate) : Ledger :=
  { l with
    certificates := Table.insertAll Certificate.id
      (updates.map CertificateUpdate.new) l.certificates
    revocations := Table.insertAll Revocation.id ((recordedRevocations updates).map Prod.snd)
      l.revocations }

/-- A new order with its authorizations, each with its challenge. -/
structure OpenedOrder where
  order : ACMEOrder
  parts : List (ACMEAuthorization × ACMEChallenge)

/-- The IDs of an order and its parts. -/
def OpenedOrder.ids (opened : OpenedOrder) : List Text :=
  opened.order.id :: opened.parts.flatMap fun part => [part.1.id, part.2.id]

/-- The identifiers an order asks for. -/
def orderIdentifiers (order : ACMEOrder) : List (Text × Text) :=
  (order.requestedDNSNames.map fun name => ("dns".toList, name)) ++
    order.requestedIPAddresses.map fun address => ("ip".toList, address)

/-- An order as it is created. -/
structure OpenedOrder.Fresh (s : Service) (before drawn : Nat) (opened : OpenedOrder) : Prop where
  numbered : ∃ numbers : List Nat, numbers.Nodup ∧ (∀ number ∈ numbers, Drawn before drawn number) ∧
    opened.ids = numbers.map s.idgen
  pending : opened.order.status = .pending
  inhabited : opened.parts ≠ []
  identifiers : opened.parts.map (fun part => (part.1.identifierType, part.1.identifierValue)) =
    orderIdentifiers opened.order
  authorization : ∀ part ∈ opened.parts,
    part.1.orderID = opened.order.id ∧ part.1.status = .pending
  challenge : ∀ part ∈ opened.parts,
    part.2.authorizationID = part.1.id ∧ part.2.status = .pending

namespace Ledger

variable (l : Ledger)

def putEnrollment (enrollment : Enrollment) : Ledger :=
  { l with enrollments := l.enrollments.insert enrollment.id enrollment }

def putAttempt (attempt : IssuanceAttempt) : Ledger :=
  { l with attempts := l.attempts.insert attempt.enrollmentID attempt }

def putCertificate (certificate : Certificate) : Ledger :=
  { l with certificates := l.certificates.insert certificate.id certificate }

def putOrder (order : ACMEOrder) : Ledger :=
  { l with orders := l.orders.insert order.id order }

def putAuthz (authorization : ACMEAuthorization) : Ledger :=
  { l with authzs := l.authzs.insert authorization.id authorization }

def putChallenge (challenge : ACMEChallenge) : Ledger :=
  { l with challenges := l.challenges.insert challenge.id challenge }

/-- Authorizations entered with their challenges. -/
def putParts (parts : List (ACMEAuthorization × ACMEChallenge)) : Ledger :=
  { l with
    authzs := Table.insertAll ACMEAuthorization.id (parts.map Prod.fst) l.authzs
    challenges := Table.insertAll ACMEChallenge.id (parts.map Prod.snd) l.challenges }

def openOrder (opened : OpenedOrder) : Ledger := (l.putOrder opened.order).putParts opened.parts

def putIdentity (identity : Identity) : Ledger :=
  { l with identities := l.identities.insert identity.id identity }

def putIssuer (issuer : Issuer) : Ledger :=
  { l with issuers := l.issuers.insert issuer.id issuer }

def putProfile (profile : CertificateProfile) : Ledger :=
  { l with profiles := l.profiles.insert profile.id profile }

def putAccount (account : ACMEAccount) : Ledger :=
  { l with accounts := l.accounts.insert account.id account }

def putCRL (publication : CRLPublication) : Ledger :=
  { l with crls := l.crls.insert publication.id publication }

def putClaim (claim : CRLGenerationClaim) : Ledger :=
  { l with crlClaims := l.crlClaims.insert (claimKey claim) claim }

def dropClaim (claim : CRLGenerationClaim) : Ledger :=
  { l with crlClaims := l.crlClaims.erase (claimKey claim) }

/-- The number the next list of an issuer at a distribution point gets. -/
def nextCRLNumber (issuerID distributionPoint : Text) : Int64 :=
  Lifecycle.nextCRLNumber (l.crls.values.filter fun publication =>
    decide (publication.issuerID = issuerID)) distributionPoint

/-- The entries of an issuer's list. -/
def revokedEntries (issuerID : Text) : List RevokedCertificateEntry :=
  l.revocations.values.filterMap (revokedEntry l.certificates issuerID)

/-- Every challenge of an authorization is valid. -/
def ChallengesValid (authorizationID : Text) : Prop :=
  ∀ id challenge, l.challenges.lookup id = some challenge →
    challenge.authorizationID = authorizationID → challenge.status = .valid

/-- Every authorization of an order is valid. -/
def AuthorizationsValid (orderID : Text) : Prop :=
  ∀ id authorization, l.authzs.lookup id = some authorization →
    authorization.orderID = orderID → authorization.status = .valid

end Ledger

/-- A challenge as it is completed. -/
def completedChallenge (challenge : ACMEChallenge) (now : Time) : ACMEChallenge :=
  { challenge with status := .valid, validatedAt := now, updatedAt := now }

/-- An authorization as it becomes valid. -/
def validAuthorization (authorization : ACMEAuthorization) (now : Time) : ACMEAuthorization :=
  { authorization with
    status := .valid
    validationReuseExpiresAt := now.add (publicTLSValidationReuseCeiling now)
    updatedAt := now }

/-- A challenge that can still be answered, with its authorization. -/
structure OpenChallenge (l : Ledger) (challenge : ACMEChallenge)
    (authorization : ACMEAuthorization) : Prop where
  found : l.challenges.lookup challenge.id = some challenge
  unanswered : challenge.status = .pending ∨ challenge.status = .processing
  held : l.authzs.lookup authorization.id = some authorization
  owner : challenge.authorizationID = authorization.id
  pending : authorization.status = .pending

/-- The changes of orders, authorizations and challenges that exist. -/
inductive AcmeChange (l : Ledger) : Ledger → Prop
  | processing {challenge : ACMEChallenge} {authorization : ACMEAuthorization} {now : Time}
      (opened : OpenChallenge l challenge authorization) :
      AcmeChange l (l.putChallenge { challenge with status := .processing, updatedAt := now })
  /-- Another challenge of the authorization is not valid yet. -/
  | completed {challenge : ACMEChallenge} {authorization : ACMEAuthorization} {now : Time}
      (opened : OpenChallenge l challenge authorization)
      (waiting : ¬ (l.putChallenge (completedChallenge challenge now)).ChallengesValid
        authorization.id) :
      AcmeChange l (l.putChallenge (completedChallenge challenge now))
  /-- The order is not waiting, or another authorization of it is not valid yet. -/
  | authorized {challenge : ACMEChallenge} {authorization : ACMEAuthorization} {order : ACMEOrder}
      {now : Time} (opened : OpenChallenge l challenge authorization)
      (answered : (l.putChallenge (completedChallenge challenge now)).ChallengesValid
        authorization.id)
      (found : l.orders.lookup order.id = some order) (owner : authorization.orderID = order.id)
      (waiting : order.status ≠ .pending ∨
        ¬ (l.putAuthz (validAuthorization authorization now)).AuthorizationsValid order.id) :
      AcmeChange l ((l.putChallenge (completedChallenge challenge now)).putAuthz
        (validAuthorization authorization now))
  | readied {challenge : ACMEChallenge} {authorization : ACMEAuthorization} {order : ACMEOrder}
      {now : Time} (opened : OpenChallenge l challenge authorization)
      (answered : (l.putChallenge (completedChallenge challenge now)).ChallengesValid
        authorization.id)
      (found : l.orders.lookup order.id = some order) (owner : authorization.orderID = order.id)
      (pending : order.status = .pending)
      (authorized :
        (l.putAuthz (validAuthorization authorization now)).AuthorizationsValid order.id) :
      AcmeChange l (((l.putChallenge (completedChallenge challenge now)).putAuthz
        (validAuthorization authorization now)).putOrder
        { order with status := .ready, updatedAt := now })
  | invalidated {stored order : ACMEOrder} (found : l.orders.lookup order.id = some stored)
      (ready : stored.status = .ready) (same : OrderSame stored order)
      (invalid : order.status = .invalid) : AcmeChange l (l.putOrder order)
  | finalized {stored order : ACMEOrder} {certificate : Certificate}
      (found : l.orders.lookup order.id = some stored) (ready : stored.status = .ready)
      (same : OrderSame stored order) (valid : order.status = .valid)
      (issued : l.certificates.lookup order.certificateID = some certificate)
      (names : certificate.dnsNames = order.requestedDNSNames ∧
        certificate.ipAddresses = order.requestedIPAddresses) :
      AcmeChange l (l.putOrder order)

/-- The attempt of a certificate that was stored. -/
def finalizedAttempt (attempt : IssuanceAttempt) (now : Time) : IssuanceAttempt :=
  { attempt with status := .finalized, finalizedAt := now, updatedAt := now }

/-- The changes of the configuration. -/
inductive ConfigChange (s : Service) (before drawn : Nat) (l : Ledger) : Ledger → Prop
  | identity {identity : Identity} {number : Nat} (fresh : Drawn before drawn number)
      (named : identity.id = s.idgen number) :
      ConfigChange s before drawn l (l.putIdentity identity)
  | issuer {issuer : Issuer} {number : Nat} (fresh : Drawn before drawn number)
      (named : issuer.id = s.idgen number) (accepted : s.AcceptsKeyRef issuer.keyRef) :
      ConfigChange s before drawn l (l.putIssuer issuer)
  | profile {profile : CertificateProfile} {number : Nat} (fresh : Drawn before drawn number)
      (named : profile.id = s.idgen number) (positive : profile.validityPeriodSeconds > 0) :
      ConfigChange s before drawn l (l.putProfile profile)
  | profileIssuer {stored profile : CertificateProfile}
      (found : l.profiles.lookup profile.id = some stored) (same : ProfileSame stored profile) :
      ConfigChange s before drawn l (l.putProfile profile)
  | account {account : ACMEAccount} {number : Nat} (fresh : Drawn before drawn number)
      (named : account.id = s.idgen number) (valid : account.status = .valid) :
      ConfigChange s before drawn l (l.putAccount account)
  | accountUpdated {stored account : ACMEAccount}
      (found : l.accounts.lookup account.id = some stored) (valid : stored.status = .valid)
      (named : account.id = stored.id) :
      ConfigChange s before drawn l (l.putAccount account)

/-- The stored claim is recognised as the given one. -/
def ClaimCurrent (l : Ledger) (claim : CRLGenerationClaim) : Prop :=
  ∃ stored, l.crlClaims.lookup (claimKey claim) = some stored ∧ SameCRLClaim stored claim

/-- The steps of a publication of a list, each with the event it leaves. -/
inductive CrlChange (s : Service) (call : Nat) (before : State) (drawn : Nat) :
    Event → Ledger → Prop
  | claimedFirst {issuer : Issuer} {issuerID distributionPoint : Text} {now : Time}
      (known : (ledger before).issuers.lookup issuerID = some issuer)
      (free : (ledger before).crlClaims.lookup
        (crlGenerationClaimKey issuerID distributionPoint) = none)
      (past : now.nanos ≤ before.world.clock.nanos) :
      CrlChange s call before drawn (.crlClaimed (firstCRLClaim issuerID distributionPoint
        ((ledger before).nextCRLNumber issuerID distributionPoint) now))
        ((ledger before).putClaim (firstCRLClaim issuerID distributionPoint
          ((ledger before).nextCRLNumber issuerID distributionPoint) now))
  | claimedAgain {issuer : Issuer} {current : CRLGenerationClaim} {now : Time}
      (known : (ledger before).issuers.lookup current.issuerID = some issuer)
      (found : (ledger before).crlClaims.lookup (claimKey current) = some current)
      (expired : ¬ current.leaseExpiresAt.after now)
      (past : now.nanos ≤ before.world.clock.nanos) :
      CrlChange s call before drawn (.crlClaimed (takenOverClaim current
        ((ledger before).nextCRLNumber current.issuerID current.distributionPoint) now))
        ((ledger before).putClaim (takenOverClaim current
          ((ledger before).nextCRLNumber current.issuerID current.distributionPoint) now))
  | listed {claim : CRLGenerationClaim} (claimed : (call, .crlClaimed claim) ∈ before.history) :
      CrlChange s call before drawn
        (.revocationsListed claim ((ledger before).revokedEntries claim.issuerID)) (ledger before)
  | requested {claim : CRLGenerationClaim} {entries : List RevokedCertificateEntry}
      {request : Corecli.GenerateCRLRequest}
      (listed : (call, .revocationsListed claim entries) ∈ before.history)
      (number : request.crlNumber = claim.crlNumber)
      (revoked : request.revokedCertificates = entries.map revokedCertificate) :
      CrlChange s call before drawn (.crlRequested claim request) (ledger before)
  | published {claim : CRLGenerationClaim} {request : Corecli.GenerateCRLRequest}
      {publication : CRLPublication} {number : Nat}
      (requested : (call, .crlRequested claim request) ∈ before.history)
      (fresh : Drawn before.world.drawn drawn number) (named : publication.id = s.idgen number)
      (pair : publication.issuerID = claim.issuerID ∧
        publication.distributionPoint = claim.distributionPoint)
      (numbered : publication.crlNumber = claim.crlNumber)
      (dated : publication.thisUpdate = claim.updatedAt)
      (free : ∀ id existing, (ledger before).crls.lookup id = some existing →
        ¬ CRLNumberTaken existing publication)
      (current : ClaimCurrent (ledger before) claim) :
      CrlChange s call before drawn (.crlPublished claim request publication)
        (((ledger before).putCRL publication).dropClaim claim)
  | released {claim : CRLGenerationClaim}
      (claimed : (call, .crlClaimed claim) ∈ before.history)
      (current : ClaimCurrent (ledger before) claim) :
      CrlChange s call before drawn (.crlReleased claim) ((ledger before).dropClaim claim)

/-- The profile with an ID as it was read, or no profile. -/
def ProfileRead (l : Ledger) (profileID : Text) (profile : CertificateProfile) : Prop :=
  (profileID = [] ∧ profile = {}) ∨
    ∃ stored, l.profiles.lookup profileID = some stored ∧ ProfileSame profile stored

/-- A request for an enrollment passed the checks, with what was read for them. -/
structure Permitted (s : Service) (state : State) (req : CreateEnrollmentRequest)
    (identity : Identity) (profile : CertificateProfile) (csrInfo : CSRInfo)
    (now : Time) : Prop where
  identified : (ledger state).identities.lookup req.identityID = some identity
  profiled : ProfileRead (ledger state) req.certificateProfileID profile
  inspected : ∃ call, (call, .csrInspected req.csrPEM csrInfo) ∈ state.history
  passed : s.checkEnrollment req profile identity csrInfo now = .ok ()

/-- A request that a call makes for an order is the one of the order, which is not pending. -/
def RequestOfOrder (call : Nat) (state : State) (req : CreateEnrollmentRequest) : Prop :=
  ∀ ctx actor orderID finalize,
    (call, .started (.finalizeACMEOrder ctx actor orderID finalize)) ∈ state.history →
    ∃ order, (ledger state).orders.lookup orderID = some order ∧ order.status ≠ .pending ∧
      req = orderEnrollmentRequest order finalize

/-- The profile that is named, if any, has the issuer. -/
def Vouched (l : Ledger) (profileID issuerID : Text) : Prop :=
  profileID = [] ∨ ∃ profile, l.profiles.lookup profileID = some profile ∧
    profile.issuerID = issuerID

/-- The calls that ask for a new certificate in the place of one. -/
def Call.Replaces : Call → Prop
  | .renewCertificate _ _ _ _ => True
  | .reissueCertificate _ _ _ _ => True
  | _ => False

/-- Where a request for an enrollment comes from. Only for a replacement is the issuer of the
profile known to be the one of the request when the enrollment is stored. -/
inductive RequestOfCall (call : Nat) (state : State) (req : CreateEnrollmentRequest) : Prop
  | created {ctx : Context} {actor : Text}
      (started : (call, .started (.createEnrollment ctx actor req)) ∈ state.history)
  | ordered {ctx : Context} {actor orderID : Text} {finalize : FinalizeACMEOrderRequest}
      (started : (call, .started (.finalizeACMEOrder ctx actor orderID finalize)) ∈ state.history)
  | replaced {begun : Call} (started : (call, .started begun) ∈ state.history)
      (replaces : begun.Replaces)
        (vouched : Vouched (ledger state) req.certificateProfileID req.issuerID)

/-- What the core is asked to sign was checked. -/
structure Requested (s : Service) (state : State) (enrollment : Enrollment)
    (profile : CertificateProfile) (csrInfo : CSRInfo) (now : Time) : Prop where
  enrolled : ∃ stored, (ledger state).enrollments.lookup enrollment.id = some stored ∧
    EnrollmentSame enrollment stored
  profiled : ProfileRead (ledger state) enrollment.certificateProfileID profile
  passed : validateEnrollmentProfilePolicy s.lowerRune (enrollmentProfilePolicyRequest enrollment)
    profile csrInfo now = .ok ()
  past : now.nanos ≤ state.world.clock.nanos

/-- The CAA policy allowed every name. -/
def AllAllowed (dnsNames : List Text) (state : State) : Prop :=
  ∀ name ∈ dnsNames, ∃ call, (call, .caaAllowed name) ∈ state.history

/-- No profile is named, or it exists and, if it is a public one, the CAA policy allowed the
names. -/
def NamesAllowed (state : State) (profileID : Text) (dnsNames : List Text) : Prop :=
  profileID = [] ∨ ∃ profile, (ledger state).profiles.lookup profileID = some profile ∧
    (profile.publicTLS → AllAllowed dnsNames state)

/-- The events that tell what was seen outside. -/
def Event.Observes : Event → Prop
  | .csrInspected _ _ => True
  | .caaAllowed _ => True
  | _ => False

/-- No event, or one that tells what was seen outside. -/
def Silent (event : Option Event) : Prop := ∀ seen, event = some seen → seen.Observes

theorem Silent.none : Silent none := by
  rintro _ ⟨⟩

/-- What one atomic step of a call does to the ledger, the event it leaves and what it tells.
`drawn` counts the IDs given out after it. -/
inductive Change (s : Service) (call : Nat) (before : State) (drawn : Nat) :
    Option Event → Report → Ledger → Prop
  | idle {event : Option Event} {report : Report} (silent : Silent event)
      (quiet : report.Quiet call before) : Change s call before drawn event report (ledger before)
  | configured {report : Report} {after : Ledger}
      (change : ConfigChange s before.world.drawn drawn (ledger before) after)
      (quiet : report.Quiet call before) : Change s call before drawn none report after
  | crl {event : Event} {report : Report} {after : Ledger}
      (change : CrlChange s call before drawn event after) (quiet : report.Quiet call before)
      (tells : report.events ≠ [] → ∃ claim request publication,
        event = .crlPublished claim request publication) :
      Change s call before drawn (some event) report after
  | enrolled {enrollment : Enrollment} {identity : Identity} {profile : CertificateProfile}
      {csrInfo : CSRInfo} {now : Time} {number : Nat} {report : Report}
      (fresh : Drawn before.world.drawn drawn number) (named : enrollment.id = s.idgen number)
      (pending : enrollment.status = .pending)
      (permitted : Permitted s before (enrollmentProfilePolicyRequest enrollment) identity profile
        csrInfo now)
      (inspected : enrollment.csrDNSNames = csrInfo.dnsNames ∧
        enrollment.csrIPAddresses = csrInfo.ipAddresses)
      (ordered : RequestOfOrder call before (enrollmentProfilePolicyRequest enrollment))
      (quiet : report.Quiet call before)
      (source : RequestOfCall call before (enrollmentProfilePolicyRequest enrollment)) :
      Change s call before drawn (some (.enrollmentCreated enrollment.id)) report
        ((ledger before).putEnrollment enrollment)
  | decided {stored enrollment : Enrollment} {event : Option Event} {report : Report}
      (found : (ledger before).enrollments.lookup enrollment.id = some stored)
      (pending : stored.status = .pending) (same : EnrollmentSame stored enrollment)
      (decision : (enrollment.status = .approved ∧
          event = some (.enrollmentApproved enrollment.id)) ∨
        (enrollment.status = .rejected ∧ event = none))
      (quiet : report.Quiet call before) :
      Change s call before drawn event report ((ledger before).putEnrollment enrollment)
  | requested {enrollment : Enrollment} {issuer : Issuer} {profile : CertificateProfile}
      {csrInfo : CSRInfo} {now : Time}
      (checked : Requested s before enrollment profile csrInfo now) :
      Change s call before drawn (some (.issueRequested enrollment.id
        (coreIssueRequest s.lowerRune enrollment issuer profile now))) {} (ledger before)
  | claimedFirst {enrollmentID : Text} {now : Time}
      (free : (ledger before).attempts.lookup enrollmentID = none)
      (past : now.nanos ≤ before.world.clock.nanos) :
      Change s call before drawn (some (.claimed (firstAttempt enrollmentID now))) {}
        ((ledger before).putAttempt (firstAttempt enrollmentID now))
  | claimedAgain {current : IssuanceAttempt} {now : Time}
      (found : (ledger before).attempts.lookup current.enrollmentID = some current)
      (free : current.status = .failed ∨
        (current.status = .signing ∧ ¬ current.leaseExpiresAt.after now))
      (past : now.nanos ≤ before.world.clock.nanos) :
      Change s call before drawn (some (.claimed (reclaimed current now))) {}
        ((ledger before).putAttempt (reclaimed current now))
  | persisted {current stored : IssuanceAttempt} {result : IssueResult} {number : Nat} {now : Time}
      (claim : (call, .claimed current) ∈ before.history) (signing : current.status = .signing)
      (found : (ledger before).attempts.lookup current.enrollmentID = some stored)
      (token : SameIssuanceToken stored current) (fresh : Drawn before.world.drawn drawn number) :
      Change s call before drawn
        (some (.persisted current (signedAttempt current (s.idgen number) result now))) {}
        ((ledger before).putAttempt (signedAttempt current (s.idgen number) result now))
  | finalized {enrollment : Enrollment} {attempt : IssuanceAttempt} {now : Time}
      (found : (ledger before).enrollments.lookup enrollment.id = some enrollment)
      (approved : enrollment.status = .approved)
      (there : (ledger before).attempts.lookup enrollment.id = some attempt)
      (owner : attempt.enrollmentID = enrollment.id) (signed : attempt.status = .signed)
      (free : ∀ id existing, (ledger before).certificates.lookup id = some existing →
        ¬ CertificateBlocks existing (issuedCertificate enrollment attempt now)) :
      Change s call before drawn (some (.finalized enrollment.id)) {}
        ((((ledger before).putEnrollment { enrollment with status := .issued, updatedAt := now }
          ).putCertificate (issuedCertificate enrollment attempt now)
          ).putAttempt (finalizedAttempt attempt now))
  | markedFailed {attempt stored : IssuanceAttempt} {err : Err} {now : Time}
      (found : (ledger before).attempts.lookup attempt.enrollmentID = some stored)
      (token : SameIssuanceToken stored attempt) (signed : attempt.status = .signed) :
      Change s call before drawn (some (.markedFailed attempt.enrollmentID)) {}
        ((ledger before).putAttempt (failedAttempt attempt err now))
  | recertified {updates : List CertificateUpdate}
      (legal : ∀ update ∈ updates, update.Legal s call before drawn)
      (distinct : (updates.map fun update => update.old.id).Nodup)
      (apart : ((recordedRevocations updates).map Prod.fst).Nodup) :
      Change s call before drawn none {
        events := updates.map CertificateUpdate.event
        messages := updates.map CertificateUpdate.message } ((ledger before).recertify updates)
  | opened {opened : OpenedOrder} {report : Report}
      (fresh : opened.Fresh s before.world.drawn drawn)
      (allowed : NamesAllowed before opened.order.certificateProfileID
        opened.order.requestedDNSNames) (quiet : report.Quiet call before) :
      Change s call before drawn none report ((ledger before).openOrder opened)
  | acme {after : Ledger} {report : Report} (change : AcmeChange (ledger before) after)
      (quiet : report.Quiet call before) : Change s call before drawn none report after

/-- A transaction that ends in the given session does one change. -/
def Performs (s : Service) (call : Nat) (before : State) (event : Option Event) (after : Session) :
    Prop :=
  ∃ report, Told s (session before) after report ∧
    Change s call before after.drawn event report (.of after.db)

end AnoPki.Lifecycle
