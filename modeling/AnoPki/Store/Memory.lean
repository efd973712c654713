import AnoPki.Store.AuditLog
import AnoPki.Foundation.Table
import AnoPki.Foundation.Transaction

/-! # The memory store

The tables of the store and the repository functions on a transaction's working copy of them. The
functions that read a record by its key, or replace it when its status is still the expected one,
are the same for every table: `Shelf` says where a kind of record is kept and how it is named. -/
namespace AnoPki.Store

open Foundation Domain List Tx Shelf Table

variable {err : Err} {current : CRLGenerationClaim} {id : Text} {u : Unit}
  {certificate : Certificate} {attempt : IssuanceAttempt} {account : ACMEAccount}
  {claim : CRLGenerationClaim}

/-- The tables that no lifecycle operation reads or writes. -/
structure Annex where
  jobAttempts : Table JobAttempt := ∅
  notifications : Table NotificationEndpoint := ∅
  webhookDeliveries : Table WebhookDelivery := ∅
  apiKeys : Table APIKey := ∅
  ocspResponders : Table OCSPResponder := ∅

structure Db where
  identities : Table Identity
  issuers : Table Issuer
  profiles : Table CertificateProfile
  enrollments : Table Enrollment
  certificates : Table Certificate
  issuanceAttempts : Table IssuanceAttempt
  revocations : Table Revocation
  crls : Table CRLPublication
  crlClaims : Table CRLGenerationClaim
  audit : AuditLog
  outbox : Table OutboxMessage
  acmeAccounts : Table ACMEAccount
  acmeOrders : Table ACMEOrder
  acmeAuthzs : Table ACMEAuthorization
  acmeChallenges : Table ACMEChallenge
  annex : Annex

/-- `NewMemoryStore`. -/
def Db.empty : Db where
  identities := ∅
  issuers := ∅
  profiles := ∅
  enrollments := ∅
  certificates := ∅
  issuanceAttempts := ∅
  revocations := ∅
  crls := ∅
  crlClaims := ∅
  audit := .empty
  outbox := ∅
  acmeAccounts := ∅
  acmeOrders := ∅
  acmeAuthzs := ∅
  acmeChallenges := ∅
  annex := {}

/-- What the body of a transaction works on: its copy of the tables, and how many IDs the generator
has given out. -/
structure Session where
  db : Db
  drawn : Nat

/-- IDs are only ever given out. -/
instance : Preorder Session := Preorder.lift Session.drawn

abbrev Repo (α : Type) : Type := Tx Session Err α

/-- Where the records of a kind are kept, the key they are kept under, and the error when there is
none. -/
structure Shelf (α : Type) where
  table : Db → Table α
  put : Table α → Db → Db
  key : α → Text
  missing : ErrKind

namespace Shelf

variable {α κ : Type} [DecidableEq κ] (shelf : Shelf α)

def get (id : Text) : Repo α :=
  query fun s =>
    match (shelf.table s.db).lookup id with
    | some value => .ok value
    | none => .error shelf.missing.err

/-- Write a record under its key. -/
def write (value : α) : Repo Unit :=
  modify
    (fun s => { s with db := shelf.put ((shelf.table s.db).insert (shelf.key value) value) s.db })
    fun s => le_refl s.drawn

/-- Replace a record while it is still in the expected status. -/
def updateIfStatus (status : α → κ) (value : α) (current : κ) : Repo Unit := do
  let stored ← shelf.get (shelf.key value)
  require (status stored = current) (ErrKind.err .invalidTransition)
  shelf.write value

variable {shelf} {s t : Session} {value : α}

theorem get_ok_iff :
    shelf.get id s = (.ok value, t) ↔ (shelf.table s.db).lookup id = some value ∧ s = t := by
  rw [get, query_ok_iff]
  cases (shelf.table s.db).lookup id with
  | none | some stored => simp

theorem get_error_iff : shelf.get id s = (.error err, t) ↔
      (shelf.table s.db).lookup id = none ∧ err = shelf.missing.err ∧ s = t := by
  cases found : (shelf.table s.db).lookup id with
  | none => simp [get, query, found, eq_comm]
  | some stored => simp [get, query, found]

theorem write_ok_iff : shelf.write value s = (.ok u, t) ↔ { s with
      db := shelf.put ((shelf.table s.db).insert (shelf.key value) value) s.db } = t := by
  rw [write, modify_ok_iff]

/-- A record that is looked at before the rest is done. -/
theorem get_require_ok_iff {holds} [DecidablePred holds] {refused : Err} {next} :
    (shelf.get id >>= fun stored => require (holds stored) refused >>= fun _ => next) s =
    (.ok u, t) ↔
      (∃ stored, (shelf.table s.db).lookup id = some stored ∧ holds stored) ∧
      next s = (.ok u, t) := by
  simp only [bind_ok_iff, get_ok_iff, require_ok_iff]
  constructor
  · rintro ⟨stored, _, ⟨found, rfl⟩, _, _, ⟨same, rfl⟩, run⟩
    exact ⟨⟨stored, found, same⟩, run⟩
  · rintro ⟨⟨stored, found, same⟩, run⟩
    exact ⟨stored, s, ⟨found, rfl⟩, (), s, ⟨same, rfl⟩, run⟩

theorem updateIfStatus_ok_iff {status} {current : κ} :
    shelf.updateIfStatus status value current s = (.ok u, t) ↔
      (∃ stored, (shelf.table s.db).lookup (shelf.key value) = some stored ∧
        status stored = current) ∧
      { s with db := shelf.put ((shelf.table s.db).insert (shelf.key value) value) s.db } = t := by
  rw [updateIfStatus, get_require_ok_iff, write_ok_iff]

theorem updateIfStatus_error {status} {current : κ}
    (run : shelf.updateIfStatus status value current s = (.error err, t)) : t = s := by
  simp only [updateIfStatus, bind_error_iff, get_error_iff, get_ok_iff, require_error_iff,
    require_ok_iff, write, modify_error_iff] at run
  rcases run with ⟨-, -, rfl⟩ | ⟨stored, _, ⟨-, rfl⟩, ⟨-, -, rfl⟩ | ⟨_, _, -, ⟨⟩⟩⟩
  · rfl
  · rfl

end Shelf

@[reducible] def identities : Shelf Identity where
  table := Db.identities
  put table db := { db with identities := table }
  key := Identity.id
  missing := .identityNotFound

@[reducible] def issuers : Shelf Issuer where
  table := Db.issuers
  put table db := { db with issuers := table }
  key := Issuer.id
  missing := .issuerNotFound

@[reducible] def profiles : Shelf CertificateProfile where
  table := Db.profiles
  put table db := { db with profiles := table }
  key := CertificateProfile.id
  missing := .certificateProfileNotFound

@[reducible] def enrollments : Shelf Enrollment where
  table := Db.enrollments
  put table db := { db with enrollments := table }
  key := Enrollment.id
  missing := .enrollmentNotFound

@[reducible] def certificates : Shelf Certificate where
  table := Db.certificates
  put table db := { db with certificates := table }
  key := Certificate.id
  missing := .certificateNotFound

@[reducible] def issuanceAttempts : Shelf IssuanceAttempt where
  table := Db.issuanceAttempts
  put table db := { db with issuanceAttempts := table }
  key := IssuanceAttempt.enrollmentID
  missing := .issuanceAttemptNotFound

@[reducible] def acmeAccounts : Shelf ACMEAccount where
  table := Db.acmeAccounts
  put table db := { db with acmeAccounts := table }
  key := ACMEAccount.id
  missing := .acmeAccountNotFound

@[reducible] def acmeOrders : Shelf ACMEOrder where
  table := Db.acmeOrders
  put table db := { db with acmeOrders := table }
  key := ACMEOrder.id
  missing := .acmeOrderNotFound

@[reducible] def acmeAuthzs : Shelf ACMEAuthorization where
  table := Db.acmeAuthzs
  put table db := { db with acmeAuthzs := table }
  key := ACMEAuthorization.id
  missing := .acmeAuthorizationNotFound

@[reducible] def acmeChallenges : Shelf ACMEChallenge where
  table := Db.acmeChallenges
  put table db := { db with acmeChallenges := table }
  key := ACMEChallenge.id
  missing := .acmeChallengeNotFound

def getIdentity : Text → Repo Identity := identities.get

def createIdentity : Identity → Repo Unit := identities.write

def getIssuer : Text → Repo Issuer := issuers.get

def createIssuer : Issuer → Repo Unit := issuers.write

def getCertificateProfile : Text → Repo CertificateProfile := profiles.get

def createCertificateProfile : CertificateProfile → Repo Unit := profiles.write

def updateCertificateProfileIssuerIfCurrent (profile : CertificateProfile) (currentIssuerID : Text)
    (currentUpdatedAt : Time) : Repo Unit := do
  let stored ← getCertificateProfile profile.id
  require (stored.issuerID = currentIssuerID ∧ stored.updatedAt.equal currentUpdatedAt)
    (ErrKind.err .invalidTransition)
  profiles.write profile

def getEnrollment : Text → Repo Enrollment := enrollments.get

def createEnrollment : Enrollment → Repo Unit := enrollments.write

def updateEnrollmentIfStatus : Enrollment → EnrollmentStatus → Repo Unit :=
  enrollments.updateIfStatus Enrollment.status

def getCertificate : Text → Repo Certificate := certificates.get

def updateCertificateIfStatus : Certificate → CertificateStatus → Repo Unit :=
  certificates.updateIfStatus Certificate.status

def getIssuanceAttempt : Text → Repo IssuanceAttempt := issuanceAttempts.get

def getACMEAccount : Text → Repo ACMEAccount := acmeAccounts.get

def listACMEAccounts : Repo (List ACMEAccount) :=
  query fun s => .ok s.db.acmeAccounts.values

def ensureACMEAccountThumbprintAvailable (candidate : ACMEAccount) : Repo Unit :=
  query fun s =>
    if candidate.keyThumbprint ≠ [] ∧ s.db.acmeAccounts.values.any (fun account =>
        decide (account.id ≠ candidate.id ∧ account.keyThumbprint = candidate.keyThumbprint)) then
      .error (ErrKind.err .invalidTransition)
    else .ok ()

def createACMEAccount (account : ACMEAccount) : Repo Unit := do
  ensureACMEAccountThumbprintAvailable account
  acmeAccounts.write account

def updateACMEAccountIfStatus (account : ACMEAccount) (currentStatus : ACMEAccountStatus) :
    Repo Unit := do
  let current ← getACMEAccount account.id
  require (current.status = currentStatus) (ErrKind.err .invalidTransition)
  ensureACMEAccountThumbprintAvailable account
  acmeAccounts.write account

def getACMEOrder : Text → Repo ACMEOrder := acmeOrders.get

def createACMEOrder : ACMEOrder → Repo Unit := acmeOrders.write

def updateACMEOrderIfStatus : ACMEOrder → ACMEOrderStatus → Repo Unit :=
  acmeOrders.updateIfStatus ACMEOrder.status

def getACMEAuthorization : Text → Repo ACMEAuthorization := acmeAuthzs.get

def createACMEAuthorization : ACMEAuthorization → Repo Unit := acmeAuthzs.write

def updateACMEAuthorizationIfStatus : ACMEAuthorization → ACMEAuthorizationStatus → Repo Unit :=
  acmeAuthzs.updateIfStatus ACMEAuthorization.status

def getACMEChallenge : Text → Repo ACMEChallenge := acmeChallenges.get

def createACMEChallenge : ACMEChallenge → Repo Unit := acmeChallenges.write

def updateACMEChallengeIfStatus : ACMEChallenge → ACMEChallengeStatus → Repo Unit :=
  acmeChallenges.updateIfStatus ACMEChallenge.status

/-- Another certificate is in the way: one of the same enrollment, or one with the same issuer and
serial number. -/
def CertificateBlocks (existing certificate : Certificate) : Prop :=
  existing.id ≠ certificate.id ∧
    ((certificate.enrollmentID ≠ [] ∧ existing.enrollmentID = certificate.enrollmentID) ∨
      (certificate.issuerID ≠ [] ∧ certificate.serialNumber ≠ [] ∧
        existing.issuerID = certificate.issuerID ∧
        existing.serialNumber = certificate.serialNumber))
deriving Decidable

def ensureCertificateFinalizationKeysAvailable (certificate : Certificate) : Repo Unit :=
  query fun s =>
    if s.db.certificates.values.any fun existing => CertificateBlocks existing certificate then
      .error (ErrKind.err .invalidTransition)
    else .ok ()

def createCertificate (certificate : Certificate) : Repo Unit := do
  ensureCertificateFinalizationKeysAvailable certificate
  certificates.write certificate

def getCertificateByEnrollmentID (enrollmentID : Text) : Repo Certificate :=
  query fun s =>
    match s.db.certificates.values.find? fun certificate =>
      decide (certificate.enrollmentID = enrollmentID) with
    | some certificate => .ok certificate
    | none => .error (ErrKind.err .certificateNotFound)

def createIssuanceAttempt (attempt : IssuanceAttempt) : Repo Unit := do
  query fun s =>
    if (s.db.issuanceAttempts.lookup attempt.enrollmentID).isSome then
      .error (ErrKind.err .invalidTransition)
    else .ok ()
  issuanceAttempts.write attempt

/-- The fields by which a stored attempt is recognised as the one that was read. -/
def SameIssuanceToken (stored current : IssuanceAttempt) : Prop :=
  stored.status = current.status ∧ stored.leaseExpiresAt.equal current.leaseExpiresAt ∧
    stored.updatedAt.equal current.updatedAt
deriving Decidable

def updateIssuanceAttemptIfCurrent (attempt current : IssuanceAttempt) : Repo Unit := do
  let stored ← getIssuanceAttempt attempt.enrollmentID
  require (SameIssuanceToken stored current) (ErrKind.err .invalidTransition)
  issuanceAttempts.write attempt

def createRevocation (revocation : Revocation) : Repo Unit :=
  modify
    (fun s => { s with
      db := { s.db with revocations := s.db.revocations.insert revocation.id revocation } })
    fun s => le_refl s.drawn

/-- The entry of a revocation in the list of an issuer, if it belongs there. -/
def revokedEntry (certificates : Table Certificate) (issuerID : Text) (revocation : Revocation) :
    Option RevokedCertificateEntry :=
  match certificates.lookup revocation.certificateID with
  | some certificate =>
    if certificate.issuerID = issuerID ∧ certificate.status = .revoked then some {
      certificateID := certificate.id
      serialNumber := certificate.serialNumber
      revokedAt := revocation.revokedAt
      reason := revocation.reason }
    else none
  | none => none

def listRevocationsByIssuer (issuerID : Text) : Repo (List RevokedCertificateEntry) :=
  query fun s => .ok (s.db.revocations.values.filterMap (revokedEntry s.db.certificates issuerID))

def listCRLPublicationsByIssuer (issuerID : Text) : Repo (List CRLPublication) :=
  query fun s => .ok (s.db.crls.values.filter fun publication =>
    decide (publication.issuerID = issuerID))

/-- Another publication of the issuer at the distribution point has the number. -/
def CRLNumberTaken (publication candidate : CRLPublication) : Prop :=
  publication.id ≠ candidate.id ∧ publication.issuerID = candidate.issuerID ∧
    publication.distributionPoint = candidate.distributionPoint ∧
    publication.crlNumber = candidate.crlNumber
deriving Decidable

def ensureCRLPublicationNumberAvailable (candidate : CRLPublication) : Repo Unit :=
  query fun s =>
    if s.db.crls.values.any fun publication => CRLNumberTaken publication candidate then
      .error (ErrKind.err .invalidTransition)
    else .ok ()

def createCRLPublication (publication : CRLPublication) : Repo Unit := do
  ensureCRLPublicationNumberAvailable publication
  modify
    (fun s => { s with db := { s.db with crls := s.db.crls.insert publication.id publication } })
    fun s => le_refl s.drawn

def crlGenerationClaimKey (issuerID distributionPoint : Text) : Text :=
  issuerID ++ [Char.ofNat 0] ++ distributionPoint

/-- The key names the issuer and the distribution point when the issuer has no zero character. -/
theorem crlClaimKey_inj {issuerID issuerID' distributionPoint distributionPoint'}
    (nonzero : Char.ofNat 0 ∉ issuerID) (nonzero' : Char.ofNat 0 ∉ issuerID')
    (same : crlGenerationClaimKey issuerID distributionPoint =
      crlGenerationClaimKey issuerID' distributionPoint') :
    issuerID = issuerID' ∧ distributionPoint = distributionPoint' := by
  simp only [crlGenerationClaimKey, append_assoc, singleton_append] at same
  exact Text.append_cons_inj nonzero nonzero' same

/-- The key a claim is kept under. -/
def claimKey (claim : CRLGenerationClaim) : Text :=
  crlGenerationClaimKey claim.issuerID claim.distributionPoint

@[reducible] def crlClaims : Shelf CRLGenerationClaim where
  table := Db.crlClaims
  put table db := { db with crlClaims := table }
  key := claimKey
  missing := .crlGenerationClaimNotFound

def createCRLGenerationClaim (claim : CRLGenerationClaim) : Repo Unit := do
  query fun s =>
    if (s.db.crlClaims.lookup (claimKey claim)).isSome then
      .error (ErrKind.err .invalidTransition)
    else .ok ()
  crlClaims.write claim

def getCRLGenerationClaim (issuerID distributionPoint : Text) : Repo CRLGenerationClaim :=
  crlClaims.get (crlGenerationClaimKey issuerID distributionPoint)

/-- The fields by which a stored claim is recognised as the one that was read. -/
def SameCRLClaim (stored current : CRLGenerationClaim) : Prop :=
  stored.crlNumber = current.crlNumber ∧ stored.leaseExpiresAt.equal current.leaseExpiresAt ∧
    stored.updatedAt.equal current.updatedAt
deriving Decidable

def updateCRLGenerationClaimIfCurrent (claim current : CRLGenerationClaim) : Repo Unit := do
  let stored ← crlClaims.get (claimKey claim)
  require (SameCRLClaim stored current) (ErrKind.err .invalidTransition)
  crlClaims.write claim

def deleteCRLGenerationClaimIfCurrent (current : CRLGenerationClaim) : Repo Unit := do
  let stored ← crlClaims.get (claimKey current)
  require (SameCRLClaim stored current) (ErrKind.err .invalidTransition)
  modify
    (fun s => { s with db := { s.db with crlClaims := s.db.crlClaims.erase (claimKey current) } })
    fun s => le_refl s.drawn

def createOutboxMessage (message : OutboxMessage) : Repo Unit :=
  modify
    (fun s => { s with db := { s.db with outbox := s.db.outbox.insert message.id message } })
    fun s => le_refl s.drawn

def createAuditEvent (event : AuditEvent) : Repo Unit where
  run s :=
    let (result, log) := appendMemoryAuditEvent s.db.audit event
    (result, { s with db := { s.db with audit := log } })
  forward s := le_refl s.drawn

def deleteAuditEventsBefore (before : Time) : Repo Nat where
  run s :=
    let (result, log) := pruneMemoryAuditEvents s.db.audit before
    (result, { s with db := { s.db with audit := log } })
  forward s := le_refl s.drawn

def listAuditEvents : Repo (List AuditEvent) :=
  query fun s => .ok s.db.audit.events

def listCertificates : Repo (List Certificate) :=
  query fun s => .ok s.db.certificates.values

def certificateNeedsExpirationScan (certificate : Certificate) (now warningBefore : Time) : Prop :=
  ((certificate.status = .valid ∨ certificate.status = .suspended) ∧
    ¬ certificate.notAfter.after now) ∨
  (certificate.status = .valid ∧ certificate.notAfter.after now ∧
    ¬ certificate.notAfter.after warningBefore ∧ certificate.renewalNotifiedAt.isZero)
deriving Decidable

def listCertificatesForExpirationScan (now warningBefore : Time) (limit : Int64) :
    Repo (List Certificate) :=
  query fun s =>
    if limit ≤ 0 then .ok []
    else
      let found := s.db.certificates.values.filter fun certificate =>
        certificateNeedsExpirationScan certificate now warningBefore
      .ok ((found.insertionSort fun a b => a.notAfter.before b.notAfter ∨
        (a.notAfter.equal b.notAfter ∧ a.id ≤ b.id)).take limit.toInt.toNat)

def listACMEAuthorizationsByOrder (orderID : Text) : Repo (List ACMEAuthorization) :=
  query fun s =>
    let found := s.db.acmeAuthzs.values.filter fun authorization =>
      decide (authorization.orderID = orderID)
    .ok (found.insertionSort fun a b => a.createdAt.before b.createdAt ∨
      (a.createdAt.equal b.createdAt ∧ a.id ≤ b.id))

def listACMEChallengesByAuthorization (authorizationID : Text) : Repo (List ACMEChallenge) :=
  query fun s =>
    let found := s.db.acmeChallenges.values.filter fun challenge =>
      decide (challenge.authorizationID = authorizationID)
    .ok (found.insertionSort fun a b => a.createdAt.before b.createdAt ∨
      (a.createdAt.equal b.createdAt ∧ a.id ≤ b.id))

section Outcomes

variable {s t : Session} {u : Unit}

/-- A check that no record of a table stands in the way. -/
theorem free_ok_iff {table : Table α} {blocks : α → Prop} [DecidablePred blocks] :
    (if table.values.any (fun existing => blocks existing) then .error err else .ok ()) =
        (.ok u : Except Err Unit) ↔
      ∀ id existing, table.lookup id = some existing → ¬ blocks existing := by
  constructor
  · intro free id existing found blocked
    rw [if_pos] at free
    · cases free
    · exact any_eq_true.mpr ⟨existing, mem_values_iff.mpr ⟨id, found⟩, decide_eq_true blocked⟩
  · intro free
    refine if_neg fun taken => ?_
    obtain ⟨existing, inside, blocked⟩ := any_eq_true.mp taken
    obtain ⟨id, found⟩ := mem_values_iff.mp inside
    exact free id existing found (of_decide_eq_true blocked)

theorem createCertificate_ok_iff : createCertificate certificate s = (.ok u, t) ↔
      (∀ id existing, s.db.certificates.lookup id = some existing →
        ¬ CertificateBlocks existing certificate) ∧
      { s with db := { s.db with
        certificates := s.db.certificates.insert certificate.id certificate } } = t := by
  simp only [createCertificate, ensureCertificateFinalizationKeysAvailable, bind_ok_iff,
    query_ok_iff, Shelf.write_ok_iff, free_ok_iff, and_assoc, exists_and_left, exists_eq_left',
    exists_const]

theorem getByEnrollment_ok {enrollmentID}
    (run : getCertificateByEnrollmentID enrollmentID s = (.ok certificate, t)) :
    (∃ id, s.db.certificates.lookup id = some certificate) ∧
      certificate.enrollmentID = enrollmentID ∧ s = t := by
  obtain ⟨look, rfl⟩ := query_ok_iff.mp run
  split at look
  · next found =>
    cases look
    refine ⟨mem_values_iff.mp (mem_of_find?_eq_some found), ?_, rfl⟩
    simpa using List.find?_some found
  · cases look

theorem createAttempt_ok_iff : createIssuanceAttempt attempt s = (.ok u, t) ↔
      s.db.issuanceAttempts.lookup attempt.enrollmentID = none ∧
      { s with db := { s.db with issuanceAttempts :=
        s.db.issuanceAttempts.insert attempt.enrollmentID attempt } } = t := by
  simp only [createIssuanceAttempt, bind_ok_iff, query_ok_iff, Shelf.write_ok_iff]
  cases s.db.issuanceAttempts.lookup attempt.enrollmentID with
  | none | some stored => simp

theorem updateAttempt_ok_iff {current} :
    updateIssuanceAttemptIfCurrent attempt current s = (.ok u, t) ↔
      (∃ stored, s.db.issuanceAttempts.lookup attempt.enrollmentID = some stored ∧
        SameIssuanceToken stored current) ∧
      { s with db := { s.db with issuanceAttempts :=
        s.db.issuanceAttempts.insert attempt.enrollmentID attempt } } = t := by
  rw [updateIssuanceAttemptIfCurrent, getIssuanceAttempt, Shelf.get_require_ok_iff,
    Shelf.write_ok_iff]

theorem updateProfileIssuer_ok {profile currentIssuerID currentUpdatedAt}
    (run : updateCertificateProfileIssuerIfCurrent profile currentIssuerID currentUpdatedAt s =
      (.ok u, t)) :
    t = { s with db := { s.db with profiles := s.db.profiles.insert profile.id profile } } := by
  rw [updateCertificateProfileIssuerIfCurrent, getCertificateProfile, Shelf.get_require_ok_iff,
    Shelf.write_ok_iff] at run
  exact run.2.symm

/-- No other account has the key of the candidate. -/
def ThumbprintAvailable (accounts : Table ACMEAccount) (candidate : ACMEAccount) : Prop :=
  candidate.keyThumbprint ≠ [] → ∀ id account, accounts.lookup id = some account →
    account.id ≠ candidate.id → account.keyThumbprint ≠ candidate.keyThumbprint

theorem thumbprintAvailable_ok_iff {candidate} :
    ensureACMEAccountThumbprintAvailable candidate s = (.ok u, t) ↔
      ThumbprintAvailable s.db.acmeAccounts candidate ∧ s = t := by
  rw [ensureACMEAccountThumbprintAvailable, query_ok_iff]
  refine and_congr_left fun _ => ?_
  constructor
  · intro free named id account found other same
    rw [if_pos] at free
    · cases free
    · refine ⟨named, any_eq_true.mpr ⟨account, mem_values_iff.mpr ⟨id, found⟩, ?_⟩⟩
      exact decide_eq_true ⟨other, same⟩
  · intro available
    refine if_neg ?_
    rintro ⟨named, taken⟩
    obtain ⟨account, inside, clash⟩ := any_eq_true.mp taken
    obtain ⟨id, found⟩ := mem_values_iff.mp inside
    obtain ⟨other, same⟩ := of_decide_eq_true clash
    exact available named id account found other same

theorem createACMEAccount_ok_iff :
    createACMEAccount account s = (.ok u, t) ↔ ThumbprintAvailable s.db.acmeAccounts account ∧
      { s with db := { s.db with acmeAccounts := s.db.acmeAccounts.insert account.id account } } =
        t := by
  simp only [createACMEAccount, bind_ok_iff, thumbprintAvailable_ok_iff, Shelf.write_ok_iff,
    and_assoc, exists_and_left, exists_eq_left', exists_const]

theorem updateAccount_ok_iff {status} :
    updateACMEAccountIfStatus account status s = (.ok u, t) ↔
      (∃ stored, s.db.acmeAccounts.lookup account.id = some stored ∧ stored.status = status) ∧
      ThumbprintAvailable s.db.acmeAccounts account ∧
      { s with db := { s.db with acmeAccounts := s.db.acmeAccounts.insert account.id account } } =
        t := by
  rw [updateACMEAccountIfStatus, getACMEAccount, Shelf.get_require_ok_iff]
  exact and_congr_right fun _ => createACMEAccount_ok_iff

theorem createCRLPublication_ok_iff {publication} :
      createCRLPublication publication s = (.ok u, t) ↔
      (∀ id existing, s.db.crls.lookup id = some existing → ¬ CRLNumberTaken existing publication) ∧
      { s with db := { s.db with crls := s.db.crls.insert publication.id publication } } = t := by
  simp only [createCRLPublication, ensureCRLPublicationNumberAvailable, bind_ok_iff,
    query_ok_iff, modify_ok_iff, free_ok_iff, and_assoc, exists_and_left, exists_eq_left',
    exists_const]

theorem createCRLClaim_ok_iff : createCRLGenerationClaim claim s = (.ok u, t) ↔
      s.db.crlClaims.lookup (claimKey claim) = none ∧
      { s with db := { s.db with crlClaims := s.db.crlClaims.insert (claimKey claim) claim } } =
        t := by
  simp only [createCRLGenerationClaim, bind_ok_iff, query_ok_iff, Shelf.write_ok_iff]
  cases s.db.crlClaims.lookup (claimKey claim) with
  | none | some stored => simp

theorem updateCRLClaim_ok_iff :
    updateCRLGenerationClaimIfCurrent claim current s = (.ok u, t) ↔
      (∃ stored, s.db.crlClaims.lookup (claimKey claim) = some stored ∧
      SameCRLClaim stored current) ∧
        { s with db := { s.db with crlClaims := s.db.crlClaims.insert (claimKey claim) claim } } =
          t := by
  rw [updateCRLGenerationClaimIfCurrent, Shelf.get_require_ok_iff, Shelf.write_ok_iff]

theorem deleteCRLClaim_ok_iff :
    deleteCRLGenerationClaimIfCurrent current s = (.ok u, t) ↔
      (∃ stored, s.db.crlClaims.lookup (claimKey current) = some stored ∧
        SameCRLClaim stored current) ∧
      { s with db := { s.db with crlClaims := s.db.crlClaims.erase (claimKey current) } } = t := by
  rw [deleteCRLGenerationClaimIfCurrent, Shelf.get_require_ok_iff, modify_ok_iff]

/-- A claim that could not be deleted leaves everything as it was. -/
theorem deleteCRLClaim_error
    (run : deleteCRLGenerationClaimIfCurrent current s = (.error err, t)) : t = s := by
  simp only [deleteCRLGenerationClaimIfCurrent, bind_error_iff, Shelf.get_error_iff,
    Shelf.get_ok_iff, require_error_iff, require_ok_iff, modify_error_iff] at run
  rcases run with ⟨-, -, rfl⟩ | ⟨stored, _, ⟨-, rfl⟩, ⟨-, -, rfl⟩ | ⟨_, _, -, ⟨⟩⟩⟩
  · rfl
  · rfl

theorem createAuditEvent_ok {event} (run : createAuditEvent event s = (.ok u, t)) :
    ∃ log, appendMemoryAuditEvent s.db.audit event = (.ok (), log) ∧
      t = { s with db := { s.db with audit := log } } := by
  obtain ⟨result, rfl⟩ := Prod.mk.inj run
  exact ⟨_, Prod.ext result rfl, rfl⟩

/-- The candidates of a scan are stored certificates, each once. -/
theorem listForScan_ok {now warningBefore limit found}
    (keyed : Table.KeyedBy Certificate.id s.db.certificates)
    (run : listCertificatesForExpirationScan now warningBefore limit s = (.ok found, t)) :
    s = t ∧ (∀ certificate ∈ found, s.db.certificates.lookup certificate.id = some certificate) ∧
      (found.map Certificate.id).Nodup := by
  obtain ⟨look, rfl⟩ := query_ok_iff.mp run
  refine ⟨rfl, ?_⟩
  split at look
  · cases look
    simp
  · cases look
    constructor
    · intro certificate inside
      have stored := mem_of_mem_take inside
      rw [mem_insertionSort] at stored
      obtain ⟨id, there⟩ := mem_values_iff.mp (mem_of_mem_filter stored)
      rw [keyed id certificate there]
      exact there
    · refine List.Nodup.sublist ((take_sublist _ _).map _) ?_
      refine (((perm_insertionSort _ _).map _).nodup_iff).mpr ?_
      exact keyed.nodup_values.sublist (filter_sublist.map _)

theorem mem_listAuthorizations {orderID found}
    (run : listACMEAuthorizationsByOrder orderID s = (.ok found, t)) :
    s = t ∧ ∀ authorization, authorization ∈ found ↔
      (∃ id, s.db.acmeAuthzs.lookup id = some authorization) ∧ authorization.orderID = orderID := by
  obtain ⟨look, rfl⟩ := query_ok_iff.mp run
  cases look
  refine ⟨rfl, ?_⟩
  intro authorization
  rw [mem_insertionSort, mem_filter, mem_values_iff, decide_eq_true_iff]

theorem mem_listChallenges {authorizationID found}
    (run : listACMEChallengesByAuthorization authorizationID s = (.ok found, t)) :
    s = t ∧ ∀ challenge, challenge ∈ found ↔
        (∃ id, s.db.acmeChallenges.lookup id = some challenge) ∧
        challenge.authorizationID = authorizationID := by
  obtain ⟨look, rfl⟩ := query_ok_iff.mp run
  cases look
  refine ⟨rfl, ?_⟩
  intro challenge
  rw [mem_insertionSort, mem_filter, mem_values_iff, decide_eq_true_iff]

end Outcomes

end AnoPki.Store
