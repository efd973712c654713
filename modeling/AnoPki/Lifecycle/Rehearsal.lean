import AnoPki.Foundation.Rehearsal
import AnoPki.Lifecycle.Progress

/-! # Rehearsing the service

Runs of the service are computed with an audit log that is neither hashed nor verified. The stand-in
for an operation differs from it only in how it appends to the log, and a sound log takes the same
events. -/
namespace AnoPki.Lifecycle

open Foundation Domain Store List

/-- What an audit event says, without its place in the chain. -/
def said (event : AuditEvent) : AuditEvent :=
  { event with sequence := 0, hashAlgorithm := [], previousEventHash := [], eventHash := [] }

/-- A sound log and an unhashed one with the same events. -/
structure SameEvents (log plan : AuditLog) : Prop where
  sound : log.Sound
  events : log.events.map said = plan.events.map said
  latest : log.state.latestSequence = plan.state.latestSequence

/-- Tables that are the same but for the log. -/
def SameTables (db plan : Db) : Prop :=
  ∃ log, SameEvents log plan.audit ∧ db = { plan with audit := log }

instance : Likeness Session where
  Alike s t := ∃ db, SameTables db t.db ∧ s = { t with db := db }

instance : Likeness World where
  Alike s t := ∃ db, SameTables db t.db ∧ s = { t with db := db }

def isText : Json → Bool
  | .string _ => true
  | _ => false

/-- The number that digits stand for. -/
def digitsValue (digits : Text) : Nat := digits.foldl (fun value c => 10 * value + (c.toNat - 48)) 0

/-- A value that is read back as it was written. -/
def plainValue : Json → Bool
  | .string _ => true
  | .bool _ => true
  | .number literal => Text.decimalInt (digitsValue literal) = literal
  | .array values => values.all isText
  | _ => false

theorem isFlat_of_plainValue {value} (plain : plainValue value = true) : value.IsFlat := by
  cases value with
  | string text => exact .string text
  | bool value => exact .bool value
  | number literal => exact of_decide_eq_true plain ▸ .number _
  | array values =>
    have texts : ∃ texts : List Text, texts.map .string = values := by
      induction values with
      | nil => exact ⟨[], rfl⟩
      | cons value values ih =>
        simp only [plainValue, all_cons, Bool.and_eq_true] at plain ih
        obtain ⟨texts, rfl⟩ := ih plain.2
        cases value with
        | string text => exact ⟨text :: texts, rfl⟩
        | null | bool | number | array | object => cases plain.1
    obtain ⟨texts, rfl⟩ := texts
    exact .texts texts
  | null | object => cases plain

/-- Append an event to an unhashed log. -/
def planAuditEvent (readable : Bool) (event : AuditEvent) (log : AuditLog) :
    Except Err Unit × AuditLog :=
  if log.state.latestSequence + 1 ≤ 0 then
    (.error { kind := .other, detail := "audit sequence must be positive" }, log)
  else if readable then
    (.ok (), ⟨log.events ++ [event],
      { log.state with latestSequence := log.state.latestSequence + 1 }⟩)
  else (.error { kind := .other, detail := "decode audit metadata" }, log)

theorem planAuditEvent_agrees {log plan} (same : SameEvents log plan) (event : AuditEvent)
    {readable} (reads : readable = (Json.read event.metadataJSON).isSome) :
    (appendMemoryAuditEvent log event).1 = (planAuditEvent readable event plan).1 ∧
      SameEvents (appendMemoryAuditEvent log event).2 (planAuditEvent readable event plan).2 := by
  obtain ⟨-, lastSequence, lastHash⟩ := auditState_of_valid same.sound.valid
  rw [planAuditEvent, ← same.latest]
  by_cases negative : log.state.latestSequence + 1 ≤ 0
  · rw [if_pos negative]
    simp only [appendMemoryAuditEvent, same.sound.verified, lastSequence, withAuditEventHash,
      if_pos negative]
    exact ⟨rfl, same⟩
  rw [if_neg negative]
  cases read : Json.read event.metadataJSON with
  | none =>
    rw [reads, read]
    simp only [appendMemoryAuditEvent, same.sound.verified, lastSequence, withAuditEventHash,
      if_neg negative, auditEventHash, auditHashInput, canonicalAuditMetadata, read]
    exact ⟨rfl, same⟩
  | some metadata =>
    obtain ⟨prepared, hashed⟩ := withHash_succeeds (Int64.not_le.mp negative)
      log.state.latestEventHash read
    obtain ⟨shape, after⟩ := same.sound.extend hashed prepared.createdAt
    rw [if_pos (show readable = true by rw [reads, read]; rfl)]
    simp only [appendMemoryAuditEvent, same.sound.verified, lastSequence, lastHash, hashed,
      auditState_valid_iff.mpr after.valid]
    refine ⟨rfl, after, ?_, ?_⟩
    · simp only [map_append, same.events, map_cons, map_nil]
      rw [shape]
      rfl
    · rw [shape]

section Transactions

variable {α : Type}

instance (s : Service) : Tx.Rehearsed s.newID where
  plain t := (.ok (s.idgen t.drawn), { t with drawn := t.drawn + 1 })
  agrees := by
    rintro _ t ⟨db, same, rfl⟩
    exact ⟨rfl, db, same, rfl⟩

/-- A shelf beside the log. -/
class Apart (shelf : Store.Shelf α) : Prop where
  table : ∀ db log, shelf.table { db with audit := log } = shelf.table db
  put : ∀ table db log, shelf.put table { db with audit := log } =
    { shelf.put table db with audit := log }
  audit : ∀ table db, (shelf.put table db).audit = db.audit

/-- A look beside the log. -/
@[reducible] def rehearsedQuery {look : Session → Except Err α}
    (blind : ∀ db log drawn, look ⟨{ db with audit := log }, drawn⟩ = look ⟨db, drawn⟩) :
    Tx.Rehearsed (Tx.query look) :=
  .query fun {_ t} alike => by
    obtain ⟨_, ⟨log, -, rfl⟩, rfl⟩ := alike
    exact blind t.db log t.drawn

/-- A change beside the log. -/
@[reducible] def rehearsedModify {update : Db → Db}
    {forward : ∀ s : Session, s ≤ { s with db := update s.db }}
    (blind : ∀ db log, update { db with audit := log } = { update db with audit := log })
    (kept : ∀ db, (update db).audit = db.audit) :
    Tx.Rehearsed (Tx.modify (fun s => { s with db := update s.db }) forward : Repo Unit) :=
  .modify fun {_ t} alike => by
    obtain ⟨_, ⟨log, same, rfl⟩, rfl⟩ := alike
    refine ⟨{ update t.db with audit := log }, ⟨log, ?_, rfl⟩, ?_⟩
    · rw [kept]
      exact same
    · rw [blind]

variable (shelf : Store.Shelf α) [apart : Apart shelf]

instance (id : Text) : Tx.Rehearsed (shelf.get id) :=
  rehearsedQuery fun db log _ => by rw [apart.table db log]

instance (value : α) : Tx.Rehearsed (shelf.write value) :=
  @rehearsedModify (fun db => shelf.put ((shelf.table db).insert (shelf.key value) value) db) _
    (fun db log => by rw [apart.table, apart.put]) fun _ => apart.audit _ _

instance {κ : Type} [DecidableEq κ] (status : α → κ) (value : α) (current : κ) :
    Tx.Rehearsed (shelf.updateIfStatus status value current) := by
  delta Shelf.updateIfStatus
  infer_instance

end Transactions

/-- Metadata of plain values are a document, which need not be read to know so. -/
theorem plain_or_readable (lower : Char → Char) (ctx : Context) (fields : Fields)
    (resultCode errorCode : Text) : (fields.all (fun field => plainValue field.2) ||
      (Json.read (auditMetadataJSON lower ctx fields resultCode errorCode)).isSome) =
      (Json.read (auditMetadataJSON lower ctx fields resultCode errorCode)).isSome := by
  cases plain : fields.all fun field => plainValue field.2 with
  | false => rfl
  | true =>
    have flat : fields.Flat := fun field inside =>
      isFlat_of_plainValue (all_eq_true.mp plain field inside)
    rw [auditMetadataJSON, Json.read_write_object (flat.auditMetadata _ _ _ _)]
    rfl

instance (s : Service) (ctx : Context) (actor action resourceType resourceID : Text)
    (createdAt : Time) (fields : Fields) (resultCode errorCode : Text) : Tx.Rehearsed
      (s.createAuditEventWithResult ctx actor action resourceType resourceID createdAt
        fields resultCode errorCode) where
  plain t :=
    let event := s.auditEvent ctx actor action resourceType resourceID createdAt fields resultCode
      errorCode t.drawn
    let (result, log) := planAuditEvent (fields.all (fun field => plainValue field.2) ||
      (Json.read event.metadataJSON).isSome) event t.db.audit
    (result, ⟨{ t.db with audit := log }, t.drawn + 1⟩)
  agrees := by
    rintro _ t ⟨_, ⟨log, same, rfl⟩, rfl⟩
    obtain ⟨agreed, after⟩ := planAuditEvent_agrees same (s.auditEvent ctx actor action resourceType
      resourceID createdAt fields resultCode errorCode t.drawn) (plain_or_readable _ _ _ _ _)
    exact ⟨agreed, _, ⟨_, after, rfl⟩, rfl⟩

instance : Apart identities := ⟨fun _ _ => rfl, fun _ _ _ => rfl, fun _ _ => rfl⟩

instance : Apart issuers := ⟨fun _ _ => rfl, fun _ _ _ => rfl, fun _ _ => rfl⟩

instance : Apart profiles := ⟨fun _ _ => rfl, fun _ _ _ => rfl, fun _ _ => rfl⟩

instance : Apart enrollments := ⟨fun _ _ => rfl, fun _ _ _ => rfl, fun _ _ => rfl⟩

instance : Apart certificates := ⟨fun _ _ => rfl, fun _ _ _ => rfl, fun _ _ => rfl⟩

instance : Apart issuanceAttempts := ⟨fun _ _ => rfl, fun _ _ _ => rfl, fun _ _ => rfl⟩

instance : Apart acmeAccounts := ⟨fun _ _ => rfl, fun _ _ _ => rfl, fun _ _ => rfl⟩

instance : Apart acmeOrders := ⟨fun _ _ => rfl, fun _ _ _ => rfl, fun _ _ => rfl⟩

instance : Apart acmeAuthzs := ⟨fun _ _ => rfl, fun _ _ _ => rfl, fun _ _ => rfl⟩

instance : Apart acmeChallenges := ⟨fun _ _ => rfl, fun _ _ _ => rfl, fun _ _ => rfl⟩

instance : Apart crlClaims := ⟨fun _ _ => rfl, fun _ _ _ => rfl, fun _ _ => rfl⟩

instance (id : Text) : Tx.Rehearsed (getIdentity id) :=
  inferInstanceAs (Tx.Rehearsed (identities.get id))

instance (id : Text) : Tx.Rehearsed (getIssuer id) :=
  inferInstanceAs (Tx.Rehearsed (issuers.get id))

instance (id : Text) : Tx.Rehearsed (getCertificateProfile id) :=
  inferInstanceAs (Tx.Rehearsed (profiles.get id))

instance (id : Text) : Tx.Rehearsed (getEnrollment id) :=
  inferInstanceAs (Tx.Rehearsed (enrollments.get id))

instance (id : Text) : Tx.Rehearsed (getCertificate id) :=
  inferInstanceAs (Tx.Rehearsed (certificates.get id))

instance (id : Text) : Tx.Rehearsed (getIssuanceAttempt id) :=
  inferInstanceAs (Tx.Rehearsed (issuanceAttempts.get id))

instance (id : Text) : Tx.Rehearsed (getACMEAccount id) :=
  inferInstanceAs (Tx.Rehearsed (acmeAccounts.get id))

instance (id : Text) : Tx.Rehearsed (getACMEOrder id) :=
  inferInstanceAs (Tx.Rehearsed (acmeOrders.get id))

instance (id : Text) : Tx.Rehearsed (getACMEAuthorization id) :=
  inferInstanceAs (Tx.Rehearsed (acmeAuthzs.get id))

instance (id : Text) : Tx.Rehearsed (getACMEChallenge id) :=
  inferInstanceAs (Tx.Rehearsed (acmeChallenges.get id))

instance (value : Identity) : Tx.Rehearsed (createIdentity value) :=
  inferInstanceAs (Tx.Rehearsed (identities.write value))

instance (value : Issuer) : Tx.Rehearsed (createIssuer value) :=
  inferInstanceAs (Tx.Rehearsed (issuers.write value))

instance (value : CertificateProfile) : Tx.Rehearsed (createCertificateProfile value) :=
  inferInstanceAs (Tx.Rehearsed (profiles.write value))

instance (value : Enrollment) : Tx.Rehearsed (createEnrollment value) :=
  inferInstanceAs (Tx.Rehearsed (enrollments.write value))

instance (value : ACMEOrder) : Tx.Rehearsed (createACMEOrder value) :=
  inferInstanceAs (Tx.Rehearsed (acmeOrders.write value))

instance (value : ACMEAuthorization) : Tx.Rehearsed (createACMEAuthorization value) :=
  inferInstanceAs (Tx.Rehearsed (acmeAuthzs.write value))

instance (value : ACMEChallenge) : Tx.Rehearsed (createACMEChallenge value) :=
  inferInstanceAs (Tx.Rehearsed (acmeChallenges.write value))

instance (value : Enrollment) (status : EnrollmentStatus) :
    Tx.Rehearsed (updateEnrollmentIfStatus value status) :=
  inferInstanceAs (Tx.Rehearsed (enrollments.updateIfStatus Enrollment.status value status))

instance (value : Certificate) (status : CertificateStatus) :
    Tx.Rehearsed (updateCertificateIfStatus value status) :=
  inferInstanceAs (Tx.Rehearsed (certificates.updateIfStatus Certificate.status value status))

instance (value : ACMEOrder) (status : ACMEOrderStatus) :
    Tx.Rehearsed (updateACMEOrderIfStatus value status) :=
  inferInstanceAs (Tx.Rehearsed (acmeOrders.updateIfStatus ACMEOrder.status value status))

instance (value : ACMEAuthorization) (status : ACMEAuthorizationStatus) :
    Tx.Rehearsed (updateACMEAuthorizationIfStatus value status) :=
  inferInstanceAs (Tx.Rehearsed (acmeAuthzs.updateIfStatus ACMEAuthorization.status value status))

instance (value : ACMEChallenge) (status : ACMEChallengeStatus) :
    Tx.Rehearsed (updateACMEChallengeIfStatus value status) :=
  inferInstanceAs (Tx.Rehearsed (acmeChallenges.updateIfStatus ACMEChallenge.status value status))

instance (account : ACMEAccount) : Tx.Rehearsed (ensureACMEAccountThumbprintAvailable account) :=
  rehearsedQuery fun _ _ _ => rfl

instance (certificate : Certificate) :
    Tx.Rehearsed (ensureCertificateFinalizationKeysAvailable certificate) :=
  rehearsedQuery fun _ _ _ => rfl

instance (enrollmentID : Text) : Tx.Rehearsed (getCertificateByEnrollmentID enrollmentID) :=
  rehearsedQuery fun _ _ _ => rfl

instance (issuerID : Text) : Tx.Rehearsed (listRevocationsByIssuer issuerID) :=
  rehearsedQuery fun _ _ _ => rfl

instance (issuerID : Text) : Tx.Rehearsed (listCRLPublicationsByIssuer issuerID) :=
  rehearsedQuery fun _ _ _ => rfl

instance (candidate : CRLPublication) :
    Tx.Rehearsed (ensureCRLPublicationNumberAvailable candidate) :=
  rehearsedQuery fun _ _ _ => rfl

instance (orderID : Text) : Tx.Rehearsed (listACMEAuthorizationsByOrder orderID) :=
  rehearsedQuery fun _ _ _ => rfl

instance (authorizationID : Text) :
    Tx.Rehearsed (listACMEChallengesByAuthorization authorizationID) :=
  rehearsedQuery fun _ _ _ => rfl

instance (revocation : Revocation) : Tx.Rehearsed (createRevocation revocation) :=
  @rehearsedModify (fun db => { db with
    revocations := db.revocations.insert revocation.id revocation }) _ (fun _ _ => rfl) fun _ => rfl

instance (message : OutboxMessage) : Tx.Rehearsed (createOutboxMessage message) :=
  @rehearsedModify (fun db => { db with outbox := db.outbox.insert message.id message }) _
    (fun _ _ => rfl) fun _ => rfl

instance (profile : CertificateProfile) (issuerID : Text) (updatedAt : Time) :
    Tx.Rehearsed (updateCertificateProfileIssuerIfCurrent profile issuerID updatedAt) := by
  delta updateCertificateProfileIssuerIfCurrent
  infer_instance

instance (account : ACMEAccount) : Tx.Rehearsed (createACMEAccount account) := by
  delta createACMEAccount
  infer_instance

instance (certificate : Certificate) : Tx.Rehearsed (createCertificate certificate) := by
  delta createCertificate
  infer_instance

instance (attempt current : IssuanceAttempt) :
    Tx.Rehearsed (updateIssuanceAttemptIfCurrent attempt current) := by
  delta updateIssuanceAttemptIfCurrent
  infer_instance

instance (issuerID distributionPoint : Text) :
    Tx.Rehearsed (getCRLGenerationClaim issuerID distributionPoint) := by
  delta getCRLGenerationClaim
  infer_instance

instance (claim current : CRLGenerationClaim) :
    Tx.Rehearsed (updateCRLGenerationClaimIfCurrent claim current) := by
  delta updateCRLGenerationClaimIfCurrent
  infer_instance

instance (attempt : IssuanceAttempt) : Tx.Rehearsed (createIssuanceAttempt attempt) := by
  delta createIssuanceAttempt
  exact .seq (rehearsedQuery fun _ _ _ => rfl) fun _ => inferInstance

instance (claim : CRLGenerationClaim) : Tx.Rehearsed (createCRLGenerationClaim claim) := by
  delta createCRLGenerationClaim
  exact .seq (rehearsedQuery fun _ _ _ => rfl) fun _ => inferInstance

instance (publication : CRLPublication) : Tx.Rehearsed (createCRLPublication publication) := by
  delta createCRLPublication
  exact .seq inferInstance fun _ => @rehearsedModify (fun db => { db with
    crls := db.crls.insert publication.id publication }) _ (fun _ _ => rfl) fun _ => rfl

instance (claim : CRLGenerationClaim) : Tx.Rehearsed (deleteCRLGenerationClaimIfCurrent claim) := by
  delta deleteCRLGenerationClaimIfCurrent
  exact .seq inferInstance fun _ => .seq inferInstance fun _ =>
    @rehearsedModify (fun db => { db with
    crlClaims := db.crlClaims.erase (claimKey claim) }) _ (fun _ _ => rfl) fun _ => rfl

section Operations

variable {α β : Type}

instance (result : Except Err α) : Prog.Rehearsed (Op.ofExcept result).run := ⟨.ret result, .ret _⟩

instance (err : Err) : Prog.Rehearsed (Op.fail err : Op α).run := ⟨.ret (.error err), .ret _⟩

instance (holds : Prop) [Decidable holds] (kind : ErrKind) :
    Prog.Rehearsed (Op.require holds kind).run :=
  inferInstanceAs (Prog.Rehearsed (Op.ofExcept _).run)

instance (op : Op α) [one : Prog.Rehearsed op.run] : Prog.Rehearsed op.attempt.run :=
  inferInstanceAs (Prog.Rehearsed (Prog.bind op.run fun result => .ret (Except.ok result)))

instance (op : Op α) [one : Prog.Rehearsed op.run] : Prog.Rehearsed op.forget :=
  inferInstanceAs (Prog.Rehearsed (Prog.bind op.run fun _ => .ret ()))

/-- A step that does not look at the log. -/
@[reducible] def rehearsedAtomic {act : Oracle → World → Except Err α × World}
    {event : α → Option Event} (plain : Oracle → World → Except Err α × World)
    (agrees : ∀ {answer s t}, Likeness.Alike s t →
      (act answer s).1 = (plain answer t).1 ∧ Likeness.Alike (act answer s).2 (plain answer t).2) :
    Prog.Rehearsed (Op.atomic act event).run where
  plain := (Op.atomic plain event).run
  mirrors := by
    refine .step Eq ?_ (fun same => by rw [same]) (fun same => by rw [same]; exact .ret _)
    rintro answer s t result t' alike acts
    obtain ⟨same, after⟩ := agrees alike
    rw [Option.some.inj acts] at same after
    exact ⟨_, _, rfl, after, same⟩

@[reducible] def rehearsedClock (event : Time → Option Event) :
    Prog.Rehearsed (Op.atomic (fun _ world => (.ok world.clock, world)) event).run :=
  rehearsedAtomic (fun _ world => (.ok world.clock, world)) (by
    rintro _ _ t ⟨db, same, rfl⟩
    exact ⟨rfl, db, same, rfl⟩)

instance : Prog.Rehearsed Op.now.run := rehearsedClock _

instance (answer : Oracle → Except Err α) (event : α → Option Event) :
    Prog.Rehearsed (Op.ask answer event).run :=
  rehearsedAtomic (fun oracle world => (answer oracle, world)) fun alike => ⟨rfl, alike⟩

instance (body : Repo α) [one : Tx.Rehearsed body] (event : α → Option Event) :
    Prog.Rehearsed (withinTx body event).run :=
  rehearsedAtomic (fun answer world =>
    match answer.storage with
    | some text => (.error { kind := .storageFailure, detail := text }, world)
    | none => world.commit (one.plain ⟨world.db, world.drawn⟩)) (by
    rintro answer _ t ⟨db, same, rfl⟩
    rw [runTx]
    cases answer.storage with
    | some text => exact ⟨rfl, db, same, rfl⟩
    | none =>
      have agreed := @one.agrees ⟨db, t.drawn⟩ ⟨t.db, t.drawn⟩ ⟨db, same, rfl⟩
      generalize body ⟨db, t.drawn⟩ = left at agreed ⊢
      generalize one.plain ⟨t.db, t.drawn⟩ = right at agreed ⊢
      obtain ⟨result, after⟩ := left
      obtain ⟨result', after'⟩ := right
      obtain ⟨rfl, db', same', rfl⟩ : result = result' ∧ _ := agreed
      cases result with
      | error => exact ⟨rfl, db, same, rfl⟩
      | ok => exact ⟨rfl, db', same', rfl⟩)

instance (body : Repo α) [one : Tx.Rehearsed body] : Prog.Rehearsed (repo body).run :=
  inferInstanceAs (Prog.Rehearsed (withinTx body fun _ => none).run)

instance (items : List α) (body : α → Op Unit) [∀ item, Prog.Rehearsed (body item).run] :
    Prog.Rehearsed (Op.forEach items body).run :=
  items.rec (inferInstanceAs (Prog.Rehearsed (pure () : Op Unit).run)) fun _ _ rest =>
    .seq inferInstance fun _ => rest

instance (node : Node) : Prog.Rehearsed (lockIssueMu node).run where
  plain := (lockIssueMu node).run
  mirrors := by
    refine .step Eq ?_ (fun _ => rfl) (fun same => by rw [same]; exact .ret _)
    rintro answer _ t result t' ⟨db, same, rfl⟩ acts
    split at acts
    · cases acts
    · cases acts
      exact ⟨_, _, if_neg ‹_›, ⟨db, same, rfl⟩, rfl⟩

instance (node : Node) : Prog.Rehearsed (unlockIssueMu node).run :=
  rehearsedAtomic (fun _ world => (.ok (), { world with issueMu := world.issueMu.erase node })) (by
    rintro _ _ t ⟨db, same, rfl⟩
    exact ⟨rfl, db, same, rfl⟩)

instance (node : Node) (op : Op α) [one : Prog.Rehearsed op.run] :
    Prog.Rehearsed (withIssueMu node op).run := by
  delta withIssueMu
  infer_instance

end Operations

end AnoPki.Lifecycle
