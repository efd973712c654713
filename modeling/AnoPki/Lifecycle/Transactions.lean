import AnoPki.Lifecycle.Consistency
import AnoPki.Foundation.JsonObject

/-! # What the transactions do

Each transaction of the service that commits makes one change of the ledger. -/
namespace AnoPki.Lifecycle

open Foundation Domain Store List Tx Shelf Json

variable {action : Text} {certificate : Certificate} {fields : Fields} {u : Unit} {id : Text}
  {ctx : Context} {actor resourceType resourceID : Text} {enrollment : Enrollment} {now : Time}
  {mid : Session} {attempt : IssuanceAttempt} {certificateID key : Text} {report : Report}
  {err : Err} {type : Text} {req : CreateEnrollmentRequest} {identity : Identity}
  {profile : CertificateProfile} {csrInfo : CSRInfo} {checked : Time} {refs : List Text}
  {current : IssuanceAttempt} {shouldSign : Bool} {enrollmentID : Text} {pairs : List (Text × Text)}
  {reason : RevocationReason} {a b : Session} {force : Bool} {done : List Certificate}
  {updates : List CertificateUpdate} {result : CertificateExpirationScanResult}

variable {s : Service}

namespace Told

variable {a b c : Session}

theorem refl (session : Session) : Told s session session {} where
  audit := (append_nil _).symm
  outbox := rfl
  numbered := by simp
  posted := by simp
  distinct := nodup_nil
  annex := rfl
  forward := le_refl _
  sound := fun sound => sound

/-- Changes of other tables tell nothing. -/
theorem silent (audit : b.db.audit = a.db.audit) (outbox : b.db.outbox = a.db.outbox)
    (annex : b.db.annex = a.db.annex) (forward : a.drawn ≤ b.drawn) : Told s a b {} where
  audit := by rw [audit, append_nil]
  outbox := outbox
  numbered := by simp
  posted := by simp
  distinct := nodup_nil
  annex := annex
  forward := forward
  sound := fun sound => audit ▸ sound

theorem trans {first second} (one : Told s a b first) (two : Told s b c second) :
    Told s a c ⟨first.events ++ second.events, first.messages ++ second.messages⟩ where
  audit := by rw [two.audit, one.audit, append_assoc]
  outbox := by
    rw [two.outbox, one.outbox, map_append, Table.insertAll, Table.insertAll, Table.insertAll,
      foldl_append]
  numbered := by
    intro message inside
    rcases mem_append.mp inside with early | late
    · obtain ⟨drawn, named⟩ := one.numbered message early
      exact ⟨⟨drawn.1, drawn.2.trans_le two.forward⟩, named⟩
    · obtain ⟨drawn, named⟩ := two.numbered message late
      exact ⟨⟨one.forward.trans drawn.1, drawn.2⟩, named⟩
  posted := by
    intro message inside
    rcases mem_append.mp inside with early | late
    · exact one.posted message early
    · exact two.posted message late
  distinct := by
    rw [map_append, nodup_append]
    refine ⟨one.distinct, two.distinct, ?_⟩
    intro number early number' late
    obtain ⟨message, inside, rfl⟩ := mem_map.mp early
    obtain ⟨message', inside', rfl⟩ := mem_map.mp late
    have first := (one.numbered message inside).1.2
    have second := (two.numbered message' inside').1.1
    exact (first.trans_le second).ne
  annex := two.annex.trans one.annex
  forward := one.forward.trans two.forward
  sound := fun sound => two.sound (one.sound sound)

/-- Steps before that tell nothing. -/
theorem before (told : Told s b c report) (audit : b.db.audit = a.db.audit)
    (outbox : b.db.outbox = a.db.outbox) (annex : b.db.annex = a.db.annex)
    (forward : a.drawn ≤ b.drawn) : Told s a c report :=
  (silent audit outbox annex forward).trans told

/-- Steps after that tell nothing. -/
theorem followed (told : Told s a b report) (audit : c.db.audit = b.db.audit)
    (outbox : c.db.outbox = b.db.outbox) (annex : c.db.annex = b.db.annex)
    (forward : b.drawn ≤ c.drawn) : Told s a c report := by
  simpa using told.trans (silent audit outbox annex forward)

end Told

section Steps

variable {a b : Session}

theorem newID_ok_iff :
    s.newID a = (.ok id, b) ↔ s.idgen a.drawn = id ∧ { a with drawn := a.drawn + 1 } = b := by
  simp [Service.newID]

/-- An audit event as it is stored. -/
structure Recorded (action resourceType resourceID : Text) (event : AuditEvent) : Prop where
  action : event.action = action
  resourceType : event.resourceType = resourceType
  resourceID : event.resourceID = resourceID

theorem createAuditEvent_told {event u} (run : createAuditEvent event a = (.ok u, b)) :
    ∃ stored, Recorded event.action event.resourceType event.resourceID stored ∧
      Told s a b { events := [stored] } ∧ Ledger.of b.db = .of a.db := by
  obtain ⟨log, appended, rfl⟩ := createAuditEvent_ok run
  obtain ⟨stored, grown, action, resourceType, resourceID⟩ := appendMemory_ok appended
  refine ⟨stored, ⟨action, resourceType, resourceID⟩, ⟨grown, rfl, by simp, by simp,
    nodup_nil, rfl, le_refl _, ?_⟩, rfl⟩
  intro sound
  exact appendMemory_sound sound appended

section

variable
  (run : s.createAuditEvent ctx actor action resourceType resourceID now fields a = (.ok u, b))

include run

theorem auditEvent_told : ∃ stored, Recorded action resourceType resourceID stored ∧
      Told s a b { events := [stored] } ∧ Ledger.of b.db = .of a.db := by
  obtain ⟨id, mid, drawn, run⟩ := bind_ok_iff.mp run
  obtain ⟨rfl, rfl⟩ := newID_ok_iff.mp drawn
  obtain ⟨stored, recorded, told, same⟩ := createAuditEvent_told run
  have first : Told s a { a with drawn := a.drawn + 1 } {} :=
    .silent rfl rfl rfl (Nat.le_succ a.drawn)
  exact ⟨stored, recorded, first.trans told, same⟩

/-- An audit event that is stored is the last one of the log, and nothing else is changed. -/
theorem auditEvent_appended :
    ∃ log event, log.events = a.db.audit.events ++ [event] ∧ event.action = action ∧
      event.resourceID = resourceID ∧ b = ⟨{ a.db with audit := log }, a.drawn + 1⟩ := by
  obtain ⟨id, mid, drawn, run⟩ := bind_ok_iff.mp run
  obtain ⟨rfl, rfl⟩ := newID_ok_iff.mp drawn
  obtain ⟨log, appended, rfl⟩ := createAuditEvent_ok run
  obtain ⟨event, events, action, -, resource⟩ := appendMemory_ok appended
  exact ⟨log, event, events, action, resource, rfl⟩

end

/-- An audit event is never refused as a transition. -/
theorem auditEvent_refused
    (run : s.createAuditEvent ctx actor action resourceType resourceID now fields a =
    (.error err, b)) : err.kind = .auditIntegrity ∨ err.kind = .other := by
  rcases bind_error_iff.mp run with unnumbered | ⟨id, mid, -, refused⟩
  · cases unnumbered
  · exact appendMemory_error (Prod.ext (Prod.mk.inj refused).1 rfl)

theorem outboxMessage_told (run : s.createOutboxMessage type now fields a = (.ok u, b)) :
    ∃ message, message.2.type = type ∧
      message.2.payloadJSON = (object (outboxPayload type fields)).write ∧
      Told s a b { messages := [message] } ∧ Ledger.of b.db = .of a.db := by
  obtain ⟨id, mid, drawn, run⟩ := bind_ok_iff.mp run
  obtain ⟨rfl, rfl⟩ := newID_ok_iff.mp drawn
  cases modify_ok_iff.mp run
  refine ⟨(a.drawn, _), rfl, rfl, ⟨(append_nil _).symm, rfl, ?_, ?_, by simp, rfl, ?_,
    fun sound => sound⟩, rfl⟩
  · intro message inside
    cases mem_singleton.mp inside
    exact ⟨⟨le_refl _, Nat.lt_succ_self _⟩, rfl⟩
  · intro message inside
    cases mem_singleton.mp inside
    exact ⟨rfl, rfl, rfl, rfl, rfl, rfl, rfl⟩
  · exact Nat.le_succ a.drawn

theorem addTarget_readOnly (identityID : Text) (fields : Fields) :
    (addIdentityDeploymentTarget identityID fields).ReadOnly := by
  refine .bind (.attempt (.query _)) ?_
  rintro (err | identity)
  · exact .ite (.pure _) (.fail _)
  · exact .ite (.pure _) (.pure _)

end Steps

/-- A transaction that only writes one audit event about something else. -/
theorem Recorded.quiet {call : Nat} {before event}
    (recorded : Recorded action resourceType resourceID event) (other : action ∉ statusActions) :
    Report.Quiet call before { events := [event] } where
  events := by
    intro stored inside
    cases mem_singleton.mp inside
    rw [recorded.action]
    exact other
  messages := by simp
  types := by simp

/-- A change that is told by an audit event only, which is stored last. -/
theorem audited_performs {call before event mid after} (other : action ∉ statusActions)
    (audited : s.createAuditEvent ctx actor action resourceType resourceID now fields
    mid = (.ok u, after)) (first : Told s (session before) mid {})
    (change : ∀ report, mid.drawn ≤ after.drawn →
      report.Quiet call before → Change s call before after.drawn event report (.of mid.db)) :
      Performs s call before event after := by
  obtain ⟨stored, recorded, told, same⟩ := auditEvent_told audited
  rw [Performs, same]
  exact ⟨_, first.trans told, change _ told.forward (recorded.quiet other)⟩

/-- Requests for new certificates are not about a status. -/
theorem requestActions_quiet (requested : action ∈ requestActions) : action ∉ statusActions := by
  have apart : ∀ action ∈ requestActions, action ∉ statusActions := by decide
  exact apart action requested

section Enrollments

variable {call : Nat} {before : State} {after : Session} {ctx : Context} {actor : Text} {now : Time}

theorem createEnrollmentTx_performs
    (permitted : Permitted s before req identity profile csrInfo checked)
    (ordered : RequestOfOrder call before req) (source : RequestOfCall call before req)
    (run : s.createEnrollmentTx ctx actor req csrInfo refs now (session before) =
      (.ok enrollment, after)) :
    Performs s call before (some (.enrollmentCreated enrollment.id)) after ∧
      (Ledger.of after.db).enrollments.lookup enrollment.id = some enrollment ∧
      enrollment.requestedDNSNames = req.requestedDNSNames ∧
      enrollment.requestedIPAddresses = req.requestedIPAddresses := by
  simp only [Service.createEnrollmentTx, bind_ok_iff, newID_ok_iff, getIdentity, getIssuer,
    get_ok_iff, createEnrollment, write_ok_iff, pure_ok_iff] at run
  obtain ⟨_, _, ⟨rfl, rfl⟩, _, _, ⟨-, rfl⟩, _, _, ⟨-, rfl⟩, ⟨⟩, _, rfl, fields, mid, target, ⟨⟩, _,
    audited, rfl, rfl⟩ := run
  cases (addTarget_readOnly _ _).same target
  obtain ⟨event, recorded, told, same⟩ := auditEvent_told audited
  rw [Performs, same]
  refine ⟨⟨_, told.before rfl rfl rfl (Nat.le_succ _), ?_⟩, ?_, rfl, rfl⟩
  · exact .enrolled ⟨le_refl _, told.forward⟩ rfl rfl permitted ⟨rfl, rfl⟩ ordered
      (recorded.quiet (by decide)) source
  · exact AList.lookup_insert _

theorem checkProfileIssuer_readOnly (enrollment : Enrollment) :
    (checkProfileIssuer enrollment).ReadOnly :=
  .ite (.pure _) (.bind (.query _) fun _ => .query _)

/-- The check of a replacement is one of the state it is stored in. -/
theorem checkProfileIssuer_vouched {after}
    (checked : checkProfileIssuer enrollment mid = (.ok u, after)) :
    Vouched (.of mid.db) enrollment.certificateProfileID enrollment.issuerID := by
  rw [checkProfileIssuer] at checked
  split at checked
  · next unnamed => exact .inl unnamed
  · obtain ⟨profile, _, read, required⟩ := bind_ok_iff.mp checked
    obtain ⟨found, -⟩ := get_ok_iff.mp read
    obtain ⟨same, -⟩ := require_ok_iff.mp required
    exact .inr ⟨profile, found, same⟩

theorem replacementEnrollmentTx_performs
    (permitted : Permitted s before req identity profile csrInfo checked)
    (ordered : RequestOfOrder call before req) (requested : action ∈ requestActions) {begun}
    (started : (call, Event.started begun) ∈ before.history) (replaces : begun.Replaces)
    (run : s.replacementEnrollmentTx ctx actor certificateID req csrInfo refs action now
      (session before) = (.ok enrollment, after)) :
    Performs s call before (some (.enrollmentCreated enrollment.id)) after := by
  simp only [Service.replacementEnrollmentTx, bind_ok_iff, newID_ok_iff, getIdentity, getIssuer,
    getCertificate, get_ok_iff, require_ok_iff, createEnrollment, write_ok_iff,
    pure_ok_iff] at run
  obtain ⟨_, _, ⟨rfl, rfl⟩, _, _, ⟨-, rfl⟩, ⟨⟩, _, ⟨-, rfl⟩, _, _, ⟨-, rfl⟩, _, _, ⟨-, rfl⟩, ⟨⟩, _,
    checked, ⟨⟩, _, rfl, fields, mid, target, ⟨⟩, _, audited, ⟨⟩, _, posted, rfl, rfl⟩ := run
  have vouched := checkProfileIssuer_vouched checked
  cases (checkProfileIssuer_readOnly _).same checked
  cases (addTarget_readOnly _ _).same target
  obtain ⟨event, recorded, told, same⟩ := auditEvent_told audited
  obtain ⟨message, type, -, told', same'⟩ := outboxMessage_told posted
  rw [Performs, same', same]
  refine ⟨_, (told.trans told').before rfl rfl rfl (Nat.le_succ _), ?_⟩
  have other := requestActions_quiet requested
  have quiet : Report.Quiet call before { events := [event] } := recorded.quiet other
  refine .enrolled ⟨le_refl _, told.forward.trans told'.forward⟩ rfl rfl permitted ⟨rfl, rfl⟩
    ordered ⟨quiet.events, ?_, ?_⟩ (.replaced started replaces vouched)
  · intro stored inside
    cases mem_singleton.mp inside
    rwa [type]
  · intro stored inside
    cases mem_singleton.mp inside
    exact .inl (type ▸ requested)

theorem approveEnrollmentTx_performs (keyed : Keyed (ledger before)) {reason}
    (run : s.approveEnrollmentTx ctx actor id reason now (session before) =
    (.ok enrollment, after)) :
    Performs s call before (some (.enrollmentApproved enrollment.id)) after := by
  simp only [Service.approveEnrollmentTx, bind_ok_iff, getEnrollment, updateEnrollmentIfStatus,
    get_ok_iff, require_ok_iff, updateIfStatus_ok_iff, pure_ok_iff] at run
  obtain ⟨stored, _, ⟨found, rfl⟩, ⟨⟩, _, ⟨pending, rfl⟩, ⟨⟩, _, ⟨-, rfl⟩, fields,
    mid, target, ⟨⟩, _, audited, rfl, rfl⟩ := run
  cases (addTarget_readOnly _ _).same target
  obtain rfl : stored.id = id := keyed.enrollments id stored found
  refine audited_performs (by decide) audited (.silent rfl rfl rfl le_rfl) fun _ _ => ?_
  exact @Change.decided _ _ _ _ stored { stored with
    status := .approved, approvedBy := actor, approvedAt := now, updatedAt :=
      now } _ _ found pending
    rfl (.inl ⟨rfl, rfl⟩)

theorem rejectEnrollmentTx_performs (keyed : Keyed (ledger before))
    (run : s.rejectEnrollmentTx ctx actor id now (session before) = (.ok enrollment, after)) :
    Performs s call before none after := by
  simp only [Service.rejectEnrollmentTx, bind_ok_iff, getEnrollment, updateEnrollmentIfStatus,
    get_ok_iff, require_ok_iff, updateIfStatus_ok_iff, pure_ok_iff] at run
  obtain ⟨stored, _, ⟨found, rfl⟩, ⟨⟩, _, ⟨pending, rfl⟩, ⟨⟩, _, ⟨-, rfl⟩, fields,
    mid, target, ⟨⟩, _, audited, rfl, rfl⟩ := run
  cases (addTarget_readOnly _ _).same target
  obtain rfl : stored.id = id := keyed.enrollments id stored found
  refine audited_performs (by decide) audited (.silent rfl rfl rfl le_rfl) fun _ _ => ?_
  exact @Change.decided _ _ _ _ stored { stored with status := .rejected, updatedAt := now } _ _
    found pending rfl (.inr ⟨rfl, rfl⟩)

end Enrollments

section Issuing

variable {call : Nat} {before : State} {after : Session} {now : Time}

/-- What a claim returns. -/
structure Claimed (enrollmentID : Text) (attempt : IssuanceAttempt) (shouldSign : Bool) : Prop where
  owner : attempt.enrollmentID = enrollmentID
  signing : shouldSign = true → attempt.status = .signing
  material : shouldSign = false → HasMaterial attempt

theorem reclaim_performs
    (found : (ledger before).attempts.lookup current.enrollmentID = some current)
      (free : current.status = .failed ∨
    (current.status = .signing ∧ ¬ current.leaseExpiresAt.after now))
    (past : now.nanos ≤ before.world.clock.nanos) (run : (do
      updateIssuanceAttemptIfCurrent (reclaimed current now) current
      pure (reclaimed current now, true) : Repo _) (session before) =
        (.ok (attempt, shouldSign), after)) :
    Performs s call before (if shouldSign then some (.claimed attempt) else none) after ∧
      Claimed current.enrollmentID attempt shouldSign := by
  obtain ⟨⟨⟩, _, updated, done⟩ := bind_ok_iff.mp run
  obtain ⟨-, rfl⟩ := updateAttempt_ok_iff.mp updated
  obtain ⟨shape, rfl⟩ := pure_ok_iff.mp done
  cases shape
  refine ⟨⟨{}, .silent rfl rfl rfl le_rfl, .claimedAgain found free past⟩, rfl, fun _ => rfl, ?_⟩
  nofun

theorem claimAttemptTx_performs (keyed : Keyed (ledger before))
    (past : now.nanos ≤ before.world.clock.nanos)
    (run : claimIssuanceAttemptTx enrollmentID now (session before) =
      (.ok (attempt, shouldSign), after)) :
    Performs s call before (if shouldSign then some (.claimed attempt) else none) after ∧
      Claimed enrollmentID attempt shouldSign := by
  obtain ⟨outcome, mid, looked, run⟩ := bind_ok_iff.mp run
  rw [attempt_ok_iff] at looked
  cases outcome with
  | error err =>
    obtain ⟨free, -, rfl⟩ := get_error_iff.mp looked
    rcases ite_ok_iff.mp run with ⟨-, run⟩ | ⟨-, run⟩
    · obtain ⟨⟨⟩, _, created, done⟩ := bind_ok_iff.mp run
      obtain ⟨-, rfl⟩ := createAttempt_ok_iff.mp created
      obtain ⟨shape, rfl⟩ := pure_ok_iff.mp done
      cases shape
      refine ⟨⟨{}, .silent rfl rfl rfl le_rfl, .claimedFirst free past⟩, rfl, fun _ => rfl, ?_⟩
      nofun
    · exact (fail_ok_iff.mp run).elim
  | ok current =>
    obtain ⟨found, rfl⟩ := get_ok_iff.mp looked
    obtain rfl : current.enrollmentID = enrollmentID := keyed.attempts _ current found
    have kept : HasMaterial current → (pure (current, false) : Repo _) (session before) =
        (.ok (attempt, shouldSign), after) →
        Performs s call before (if shouldSign then some (.claimed attempt) else none) after ∧
          Claimed current.enrollmentID attempt shouldSign := by
      intro material done
      obtain ⟨shape, rfl⟩ := pure_ok_iff.mp done
      cases shape
      refine ⟨⟨{}, .refl _, .idle .none .nothing⟩, rfl, ?_, fun _ => material⟩
      intro signing
      cases signing
    cases status : current.status with
    | signing =>
      simp only [status] at run
      obtain ⟨⟨⟩, _, required, run⟩ := bind_ok_iff.mp run
      obtain ⟨expired, rfl⟩ := require_ok_iff.mp required
      exact reclaim_performs found (.inr ⟨status, expired⟩) past run
    | failed =>
      simp only [status] at run
      exact reclaim_performs found (.inl status) past run
    | signed =>
      simp only [status] at run
      exact kept (.inl status) run
    | finalized =>
      simp only [status] at run
      exact kept (.inr status) run

theorem persistSignedTx_performs {signed result}
    (claim : (call, Event.claimed current) ∈ before.history) (signing : current.status = .signing)
    (run : s.persistSignedIssuanceAttemptTx current result now (session before) =
      (.ok signed, after)) : Performs s call before (some (.persisted current signed)) after ∧
      signed.enrollmentID = current.enrollmentID ∧ signed.status = .signed := by
  obtain ⟨id, mid, drawn, run⟩ := bind_ok_iff.mp run
  obtain ⟨rfl, rfl⟩ := newID_ok_iff.mp drawn
  obtain ⟨⟨⟩, _, updated, done⟩ := bind_ok_iff.mp run
  obtain ⟨⟨stored, found, token⟩, rfl⟩ := updateAttempt_ok_iff.mp updated
  obtain ⟨rfl, rfl⟩ := pure_ok_iff.mp done
  refine ⟨⟨{}, .silent rfl rfl rfl (Nat.le_succ _), ?_⟩, rfl, rfl⟩
  exact .persisted claim signing found token ⟨le_refl _, Nat.lt_succ_self _⟩

theorem finalizeSignedTx_performs (keyed : Keyed (ledger before)) {new}
    (run : finalizeSignedIssuanceAttemptTx enrollmentID attempt now (session before) =
      (.ok (certificate, new), after)) :
    Performs s call before (if new then some (.finalized enrollmentID) else none) after ∧
      (Ledger.of after.db).certificates.lookup certificate.id = some certificate ∧
      certificate.enrollmentID = enrollmentID := by
  obtain ⟨enrollment, mid, looked, run⟩ := bind_ok_iff.mp run
  obtain ⟨found, rfl⟩ := get_ok_iff.mp looked
  obtain rfl : enrollment.id = enrollmentID := keyed.enrollments _ enrollment found
  rcases ite_ok_iff.mp run with ⟨-, run⟩ | ⟨-, run⟩
  · obtain ⟨existing, _, looked, done⟩ := bind_ok_iff.mp run
    obtain ⟨⟨id, there⟩, owner, rfl⟩ := getByEnrollment_ok looked
    obtain ⟨shape, rfl⟩ := pure_ok_iff.mp done
    obtain ⟨rfl, rfl⟩ := Prod.mk.inj shape
    refine ⟨⟨{}, .refl _, .idle .none .nothing⟩, ?_, owner⟩
    rw [keyed.certificates id existing there]
    exact there
  · simp only [bind_ok_iff, require_ok_iff, getIssuanceAttempt, get_ok_iff,
      updateEnrollmentIfStatus, updateIfStatus_ok_iff, createCertificate_ok_iff,
      updateAttempt_ok_iff, pure_ok_iff, Prod.mk.injEq] at run
    obtain ⟨⟨⟩, _, ⟨approved, rfl⟩, current, _, ⟨there, rfl⟩, ⟨⟩, _, ⟨⟨signed, -⟩, rfl⟩, ⟨⟩, _,
      ⟨-, rfl⟩, ⟨⟩, _, ⟨free, rfl⟩, ⟨⟩, _, ⟨-, rfl⟩, ⟨rfl, rfl⟩, rfl⟩ := run
    have owner : current.enrollmentID = enrollment.id := keyed.attempts _ current there
    refine ⟨⟨{}, .silent rfl rfl rfl le_rfl, ?_⟩, AList.lookup_insert _, rfl⟩
    exact .finalized found approved there owner signed free

theorem markFailed_performs (signed : attempt.status = .signed)
    (run : updateIssuanceAttemptIfCurrent (failedAttempt attempt err now) attempt (session before) =
      (.ok u, after)) :
    Performs s call before (some (.markedFailed attempt.enrollmentID)) after := by
  obtain ⟨⟨stored, found, token⟩, rfl⟩ := updateAttempt_ok_iff.mp run
  exact ⟨{}, .silent rfl rfl rfl le_rfl, .markedFailed found token signed⟩

theorem orMissing_readOnly {α : Type} {body : Repo α} {missing} (reads : body.ReadOnly) :
    (orMissing body missing).ReadOnly := by
  refine .bind (.attempt reads) ?_
  rintro (err | value)
  · exact .ite (.pure _) (.fail _)
  · exact .pure _

section

variable (certificate : Certificate) (fields : Fields)

theorem addPolicyFields_readOnly :
    (addCertificatePolicyAuditFields certificate fields).ReadOnly := by
  refine .bind (orMissing_readOnly (.query _)) ?_
  rintro (_ | enrollment)
  · exact .pure _
  refine .bind (orMissing_readOnly (.query _)) ?_
  rintro (_ | identity)
  · exact .pure _
  refine .ite (.bind (.pure _) ?_) (.bind (orMissing_readOnly (.query _)) ?_)
  all_goals
    rintro (_ | profile)
    · exact .pure _
    · exact .pure _

theorem addLinkage_readOnly :
    (addReplacementCertificateLinkage certificate fields).ReadOnly := by
  refine .bind (orMissing_readOnly (.query _)) ?_
  rintro (_ | enrollment)
  · exact .pure _
  refine .ite (.pure _) (.bind (orMissing_readOnly (.query _)) ?_)
  rintro (_ | source)
  · exact .pure _
  · exact .pure _

theorem addSigningAuditFields_readOnly : (s.addSigningAuditFields certificate fields).ReadOnly := by
  have legacy : (Service.addSigningAuditFields.legacy s certificate fields).ReadOnly := by
    refine .bind (orMissing_readOnly (.query _)) ?_
    rintro (_ | issuer)
    · exact .pure _
    · exact .pure _
  refine .bind (orMissing_readOnly (.query _)) ?_
  rintro (_ | attempt)
  · exact legacy
  refine .ite ?_ legacy
  split
  · exact .fail _
  split
  · exact .fail _
  · exact .pure _

end

/-- A transaction that only writes an audit event. -/
theorem auditEvent_performs (other : action ∉ statusActions)
    (run : s.createAuditEvent ctx actor action resourceType resourceID now fields (session before) =
      (.ok u, after)) : Performs s call before none after := by
  obtain ⟨event, recorded, told, same⟩ := auditEvent_told run
  rw [Performs, same]
  exact ⟨_, told, .idle .none (recorded.quiet other)⟩

theorem issuedAuditTx_performs
    (run : s.certificateIssuedAuditTx ctx actor certificate now (session before) =
      (.ok u, after)) : Performs s call before none after := by
  obtain ⟨fields, mid, policy, run⟩ := bind_ok_iff.mp run
  cases (addPolicyFields_readOnly _ _).same policy
  obtain ⟨fields, mid, linkage, run⟩ := bind_ok_iff.mp run
  cases (addLinkage_readOnly _ _).same linkage
  obtain ⟨fields, mid, signing, run⟩ := bind_ok_iff.mp run
  cases (addSigningAuditFields_readOnly _ _).same signing
  obtain ⟨fields, mid, target, run⟩ := bind_ok_iff.mp run
  cases (addTarget_readOnly _ _).same target
  exact auditEvent_performs (by decide) run

end Issuing

/-- Fields that name a certificate, and that are read back as they were written. -/
structure Fields.Names (id : Text) (fields : Fields) : Prop where
  distinct : (fields.map Prod.fst).Nodup
  flat : ∀ field ∈ fields, field.2.IsFlat
  named : fields.lookup "certificate_id".toList = some (.string id)

namespace Fields.Names

variable {id : Text} {fields : Fields}

theorem set (names : fields.Names id) {value} (other : "certificate_id".toList ≠ key)
    (flat : value.IsFlat) : (fields.set key value).Names id where
  distinct := nodup_setMember names.distinct
  flat := by
    intro field inside
    rcases mem_setMember inside with rfl | old
    · exact flat
    · exact names.flat field old
  named := by rw [Fields.set, lookup_setMember, if_neg other, names.named]

theorem message (names : fields.Names id) {message}
    (payload : message.payloadJSON = (object (outboxPayload type fields)).write) :
    messageCertificateID message = some id := by
  have whole : (outboxPayload type fields).Names id := names.set (by decide) (.string _)
  obtain ⟨members, read, found⟩ := lookup_read_write whole.distinct whole.flat whole.named
  simp only [messageCertificateID, payload, read, found]

end Fields.Names

/-- One turn of `auditFields`. -/
private def addPair (fields : Fields) (pair : Text × Text) : Fields :=
  if pair.1 ≠ [] ∧ pair.2 ≠ [] then fields.setText pair.1 pair.2 else fields

private theorem addPairs_plain (pairs : List (Text × Text)) {fields}
    (distinct : (fields.map Prod.fst).Nodup) (flat : ∀ field ∈ fields, field.2.IsFlat) :
    ((pairs.foldl addPair fields).map Prod.fst).Nodup ∧
      ∀ field ∈ pairs.foldl addPair fields, field.2.IsFlat := by
  induction pairs generalizing fields with
  | nil => exact ⟨distinct, flat⟩
  | cons pair pairs ih =>
    rw [foldl_cons, addPair]
    split
    · refine ih (nodup_setMember distinct) ?_
      intro field inside
      rcases mem_setMember inside with rfl | old
      · exact .string _
      · exact flat field old
    · exact ih distinct flat

private theorem addPairs_other (pairs : List (Text × Text)) (other : key ∉ pairs.map Prod.fst) :
    (pairs.foldl addPair fields).lookup key = fields.lookup key := by
  induction pairs generalizing fields with
  | nil => rfl
  | cons pair pairs ih =>
    rw [map_cons, mem_cons, not_or] at other
    rw [foldl_cons, ih other.2, addPair]
    split
    · rw [Fields.setText, Fields.set, lookup_setMember, if_neg other.1]
    · rfl

private theorem lookup_auditFields {value} (distinct : (pairs.map Prod.fst).Nodup)
    (inside : (key, value) ∈ pairs) (keyed : key ≠ []) (valued : value ≠ []) :
    (auditFields pairs).lookup key = some (.string value) := by
  obtain ⟨front, back, rfl⟩ := append_of_mem inside
  have later : key ∉ back.map Prod.fst := by
    rw [map_append, map_cons, nodup_append] at distinct
    exact (nodup_cons.mp distinct.2.1).1
  change (foldl addPair [] _).lookup _ = _
  rw [foldl_append, foldl_cons, addPairs_other back later, addPair,
    if_pos ⟨keyed, valued⟩, Fields.setText, Fields.set, lookup_setMember, if_pos rfl]

/-- The fields that are made of pairs with different keys. -/
theorem names_auditFields (distinct : (pairs.map Prod.fst).Nodup)
    (inside : ("certificate_id".toList, id) ∈ pairs) (named : id ≠ []) :
    (auditFields pairs).Names id := by
  obtain ⟨plain, flat⟩ := @addPairs_plain pairs [] (by simp) (by simp)
  exact ⟨plain, flat, lookup_auditFields distinct inside (by decide) named⟩

theorem names_certificateAuditFields (named : certificate.id ≠ []) :
    (certificateAuditFields certificate).Names certificate.id := by
  refine names_auditFields ?_ (by simp) named
  simp only [map_cons, map_nil]
  decide

theorem names_revocationAuditFields (named : certificate.id ≠ []) :
    (revocationAuditFields certificate reason).Names certificate.id := by
  refine names_auditFields ?_ (by simp) named
  simp only [map_cons, map_nil]
  decide

theorem names_addTarget {identityID fields'} (names : fields.Names id)
    (run : addIdentityDeploymentTarget identityID fields a = (.ok fields', b)) :
    fields'.Names id := by
  obtain ⟨outcome, mid, -, run⟩ := bind_ok_iff.mp run
  cases outcome with
  | error err =>
    rcases ite_ok_iff.mp run with ⟨-, run⟩ | ⟨-, run⟩
    · obtain ⟨rfl, -⟩ := pure_ok_iff.mp run
      exact names
    · exact (fail_ok_iff.mp run).elim
  | ok identity =>
    rcases ite_ok_iff.mp run with ⟨-, run⟩ | ⟨-, run⟩
    · obtain ⟨rfl, -⟩ := pure_ok_iff.mp run
      exact names
    · obtain ⟨rfl, -⟩ := pure_ok_iff.mp run
      exact names.set (by decide) (.string _)

/-- Stored certificates have IDs. -/
theorem Consistent.certificateID_ne_nil {state} (ids : s.FreshIDs) (consistent : Consistent s state)
    (found : (ledger state).certificates.lookup id = some certificate) :
    certificate.id ≠ [] := by
  obtain ⟨attempt, there, isFinalized, same⟩ := consistent.issuance.certified id certificate found
  obtain ⟨number, -, named⟩ := consistent.issuance.named _ attempt there (.inr isFinalized)
  rw [consistent.keyed.certificates id certificate found, ← same, named]
  exact ids.ne_nil number

section Certificates

variable {call : Nat} {before : State} {after : Session} {ctx : Context} {actor : Text} {now : Time}

/-- The end of a transaction about one certificate: the audit event and the message about it. -/
theorem notify_told {u'} (names : fields.Names id)
    (audited : s.createAuditEvent ctx actor action "certificate" id now fields a = (.ok u, mid))
    (posted : s.createOutboxMessage action now fields mid = (.ok u', b)) :
    ∃ event message, Recorded action "certificate" id event ∧ message.2.type = action ∧
      messageCertificateID message.2 = some id ∧
      Told s a b { events := [event], messages := [message] } ∧ Ledger.of b.db = .of a.db := by
  obtain ⟨event, recorded, told, same⟩ := auditEvent_told audited
  obtain ⟨message, type, payload, told', same'⟩ := outboxMessage_told posted
  exact ⟨event, message, recorded, type, names.message payload, told.trans told', same'.trans same⟩

theorem transitionStatusTx_performs (ids : s.FreshIDs) (consistent : Consistent s before)
    {current next} (change : StatusChange current action next)
    (live : next = .valid ∨ next = .suspended)
    (run : s.transitionCertificateStatusTx ctx actor certificateID current next action now
      (session before) = (.ok certificate, after)) : Performs s call before none after := by
  simp only [Service.transitionCertificateStatusTx, bind_ok_iff, getCertificate,
    get_ok_iff, require_ok_iff, updateCertificateIfStatus, updateIfStatus_ok_iff,
    pure_ok_iff] at run
  obtain ⟨stored, _, ⟨found, rfl⟩, ⟨⟩, _, ⟨rfl, rfl⟩, ⟨⟩, _, ⟨-, rfl⟩, fields, mid, target, ⟨⟩, _,
    audited, ⟨⟩, _, posted, rfl, rfl⟩ := run
  obtain rfl : stored.id = certificateID := consistent.keyed.certificates _ stored found
  have named := consistent.certificateID_ne_nil ids found
  have names := names_addTarget (names_certificateAuditFields named) target
  cases (addTarget_readOnly _ _).same target
  obtain ⟨event, message, recorded, type, carries, told, same⟩ := notify_told
    ((names.set (by decide) (.string _)).set (by decide) (.string _)) audited posted
  rw [Performs, same]
  refine ⟨_, told.before rfl rfl rfl le_rfl, ?_⟩
  refine @Change.recertified _ _ _ _ [⟨stored, { stored with status := next, updatedAt := now },
    action, event, message, none⟩] ?_ (by simp) (by simp [recordedRevocations])
  intro update inside
  cases mem_singleton.mp inside
  refine ⟨found, rfl, .inl change, ?_, ?_, ⟨recorded.action, recorded.resourceType,
    recorded.resourceID⟩, ⟨type, carries⟩, ?_, fun _ => rfl⟩
  · intro reported
    simp [change.eq_expired reported] at live
  · intro reported
    simp [change.eq_revoked reported] at live
  · intro revoked
    simp [show next = .revoked from revoked] at live

theorem canRevokeCertificateStatus_change {status}
    (allowed : canRevokeCertificateStatus status force = true) :
    StatusChange status (revocationAction force) .revoked := by
  cases force with
  | false =>
    obtain rfl : status = .valid := by simpa [canRevokeCertificateStatus] using allowed
    exact .revoke
  | true =>
    refine .forceRevoke ?_
    simpa [canRevokeCertificateStatus] using allowed

theorem revokeCertificateTx_performs (ids : s.FreshIDs) (consistent : Consistent s before)
    (started : force = true → (call, Event.started
      (.forceRevokeCertificate ctx actor certificateID reason)) ∈ before.history)
    (run : s.revokeCertificateTx ctx actor certificateID reason force now (session before) =
      (.ok certificate, after)) : Performs s call before none after := by
  simp only [Service.revokeCertificateTx, bind_ok_iff, getCertificate, get_ok_iff,
    require_ok_iff, updateCertificateIfStatus, updateIfStatus_ok_iff, newID_ok_iff,
    createRevocation, modify_ok_iff, pure_ok_iff] at run
  obtain ⟨stored, _, ⟨found, rfl⟩, ⟨⟩, _, ⟨allowed, rfl⟩, ⟨⟩, _, ⟨-, rfl⟩, _, _,
    ⟨rfl, rfl⟩, ⟨⟩, _, rfl, fields, mid, target, ⟨⟩, _, audited, ⟨⟩, _, posted, rfl, rfl⟩ := run
  obtain rfl : stored.id = certificateID := consistent.keyed.certificates _ stored found
  have named := consistent.certificateID_ne_nil ids found
  have names := names_addTarget (names_revocationAuditFields named) target
  cases (addTarget_readOnly _ _).same target
  obtain ⟨event, message, recorded, type, carries, told, same⟩ := notify_told
    ((names.set (by decide) (.string _)).set (by decide) (.string _)) audited posted
  have change := canRevokeCertificateStatus_change allowed
  rw [Performs, same]
  refine ⟨_, told.before rfl rfl rfl (Nat.le_succ _), ?_⟩
  refine @Change.recertified _ _ _ _ [⟨stored, { stored with status := .revoked, updatedAt := now },
    revocationAction force, event, message, some (before.world.drawn, {
      id := s.idgen before.world.drawn, reason
      certificateID := stored.id
      revokedBy := actor
      revokedAt := now
      createdAt := now })⟩] ?_ (by simp) (by simp [recordedRevocations])
  intro update inside
  cases mem_singleton.mp inside
  refine ⟨found, rfl, .inl change, ?_, ?_, ⟨recorded.action, recorded.resourceType,
    recorded.resourceID⟩, ⟨type, carries⟩, ?_, fun kept => absurd rfl kept⟩
  · intro reported
    cases change.eq_expired reported
  · intro reported
    cases force with
    | false =>
      exact absurd (show revocationAction false = "certificate.force_revoked" from reported)
        (by decide)
    | true => exact ⟨ctx, actor, reason, started rfl⟩
  · intro _
    exact ⟨_, _, rfl, ⟨le_refl _, told.forward⟩, rfl, rfl⟩

/-- Where a scan stands: the certificates it has updated. -/
structure Scanned (s : Service) (call : Nat) (before : State) (done : List Certificate)
    (updates : List CertificateUpdate) (mid : Session) : Prop where
  legal : ∀ update ∈ updates, update.Legal s call before mid.drawn
  distinct : (updates.map fun update => update.old.id).Nodup
  visited : ∀ update ∈ updates, update.old ∈ done
  unrevoked : recordedRevocations updates = []
  told : Told s (session before) mid {
    events := updates.map CertificateUpdate.event
    messages := updates.map CertificateUpdate.message }
  ledger : Ledger.of mid.db = (ledger before).recertify updates

theorem Ledger.recertify_append (l : Ledger) (first second : List CertificateUpdate) :
    l.recertify (first ++ second) = (l.recertify first).recertify second := by
  simp [Ledger.recertify, recordedRevocations, Table.insertAll]

theorem CertificateUpdate.Legal.mono {drawn drawn' : Nat} {update : CertificateUpdate}
    (legal : update.Legal s call before drawn) (more : drawn ≤ drawn') :
    update.Legal s call before drawn' :=
  { legal with
    recorded := by
      intro revoked
      obtain ⟨number, revocation, given, fresh, rest⟩ := legal.recorded revoked
      exact ⟨number, revocation, given, ⟨fresh.1, fresh.2.trans_le more⟩, rest⟩ }

theorem names_expirationFields {certificate window} (named : certificate.id ≠ []) :
    (certificateExpirationAuditFields certificate window).Names certificate.id :=
  ((names_certificateAuditFields named).set (by decide) (.string _)).set (by decide) (.number _)

/-- One change of a scan. -/
theorem scanChange_scanned {after} (scanned : Scanned s call before done updates mid)
    {updated window changed expected}
    (found : (ledger before).certificates.lookup certificate.id = some certificate)
    (unvisited : ∀ other ∈ done, other.id ≠ certificate.id) (named : certificate.id ≠ [])
    (same : CertificateSame certificate updated)
    (change : StatusChange certificate.status action updated.status ∨
      (updated.status = certificate.status ∧ certificate.status ≠ .revoked ∧
        action = "certificate.expiration_warning")) (kept : updated.status ≠ .revoked)
    (expired : action = "certificate.expired" →
    certificate.notAfter.nanos ≤ before.world.clock.nanos)
    (unforced : action ≠ "certificate.force_revoked")
    (run : s.scanChange ctx actor window now updated expected action mid = (.ok changed, after)) :
    ∃ updates, Scanned s call before (done ++ [certificate]) updates after := by
  obtain ⟨outcome, _, attempted, rest⟩ := bind_ok_iff.mp run
  rw [attempt_ok_iff] at attempted
  cases outcome with
  | error err =>
    cases updateIfStatus_error attempted
    rcases ite_ok_iff.mp rest with ⟨-, rest⟩ | ⟨-, rest⟩
    · obtain ⟨-, rfl⟩ := pure_ok_iff.mp rest
      refine ⟨updates, { scanned with visited := ?_ }⟩
      intro update inside
      exact mem_append_left _ (scanned.visited update inside)
    · exact (fail_ok_iff.mp rest).elim
  | ok =>
    obtain ⟨-, rfl⟩ := updateIfStatus_ok_iff.mp attempted
    simp only [bind_ok_iff, pure_ok_iff] at rest
    obtain ⟨fields, _, target, ⟨⟩, _, audited, ⟨⟩, _, posted, -, rfl⟩ := rest
    have id_eq := same.id_eq
    have names := names_addTarget
      (@names_expirationFields updated window (id_eq ▸ named)) target
    cases (addTarget_readOnly _ _).same target
    obtain ⟨event, message, recorded, type, carries, told, ledger⟩ :=
      notify_told names audited posted
    have forward := told.forward
    refine ⟨updates ++ [⟨certificate, updated, action, event, message, none⟩], ?_,
      ?_, ?_, ?_, ?_, ?_⟩
    · intro update inside
      rcases mem_append.mp inside with old | new
      · exact (scanned.legal update old).mono forward
      · cases mem_singleton.mp new
        exact ⟨found, same, change, expired, fun reported => absurd reported unforced,
          ⟨recorded.action, recorded.resourceType, recorded.resourceID.trans id_eq⟩,
          ⟨type, carries.trans (congrArg some id_eq)⟩, fun revoked => absurd revoked kept,
          fun _ => rfl⟩
    · rw [map_append, nodup_append]
      refine ⟨scanned.distinct, by simp, ?_⟩
      intro id inside id' last
      obtain ⟨update, member, rfl⟩ := mem_map.mp inside
      cases mem_singleton.mp last
      exact unvisited update.old (scanned.visited update member)
    · intro update inside
      rcases mem_append.mp inside with old | new
      · exact mem_append_left _ (scanned.visited update old)
      · cases mem_singleton.mp new
        simp
    · simpa [recordedRevocations] using scanned.unrevoked
    · have whole := scanned.told.trans (told.before rfl rfl rfl le_rfl)
      simpa using whole
    · rw [ledger, Ledger.recertify_append, ← scanned.ledger]
      rfl

/-- One turn of the scan's loop. -/
theorem scanCertificate_scanned {req after result'}
    (scanned : Scanned s call before done updates mid)
    (found : (ledger before).certificates.lookup certificate.id = some certificate)
    (unvisited : ∀ other ∈ done, other.id ≠ certificate.id) (named : certificate.id ≠ [])
    (past : now.nanos ≤ before.world.clock.nanos)
    (run : s.scanCertificate ctx actor req now result certificate mid = (.ok result', after)) :
    ∃ updates, Scanned s call before (done ++ [certificate]) updates after := by
  rcases ite_ok_iff.mp run with ⟨⟨active, due⟩, run⟩ | ⟨-, run⟩
  · obtain ⟨changed, _, change, run⟩ := bind_ok_iff.mp run
    obtain ⟨-, rfl⟩ := pure_ok_iff.mp run
    refine scanChange_scanned scanned found unvisited named ?_ ?_ ?_ ?_ (by decide) change
    · rfl
    · exact .inl (.expire active)
    · simp
    · intro _
      exact (not_lt.mp due).trans past
  rcases ite_ok_iff.mp run with ⟨⟨valid, -⟩, run⟩ | ⟨-, run⟩
  · obtain ⟨changed, _, change, run⟩ := bind_ok_iff.mp run
    obtain ⟨-, rfl⟩ := pure_ok_iff.mp run
    refine scanChange_scanned scanned found unvisited named ?_ ?_ ?_ ?_ (by decide) change
    · rfl
    · exact .inr ⟨rfl, by simp [valid], rfl⟩
    · simp [valid]
    · intro reported
      exact absurd reported (by decide)
  · obtain ⟨-, rfl⟩ := pure_ok_iff.mp run
    refine ⟨updates, { scanned with visited := ?_ }⟩
    intro update inside
    exact mem_append_left _ (scanned.visited update inside)

theorem scanTx_performs (ids : s.FreshIDs) (consistent : Consistent s before)
    {req} (past : now.nanos ≤ before.world.clock.nanos)
    (run : s.scanTx ctx actor req now (session before) = (.ok result, after)) :
    Performs s call before none after := by
  obtain ⟨candidates, _, listed, run⟩ := bind_ok_iff.mp run
  obtain ⟨rfl, stored, distinct⟩ :=
    listForScan_ok consistent.keyed.certificates listed
  have whole := fold_induct (fun done _ mid =>
    ∃ updates, Scanned s call before done updates mid) run ⟨[], by simp, by simp, by simp, rfl,
      .refl _, rfl⟩ ?_
  · obtain ⟨updates, scanned⟩ := whole
    refine ⟨_, scanned.told, ?_⟩
    rw [scanned.ledger]
    exact .recertified scanned.legal scanned.distinct (by simp [scanned.unrevoked])
  · rintro done certificate collected next mid after ⟨updates, scanned⟩ front turn
    have found := stored certificate (front.subset (by simp))
    refine scanCertificate_scanned scanned found ?_ (consistent.certificateID_ne_nil ids found) past
      turn
    have apart := distinct.sublist (front.sublist.map _)
    rw [map_append, nodup_append] at apart
    intro other visited
    exact apart.2.2 other.id (mem_map_of_mem visited) certificate.id (by simp)

end Certificates

end AnoPki.Lifecycle
