import AnoPki.Lifecycle.Extension
import AnoPki.Lifecycle.Rehearsal

/-! # Rehearsals of the calls

The calls of the lifecycle that a deployment starts with have stand-ins, so their runs can be
rehearsed. -/
namespace AnoPki.Lifecycle

open Foundation Domain Store Service

-- The stand-in of a long body is put together from many parts.
set_option synthInstance.maxSize 1000000

variable (s : Service) (node : Node) (ctx : Context) (actor : Text)

instance (action resourceType resourceID : Text) (createdAt : Time) (fields : Fields) : Tx.Rehearsed
    (s.createAuditEvent ctx actor action resourceType resourceID createdAt fields) := by
  delta Service.createAuditEvent
  infer_instance

instance (messageType : Text) (createdAt : Time) (fields : Fields) :
    Tx.Rehearsed (s.createOutboxMessage messageType createdAt fields) := by
  delta Service.createOutboxMessage
  infer_instance

instance (identityID : Text) (fields : Fields) :
    Tx.Rehearsed (addIdentityDeploymentTarget identityID fields) :=
  .seq inferInstance fun result => by cases result <;> infer_instance

instance {α : Type} (body : Repo α) [Tx.Rehearsed body] (missing : ErrKind) :
    Tx.Rehearsed (orMissing body missing) :=
  .seq inferInstance fun result => by cases result <;> infer_instance

instance (req : CreateIdentityRequest) : Prog.Rehearsed (s.createIdentity ctx actor req).run := by
  delta Service.createIdentity createIdentityTx
  infer_instance

instance (req : CreateIssuerRequest) : Prog.Rehearsed (s.createIssuer ctx actor req).run := by
  delta Service.createIssuer createIssuerTx checkParentIssuer
  infer_instance

instance (req : CreateCertificateProfileRequest) :
    Prog.Rehearsed (s.createCertificateProfile ctx actor req).run := by
  delta Service.createCertificateProfile createCertificateProfileTx
  infer_instance

instance (req : TransitionCertificateProfileIssuerRequest) :
    Prog.Rehearsed (s.transitionCertificateProfileIssuer ctx actor req).run := by
  delta transitionCertificateProfileIssuer transitionCertificateProfileIssuerTx
    validateIntermediateIssuerTransition
  infer_instance

instance (req : CreateACMEAccountRequest) :
    Prog.Rehearsed (s.createACMEAccount ctx actor req).run := by
  delta Service.createACMEAccount storeACMEAccount createACMEAccountTx
    auditACMEAccount
  infer_instance

instance (req : CreateEnrollmentRequest) :
    Prog.Rehearsed (s.createEnrollment ctx actor req).run := by
  delta Service.createEnrollment createEnrollmentTx requestedProfile inspectCSR
  infer_instance

instance (id reason : Text) :
    Prog.Rehearsed (s.approveEnrollmentWithReason ctx actor id reason).run := by
  delta approveEnrollmentWithReason approveEnrollmentTx checkProfileIssuer
  infer_instance

instance (id : Text) : Prog.Rehearsed (s.approveEnrollment ctx actor id).run := by
  delta approveEnrollment
  infer_instance

instance (id : Text) (reason : RevocationReason) :
    Prog.Rehearsed (s.revokeCertificate ctx actor id reason).run := by
  delta revokeCertificate revokeWith revokeCertificateTx
  infer_instance

instance (req : CreateACMEOrderRequest) : Prog.Rehearsed (s.createACMEOrder ctx actor req).run := by
  delta Service.createACMEOrder checkOrderProfile validatePublicTLSCAA
    createACMEOrderTx createACMEAuthorizations Service.createACMEAuthorization
    requireValidAccount checkProfileExists
  infer_instance

instance (challengeID : Text) :
    Prog.Rehearsed (s.completeACMEChallenge ctx actor challengeID).run := by
  delta completeACMEChallenge completeACMEChallengeTx openChallenge
    promoteACMEAuthorizationIfReady promoteACMEOrderIfReady
  infer_instance

instance (enrollmentID : Text) (now : Time) :
    Tx.Rehearsed (claimIssuanceAttemptTx enrollmentID now) :=
  .seq inferInstance fun result => by
    cases result with
    | error => infer_instance
    | ok current =>
      dsimp only
      cases current.status <;> infer_instance

instance (enrollmentID : Text) (attempt : IssuanceAttempt) (now : Time) :
    Prog.Rehearsed (finalizeSignedIssuanceAttempt enrollmentID attempt now).run := by
  delta finalizeSignedIssuanceAttempt finalizeSignedIssuanceAttemptTx
  refine .ite inferInstance (.seq inferInstance fun _ => .seq inferInstance fun outcome => ?_)
  cases outcome with
  | ok => infer_instance
  | error => exact .ite (.seq inferInstance fun found => by cases found <;>
    infer_instance) inferInstance

instance (certificate : Certificate) (fields : Fields) :
    Tx.Rehearsed (addCertificatePolicyAuditFields certificate fields) := by
  delta addCertificatePolicyAuditFields
  refine .seq inferInstance fun enrollment => ?_
  cases enrollment with
  | none => infer_instance
  | some =>
    refine .seq inferInstance fun identity => ?_
    cases identity with
    | none => infer_instance
    | some =>
      exact .ite (.seq inferInstance fun profile => by cases profile <;> infer_instance)
        (.seq inferInstance fun profile => by cases profile <;> infer_instance)

instance (certificate : Certificate) (fields : Fields) :
    Tx.Rehearsed (addReplacementCertificateLinkage certificate fields) := by
  delta addReplacementCertificateLinkage
  refine .seq inferInstance fun enrollment => ?_
  cases enrollment with
  | none => infer_instance
  | some =>
    exact .ite inferInstance (.seq inferInstance fun source => by cases source <;> infer_instance)

instance (certificate : Certificate) (fields : Fields) :
    Tx.Rehearsed (addSigningAuditFields.legacy s certificate fields) :=
  .seq inferInstance fun issuer => by cases issuer <;> infer_instance

instance (certificate : Certificate) (fields : Fields) :
    Tx.Rehearsed (s.addSigningAuditFields certificate fields) := by
  delta addSigningAuditFields
  refine .seq inferInstance fun attempt => ?_
  cases attempt with
  | none => infer_instance
  | some attempt =>
    refine .ite ?_ inferInstance
    cases decodeSigningEvidence attempt.signingEvidenceJSON with
    | none => infer_instance
    | some evidence =>
      dsimp only
      split <;> infer_instance

instance (certificate : Certificate) (now : Time) :
    Tx.Rehearsed (s.certificateIssuedAuditTx ctx actor certificate now) := by
  delta certificateIssuedAuditTx
  infer_instance

theorem any_said {events events' : List AuditEvent} (same : events.map said = events'.map said)
    {look} (blind : ∀ event, look (said event) = look event) :
    events.any look = events'.any look := by
  have whole : look ∘ said = look := funext blind
  rw [← whole, ← List.any_map, ← List.any_map, same]

/-- The log is only searched for what its events say. -/
instance (certificate : Certificate) (now : Time) :
    Prog.Rehearsed (s.ensureCertificateIssuedAuditEvent ctx actor certificate now).run where
  plain := (repo listAuditEvents).run.bind fun
    | .ok events => if events.any fun event => decide (event.action = "certificate.issued".toList ∧
        event.resourceType = "certificate".toList ∧
        event.resourceID = certificate.id) then .ret (.ok ())
      else (inferInstance : Prog.Rehearsed
        (withinTx (s.certificateIssuedAuditTx ctx actor certificate now) fun _ => none).run).plain
    | .error err => .ret (.error err)
  mirrors := by
    refine .step (fun real plan => real.map (·.map said) = plan.map (·.map said)) ?_ ?_ ?_
    · rintro answer _ t result t' ⟨_, ⟨log, same, rfl⟩, rfl⟩ acts
      have read := Option.some.inj acts
      rw [runTx] at read
      cases storage : answer.storage with
      | some text =>
        rw [storage] at read
        cases read
        exact ⟨_, _, by rw [runTx, storage], ⟨_, ⟨log, same, rfl⟩, rfl⟩, rfl⟩
      | none =>
        rw [storage] at read
        cases read
        exact ⟨.ok log.events, _, by rw [runTx, storage]; rfl, ⟨_, ⟨log, same, rfl⟩, rfl⟩,
          congrArg Except.ok same.events⟩
    · intro real plan _
      cases real <;> cases plan <;> rfl
    · intro real plan like
      cases real with
      | error err =>
        cases plan with
        | error => cases like; exact .ret _
        | ok => cases like
      | ok events =>
        cases plan with
        | error => cases like
        | ok events' =>
          change Prog.Mirrors (ExceptT.run (if _ then _ else _)) (if _ then _ else _)
          rw [any_said (Except.ok.inj like) ?blind]
          case blind => exact fun _ => rfl
          split
          · exact .ret _
          · exact Prog.Rehearsed.mirrors

instance (enrollmentID : Text) : Prog.Rehearsed (s.issuedAlready ctx actor enrollmentID).run := by
  delta issuedAlready
  exact .seq inferInstance fun result => by cases result <;> infer_instance

instance (enrollment : Enrollment) : Prog.Rehearsed (s.checkIssuance enrollment).run := by
  delta checkIssuance enrollmentProfile inspectCSRFor inspectCSR validatePublicTLSLint
  infer_instance

instance (enrollment : Enrollment) (issuer : Issuer) (profile : CertificateProfile) (now : Time)
    (attempt : IssuanceAttempt) (shouldSign : Bool) : Prog.Rehearsed
      (s.signClaimed enrollment issuer profile now attempt shouldSign).run := by
  delta signClaimed sign sign.requestSignature
    persistSignedIssuanceAttempt persistSignedIssuanceAttemptTx
  infer_instance

instance (enrollmentID : Text) (enrollment : Enrollment) :
    Prog.Rehearsed (s.issueApproved ctx actor enrollmentID enrollment).run := by
  delta issueApproved claimIssuanceAttempt
  infer_instance

instance (enrollmentID : Text) :
    Prog.Rehearsed (s.issueCertificate node ctx actor enrollmentID).run := by
  delta issueCertificate
  infer_instance

instance (orderID : Text) (req : FinalizeACMEOrderRequest) :
    Prog.Rehearsed (s.finalizeACMEOrder node ctx actor orderID req).run := by
  delta finalizeACMEOrder finalizeReadyOrder invalidateACMEOrder
    invalidateACMEOrderTx validateACMEPublicTLSValidationEvidence
  infer_instance

instance (issuerID distributionPoint : Text) (now : Time) :
    Tx.Rehearsed (claimCRLGenerationTx issuerID distributionPoint now) :=
  .seq inferInstance fun _ => .seq inferInstance fun result => by cases result <;> infer_instance

instance (claim : CRLGenerationClaim) : Tx.Rehearsed (releaseCRLClaimTx claim) :=
  .seq inferInstance fun result => by cases result <;> infer_instance

instance (issuer : Issuer) (claim : CRLGenerationClaim) (req : PublishCRLRequest) (now : Time) :
    Prog.Rehearsed (s.publishClaimedCRL ctx actor issuer claim req now).run := by
  delta publishClaimedCRL generateCRL publishCRLTx
  infer_instance

instance (req : PublishCRLRequest) : Prog.Rehearsed (s.publishCRL ctx actor req).run := by
  delta publishCRL claimCRLGeneration releaseCRLClaim
  exact .seq inferInstance fun _ => .seq inferInstance fun _ => .seq inferInstance fun _ =>
    .seq inferInstance fun _ => .seq inferInstance fun result => by cases result <;> infer_instance

/-- The stand-ins of the calls that are rehearsed. -/
def Service.standIn (call : Call) :
    Option { plain : Prog World Oracle Event Unit // (s.start node call).Mirrors plain } :=
  match call with
  | .createIdentity .. | .createIssuer .. | .createCertificateProfile ..
  | .transitionCertificateProfileIssuer .. | .createACMEAccount .. | .publishCRL ..
  | .createEnrollment .. | .approveEnrollment .. | .issueCertificate .. | .revokeCertificate ..
  | .createACMEOrder .. | .completeACMEChallenge .. | .finalizeACMEOrder .. =>
    some (Prog.Rehearsed.standIn (Op.forget _))
  | _ => none

theorem alike_reset {world plan : World} (alike : Likeness.Alike world plan) :
    Likeness.Alike { world with issueMu := world.issueMu.erase node }
      { plan with issueMu := plan.issueMu.erase node } := by
  obtain ⟨db, same, rfl⟩ := alike
  exact ⟨db, same, rfl⟩

theorem alike_disturb {outside : Outside} {world plan after}
    (alike : Likeness.Alike world plan) (moves : outside.disturb plan = some after) :
    ∃ real, outside.disturb world = some real ∧ Likeness.Alike real after := by
  obtain ⟨db, same, rfl⟩ := alike
  simp only [Outside.disturb] at moves ⊢
  split at moves
  · cases moves
    exact ⟨_, if_pos ‹_›, db, same, rfl⟩
  · cases moves

instance : s.system.Rehearsed where
  start := s.standIn
  disturb := s.system.disturb
  resets node _ _ alike := alike_reset node alike
  disturbs alike moves := alike_disturb alike moves

/-- The calls beside the lifecycle, or some of them, have stand-ins as well. -/
@[reducible] def Extension.rehearsed (extension : Extension) (start : ∀ node task,
    Option { plain : Prog World Oracle Event Unit // (extension.start node task).Mirrors plain }) :
    (s.extended extension).Rehearsed where
  start node
    | .inl call => s.standIn node call
    | .inr task => start node task
  disturb
    | .inl outside => fun world => outside.disturb world
    | .inr _ => fun _ => none
  resets node _ _ alike := alike_reset node alike
  disturbs {outside _ _ _} alike moves := by
    cases outside with
    | inl outside => exact alike_disturb alike moves
    | inr => cases moves

/-- A call beside the lifecycle is started and scheduled for so many steps with the same answer. -/
def tasked (extension : Extension) (answer : Oracle) (number : Nat) (node : Node)
    (task : extension.Task) (steps : Nat) : List (s.extended extension).Action :=
  .spawn node (.inr task) :: System.Action.runs number steps answer

/-- A schedule of the lifecycle with other calls beside it. -/
def widened {s : Service} {extension : Extension} : s.system.Action → (s.extended extension).Action
  | .spawn node call => .spawn node (.inl call)
  | .run call answer => .run call answer
  | .crash node => .crash node
  | .disturb outside => .disturb (.inl outside)

section Runs

variable {sys : System World Oracle Event} {initial : World → Prop} {world : World}

/-- The state with another log. -/
def withLog (state : State) (log : AuditLog) : State :=
  { state with world := { state.world with db := { state.world.db with audit := log } } }

/-- A rehearsal tells everything but the log. -/
theorem shared_of_mirrors {cfg plan : sys.Config} (mirrors : cfg.Mirrors plan) :
    ∃ log, cfg.shared = withLog plan.shared log := by
  obtain ⟨_, ⟨log, -, rfl⟩, same⟩ := mirrors.world
  have told := mirrors.history
  obtain ⟨⟨_, _⟩, _, _⟩ := cfg
  exact ⟨log, by cases same; cases told; rfl⟩

theorem alike_self (sound : world.db.audit.Sound) : Likeness.Alike world world :=
  ⟨world.db, ⟨world.db.audit, ⟨sound, rfl, rfl⟩, rfl⟩, rfl⟩

variable [sys.Rehearsed]

/-- A state that another one stands in for. -/
def StandsFor (plan state : State) : Prop :=
  Likeness.Alike state.world plan.world ∧ state.history = plan.history

/-- What a rehearsal of one operation shows, the operation does. -/
theorem returns_of_played {α : Type} (op : Op α) [one : Prog.Rehearsed op.run] {plan state}
    (standsFor : StandsFor plan state) (answers : List Oracle) (shows : Except Err α → State → Prop)
    [∀ result, DecidablePred (shows result)]
    (shown : (one.plain.play 0 answers plan).any (fun outcome =>
      decide (shows outcome.1 outcome.2)) = true) :
    ∃ result after plan', op.Returns (fun _ _ _ => True) 0 state result after ∧
      StandsFor plan' after ∧ shows result plan' := by
  rcases played : one.plain.play 0 answers plan with _ | ⟨result, plan'⟩
  · rw [played] at shown
    cases shown
  · rw [played] at shown
    obtain ⟨after, goes, alike, told⟩ := Prog.Goes.played one.mirrors standsFor.1 standsFor.2 played
    exact ⟨result, after, plan', goes, ⟨alike, told⟩, of_decide_eq_true shown⟩

/-- What a rehearsal shows at its end, a run comes to. -/
theorem rehearsed_reaches (start : initial world) (actions : List sys.Action)
    (shows : sys.Config → Prop) [DecidablePred shows]
    (shown : ((System.idle world : sys.Config).play (fun _ _ => true) actions).any
      (fun plan => decide (shows plan)) = true := by decide +kernel)
    (sound : world.db.audit.Sound := by exact AuditLog.sound_empty) :
    ∃ cfg plan log, System.Reaches (fun _ _ => True) initial cfg ∧ cfg.Mirrors plan ∧
      cfg.shared = withLog plan.shared log ∧ shows plan := by
  obtain ⟨cfg, plan, reached, -, mirrors, seen⟩ := System.Reaches.shown
    (fun _ _ _ _ _ => trivial) start (alike_self sound) shown
  obtain ⟨log, same⟩ := shared_of_mirrors mirrors
  exact ⟨cfg, plan, log, reached, mirrors, same, seen⟩

/-- What a rehearsal shows after one more action. -/
theorem performs_of_mirrors {cfg plan : sys.Config} (mirrors : cfg.Mirrors plan) {action shows}
    [DecidablePred shows]
    (shown : (plan.rehearse action).any (fun after => decide (shows after)) = true) :
    ∃ next after log, cfg.perform action = some next ∧ next.shared = withLog after.shared log ∧
      shows after := by
  rcases rehearsed : plan.rehearse action with _ | after
  · rw [rehearsed] at shown
    cases shown
  · rw [rehearsed] at shown
    obtain ⟨next, performed, mirrors'⟩ := mirrors.perform rehearsed
    obtain ⟨log, same⟩ := shared_of_mirrors mirrors'
    exact ⟨next, after, log, performed, same, of_decide_eq_true shown⟩

/-- A rehearsal whose steps pass a check shows a run of the same schedule whose steps pass a
guard. -/
theorem rehearsed_guarded {passes : State → Nat → Option Event → Prop}
    (check : State → Nat → Option Event → Bool)
    (strict : ∀ state log call event, check state call event = true →
      passes (withLog state log) call event)
    (start : initial world) (actions : List sys.Action) (shows : sys.Config → Prop)
    [DecidablePred shows]
    (shown : ((System.idle world : sys.Config).play
      (fun plan action => action.passes check plan) actions).any
      (fun plan => decide (shows plan)) = true := by decide +kernel)
    (sound : world.db.audit.Sound := by exact AuditLog.sound_empty) :
    ∃ cfg plan log, System.Reaches (System.Guarded passes) initial cfg ∧
      (System.idle world).performAll actions = some cfg ∧ cfg.Mirrors plan ∧
      cfg.shared = withLog plan.shared log ∧ shows plan := by
  obtain ⟨cfg, plan, reached, all, mirrors, seen⟩ := System.Reaches.shown
    (System.Guarded.of_passes fun state plan call event alike told passed => by
      obtain ⟨_, ⟨log, -, rfl⟩, same⟩ := alike
      obtain ⟨_, _⟩ := state
      cases same
      cases told
      exact strict plan log call event passed) start (alike_self sound) shown
  obtain ⟨log, same⟩ := shared_of_mirrors mirrors
  exact ⟨cfg, plan, log, reached, all, mirrors, same, seen⟩

end Runs

end AnoPki.Lifecycle
