import AnoPki.Lifecycle.System

/-! # How operations succeed

What an operation does when it is scheduled alone and the outside answers as it should: rules that
put the way of an operation together from its steps. An audit event is always taken by a log that
has room, because the metadata the service writes is a document. -/
namespace AnoPki.Lifecycle

open Foundation Domain Store Option

variable {key : Text} {answer : Oracle} {world after : World} {value : Text} {err : Err}
  {holds : Prop} {kind : ErrKind} {db : Db} {drawn : Nat}

/-- Fields whose values are read back as they were written. -/
def Fields.Flat (fields : Fields) : Prop := ∀ field ∈ fields, field.2.IsFlat

namespace Fields.Flat

variable {fields : Fields}

theorem nil : Fields.Flat [] := by
  intro field inside
  cases inside

theorem set (flat : fields.Flat) {value} (plain : value.IsFlat) : (fields.set key value).Flat := by
  intro field inside
  rcases Json.mem_setMember inside with rfl | old
  · exact plain
  · exact flat field old

theorem setText (flat : fields.Flat) : (fields.setText key value).Flat :=
  flat.set (.string value)

/-- A field that is set only if something holds not. -/
theorem setTextUnless (flat : fields.Flat) {condition} [Decidable condition] :
    Fields.Flat (if condition then fields else fields.setText key value) := by
  split
  · exact flat
  · exact flat.setText

theorem setNonempty (flat : fields.Flat) : (fields.setNonempty key value).Flat :=
  flat.setTextUnless

theorem auditFields (pairs : List (Text × Text)) : (auditFields pairs).Flat := by
  rw [Lifecycle.auditFields]
  refine List.foldlRecOn pairs _ nil ?_
  intro fields flat pair _
  split
  · exact flat.setText
  · exact flat

theorem redacted (flat : fields.Flat) (lower : Char → Char) :
    Fields.Flat (fields.map fun field => (field.1, auditMetadataValue lower field.1 field.2)) := by
  intro field inside
  obtain ⟨old, member, rfl⟩ := List.mem_map.mp inside
  simp only [auditMetadataValue]
  split
  · exact .string _
  · exact flat old member

theorem request (flat : fields.Flat) (request : AuditRequestMetadata) :
    (request.add fields).Flat := by
  simp only [AuditRequestMetadata.add]
  split
  · exact flat.setNonempty.setNonempty.setNonempty.setNonempty.setNonempty
  · exact flat.setNonempty.setNonempty.setNonempty.setNonempty.setNonempty.set (.number _)

theorem apiKey (flat : fields.Flat) (key : APIKeyAuditMetadata) : (key.add fields).Flat := by
  simp only [APIKeyAuditMetadata.add]
  split
  · exact flat.setNonempty.setNonempty.setNonempty.setNonempty
  · exact flat.setNonempty.setNonempty.setNonempty.setNonempty.set (.texts _)

theorem authorization (flat : fields.Flat) (authorization : AuthorizationAuditMetadata) :
    (authorization.add fields).Flat :=
  flat.setNonempty.setNonempty.setNonempty.setNonempty.setNonempty

/-- Fields that are added only when there is something to add. -/
theorem elim {α : Type} {given : Option α} {add} (flat : fields.Flat)
    (added : ∀ value, (add value).Flat) : Fields.Flat (given.elim fields add) := by
  cases given with
  | none => exact flat
  | some value => exact added value

theorem auditMetadata (flat : fields.Flat) (lower : Char → Char) (ctx : Context)
    (resultCode errorCode : Text) :
    (auditMetadata lower ctx fields resultCode errorCode).Flat := by
  have base : Fields.Flat (Fields.setNonempty (Fields.setText
      (fields.map fun field => (field.1, auditMetadataValue lower field.1 field.2))
      "result_code" resultCode) "error_code" errorCode) :=
    (flat.redacted lower).setText.setNonempty
  have requested : Fields.Flat (ctx.request.elim _ fun request => request.add _) :=
    base.elim fun _ => base.request _
  have authorized : Fields.Flat (ctx.authorization.elim _ fun authorization =>
      authorization.add _) :=
    requested.elim fun _ => requested.authorization _
  exact authorized.elim fun _ => authorized.apiKey _

end Fields.Flat

/-- An event as it is given to the log. -/
def Service.auditEvent (s : Service) (ctx : Context) (actor action resourceType resourceID : Text)
    (createdAt : Time) (fields : Fields) (resultCode errorCode : Text) (drawn : Nat) :
    AuditEvent where
  id := s.idgen drawn
  actor := actor
  action := action
  resourceType := resourceType
  resourceID := resourceID
  createdAt := createdAt
  metadataJSON := auditMetadataJSON s.lowerRune ctx fields resultCode errorCode
  sequence := 0
  hashAlgorithm := []
  previousEventHash := []
  eventHash := []

/-- An audit event is stored when the log has room for it. -/
theorem createAuditEvent_succeeds (s : Service) (ctx : Context)
    (actor action resourceType resourceID : Text) (now : Time) {fields}
    (flat : fields.Flat) {before} {room : Nat} (isOpen : before.db.audit.Open (room + 1)) :
    ∃ log, log.Open room ∧
      s.createAuditEvent ctx actor action resourceType resourceID now fields before =
        (.ok (), ⟨{ before.db with audit := log }, before.drawn + 1⟩) := by
  have readable := Json.read_write_object (flat.auditMetadata s.lowerRune ctx "ok" [])
  obtain ⟨log, appended, later⟩ := @AuditLog.Open.append _ _ isOpen (s.auditEvent ctx actor action
    resourceType resourceID now fields "ok" [] before.drawn) _ readable
  refine ⟨log, later, Tx.bind_ok_iff.mpr ⟨_, _, rfl, ?_⟩⟩
  rw [Store.createAuditEvent, ← Service.auditEvent]
  simp only [appended]

theorem createOutboxMessage_succeeds (s : Service) (messageType : Text) (now : Time)
    (fields : Fields) (before : Session) :
      ∃ outbox, s.createOutboxMessage messageType now fields before =
        (.ok (), ⟨{ before.db with outbox := outbox }, before.drawn + 1⟩) :=
  ⟨_, rfl⟩

variable {passes : State → Nat → Option Event → Prop} {call : Nat} {α β : Type}

/-- Scheduled alone, an operation comes from one state to its end in another. -/
def Op.Returns (passes : State → Nat → Option Event → Prop) (call : Nat) (op : Op α) (state : State)
    (result : Except Err α) (after : State) : Prop :=
  Prog.Goes passes call op.run state (.ret result) after

/-- A guard that lets everything pass that changes nothing. -/
def Lenient (passes : State → Nat → Option Event → Prop) : Prop :=
  ∀ state call event, Silent event → passes state call event

/-- Answers of an outside in which nothing works except the store. -/
def Oracle.calm : Oracle where
  storage := none
  inspectCSR := .error ⟨none, []⟩
  checkReady := .error (ErrKind.err .other)
  issue := .error ⟨none, []⟩
  generateCRL := .error ⟨none, []⟩
  verifyHTTP01 := .error (ErrKind.err .other)
  checkCAA := .error (ErrKind.err .other)
  lint := .error (ErrKind.err .other)
  postWebhook := .error (ErrKind.err .other)
  generateAPIKeyToken := .error (ErrKind.err .other)
  validateOCSPResponder := .error ⟨none, []⟩

@[simp] theorem after_none (state : State) (call : Nat) (world : World) :
    state.after call none world = { state with world := world } := by
  simp [Shared.after]

/-- The state after a transaction that left no event. -/
def stored (state : State) (db : Db) (drawn : Nat) : State :=
  { state with world := { state.world with db := db, drawn := drawn } }

namespace Op.Returns

variable {op : Op α} {state mid after : State} {value : α} {err : Err} {result : Except Err β}

theorem pure : Op.Returns passes call (Pure.pure value) state (.ok value) state := .here

theorem ofExcept {outcome} (passed : outcome = .ok value) :
    Op.Returns passes call (Op.ofExcept outcome) state (.ok value) state := by
  rw [passed]
  exact .here

theorem require [Decidable holds] (held : holds) :
    Op.Returns passes call (Op.require holds kind) state (.ok ()) state := by
  rw [Op.require, if_pos held]
  exact .here

theorem seq {rest : α → Op β} (first : op.Returns passes call state (.ok value) mid)
    (second : (rest value).Returns passes call mid result after) :
    Op.Returns passes call (op >>= rest) state result after :=
  Prog.Goes.followed first second

theorem atomic {act event} {outcome : Except Err α} {world} (answer : Oracle)
    (acts : act answer state.world = (outcome, world))
    (allowed : passes state call (outcome.toOption.bind event)) :
    Op.Returns passes call (Op.atomic act event) state outcome
      (state.after call (outcome.toOption.bind event) world) :=
  .step (by rw [acts]) allowed .here

section Silently

variable (lenient : Lenient passes)

include lenient

theorem now : Op.Returns passes call Op.now state (.ok state.world.clock) state := by
  have returned := @atomic passes call _ state (fun _ world => (.ok world.clock, world))
    (fun _ => none) _ _ .calm rfl (lenient _ _ _ Silent.none)
  rwa [Except.toOption, bind_some, after_none] at returned

/-- A transaction that leaves no event. -/
theorem withinTx {body : Repo α} {event : α → Option Event}
    (run : body (session state) = (.ok value, ⟨db, drawn⟩)) (leaves : event value = none) :
    Op.Returns passes call (withinTx body event) state (.ok value) (stored state db drawn) := by
  have returned := @atomic passes call _ state (runTx body) event (.ok value) _ .calm
    (by rw [runTx, Oracle.calm]; dsimp only; rw [← session, run]; rfl)
    (lenient _ _ _ (by rw [Except.toOption, bind_some, leaves]; exact Silent.none))
  rwa [Except.toOption, bind_some, leaves, after_none] at returned

/-- A transaction that fails leaves only the IDs it drew. -/
theorem withinTx_error {body : Repo α} {event : α → Option Event}
    (run : body (session state) = (.error err, ⟨db, drawn⟩)) :
    Op.Returns passes call (Lifecycle.withinTx body event) state (.error err)
      (stored state state.world.db drawn) := by
  have returned := @atomic passes call _ state (runTx body) event (.error err) _ .calm
    (by rw [runTx, Oracle.calm]; dsimp only; rw [← session, run]; rfl)
    (lenient _ _ _ Silent.none)
  rwa [Except.toOption, bind_none, after_none] at returned

/-- A look at the store. -/
theorem repo {body : Repo α} {outcome} (run : body (session state) = (outcome, session state)) :
    Op.Returns passes call (Lifecycle.repo body) state outcome state := by
  cases outcome with
  | ok value => exact withinTx lenient run rfl
  | error err => exact withinTx_error lenient run

end Silently

section Inversion

variable {outcome : Except Err α}

/-- A sequence that returns has failed in its first part, or goes on after it. -/
theorem of_seq {rest} (returned : Op.Returns passes call (op >>= rest) state result after) :
    (∃ err, result = .error err ∧ op.Returns passes call state (.error err) after) ∨
      ∃ value mid, op.Returns passes call state (.ok value) mid ∧
        (rest value).Returns passes call mid result after := by
  obtain ⟨middle, mid, one, two⟩ := Prog.Goes.of_bind returned
  cases middle with
  | error err =>
    obtain ⟨same, rfl⟩ := Prog.Goes.ret_iff.mp two
    exact .inl ⟨err, Prog.ret.inj same, one⟩
  | ok value => exact .inr ⟨value, mid, one, two⟩

theorem of_ofExcept {given}
    (returned : Op.Returns passes call (Op.ofExcept given) state outcome after) :
    outcome = given ∧ after = state := by
  obtain ⟨same, rfl⟩ := Prog.Goes.ret_iff.mp returned
  exact ⟨Prog.ret.inj same, rfl⟩

theorem of_require [Decidable holds] {outcome}
    (returned : Op.Returns passes call (Op.require holds kind) state outcome after) :
    after = state ∧ ∀ u, outcome = .ok u → holds := by
  obtain ⟨rfl, rfl⟩ := of_ofExcept returned
  refine ⟨rfl, ?_⟩
  intro u passed
  split at passed
  · assumption
  · cases passed

theorem of_atomic {act event}
    (returned : Op.Returns passes call (Op.atomic act event) state outcome after) :
    ∃ answer world, act answer state.world = (outcome, world) ∧
      after = state.after call (outcome.toOption.bind event) world := by
  cases returned with
  | step acts allowed rest =>
    obtain ⟨same, rfl⟩ := Prog.Goes.ret_iff.mp rest
    obtain rfl := Prog.ret.inj same
    exact ⟨_, _, Option.some.inj acts, rfl⟩

theorem of_now {outcome} (returned : Op.Returns passes call Op.now state outcome after) :
    outcome = .ok state.world.clock ∧ after = state := by
  obtain ⟨answer, world, acts, rfl⟩ := of_atomic returned
  cases acts
  exact ⟨rfl, after_none _ _ _⟩

theorem of_withinTx {body : Repo α} {event}
    (returned : Op.Returns passes call (Lifecycle.withinTx body event) state (.ok value) after) :
    ∃ done, body (session state) = (.ok value, done) ∧
      after = state.after call (event value)
      { state.world with db := done.db, drawn := done.drawn } := by
  obtain ⟨answer, world, acts, rfl⟩ := of_atomic returned
  rcases runTx_cases acts with ⟨_, _, ⟨⟩, -⟩ | ⟨_, done, ⟨⟩, committed, rfl⟩
  exact ⟨done, committed, rfl⟩

theorem of_withinTx_error {body : Repo α} {event}
    (returned : Op.Returns passes call (Lifecycle.withinTx body event) state (.error err) after) :
    ∃ drawn, after = stored state state.world.db drawn := by
  obtain ⟨answer, world, acts, rfl⟩ := of_atomic returned
  rcases runTx_cases acts with ⟨_, drawn, -, -, rfl, -⟩ | ⟨_, _, ⟨⟩, -⟩
  exact ⟨drawn, after_none _ _ _⟩

end Inversion

end Op.Returns

end AnoPki.Lifecycle
