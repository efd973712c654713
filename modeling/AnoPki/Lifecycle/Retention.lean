import AnoPki.Lifecycle.Deployment

/-! # Retention of the audit log

`PruneAuditEventsBefore` removes the events before a cutoff, and only from the front of the log. The
log is in the order of the transactions, while an event carries the time its call read before. A
call that was slow to commit puts an older event behind a younger one; a cutoff between the two is
then refused as if the log had been tampered with. -/
namespace AnoPki.Lifecycle

open Foundation Domain Store List Tx Regime

section Operation

variable (s : Service) (ctx : Context) (actor : Text)

/-- The transaction of `PruneAuditEventsBefore`. -/
def Service.pruneAuditEventsTx (before now : Time) : Repo Nat := do
  let deleted ← deleteAuditEventsBefore before
  let resourceID ← s.newID
  s.createAuditEvent ctx actor "audit.retention_pruned" "audit" resourceID now
    ((Fields.setText [] "retention_cutoff" before.rfc3339).set "deleted_count"
      (.number (Text.decimalInt deleted)))
  pure deleted

def Service.pruneAuditEventsBefore (before : Time) : Op Nat := do
  Op.require (¬ before.isZero) .invalidRequest
  let checked ← Op.now
  Op.require (before.before checked) .invalidRequest
  let actor := if isBlank actor then "anonymous".toList else actor
  let now ← Op.now
  withinTx (s.pruneAuditEventsTx ctx actor before now) fun _ => none

end Operation

section Transaction

variable {s : Service} {ctx : Context} {actor : Text} {a b : Session} {cutoff now : Time}

/-- An audit event goes to the end of the log, with the time it was given. -/
theorem createAuditEvent_appends {action resourceType resourceID fields u}
    (sound : a.db.audit.Sound)
    (run : s.createAuditEvent ctx actor action resourceType resourceID now fields a = (.ok u, b)) :
    b.db.audit.Sound ∧ b.db.audit.state.checkpointSequence = a.db.audit.state.checkpointSequence ∧
      ∃ event, b.db.audit.events = a.db.audit.events ++ [event] ∧ event.action = action ∧
        event.createdAt = now := by
  obtain ⟨id, mid, drawn, run⟩ := bind_ok_iff.mp run
  obtain ⟨rfl, rfl⟩ := newID_ok_iff.mp drawn
  obtain ⟨log, appended, rfl⟩ := createAuditEvent_ok run
  rcases appendMemory_cases sound _ with
    ⟨err, failed⟩ | ⟨prepared, log', stored, sound', events, shape, state⟩
  · rw [failed] at appended
    cases appended
  · rw [stored] at appended
    obtain rfl := (Prod.mk.inj appended).2
    refine ⟨sound', ?_, prepared, events, ?_, ?_⟩
    · rw [state]
    · rw [shape]
    · rw [shape]

/-- The log is rid of what was created before the cutoff, and notes that it was. -/
def PrunedExactly (cutoff : Time) (before after : AuditLog) : Prop :=
  ∃ event : AuditEvent, event.action = "audit.retention_pruned".toList ∧
    after.events = (before.events.filter fun event => ¬ event.createdAt.before cutoff) ++ [event]

/-- What a cutoff would remove is a front of the log, and the log has a number left. -/
def Prunable (cutoff : Time) (log : AuditLog) : Prop :=
  eventsBefore log.events cutoff <+: log.events ∧ log.state.latestSequence.toInt + 1 < 2 ^ 63

theorem deleteBefore_run {result log}
    (pruned : pruneMemoryAuditEvents a.db.audit cutoff = (result, log)) :
    deleteAuditEventsBefore cutoff a = (result, ⟨{ a.db with audit := log }, a.drawn⟩) := by
  simp only [deleteAuditEventsBefore, pruned]

theorem pruneMemory_front {log} (sound : log.Sound)
    (front : eventsBefore log.events cutoff <+: log.events) :
    ∃ log', pruneMemoryAuditEvents log cutoff =
    (.ok (eventsBefore log.events cutoff).length, log') ∧
      log'.Sound ∧ log'.state.latestSequence = log.state.latestSequence ∧
      log'.events = log.events.filter fun event => ¬ event.createdAt.before cutoff := by
  rcases pruneMemory_cases sound cutoff with
    ⟨gap, -⟩ | ⟨empty, nothing⟩ | ⟨removed, last, log', -, -, pruned, sound', events, state⟩
  · exact absurd front gap
  · refine ⟨log, by rw [nothing, empty]; rfl, sound, rfl, ?_⟩
    have kept := drop_eventsBefore front
    rw [empty] at kept
    exact kept
  · exact ⟨log', pruned, sound', by rw [state], events⟩

/-- The transaction succeeds when the log can be pruned. -/
theorem pruneAuditEventsTx_succeeds (sound : a.db.audit.Sound)
    (prunable : Prunable cutoff a.db.audit) (ctx : Context) (actor : Text) (now : Time) :
    ∃ log, PrunedExactly cutoff a.db.audit log ∧ s.pruneAuditEventsTx ctx actor cutoff now a =
      (.ok (eventsBefore a.db.audit.events cutoff).length,
        ⟨{ a.db with audit := log }, a.drawn + 2⟩) := by
  obtain ⟨front, number⟩ := prunable
  obtain ⟨pruned, deletes, sound', latest, kept⟩ := pruneMemory_front sound front
  have isOpen : pruned.Open (0 + 1) := ⟨sound', by rw [latest]; exact_mod_cast number⟩
  have flat : Fields.Flat ((Fields.setText [] "retention_cutoff" cutoff.rfc3339).set "deleted_count"
      (.number (Text.decimalInt (eventsBefore a.db.audit.events cutoff).length))) :=
    Fields.Flat.set (Fields.Flat.setText (by rintro _ ⟨⟩)) (.number _)
  obtain ⟨log, -, audited⟩ :=
    @createAuditEvent_succeeds s ctx actor "audit.retention_pruned" "audit" (s.idgen a.drawn)
      now _ flat ⟨{ a.db with audit := pruned }, a.drawn + 1⟩ 0 isOpen
  obtain ⟨-, -, event, events, action, -⟩ :=
    @createAuditEvent_appends s ctx actor ⟨{ a.db with audit := pruned },
      a.drawn + 1⟩ _ now _ _ _ _ _ sound' audited
  refine ⟨log, ⟨event, action, ?_⟩, ?_⟩
  · rw [← kept]
    exact events
  · exact bind_ok_iff.mpr ⟨_, _, deleteBefore_run deletes, bind_ok_iff.mpr ⟨_, _, rfl,
      bind_ok_iff.mpr ⟨(), _, audited, rfl⟩⟩⟩

/-- A transaction that succeeds has found the log in order. -/
theorem pruneAuditEventsTx_ok {count : Nat} (sound : a.db.audit.Sound)
    (run : s.pruneAuditEventsTx ctx actor cutoff now a = (.ok count, b)) :
    Prunable cutoff a.db.audit ∧ b.db.audit.Sound ∧ Ledger.of b.db = .of a.db ∧
    a.drawn ≤ b.drawn := by
  obtain ⟨deleted, mid, deletes, run⟩ := bind_ok_iff.mp run
  obtain ⟨resourceID, numbered, drawn, run⟩ := bind_ok_iff.mp run
  obtain ⟨rfl, rfl⟩ := newID_ok_iff.mp drawn
  obtain ⟨⟨⟩, last, audited, done⟩ := bind_ok_iff.mp run
  obtain ⟨rfl, rfl⟩ := pure_ok_iff.mp done
  have front : eventsBefore a.db.audit.events cutoff <+: a.db.audit.events := by
    by_contra gap
    rcases pruneMemory_cases sound cutoff with
      ⟨-, err, failed⟩ | ⟨empty, -⟩ | ⟨_, _, _, -, front, -⟩
    · rw [deleteBefore_run failed] at deletes
      cases deletes
    · exact gap (empty ▸ nil_prefix)
    · exact gap front
  obtain ⟨log, pruned, sound', latest, -⟩ := pruneMemory_front sound front
  rw [deleteBefore_run pruned] at deletes
  cases deletes
  obtain ⟨after, checkpoint, event, events, -⟩ := createAuditEvent_appends sound' audited
  obtain ⟨_, -, told, same⟩ := auditEvent_told audited
  refine ⟨⟨front, ?_⟩, after, same, (Nat.le_succ _).trans told.forward⟩
  -- The last event has a number, one above the last number before.
  have counted := after.latest
  have counted' := sound'.latest
  have bounded := Int64.toInt_lt last.db.audit.state.latestSequence
  rw [events, length_append, length_singleton, checkpoint] at counted
  rw [← latest]
  push_cast at counted
  omega

end Transaction

section System

/-- A call of `PruneAuditEventsBefore`. -/
structure PruneTask where
  ctx : Context
  actor : Text
  before : Time

/-- What an operation beside the lifecycle tells the log in a transaction of its own. -/
structure AuditEntry where
  ctx : Context
  actor : Text
  action : Text
  resourceType : Text
  resourceID : Text
  /-- The time the operation has read. -/
  createdAt : Time
  fields : Fields
  resultCode : Text
  errorCode : Text

/-- The entry is written, if its time has come. -/
def AuditEntry.write (s : Service) (entry : AuditEntry) (world : World) : Option World :=
  if entry.createdAt.nanos ≤ world.clock.nanos then
    match s.createAuditEventWithResult entry.ctx entry.actor entry.action entry.resourceType
      entry.resourceID entry.createdAt entry.fields entry.resultCode entry.errorCode
      ⟨world.db, world.drawn⟩ with
    | (.ok _, after) => some { world with db := after.db, drawn := after.drawn }
    | (.error _, _) => none
  else none

@[reducible] def Service.retentionExtension (s : Service) : Extension where
  Task := PruneTask
  start _ task := (s.pruneAuditEventsBefore task.ctx task.actor task.before).forget
  Elsewhere := AuditEntry
  elsewhere entry := entry.write s

/-- The service with the upkeep of its audit log. -/
abbrev Service.retentionSystem (s : Service) : System World Oracle Event :=
  s.extended s.retentionExtension

/-- The ledger stays, and a sound log stays sound. -/
structure AuditKept (before : State) (world : World) : Prop extends Framed before world where
  sound : before.world.db.audit.Sound → world.db.audit.Sound

variable (s : Service)

/-- The log is sound all along. -/
def retentionRegime : Regime s where
  inv state := state.world.db.audit.Sound
  step _ before event world := event = none ∧ AuditKept before world
  aside := AuditKept
  later _ _ := True
  later_refl _ := trivial
  later_trans _ _ := trivial
  idle more _ := ⟨rfl, ⟨rfl, rfl, more⟩, fun sound => sound⟩
  step_framed step := step.2.toFramed
  step_event := by
    rintro call before event world ⟨rfl, -⟩ started
    exact (Option.some_ne_none _).symm
  aside_framed kept := kept.toFramed
  lifecycle_keeps := by
    rintro call before event world - sound - ⟨report, told, -⟩
    exact ⟨told.sound sound, trivial⟩
  step_keeps _ sound step := ⟨step.2.sound sound, trivial⟩
  outer_keeps := by
    intro before after sound outer
    refine ⟨?_, trivial⟩
    rw [outer.audit]
    exact sound
  started_keeps := by
    rintro before after sound ⟨number, -, rfl⟩
    exact ⟨sound, trivial⟩
  aside_keeps _ sound kept := ⟨kept.sound sound, trivial⟩

variable {s}

theorem AuditEntry.write_kept {entry : AuditEntry} {state world}
    (written : entry.write s state.world = some world) : AuditKept state world := by
  unfold AuditEntry.write at written
  split at written
  · split at written
    · next after run =>
      cases written
      obtain ⟨id, mid, drawn, run⟩ := bind_ok_iff.mp run
      obtain ⟨rfl, rfl⟩ := newID_ok_iff.mp drawn
      obtain ⟨_, -, told, same⟩ := @createAuditEvent_told s _ _ _ _ run
      exact ⟨⟨same, rfl, (Nat.le_succ _).trans told.forward⟩, told.sound⟩
    · cases written
  · cases written

theorem pruneBefore_meets (ids : s.FreshIDs) {call : Nat} {state ctx actor before} :
    Prog.MeetsOk ((retentionRegime s).discipline ids) call
    (s.pruneAuditEventsBefore ctx actor before) (fun _ _ => True) state := by
  refine .seq meets_require fun _ _ _ _ => ?_
  refine .seq (meets_look fun _ _ => rfl) fun _ _ _ _ => ?_
  refine .seq meets_require fun _ _ _ _ => ?_
  refine .seq (meets_look fun _ _ => rfl) fun now _ _ _ => ?_
  refine meets_withinTx fun now finds count after run => ⟨⟨rfl, ?_⟩, trivial⟩
  have found : (session now).db.audit.Sound := finds.inv
  obtain ⟨-, sound, ledger, forward⟩ := pruneAuditEventsTx_ok found run
  exact ⟨⟨ledger, rfl, forward⟩, fun _ => sound⟩

theorem Service.retentionSystem_keeps (ids : s.FreshIDs) :
    s.retentionSystem.Keeps ((retentionRegime s).discipline ids) := by
  refine (retentionRegime s).keeps ids ?_ fun entry state world => AuditEntry.write_kept
  intro node task number state _
  exact Prog.Meets.bind (Prog.Meets.mono (pruneBefore_meets ids) fun _ _ _ _ => trivial)

variable {guard : s.retentionSystem.Config → s.retentionSystem.Action → Prop}
  {cfg : s.retentionSystem.Config}

theorem audit_sound (ids : s.FreshIDs) (reached : System.Reaches guard Initial cfg) :
    cfg.shared.world.db.audit.Sound := by
  refine (reached.sound (s.retentionSystem_keeps ids) fun world initial => ?_).inv.2
  refine ⟨initial.consistent, ?_⟩
  change world.db.audit.Sound
  rw [initial.db]
  exact AuditLog.sound_empty

end System

section Runs

variable {s : Service} {ctx : Context} {actor : Text} {state : State} {call : Nat}
  {passes : State → Nat → Option Event → Prop}

/-- Scheduled alone, a call finds the log as it is and prunes it. -/
theorem pruneBefore_returns (lenient : Lenient passes) {cutoff}
    (sound : state.world.db.audit.Sound) (nonzero : ¬ cutoff.isZero)
    (earlier : cutoff.before state.world.clock) (prunable : Prunable cutoff state.world.db.audit) :
    ∃ after, (s.pruneAuditEventsBefore ctx actor cutoff).Returns passes call state
        (.ok (eventsBefore state.world.db.audit.events cutoff).length) after ∧
      PrunedExactly cutoff state.world.db.audit after.world.db.audit := by
  obtain ⟨log, exactly, run⟩ :=
    @pruneAuditEventsTx_succeeds s (session state) cutoff sound prunable ctx
      (if isBlank actor then "anonymous".toList else actor) state.world.clock
  exact ⟨_, .seq (.require nonzero)
    (.seq (.now lenient)
      (.seq (.require earlier) (.seq (.now lenient) (.withinTx lenient run rfl)))), exactly⟩

def nextDay : Time := newYear.add 86400000000000

def thirdDay : Time := nextDay.add 86400000000000

instance (s : Service) : s.retentionSystem.Rehearsed := Extension.rehearsed s _ fun _ _ => none

/-- Two identities are created; the call that read the clock first commits last. -/
def creatingLate : List smallService.retentionSystem.Action :=
  .spawn 0 (.inl (.createIdentity {} "admin" webIdentity)) :: .run 0 .calm ::
    .disturb (.inl (.tick nextDay)) :: .spawn 1 (.inl (.createIdentity {} "admin" webIdentity)) ::
    .run 1 .calm :: .run 1 .calm :: .run 0 .calm :: [.disturb (.inl (.tick thirdDay))]

theorem small_late_events :
    ∃ (cfg : smallService.retentionSystem.Config) (younger older : AuditEvent),
      System.Reaches (System.Guarded fun _ _ _ => True) Initial cfg ∧
      cfg.shared.world.clock = thirdDay ∧ cfg.shared.world.db.audit.Open 1 ∧
      cfg.shared.world.db.audit.events = [younger, older] ∧ younger.createdAt = nextDay ∧
      older.createdAt = newYear := by
  obtain ⟨cfg, plan, -, reached, mirrors, -, clock, created, latest⟩ := rehearsed_reaches
    newWorld_initial creatingLate (fun plan =>
      plan.shared.world.clock = thirdDay ∧
      (plan.shared.world.db.audit.events.map said).map AuditEvent.createdAt = [nextDay, newYear] ∧
      plan.shared.world.db.audit.state.latestSequence = 2)
  obtain ⟨_, ⟨log, told, rfl⟩, same⟩ := mirrors.world
  rw [← told.events, map_map] at created
  rw [← told.latest] at latest
  obtain ⟨younger, _, events, first, rest⟩ := map_eq_cons_iff.mp created
  obtain ⟨older, rfl, second⟩ := map_eq_singleton_iff.mp rest
  refine ⟨cfg, younger, older, reached.mono fun _ _ _ _ _ _ => trivial, ?_⟩
  rw [same]
  exact ⟨clock, ⟨told.sound, by rw [latest]; decide⟩, events, first, second⟩

/-- In every state reached, a prune that comes to its transaction removes exactly the events before
the cutoff just when they are a front of the log and a number is left; a prune that runs then alone
returns how many they were. -/
theorem pruneAuditEventsBefore_exact_iff (ids : s.FreshIDs) {cfg : s.retentionSystem.Config}
    (reached : System.Reaches (System.Guarded fun _ _ _ => True) Initial cfg) (cutoff : Time)
    (nonzero : ¬ cutoff.isZero) (earlier : cutoff.before cfg.shared.world.clock) (ctx : Context)
    (actor : Text) :
    (∀ now, (∃ after, s.pruneAuditEventsTx ctx actor cutoff now (session cfg.shared) =
        (.ok (eventsBefore cfg.shared.world.db.audit.events cutoff).length, after) ∧
        PrunedExactly cutoff cfg.shared.world.db.audit after.db.audit) ↔
      Prunable cutoff cfg.shared.world.db.audit) ∧
    (Prunable cutoff cfg.shared.world.db.audit → ∀ call, ∃ after,
      (s.pruneAuditEventsBefore ctx actor cutoff).Returns (fun _ _ _ => True) call cfg.shared
        (.ok (eventsBefore cfg.shared.world.db.audit.events cutoff).length) after ∧
      PrunedExactly cutoff cfg.shared.world.db.audit after.world.db.audit) := by
  have sound := audit_sound ids reached
  refine ⟨fun now => ⟨?_, ?_⟩, ?_⟩
  · rintro ⟨after, run, -⟩
    exact (@pruneAuditEventsTx_ok s ctx actor (session cfg.shared) after cutoff now _ sound run).1
  · intro prunable
    obtain ⟨log, exactly, run⟩ := @pruneAuditEventsTx_succeeds s (session cfg.shared) cutoff sound
      prunable ctx actor now
    exact ⟨_, run, exactly⟩
  · intro prunable call
    exact pruneBefore_returns (fun _ _ _ _ => trivial) sound nonzero earlier prunable

/-- A cutoff after both events removes both. -/
theorem small_prune_exact : ∃ cfg : smallService.retentionSystem.Config, ∃ after,
    smallService.pruneAuditEventsTx {} "admin" (nextDay.add 1) thirdDay (session cfg.shared) =
      (.ok 2, after) ∧ PrunedExactly (nextDay.add 1) cfg.shared.world.db.audit after.db.audit := by
  obtain ⟨cfg, younger, older, reached, clock, isOpen, events, created, created'⟩ :=
    small_late_events
  have all : eventsBefore cfg.shared.world.db.audit.events (nextDay.add 1) = [younger, older] := by
    rw [events]
    simp only [eventsBefore, List.filter, created, created']
    rfl
  have prunable : Prunable (nextDay.add 1) cfg.shared.world.db.audit :=
    ⟨by rw [all, events], isOpen.numbers⟩
  have exactly := ((pruneAuditEventsBefore_exact_iff small_freshIDs reached (nextDay.add 1)
    (by decide +kernel) (by rw [clock]; decide +kernel) {} "admin").1 thirdDay).mpr prunable
  rw [all] at exactly
  exact ⟨cfg, exactly⟩

/-- A cutoff between the two is refused. -/
theorem small_prune_refused : ∃ cfg : smallService.retentionSystem.Config,
    System.Reaches (System.Guarded fun _ _ _ => True) Initial cfg ∧ ¬ nextDay.isZero ∧
      nextDay.before cfg.shared.world.clock ∧ ∀ ctx actor now, ∃ err,
        (smallService.pruneAuditEventsTx ctx actor nextDay now (session cfg.shared)).1 =
          .error err := by
  obtain ⟨cfg, younger, older, reached, clock, -, events, created, created'⟩ := small_late_events
  refine ⟨cfg, reached, by decide +kernel, by rw [clock]; decide +kernel, ?_⟩
  intro ctx actor now
  cases outcome : (smallService.pruneAuditEventsTx ctx actor nextDay now
    (session cfg.shared)).1 with
  | error err => exact ⟨err, rfl⟩
  | ok count =>
    have sound : (session cfg.shared).db.audit.Sound := audit_sound small_freshIDs reached
    obtain ⟨⟨front, -⟩, -⟩ := pruneAuditEventsTx_ok sound (Prod.ext outcome rfl)
    have old : eventsBefore cfg.shared.world.db.audit.events nextDay = [older] := by
      rw [events]
      simp only [eventsBefore, List.filter, created, created']
      rfl
    change eventsBefore cfg.shared.world.db.audit.events nextDay <+:
      cfg.shared.world.db.audit.events at front
    rw [old, events, cons_prefix_cons] at front
    have same := congrArg AuditEvent.createdAt front.1
    rw [created, created'] at same
    exact absurd same (by decide +kernel)

end Runs

end AnoPki.Lifecycle
