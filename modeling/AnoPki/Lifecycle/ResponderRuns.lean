import AnoPki.Foundation.Paths
import AnoPki.Lifecycle.Deployment
import AnoPki.Lifecycle.Responders

/-! # OCSP responders over whole runs

Responders are created, rotated and disabled beside the lifecycle calls. Whatever the order of the
transactions, an issuer has at most one active responder: a transaction that stores an active one
has looked for another in the state it commits to. -/
namespace AnoPki.Lifecycle

open Foundation Domain Store Table Tx AList Regime Ledger

variable {responder : OCSPResponder} {issuerID : Text} {stored : OCSPResponder}
  {req : OCSPResponderRequest} {current : OCSPResponder} {responderID : Text}

/-- The calls about responders. -/
inductive ResponderTask where
  | create (ctx : Context) (actor : Text) (req : OCSPResponderRequest)
  | rotate (ctx : Context) (actor : Text) (req : OCSPResponderRequest)
  | disable (ctx : Context) (actor issuerID responderID : Text)

def Service.startResponderTask (s : Service) : ResponderTask → Prog World Oracle Event Unit
  | .create ctx actor req => (s.createOCSPResponder ctx actor req).forget
  | .rotate ctx actor req => (s.rotateOCSPResponder ctx actor req).forget
  | .disable ctx actor issuerID responderID =>
    (s.disableOCSPResponder ctx actor issuerID responderID).forget

@[reducible] def Service.responderExtension (s : Service) : Extension where
  Task := ResponderTask
  start _ task := s.startResponderTask task
  Elsewhere := Empty
  elsewhere change := change.elim

/-- The service with the calls about responders. -/
abbrev Service.responderSystem (s : Service) : System World Oracle Event :=
  s.extended s.responderExtension

abbrev responders (state : State) : Table OCSPResponder := state.world.db.annex.ocspResponders

/-- A responder as it is disabled. -/
def DisabledFrom (stored responder : OCSPResponder) : Prop :=
  responder = { stored with status := .disabled, updatedAt := responder.updatedAt }

/-- What a step does to the responders, with the event it leaves. -/
inductive ResponderStep (s : Service) (before drawn : Nat) (table : Table OCSPResponder) :
    Option Event → Table OCSPResponder → Prop
  | still : ResponderStep s before drawn table none table
  | created {responder : OCSPResponder} {number : Nat} (fresh : Drawn before drawn number)
      (named : responder.id = s.idgen number) (active : responder.status = .active)
      (free : activeOCSPResponderByIssuer table responder.issuerID = none)
      (accepted : s.AcceptsKeyRef responder.keyRef) :
      ResponderStep s before drawn table (some (.responder (.created responder)))
        (table.insert responder.id responder)
  | disabled {stored responder : OCSPResponder} (found : table.lookup responder.id = some stored)
      (active : stored.status = .active) (same : DisabledFrom stored responder) :
      ResponderStep s before drawn table (some (.responder (.disabled responder)))
        (table.insert responder.id responder)
  | rotated {stored current responder : OCSPResponder} {number : Nat}
      (fresh : Drawn before drawn number) (named : responder.id = s.idgen number)
      (active : responder.status = .active)
      (found : activeOCSPResponderByIssuer table responder.issuerID = some stored)
      (same : DisabledFrom stored current) :
        ResponderStep s before drawn table (some (.responder (.rotated current responder)))
          ((table.insert current.id current).insert responder.id responder)

/-- The responders are kept under IDs that were given out, and an issuer has at most one active. -/
structure RespondersSound (s : Service) (drawn : Nat) (table : Table OCSPResponder) : Prop where
  keyed : Table.KeyedBy OCSPResponder.id table
  given : GivenOut s drawn table
  unique : ∀ {key key' first second issuerID}, table.lookup key = some first →
    table.lookup key' = some second → ActiveFor issuerID first →
    ActiveFor issuerID second → key = key'

section Steps

variable {s : Service} {before drawn : Nat} {table after : Table OCSPResponder}
  {event : Option Event}

theorem DisabledFrom.not_active (same : DisabledFrom stored responder) :
    ¬ ActiveFor issuerID responder := by
  rintro ⟨-, active⟩
  rw [same] at active
  cases active

section

variable (sound : RespondersSound s before table)

include sound

theorem RespondersSound.mono (more : before ≤ drawn) : RespondersSound s drawn table :=
  ⟨sound.keyed, sound.given.mono more, sound.unique⟩

/-- A record that is not active makes no second active responder. -/
theorem RespondersSound.insert_disabled (found : table.lookup responder.id = some stored)
    (same : DisabledFrom stored responder) :
    RespondersSound s before (table.insert responder.id responder) := by
  refine ⟨sound.keyed.insert _, sound.given.insert (sound.given _ _ found), ?_⟩
  intro key key' first second issuerID there there' live live'
  rw [lookup_insert_eq] at there there'
  split at there
  · cases there
    exact absurd live same.not_active
  · split at there'
    · cases there'
      exact absurd live' same.not_active
    · exact sound.unique there there' live live'

/-- A new active responder of an issuer that has none. -/
theorem RespondersSound.insert_active {number : Nat} (fresh : Drawn before drawn number)
    (named : responder.id = s.idgen number)
    (free : ∀ key other, table.lookup key = some other → ¬ ActiveFor responder.issuerID other) :
    RespondersSound s drawn (table.insert responder.id responder) := by
  have more : before ≤ drawn := fresh.1.trans fresh.2.le
  refine ⟨sound.keyed.insert _, (sound.given.mono more).insert ⟨number, fresh.2, named⟩, ?_⟩
  intro key key' first second issuerID there there' live live'
  rw [lookup_insert_eq] at there there'
  split at there
  · next here =>
    cases there
    split at there'
    · next here' => exact here.trans here'.symm
    · exact absurd (live.1 ▸ live') (free _ _ there')
  · split at there'
    · cases there'
      exact absurd (live'.1 ▸ live) (free _ _ there)
    · exact sound.unique there there' live live'

/-- The active responder that is rotated out is the only one of its issuer. -/
theorem RespondersSound.rotated_free {stored current issuerID}
    (found : activeOCSPResponderByIssuer table issuerID = some stored)
    (same : DisabledFrom stored current) {key other}
    (there : (table.insert current.id current).lookup key = some other) :
    ¬ ActiveFor issuerID other := by
  intro live
  obtain ⟨⟨place, held⟩, active⟩ := active_some found
  rw [lookup_insert_eq] at there
  split at there
  · cases there
    exact same.not_active live
  · next apart =>
    have here := sound.unique there held live active
    have own := sound.keyed _ _ held
    refine apart (here.trans (own.symm.trans ?_))
    rw [same]

theorem RespondersSound.rotated_stored
    (found : activeOCSPResponderByIssuer table issuerID = some stored)
    (same : DisabledFrom stored current) : table.lookup current.id = some stored := by
  obtain ⟨⟨place, held⟩, -⟩ := active_some found
  have own := sound.keyed _ _ held
  have names : current.id = stored.id := by rw [same]
  rw [names, own]
  exact held

/-- What a step does keeps the responders sound. -/
theorem RespondersSound.step (more : before ≤ drawn)
    (step : ResponderStep s before drawn table event after) : RespondersSound s drawn after := by
  cases step with
  | still => exact sound.mono more
  | created fresh named active free =>
    exact sound.insert_active fresh named fun _ _ => active_none free
  | disabled found _ same => exact (sound.insert_disabled found same).mono more
  | rotated fresh named active found same =>
    exact (sound.insert_disabled (sound.rotated_stored found same) same).insert_active fresh named
      fun _ _ => sound.rotated_free found same

end

end Steps

section Transactions

variable {s : Service} {before : State} {after : Session} {ctx : Context}
  {actor : Text} {now : Time}

/-- What the transactions about responders do: the ledger is left alone. -/
structure ResponderTx (s : Service) (before : State) (event : Event) (after : Session) : Prop where
  ledger : Ledger.of after.db = ledger before
  forward : before.world.drawn ≤ after.drawn
  step : ResponderStep s before.world.drawn after.drawn (responders before) (some event)
    after.db.annex.ocspResponders

theorem createOCSPResponderTx_step (accepted : s.AcceptsKeyRef req.keyRef)
    (run : s.createOCSPResponderTx ctx actor req now (session before) = (.ok responder, after)) :
    ResponderTx s before (.responder (.created responder)) after := by
  simp only [Service.createOCSPResponderTx, bind_ok_iff, newID_ok_iff, pure_ok_iff] at run
  obtain ⟨_, _, ⟨rfl, rfl⟩, ⟨⟩, _, created, ⟨⟩, _, audited, rfl, rfl⟩ := run
  obtain ⟨free, rfl⟩ := createOCSPResponder_ok rfl created
  obtain ⟨event, -, told, same⟩ := auditEvent_told audited
  refine ⟨same, (Nat.le_succ _).trans told.forward, ?_⟩
  rw [told.annex]
  exact .created ⟨le_refl _, told.forward⟩ rfl rfl free accepted

theorem disableOCSPResponderTx_step
    (sound : RespondersSound s before.world.drawn (responders before))
    (run : s.disableOCSPResponderTx ctx actor issuerID responderID now (session before) =
      (.ok responder, after)) : ResponderTx s before (.responder (.disabled responder)) after := by
  simp only [Service.disableOCSPResponderTx, bind_ok_iff, getIssuer, getOCSPResponder,
    Shelf.get_ok_iff, require_ok_iff, pure_ok_iff] at run
  obtain ⟨_, _, ⟨-, rfl⟩, stored, _, ⟨found, rfl⟩, ⟨⟩, _, ⟨-, rfl⟩, ⟨⟩, _,
    ⟨active, rfl⟩, ⟨⟩, _, updated, ⟨⟩, _, audited, rfl, rfl⟩ := run
  obtain ⟨-, rfl⟩ := updateResponder_ok updated
  obtain ⟨event, -, told, same⟩ := auditEvent_told audited
  refine ⟨same, told.forward, ?_⟩
  rw [told.annex]
  refine @ResponderStep.disabled _ _ _ _ stored { stored with
    status := .disabled, updatedAt := now } ?_ active rfl
  have own := sound.keyed _ _ found
  exact own ▸ found

theorem rotateOCSPResponderTx_step {stored}
    (run : s.rotateOCSPResponderTx ctx actor req now (session before) = (.ok stored, after)) :
    ResponderTx s before (.responder (.rotated stored.1 stored.2)) after := by
  simp only [Service.rotateOCSPResponderTx, bind_ok_iff, newID_ok_iff, getIssuer, Shelf.get_ok_iff,
    attempt_ok_iff, query_ok_iff, pure_ok_iff] at run
  obtain ⟨_, _, ⟨rfl, rfl⟩, _, _, ⟨-, rfl⟩, found, _, looked, current, _,
    ⟨rotates, rfl⟩, ⟨⟩, _, updated, ⟨⟩, _, audited, ⟨⟩, _, created, ⟨⟩, _, audited', rfl, rfl⟩ :=
      run
  cases found with
  | error err => cases rotates
  | ok active =>
    obtain rfl := Except.ok.inj rotates
    obtain ⟨isActive, rfl⟩ := getActiveResponder_ok_iff.mp looked
    obtain ⟨-, rfl⟩ := updateResponder_ok updated
    obtain ⟨event, -, told, same⟩ := auditEvent_told audited
    obtain ⟨-, rfl⟩ := createOCSPResponder_ok rfl created
    obtain ⟨event', -, told', same'⟩ := auditEvent_told audited'
    refine ⟨same'.trans same, (Nat.le_succ _).trans (told.forward.trans told'.forward), ?_⟩
    rw [told'.annex]
    rw [told.annex]
    exact @ResponderStep.rotated _ _ _ _ active { active with
      status := .disabled, updatedAt :=
        now } _ _ ⟨le_refl _, told.forward.trans told'.forward⟩ rfl rfl isActive rfl

end Transactions

section Keeping

variable {s : Service}

/-- A step leaves the ledger alone and does what it may to the responders. -/
structure ResponderChange (s : Service) (call : Nat) (before : State) (event : Option Event)
    (world : World) : Prop extends Framed before world where
  step : ResponderStep s before.world.drawn world.drawn (responders before) event
    world.db.annex.ocspResponders

variable (s) in
/-- The work on the responders. -/
def responderRegime : Regime s where
  inv state := RespondersSound s state.world.drawn (responders state)
  step := ResponderChange s
  aside _ _ := False
  later _ _ := True
  later_refl _ := trivial
  later_trans _ _ := trivial
  idle more _ := ⟨⟨rfl, rfl, more⟩, .still⟩
  step_framed change := change.toFramed
  step_event := by
    rintro call before event world ⟨-, step⟩ started rfl
    cases step
  aside_framed := False.elim
  lifecycle_keeps := by
    rintro call before event world - sound - ⟨report, told, -⟩
    refine ⟨?_, trivial⟩
    change RespondersSound s world.drawn world.db.annex.ocspResponders
    rw [show world.db.annex = before.world.db.annex from told.annex]
    exact sound.mono told.forward
  step_keeps _ sound change := ⟨sound.step change.forward change.step, trivial⟩
  outer_keeps := by
    intro before after sound outer
    refine ⟨?_, trivial⟩
    rw [responders, outer.annex, outer.drawn]
    exact sound
  started_keeps := by
    rintro before after sound ⟨number, -, rfl⟩
    exact ⟨sound, trivial⟩
  aside_keeps _ _ impossible := impossible.elim

variable {ids : s.FreshIDs} {call : Nat} {α : Type} {state : State} {ctx : Context} {actor : Text}

/-- The operation keeps to the steps of the responders. -/
abbrev ResponderMeets (ids : s.FreshIDs) (call : Nat) (op : Op α) (post : α → State → Prop)
    (state : State) : Prop :=
  Prog.MeetsOk ((responderRegime s).discipline ids) call op post state

theorem ResponderMeets.forget {op : Op α} {post} (meets : ResponderMeets ids call op post state) :
    op.forget.Meets ((responderRegime s).discipline ids) call (fun _ _ => True) state :=
  Prog.Meets.bind (Prog.Meets.mono meets fun _ _ _ _ => trivial)

theorem validateOCSPResponder_meets :
    ResponderMeets ids call validateOCSPResponder (fun _ _ => True) state :=
  .seq (meets_look fun _ _ => rfl) fun _ _ _ _ => .mono meets_require fun _ _ _ _ => trivial

/-- The active responder is looked for before the transaction. -/
theorem lookForActive_meets : ResponderMeets ids call
    (Op.attempt (repo (getActiveOCSPResponderByIssuer issuerID))) (fun _ _ => True) state :=
  .mono (Prog.MeetsOk.attempt (meets_repo (.query _) fun _ _ _ _ => trivial)) fun _ _ _ _ => trivial

/-- A transaction that does a step of the responders. -/
theorem responderTx_meets {body} {event : α → Event} (steps : ∀ (before : State) value after,
      RespondersSound s before.world.drawn (responders before) →
      body (session before) = (.ok value, after) → ResponderTx s before (event value) after) :
    ResponderMeets ids call (withinTx body fun value => some (event value))
    (fun _ _ => True) state := by
  refine meets_withinTx fun now finds value after run => ⟨?_, trivial⟩
  have tx := steps now value after finds.inv run
  exact ⟨⟨tx.ledger, rfl, tx.forward⟩, tx.step⟩

theorem createOCSPResponder_meets :
    ResponderMeets ids call (s.createOCSPResponder ctx actor req) (fun _ _ => True) state := by
  refine .seq meets_require fun _ _ _ complete => ?_
  refine .seq meets_require fun _ _ _ production => ?_
  refine .seq .result fun _ _ _ supported => ?_
  refine .seq (meets_look fun _ _ => rfl) fun now _ _ _ => ?_
  refine .seq (meets_repo (.query _) fun _ _ _ _ => trivial) fun _ _ _ _ => ?_
  refine .seq lookForActive_meets fun _ _ _ _ => ?_
  refine .seq .result fun _ _ _ _ => ?_
  refine .seq validateOCSPResponder_meets fun _ _ _ _ => ?_
  refine responderTx_meets fun before responder after _ run => ?_
  have accepted : s.AcceptsKeyRef req.keyRef :=
    ⟨fun blank => complete.1 (.inr (.inr (.inr blank))), production.1, demand_ok_iff.mp supported⟩
  exact createOCSPResponderTx_step accepted run

theorem disableOCSPResponder_meets :
    ResponderMeets ids call (s.disableOCSPResponder ctx actor issuerID responderID)
      (fun _ _ => True) state := by
  refine .seq meets_require fun _ _ _ _ => ?_
  refine .seq (meets_look fun _ _ => rfl) fun now _ _ _ => ?_
  exact responderTx_meets fun _ _ _ sound run => disableOCSPResponderTx_step sound run

theorem rotateOCSPResponder_meets :
    ResponderMeets ids call (s.rotateOCSPResponder ctx actor req) (fun _ _ => True) state := by
  refine .seq meets_require fun _ _ _ _ => ?_
  refine .seq (meets_look fun _ _ => rfl) fun now _ _ _ => ?_
  refine .seq (meets_repo (.query _) fun _ _ _ _ => trivial) fun _ _ _ _ => ?_
  refine .seq lookForActive_meets fun _ _ _ _ => ?_
  refine .seq .result fun _ _ _ _ => ?_
  refine .seq validateOCSPResponder_meets fun _ _ _ _ => ?_
  refine .seq (responderTx_meets fun _ _ _ _ run => rotateOCSPResponderTx_step run) fun _ _ _ _ =>
    ?_
  exact .pure trivial

/-- The service with the calls about responders keeps to its steps. -/
theorem Service.responderSystem_keeps (ids : s.FreshIDs) :
    s.responderSystem.Keeps ((responderRegime s).discipline ids) := by
  refine (responderRegime s).keeps ids ?_ fun change => change.elim
  intro node task number state _
  cases task with
  | create ctx actor req => exact ResponderMeets.forget createOCSPResponder_meets
  | rotate ctx actor req => exact ResponderMeets.forget rotateOCSPResponder_meets
  | disable ctx actor issuerID responderID => exact ResponderMeets.forget disableOCSPResponder_meets

theorem Initial.responders {world} (initial : Initial world) :
    Consistent s ⟨world, []⟩ ∧ (responderRegime s).inv ⟨world, []⟩ := by
  refine ⟨initial.consistent, ?_⟩
  change RespondersSound s world.drawn world.db.annex.ocspResponders
  rw [initial.db]
  refine ⟨.empty, .empty, ?_⟩
  intro key key' first second issuerID found
  cases found

end Keeping

section Paths

variable {α : Type} {s : Service} {ctx : Context} {actor : Text} {req : OCSPResponderRequest}

theorem quiet_atomic {act : Oracle → World → Except Err α × World} :
    Prog.Quiet (Op.atomic act fun _ => none) := by
  intro events result path
  rw [Prog.Path.of_step path]
  cases result <;> rfl

theorem quiet_validate : Prog.Quiet validateOCSPResponder :=
  .bind quiet_atomic fun _ => .result _

/-- What a rotation leaves in the history: its event if it succeeds, and nothing if it fails. -/
theorem rotateOCSPResponder_path {events result}
    (path : Prog.Path (s.rotateOCSPResponder ctx actor req).run events result) :
    (events = [] ∧ ∃ err, result = .error err) ∨ ∃ current responder, result = .ok responder ∧
      events = [.responder (.rotated current responder)] := by
  rcases (Prog.Quiet.result _).seq path with failed | ⟨_, path⟩
  · exact .inl failed
  rcases quiet_atomic.seq path with failed | ⟨now, path⟩
  · exact .inl failed
  rcases quiet_atomic.seq path with failed | ⟨_, path⟩
  · exact .inl failed
  rcases (Prog.Quiet.attempt quiet_atomic).seq path with failed | ⟨active, path⟩
  · exact .inl failed
  rcases (Prog.Quiet.result _).seq path with failed | ⟨_, path⟩
  · exact .inl failed
  rcases quiet_validate.seq path with failed | ⟨_, path⟩
  · exact .inl failed
  rcases Prog.Path.of_seq path with ⟨err, rfl, through⟩ | ⟨stored, front, back, through, along, rfl⟩
  · exact .inl ⟨Prog.Path.of_step through, err, rfl⟩
  · obtain ⟨rfl, rfl⟩ := Prog.Path.ret_iff.mp along
    rw [Prog.Path.of_step through]
    exact .inr ⟨stored.1, stored.2, rfl, rfl⟩

end Paths

section Rehearsal

set_option synthInstance.maxSize 1000000

instance : Apart ocspResponders := ⟨fun _ _ => rfl, fun _ _ _ => rfl, fun _ _ => rfl⟩

instance (issuerID : Text) : Tx.Rehearsed (getActiveOCSPResponderByIssuer issuerID) :=
  rehearsedQuery fun _ _ _ => rfl

instance (responder : OCSPResponder) : Tx.Rehearsed (Store.createOCSPResponder responder) := by
  delta Store.createOCSPResponder
  exact .seq (rehearsedQuery fun _ _ _ => rfl) fun _ => inferInstance

instance (responder : OCSPResponder) (status : OCSPResponderStatus) :
    Tx.Rehearsed (updateOCSPResponderIfStatus responder status) := by
  delta updateOCSPResponderIfStatus
  exact .seq inferInstance fun _ => .seq inferInstance fun _ =>
    .seq (rehearsedQuery fun _ _ _ => rfl) fun _ => inferInstance

instance (s : Service) (ctx : Context) (actor : Text) (req : OCSPResponderRequest) :
    Prog.Rehearsed (s.createOCSPResponder ctx actor req).run := by
  delta Service.createOCSPResponder Service.createOCSPResponderTx validateOCSPResponder
  infer_instance

instance (s : Service) (ctx : Context) (actor : Text) (req : OCSPResponderRequest) (now : Time) :
    Tx.Rehearsed (s.rotateOCSPResponderTx ctx actor req now) := by
  delta Service.rotateOCSPResponderTx
  infer_instance

instance (s : Service) (ctx : Context) (actor : Text) (req : OCSPResponderRequest) :
    Prog.Rehearsed (s.rotateOCSPResponder ctx actor req).run := by
  delta Service.rotateOCSPResponder validateOCSPResponder
  infer_instance

instance (s : Service) : s.responderSystem.Rehearsed := Extension.rehearsed s _ fun _ task =>
  match task with
  | .create ctx actor req =>
    some (Prog.Rehearsed.standIn (s.createOCSPResponder ctx actor req).forget)
  | .rotate ctx actor req =>
    some (Prog.Rehearsed.standIn (s.rotateOCSPResponder ctx actor req).forget)
  | .disable _ _ _ _ => none

end Rehearsal

instance (s : Service) (ref : Text) : Decidable (s.AcceptsKeyRef ref) :=
  inferInstanceAs (Decidable (_ ∧ _ ∧ _))

/-- A responder for the issuer of the deployment. -/
def responderRequest (keyRef : Text) : OCSPResponderRequest where
  issuerID := smallID 2
  name := "ocsp"
  certificatePEM := "responder"
  keyRef := keyRef

def secondResponder (keyRef : Text) : OCSPResponder :=
  newOCSPResponder (smallID 6) (responderRequest keyRef) newYear

/-- A responder is created and rotated. -/
def rotating (keyRef : Text) : List smallService.responderSystem.Action :=
  configuring.map widened ++
    tasked smallService smallService.responderExtension .working 2 1
      (.create {} "admin" (responderRequest "file:ocsp")) 5 ++
    tasked smallService smallService.responderExtension .working 3 1
      (.rotate {} "admin" (responderRequest keyRef)) 5

section Runs

variable {s : Service} {cfg next : s.responderSystem.Config} {action : s.responderSystem.Action}

/-- One responder takes the place of the active one of its issuer, and the others stay. -/
structure Replaces (before after : Table OCSPResponder)
    (current responder : OCSPResponder) : Prop where
  was : ∃ stored, activeOCSPResponderByIssuer before responder.issuerID = some stored ∧
    DisabledFrom stored current
  fresh : before.lookup responder.id = none
  active : activeOCSPResponderByIssuer after responder.issuerID = some responder
  disabled : after.lookup current.id = some current
  others : ∀ id, id ≠ current.id → id ≠ responder.id → after.lookup id = before.lookup id

/-- The disabled responders stay disabled. -/
def StaysDisabled (before after : Table OCSPResponder) : Prop :=
  ∀ id responder, before.lookup id = some responder → responder.status = .disabled →
    ∃ later, after.lookup id = some later ∧ later.status = .disabled

theorem StaysDisabled.refl (table : Table OCSPResponder) : StaysDisabled table table :=
  fun _ responder found disabled => ⟨responder, found, disabled⟩

theorem StaysDisabled.trans {first second third}
    (one : StaysDisabled first second) (two : StaysDisabled second third) :
    StaysDisabled first third := by
  intro id responder found disabled
  obtain ⟨later, there, still⟩ := one id responder found disabled
  exact two id later there still

section Effects

variable {before drawn : Nat} {table after : Table OCSPResponder} {event : Option Event}

theorem StaysDisabled.insert {responder}
    (kept : ∀ stored, table.lookup responder.id = some stored → responder.status = .disabled) :
    StaysDisabled table (table.insert responder.id responder) := by
  intro id stored found disabled
  rw [lookup_insert_eq]
  split
  · next same =>
    subst same
    exact ⟨responder, rfl, kept stored found⟩
  · exact ⟨stored, found, disabled⟩

theorem DisabledFrom.status (same : DisabledFrom stored responder) :
    responder.status = .disabled := by rw [same]

theorem ResponderStep.staysDisabled (ids : s.FreshIDs) (sound : RespondersSound s before table)
    (step : ResponderStep s before drawn table event after) : StaysDisabled table after := by
  cases step with
  | still => exact .refl table
  | created fresh named =>
    refine .insert fun stored found => ?_
    rw [named, sound.given.fresh ids fresh.1] at found
    cases found
  | disabled _ _ same => exact .insert fun _ _ => same.status
  | rotated fresh named active found same =>
    refine (StaysDisabled.insert fun _ _ => same.status).trans (.insert fun stored there => ?_)
    have disabled := sound.insert_disabled (sound.rotated_stored found same) same
    rw [named, disabled.given.fresh ids fresh.1] at there
    cases there

theorem ResponderStep.unchanged (step : ResponderStep s before drawn table event after)
    (quiet : ∀ left, event ≠ some (.responder left)) : after = table := by
  cases step with
  | still => rfl
  | _ => exact absurd rfl (quiet _)

/-- A rotation replaces the active responder and nothing else. -/
theorem ResponderStep.replaces (ids : s.FreshIDs) (sound : RespondersSound s before table)
    (step : ResponderStep s before drawn table
    (some (.responder (.rotated current responder))) after) :
    Replaces table after current responder := by
  cases step with
  | @rotated stored _ _ number fresh named active found same =>
    have there := sound.rotated_stored found same
    have new : table.lookup responder.id = none := by
      rw [named]
      exact sound.given.fresh ids fresh.1
    have apart : current.id ≠ responder.id := by
      intro together
      rw [together, new] at there
      cases there
    have free := fun key other =>
      @RespondersSound.rotated_free _ _ _ sound _ _ _ found same key other
    have disabled := sound.insert_disabled there same
    have sound' := disabled.insert_active fresh named free
    refine ⟨⟨stored, found, same⟩, new, ?_, ?_, ?_⟩
    · cases search : activeOCSPResponderByIssuer
        ((table.insert current.id current).insert responder.id responder) responder.issuerID with
      | none => exact absurd ⟨rfl, active⟩ (active_none search (lookup_insert _))
      | some other =>
        obtain ⟨⟨place, held⟩, live⟩ := active_some search
        have here := sound'.unique held (lookup_insert _) live ⟨rfl, active⟩
        rw [here, lookup_insert] at held
        rw [held]
    · rw [lookup_insert_eq, if_neg apart]
      exact lookup_insert _
    · intro id other other'
      rw [lookup_insert_eq, if_neg other', lookup_insert_eq, if_neg other]

end Effects

/-- What one action does to the responders. -/
theorem responders_moves (ids : s.FreshIDs) (reached : System.Reaches (fun _ _ => True) Initial cfg)
    (performed : cfg.perform action = some next) :
    RespondersSound s cfg.shared.world.drawn (responders cfg.shared) ∧
      ((∃ call event, action.event cfg = some (call, event) ∧
        ResponderStep s cfg.shared.world.drawn next.shared.world.drawn (responders cfg.shared) event
          (responders next.shared)) ∨
        (responders next.shared = responders cfg.shared ∧
          ∀ call event, action.event cfg ≠ some (call, some (.responder event)))) := by
  have sound := reached.sound (s.responderSystem_keeps ids) fun _ initial => initial.responders
  obtain ⟨moves, -⟩ := sound.perform (s.responderSystem_keeps ids) performed
  refine ⟨sound.inv.2, ?_⟩
  generalize next.shared = state at moves
  cases moves with
  | @call number event world seen change =>
    rcases change with ⟨-, report, told, change⟩ | change
    · refine .inr ⟨congrArg Annex.ocspResponders told.annex, ?_⟩
      intro call left same
      rw [seen] at same
      cases Option.some.inj same
      exact change.leaves.2.2.2 left rfl
    · exact .inl ⟨number, event, seen, change.step⟩
  | outer unseen outer =>
    refine .inr ⟨?_, fun _ _ seen => by rw [unseen] at seen; cases seen⟩
    rcases outer with outer | ⟨number, -, rfl⟩ | ⟨world, impossible, -⟩
    · exact congrArg Annex.ocspResponders outer.annex
    · rfl
    · exact impossible.elim

theorem responders_performAll (ids : s.FreshIDs) {actions}
    (reached : System.Reaches (fun _ _ => True) Initial cfg)
    (performed : cfg.performAll actions = some next) :
    StaysDisabled (responders cfg.shared) (responders next.shared) := by
  induction actions generalizing cfg with
  | nil =>
    obtain rfl : cfg = next := by simpa [System.Config.performAll] using performed
    exact .refl _
  | cons action rest ih =>
    obtain ⟨mid, first, later⟩ := Option.bind_eq_some_iff.mp performed
    refine StaysDisabled.trans ?_ (ih (.step reached trivial first) later)
    obtain ⟨sound, ⟨call, event, -, step⟩ | ⟨same, -⟩⟩ := responders_moves ids reached first
    · exact step.staysDisabled ids sound
    · rw [same]
      exact .refl _

/-- In every run an issuer has at most one active responder, and a disabled responder is disabled in
every later state. A rotation leaves its event if it succeeds and nothing if it fails; a step with
that event replaces the active responder, and a step without an event of the responders leaves them
all. -/
theorem responders_lifecycle (ids : s.FreshIDs)
    (reached : System.Reaches (fun _ _ => True) Initial cfg) :
    (∀ id id' first second, (responders cfg.shared).lookup id = some first →
      (responders cfg.shared).lookup id' = some second → first.status = .active →
      second.status = .active → first.issuerID = second.issuerID → id = id') ∧
    (∀ actions later, cfg.performAll actions = some later →
      StaysDisabled (responders cfg.shared) (responders later.shared)) ∧
    (∀ ctx actor req events result,
      Prog.Path (s.rotateOCSPResponder ctx actor req).run events result →
      (events = [] ∧ ∃ err, result = .error err) ∨ ∃ current responder, result = .ok responder ∧
        events = [.responder (.rotated current responder)]) ∧
    ∀ action next, cfg.perform action = some next → (∀ call current responder,
        action.event cfg = some (call, some (.responder (.rotated current responder))) →
        Replaces (responders cfg.shared) (responders next.shared) current responder) ∧
      ((∀ call event, action.event cfg ≠ some (call, some (.responder event))) →
        responders next.shared = responders cfg.shared) := by
  refine ⟨?_, fun _ _ => responders_performAll ids reached, fun _ _ _ _ _ =>
    rotateOCSPResponder_path, ?_⟩
  · intro id id' first second found found' active active' same
    have sound := (reached.sound (s.responderSystem_keeps ids) fun _ initial =>
      initial.responders).inv.2
    exact sound.unique found found' ⟨same, active⟩ ⟨rfl, active'⟩
  · intro action next performed
    obtain ⟨sound, moves⟩ := responders_moves ids reached performed
    constructor
    · intro call current responder seen
      rcases moves with ⟨number, event, seen', step⟩ | ⟨-, unseen⟩
      · cases Option.mem_unique seen' seen
        exact step.replaces ids sound
      · exact absurd seen (unseen call _)
    · intro unseen
      rcases moves with ⟨number, event, seen, step⟩ | ⟨same, -⟩
      · refine step.unchanged fun left same => unseen number left ?_
        rw [seen, same]
      · exact same

/-- After a rotation the new responder is the only active one. -/
theorem small_responders_unique : ∃ cfg : smallService.responderSystem.Config,
    System.Reaches (fun _ _ => True) Initial cfg ∧
    (responders cfg.shared).lookup (smallID 6) = some (secondResponder "file:next") ∧
    ∀ id other, (responders cfg.shared).lookup id = some other → other.status = .active →
      other.issuerID = smallID 2 → id = smallID 6 := by
  obtain ⟨⟨_, _, _⟩, plan, log, reached, -, rfl, found⟩ := rehearsed_reaches newWorld_initial
    (rotating "file:next") (fun plan =>
      (responders plan.shared).lookup (smallID 6) = some (secondResponder "file:next"))
  refine ⟨_, reached, found, ?_⟩
  intro id other there active owner
  exact (responders_lifecycle small_freshIDs reached).1 id _ other _ there found active rfl owner

end Runs

section KeyReferences

variable {s : Service} {cfg : s.responderSystem.Config}

/-- Every issuer and responder in the store has a key reference that would be accepted. -/
structure KeyRefsAccepted (s : Service) (state : State) : Prop where
  issuers : ∀ id issuer, (ledger state).issuers.lookup id = some issuer →
    s.AcceptsKeyRef issuer.keyRef
  responders : ∀ id responder, (responders state).lookup id = some responder →
    s.AcceptsKeyRef responder.keyRef

/-- A rotation asks for a key reference that would be accepted. -/
def RotationAccepted (s : Service) (_ : State) (_ : Nat) (event : Option Event) : Prop :=
  ∀ current responder, event = some (.responder (.rotated current responder)) →
    s.AcceptsKeyRef responder.keyRef

variable {call drawn : Nat} {before : State} {event : Option Event} {report : Report}
  {after : Ledger}

/-- What a change does to the issuers: nothing, or it stores one with an accepted key reference. -/
theorem Change.issuerCases (change : Change s call before drawn event report after) :
    after.issuers = (ledger before).issuers ∨ ∃ issuer : Issuer, s.AcceptsKeyRef issuer.keyRef ∧
      after.issuers = (ledger before).issuers.insert issuer.id issuer := by
  cases change with
  | configured change =>
    cases change with
    | issuer _ _ accepted => exact .inr ⟨_, accepted, rfl⟩
    | _ => exact .inl rfl
  | crl change | acme change => exact .inl (by rw [change.frame])
  | _ => exact .inl rfl

/-- The step keeps the key references of the responders accepted, if a rotation asks for such a
one. -/
theorem ResponderStep.accepted {first last : Nat} {table later}
    (step : ResponderStep s first last table event later)
    (rotation : RotationAccepted s before call event)
    (accepted : ∀ id responder, table.lookup id = some responder →
    s.AcceptsKeyRef responder.keyRef) : ∀ id responder, later.lookup id = some responder →
    s.AcceptsKeyRef responder.keyRef := by
  have insert : ∀ {table : Table OCSPResponder} {new : OCSPResponder},
      (∀ id responder, table.lookup id = some responder → s.AcceptsKeyRef responder.keyRef) →
      s.AcceptsKeyRef new.keyRef → ∀ id responder,
        (table.insert new.id new).lookup id = some responder →
        s.AcceptsKeyRef responder.keyRef := by
    intro table new old fits id responder found
    rcases of_lookup_insert found with rfl | found
    · exact fits
    · exact old id responder found
  cases step with
  | still => exact accepted
  | created _ _ _ _ fits => exact insert accepted fits
  | @disabled stored _ found _ same =>
    refine insert accepted ?_
    rw [same]
    exact accepted _ stored found
  | @rotated stored _ _ _ _ _ _ found same =>
    obtain ⟨⟨place, held⟩, -⟩ := active_some found
    refine insert (insert accepted ?_) (rotation _ _ rfl)
    rw [same]
    exact accepted _ stored held

/-- In every run whose rotations all ask for key references that would be accepted, every stored
issuer and responder has one. -/
theorem keyRefs_accepted (ids : s.FreshIDs)
    (reached : System.Reaches (System.Guarded (RotationAccepted s)) Initial cfg) :
    KeyRefsAccepted s cfg.shared := by
  refine (responderRegime s).guarded_induct ids (s.responderSystem_keeps ids)
    (fun _ initial => initial.responders) ?_ ?_ ?_ ?_ ?_ ?_ reached
  · intro world initial
    constructor
    · intro id issuer found
      simp [ledger, initial.db, of, Db.empty] at found
    · intro id responder found
      simp [responders, initial.db, Db.empty] at found
  · rintro before call event world - - held - ⟨report, told, change⟩ -
    constructor
    · intro id issuer found
      change (of world.db).issuers.lookup id = some issuer at found
      rcases change.issuerCases with same | ⟨new, accepted, same⟩
      · rw [same] at found
        exact held.issuers id issuer found
      · rw [same, lookup_insert_eq] at found
        split at found
        · cases found
          exact accepted
        · exact held.issuers id issuer found
    · intro id responder found
      change world.db.annex.ocspResponders.lookup id = some responder at found
      rw [show world.db.annex = before.world.db.annex from told.annex] at found
      exact held.responders id responder found
  · intro before call event world _ _ held condition change
    constructor
    · intro id issuer found
      change (of world.db).issuers.lookup id = some issuer at found
      rw [change.ledger] at found
      exact held.issuers id issuer found
    · exact change.step.accepted condition held.responders
  · intro before after held outer
    constructor
    · rw [outer.ledger]
      exact held.issuers
    · rw [responders, outer.annex]
      exact held.responders
  · rintro before after held ⟨number, -, rfl⟩
    exact ⟨held.issuers, held.responders⟩
  · intro before world _ impossible
    exact impossible.elim

/-- A check for the key references of rotations. -/
def rotationAccepted (_ : State) (_ : Nat) : Option Event → Bool
  | some (.responder (.rotated _ responder)) => smallService.AcceptsKeyRef responder.keyRef
  | _ => true

theorem rotationAccepted_strict (state : State) (log : AuditLog) (call : Nat) (event : Option Event)
    (passed : rotationAccepted state call event = true) :
    RotationAccepted smallService (withLog state log) call event := by
  rintro current responder rfl
  exact of_decide_eq_true passed

/-- A rotation to a key in another file. -/
theorem small_keyRefs_accepted : ∃ cfg : smallService.responderSystem.Config,
    System.Reaches (System.Guarded (RotationAccepted smallService)) Initial cfg ∧
    (responders cfg.shared).lookup (smallID 6) = some (secondResponder "file:next") ∧
    KeyRefsAccepted smallService cfg.shared := by
  obtain ⟨⟨_, _, _⟩, plan, log, reached, -, -, rfl, stored⟩ := rehearsed_guarded rotationAccepted
    rotationAccepted_strict newWorld_initial (rotating "file:next") (fun plan =>
      (responders plan.shared).lookup (smallID 6) = some (secondResponder "file:next"))
  exact ⟨_, reached, stored, keyRefs_accepted small_freshIDs reached⟩

/-- A rotation stores a reference that `CreateOCSPResponder` refuses. -/
theorem small_keyRef_refused : ∃ cfg : smallService.responderSystem.Config,
    System.Reaches (fun _ _ => True) Initial cfg ∧
    (responders cfg.shared).lookup (smallID 6) = some (secondResponder "kms:ocsp") ∧
    ¬ smallService.AcceptsKeyRef (secondResponder "kms:ocsp").keyRef := by
  obtain ⟨⟨_, _, _⟩, plan, log, reached, -, rfl, stored⟩ := rehearsed_reaches newWorld_initial
    (rotating "kms:ocsp") (fun plan =>
      (responders plan.shared).lookup (smallID 6) = some (secondResponder "kms:ocsp"))
  exact ⟨_, reached, stored, by decide +kernel⟩

end KeyReferences

end AnoPki.Lifecycle
