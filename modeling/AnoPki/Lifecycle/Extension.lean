import AnoPki.Lifecycle.System

/-! # The service with more calls

Beside the lifecycle the nodes run other work on the same store: dispatchers, the authentication of
clients, the upkeep of the audit log. Such work leaves the ledger alone, so the lifecycle calls keep
to their discipline beside it, and what the work does to the tables of its own can be studied over
the runs of both. -/
namespace AnoPki.Lifecycle

open Foundation Domain Store

/-- Calls beside those of the lifecycle, and what else may happen to the world. -/
structure Extension where
  Task : Type
  start : Node → Task → Prog World Oracle Event Unit
  Elsewhere : Type
  elsewhere : Elsewhere → World → Option World

@[reducible] def Service.extended (s : Service) (extension : Extension) :
    System World Oracle Event where
  Call := Call ⊕ extension.Task
  Node := Node
  Outside := Outside ⊕ extension.Elsewhere
  start node
    | .inl call => s.start node call
    | .inr task => extension.start node task
  started
    | .inl call => .started call
    | .inr _ => .tasked
  reset node world := { world with issueMu := world.issueMu.erase node }
  disturb
    | .inl outside => fun world => outside.disturb world
    | .inr change => extension.elsewhere change

/-- The ledger and the clock stay as they are, and IDs are only given out. -/
structure Framed (before : State) (world : World) : Prop where
  ledger : Ledger.of world.db = ledger before
  clock : world.clock = before.world.clock
  forward : before.world.drawn ≤ world.drawn

/-- A call beside the lifecycle is started. -/
def TaskStarted (before after : State) : Prop :=
  ∃ number, (∀ event, (number, event) ∉ before.history) ∧
    after = ⟨before.world, before.history ++ [(number, .tasked)]⟩

/-- What the work beside the lifecycle does in one step, what may happen to its tables elsewhere,
and what holds of them all along. -/
structure Regime (s : Service) where
  inv : State → Prop
  step : Nat → State → Option Event → World → Prop
  aside : State → World → Prop
  /-- What a call may rely on between its steps. -/
  later : State → State → Prop
  later_refl : ∀ state, later state state
  later_trans : ∀ {a b c}, later a b → later b c → later a c
  idle : ∀ {call before drawn}, before.world.drawn ≤ drawn → inv before →
    step call before none { before.world with drawn := drawn }
  step_framed : ∀ {call before event world}, step call before event world → Framed before world
  step_event : ∀ {call before event world}, step call before event world →
    ∀ started, event ≠ some (.started started)
  aside_framed : ∀ {before world}, aside before world → Framed before world
  lifecycle_keeps : ∀ {call before event world}, Consistent s before → inv before →
    world.clock = before.world.clock → Performs s call before event ⟨world.db, world.drawn⟩ →
    inv (before.after call event world) ∧ later before (before.after call event world)
  step_keeps : ∀ {call before event world}, Consistent s before → inv before →
    step call before event world →
    inv (before.after call event world) ∧ later before (before.after call event world)
  outer_keeps : ∀ {before after}, inv before → Outer before after →
    inv after ∧ later before after
  started_keeps : ∀ {before after}, inv before → TaskStarted before after →
    inv after ∧ later before after
  aside_keeps : ∀ {before world}, Consistent s before → inv before → aside before world →
    inv { before with world := world } ∧ later before { before with world := world }

section Framing

variable {s : Service} {before : State} {world : World} {history : List (Nat × Event)}

theorem Framed.same (before : State) : Framed before before.world := ⟨rfl, rfl, le_refl _⟩

/-- The ledger stays consistent as long as no lifecycle call is started. -/
theorem Framed.consistent (framed : Framed before world) (consistent : Consistent s before)
    (quiet : ∀ number call, (number, Event.started call) ∈ history →
      (number, Event.started call) ∈ before.history) : Consistent s ⟨world, history⟩ := by
  have same : Lifecycle.ledger ⟨world, history⟩ = Lifecycle.ledger before := framed.ledger
  refine ⟨same ▸ consistent.keyed, ?_, ?_, ?_, same ▸ consistent.claims⟩
  · rw [same]
    exact consistent.given.mono framed.forward
  · rw [same]
    exact consistent.issuance.mono framed.forward
  · intro number call call' there there'
    exact consistent.calls number call call' (quiet number call there) (quiet number call' there')

theorem Framed.later (framed : Framed before world) (grows : before.history <+: history) :
    Later before ⟨world, history⟩ := by
  have same : Lifecycle.ledger ⟨world, history⟩ = Lifecycle.ledger before := framed.ledger
  refine ⟨?_, grows, (congrArg Time.nanos framed.clock).ge⟩
  rw [same]
  exact .refl _

theorem TaskStarted.grows {after} (started : TaskStarted before after) :
    Framed before after.world ∧ before.history <+: after.history := by
  obtain ⟨number, -, rfl⟩ := started
  exact ⟨.same before, List.prefix_append _ _⟩

end Framing

section Widening

variable {s : Service} (regime : Regime s) (ids : s.FreshIDs)

/-- The discipline of the lifecycle calls and of the work beside them. -/
def Regime.discipline : Discipline World Event where
  inv state := Consistent s state ∧ regime.inv state
  change call before event world :=
    (Lifecycle.discipline s ids).change call before event world ∨
      regime.step call before event world
  outer before after := Outer before after ∨ TaskStarted before after ∨
    ∃ world, regime.aside before world ∧ after = { before with world := world }
  later before after := Later before after ∧ regime.later before after
  later_refl state := ⟨.refl state, regime.later_refl state⟩
  later_trans one two := ⟨one.1.trans two.1, regime.later_trans one.2 two.2⟩
  change_keeps := by
    rintro call before event world ⟨consistent, sound⟩ (change | step)
    · obtain ⟨kept, since⟩ := (Lifecycle.discipline s ids).change_keeps consistent change
      obtain ⟨sound', relies⟩ := regime.lifecycle_keeps consistent sound change.1 change.2
      exact ⟨⟨kept, sound'⟩, since, relies⟩
    · have framed := regime.step_framed step
      obtain ⟨sound', relies⟩ := regime.step_keeps consistent sound step
      refine ⟨⟨framed.consistent consistent ?_, sound'⟩,
        framed.later (List.prefix_append _ _), relies⟩
      intro number started there
      rcases (@Shared.mem_after_iff _ _ before call event world _).mp there with old | ⟨-, left⟩
      · exact old
      · exact absurd left (regime.step_event step started)
  outer_keeps := by
    rintro before after ⟨consistent, sound⟩ (outer | started | ⟨world, aside, rfl⟩)
    · obtain ⟨kept, since⟩ := (Lifecycle.discipline s ids).outer_keeps consistent outer
      obtain ⟨sound', relies⟩ := regime.outer_keeps sound outer
      exact ⟨⟨kept, sound'⟩, since, relies⟩
    · obtain ⟨sound', relies⟩ := regime.started_keeps sound started
      obtain ⟨framed, grows⟩ := started.grows
      refine ⟨⟨framed.consistent consistent ?_, sound'⟩, framed.later grows, relies⟩
      obtain ⟨number, -, rfl⟩ := started
      intro number call there
      rcases List.mem_append.mp there with old | new
      · exact old
      · simp at new
    · have framed := regime.aside_framed aside
      obtain ⟨sound', relies⟩ := regime.aside_keeps consistent sound aside
      exact ⟨⟨framed.consistent consistent fun _ _ there => there, sound'⟩,
        framed.later (List.prefix_refl _), relies⟩

/-- The lifecycle calls keep to the wider discipline as well. -/
theorem Regime.lifecycle_meets {α : Type} {program : Prog World Oracle Event α} {call : Nat}
    {post state} (meets : program.Meets (Lifecycle.discipline s ids) call post state) :
    program.Meets (regime.discipline ids) call post state :=
  meets.widen (fun _ inv => inv.1) (fun _ _ later => later.1) fun _ _ _ _ change => .inl change

variable {extension : Extension}

/-- A system of lifecycle calls and other work keeps to the discipline when the other work does. -/
theorem Regime.keeps (tasks : ∀ node task number state, regime.inv state →
      (extension.start node task).Meets (regime.discipline ids) number (fun _ _ => True) state)
    (elsewhere : ∀ change state world, extension.elsewhere change state.world = some world →
      regime.aside state world) :
    (s.extended extension).Keeps (regime.discipline ids) where
  start node call number state inv started := by
    cases call with
    | inl call =>
      exact regime.lifecycle_meets ids (s.start_meets ids node call number state started)
    | inr task => exact tasks node task number state inv.2
  spawn call number state inv fresh := by
    cases call with
    | inl call => exact .inl ((s.system_keeps ids).spawn call number state inv.1 fresh)
    | inr task => exact .inr (.inl ⟨number, fresh, rfl⟩)
  reset node state inv := .inl ((s.system_keeps ids).reset node state inv.1)
  disturb outside state world inv moved := by
    cases outside with
    | inl outside => exact .inl ((s.system_keeps ids).disturb outside state world inv.1 moved)
    | inr change => exact .inr (.inr ⟨world, elsewhere change state world moved, rfl⟩)

/-- What holds at first, and is kept by the steps of calls that meet the condition and by what
happens between them, holds in every run of such steps. -/
theorem Regime.guarded_induct (keeps : (s.extended extension).Keeps (regime.discipline ids))
    {condition initial}
    (start : ∀ world, initial world → Consistent s ⟨world, []⟩ ∧ regime.inv ⟨world, []⟩)
    {holds : State → Prop} (begins : ∀ world, initial world → holds ⟨world, []⟩)
    (lifecycle : ∀ {before call event world}, Consistent s before → regime.inv before →
      holds before → condition before call event →
      Performs s call before event ⟨world.db, world.drawn⟩ → world.clock = before.world.clock →
      holds (before.after call event world))
    (step : ∀ {before call event world}, Consistent s before → regime.inv before →
      holds before → condition before call event → regime.step call before event world →
      holds (before.after call event world))
    (outer : ∀ {before after}, holds before → Outer before after → holds after)
    (started : ∀ {before after}, holds before → TaskStarted before after → holds after)
    (aside : ∀ {before world}, holds before → regime.aside before world →
      holds { before with world := world }) {cfg : (s.extended extension).Config}
    (reached : System.Reaches (System.Guarded condition) initial cfg) : holds cfg.shared := by
  refine System.Reaches.induct keeps start begins ?_ reached
  rintro cfg action next ⟨consistent, sound⟩ before allowed moves
  cases moves with
  | call seen change =>
    have condition := allowed _ _ seen
    rcases change with ⟨clock, performs⟩ | change
    · exact lifecycle consistent sound before condition performs clock
    · exact step consistent sound before condition change
  | outer _ between =>
    rcases between with between | begun | ⟨world, moved, rfl⟩
    · exact outer before between
    · exact started before begun
    · exact aside before moved

end Widening

section Rules

variable {s : Service} {regime : Regime s} {ids : s.FreshIDs} {call : Nat}
  {α : Type} {state : State} {post : α → State → Prop}

/-- The states a call may find after one of its own steps. -/
structure Regime.Finds (regime : Regime s) (call : Nat) (state now : State) : Prop where
  later : Later state now
  relies : regime.later state now
  own : now.own call = state.own call
  consistent : Consistent s now
  inv : regime.inv now

/-- A step that leaves the world alone. -/
theorem Regime.meets_still {act event} (unchanged : ∀ answer world, (act answer world).2 = world)
    (spec : ∀ now, regime.Finds call state now → ∀ answer value,
      (act answer now.world).1 = .ok value → regime.step call now (event value) now.world ∧
        post value (now.after call (event value) now.world)) :
    Prog.MeetsOk (regime.discipline ids) call (Op.atomic act event) post state := by
  refine Prog.MeetsOk.step ?_
  rintro now ⟨later, relies⟩ own ⟨consistent, inv⟩ answer result world acts
  obtain ⟨rfl, rfl⟩ := Prod.mk.inj (Option.some.inj acts)
  rw [unchanged]
  cases outcome : (act answer now.world).1 with
  | error err => exact ⟨.inr (regime.idle (le_refl _) inv), by rintro _ ⟨⟩⟩
  | ok value =>
    obtain ⟨step, holds⟩ := spec now ⟨later, relies, own, consistent, inv⟩ answer value outcome
    refine ⟨.inr step, ?_⟩
    rintro _ ⟨⟩
    exact holds

/-- A question to the outside, or a look at the clock, that leaves no event. -/
theorem Regime.meets_look {act : Oracle → World → Except Err α × World}
    (unchanged : ∀ answer world, (act answer world).2 = world) :
    Prog.MeetsOk (regime.discipline ids) call (Op.atomic act fun _ => none)
    (fun _ _ => True) state :=
  regime.meets_still unchanged fun _ finds _ _ _ => ⟨regime.idle (le_refl _) finds.inv, trivial⟩

theorem Regime.meets_require {holds} [Decidable holds] {kind} :
    Prog.MeetsOk (regime.discipline ids) call (Op.require holds kind)
      (fun _ t => holds ∧ t = state) state := by
  refine Prog.MeetsOk.mono Prog.MeetsOk.computed ?_
  rintro _ t _ ⟨passed, rfl⟩
  split at passed
  · exact ⟨‹_›, rfl⟩
  · cases passed

/-- A transaction, from what it does when it commits. -/
theorem Regime.meets_withinTx {body event}
      (spec : ∀ now, regime.Finds call state now → ∀ value after, body (session now) =
        (.ok value, after) → regime.step call now (event value)
        { now.world with db := after.db, drawn := after.drawn } ∧
          post value (now.after call (event value)
    { now.world with db := after.db, drawn := after.drawn })) :
    Prog.MeetsOk (regime.discipline ids) call (withinTx body event) post state := by
  refine Prog.MeetsOk.step ?_
  rintro now ⟨later, relies⟩ own ⟨consistent, inv⟩ answer result world acts
  rcases runTx_cases (Option.some.inj acts) with ⟨err, drawn, rfl, forward, rfl, -⟩ |
    ⟨value, after, rfl, run, rfl⟩
  · exact ⟨.inr (regime.idle forward inv), by rintro _ ⟨⟩⟩
  · obtain ⟨step, holds⟩ := spec now ⟨later, relies, own, consistent, inv⟩ value after run
    refine ⟨.inr step, ?_⟩
    rintro _ ⟨⟩
    exact holds

/-- A look at the store. -/
theorem Regime.meets_repo {body} (reads : body.ReadOnly)
    (spec : ∀ now, regime.Finds call state now → ∀ value,
      body (session now) = (.ok value, session now) → post value now) :
    Prog.MeetsOk (regime.discipline ids) call (repo body) post state := by
  refine regime.meets_withinTx ?_
  intro now finds value after run
  obtain rfl := reads.same run
  refine ⟨regime.idle (le_refl _) finds.inv, ?_⟩
  have same : now.after call none { now.world with
      db := (session now).db, drawn := (session now).drawn } = now := by
    simp [Shared.after, session]
  rw [same]
  exact spec now finds value run

end Rules

end AnoPki.Lifecycle
