import AnoPki.Foundation.Paths
import AnoPki.Foundation.Progress

/-! # Where a running call stands

A call that is running has come there from its start, whatever others did between its steps. What is
shown of every step of a program, given the events that it has left so far, is so of every step that
the call makes in a run. -/
namespace Foundation

open Option List

variable {W O E ε α β : Type}

/-- The program comes to the other one and leaves these events. The worlds that its steps find are
any. -/
inductive Prog.Leads (program : Prog W O E α) : List E → Prog W O E α → Prop
  | refl : Leads program [] program
  | step {β : Type} {act : O → W → Option (β × W)} {event : β → Option E} {next : β → Prog W O E α}
      {events : List E} {answer : O} {world after : W} {result : β}
      (prior : Leads program events (.step act event next))
      (acts : act answer world = some (result, after)) :
      Leads program (events ++ (event result).toList) (next result)

/-- Every step of the program is allowed after the events that were left before it, and its end
satisfies the postcondition. -/
def Prog.Obeys (allowed : List E → W → Option E → W → Prop) :
    Prog W O E α → (List E → α → Prop) → List E → Prop
  | ret value, post, events => post events value
  | step act event next, post, events => ∀ answer world result after,
      act answer world = some (result, after) → allowed events world (event result) after ∧
        (next result).Obeys allowed post (events ++ (event result).toList)

/-- From events that satisfy the condition on, every step of the program is allowed and the events
keep satisfying it. -/
def Prog.Within (allowed : List E → W → Option E → W → Prop) (holds : List E → Prop)
    (program : Prog W O E α) : Prop :=
  ∀ events, holds events → program.Obeys allowed (fun events _ => holds events) events

namespace Prog

variable {allowed : List E → W → Option E → W → Prop}

theorem Obeys.bind {first : Prog W O E α} {rest} {post : List E → β → Prop} {events}
    (obeys : first.Obeys allowed (fun events value =>
    (rest value).Obeys allowed post events) events) :
      (first.bind rest).Obeys allowed post events := by
  induction first generalizing events with
  | ret value => exact obeys
  | step act event next ih =>
    intro answer world result after acts
    obtain ⟨here, continues⟩ := obeys answer world result after acts
    exact ⟨here, ih result continues⟩

theorem Obeys.mono {program : Prog W O E α} {post post' events}
    (obeys : program.Obeys allowed post events)
    (weaker : ∀ events value, post events value → post' events value) :
    program.Obeys allowed post' events := by
  induction program generalizing events with
  | ret value => exact weaker events value obeys
  | step act event next ih =>
    intro answer world result after acts
    obtain ⟨here, continues⟩ := obeys answer world result after acts
    exact ⟨here, ih result continues⟩

/-- What the program comes to obeys as well. -/
theorem Obeys.leads {program there : Prog W O E α} {post before events}
    (obeys : program.Obeys allowed post before) (leads : program.Leads events there) :
    there.Obeys allowed post (before ++ events) := by
  induction leads with
  | refl => rwa [append_nil]
  | step prior acts ih =>
    rw [← append_assoc]
    exact (ih _ _ _ _ acts).2

/-- The end of a path satisfies the postcondition. -/
theorem Obeys.path {program : Prog W O E α} {post before events}
    {value : α} (obeys : program.Obeys allowed post before) (path : program.Path events value) :
    post (before ++ events) value := by
  induction path generalizing before with
  | ret =>
    rw [append_nil]
    exact obeys
  | step acts rest ih =>
    rw [← append_assoc]
    exact ih (obeys _ _ _ _ acts).2

theorem Within.ret {holds} (value : α) : (Prog.ret value : Prog W O E α).Within allowed holds :=
  fun _ held => held

theorem Within.bind {holds : List E → Prop} {first : Prog W O E α} {rest : α → Prog W O E β}
    (within : first.Within allowed holds) (following : ∀ value, (rest value).Within allowed holds) :
    (first.bind rest).Within allowed holds := by
  intro events held
  refine Obeys.bind ((within events held).mono ?_)
  intro later value still
  exact following value later still

variable {op : ExceptT ε (Prog W O E) α} {rest : α → ExceptT ε (Prog W O E) β}

/-- A sequence that may fail. -/
theorem Obeys.seq {post : List E → Except ε β → Prop} {events : List E}
    (obeys : op.run.Obeys allowed (fun events result =>
      (∀ err, result = .error err → post events (.error err)) ∧
        ∀ value, result = .ok value → (rest value).run.Obeys allowed post events) events) :
    (op >>= rest).run.Obeys allowed post events := by
  refine Obeys.bind (obeys.mono ?_)
  rintro later (err | value) ⟨failed, continues⟩
  · exact failed err rfl
  · exact continues value rfl

theorem Within.seq {holds : List E → Prop} (within : op.run.Within allowed holds)
    (following : ∀ value, (rest value).run.Within allowed holds) :
    (op >>= rest).run.Within allowed holds := by
  intro events held
  refine Obeys.seq ((within events held).mono ?_)
  intro later result still
  exact ⟨fun _ _ => still, fun value _ => following value later still⟩

end Prog

theorem Shared.own_after_same {s : Shared W E} {call : Nat} {event} {world : W} :
    (s.after call event world).own call = s.own call ++ event.toList := by
  cases event <;> simp [Shared.own, Shared.after]

namespace System

variable {sys : System W O E} {D : Discipline W E} {cfg next : sys.Config} {action : sys.Action}
  {number : Nat}

/-- An action that is seen is the step of a running call. -/
theorem Action.step_of_event {event} (seen : action.event cfg = some (number, event))
    (performed : cfg.perform action = some next) :
    ∃ (β : Type) (node : sys.Node) (act : O → W → Option (β × W)) (leaves : β → Option E)
      (rest : β → Prog W O E Unit) (answer : O) (result : β),
      cfg.calls number = some (node, .step act leaves rest) ∧
        act answer cfg.shared.world = some (result, next.shared.world) ∧ event = leaves result := by
  cases action with
  | run call answer =>
    obtain ⟨_, node, act, leaves, rest, result, world, found, acts, rfl⟩ :=
      Config.perform_run performed
    obtain ⟨rfl, rfl⟩ : call = number ∧ leaves result = event := by
      simpa [Action.event, found, acts] using seen
    exact ⟨_, node, act, leaves, rest, answer, result, found, acts, rfl⟩
  | _ => simp [Action.event] at seen

/-- The call has come from the program to where it stands, and has left these events on the way. -/
def Config.Runs (cfg : sys.Config) (number : Nat) (program : Prog W O E Unit)
    (events : List E) : Prop :=
  ∃ node point, cfg.calls number = some (node, point) ∧ program.Leads events point

theorem Config.Runs.obeys {program : Prog W O E Unit} {allowed post before events}
    (runs : cfg.Runs number program events) (obeys : program.Obeys allowed post before) {event}
    (seen : action.event cfg = some (number, event)) (performed : cfg.perform action = some next) :
    allowed (before ++ events) cfg.shared.world event next.shared.world := by
  obtain ⟨_, node, act, leaves, rest, answer, result, running, acts, rfl⟩ :=
    Action.step_of_event seen performed
  obtain ⟨node', point, standing, leads⟩ := runs
  cases mem_unique running standing
  exact (obeys.leads leads answer cfg.shared.world result next.shared.world acts).1

/-- Every running call has come from its start to where it stands, and has left the events
between. -/
theorem Reaches.leads (keeps : sys.Keeps D) {guard : sys.Config → sys.Action → Prop}
    {initial} (start : ∀ world, initial world → D.inv ⟨world, []⟩)
    (reached : Reaches guard initial cfg) : ∀ number node program,
    cfg.calls number = some (node, program) → ∃ call events,
      cfg.shared.own number = sys.started call :: events ∧
        (sys.start node call).Leads events program := by
  induction reached with
  | idle begin => simp [System.idle]
  | @step cfg next action before allowed performed ih =>
    have sound := before.sound keeps start
    intro number node program running
    cases action with
    | spawn owner call =>
      cases performed
      by_cases new : number = cfg.spawned
      · obtain ⟨rfl, rfl⟩ : owner = node ∧ sys.start owner call = program := by
          simpa [new] using running
        refine ⟨call, [], ?_, .refl⟩
        have fresh : cfg.shared.own number = [] := by
          rw [eq_nil_iff_forall_not_mem]
          intro event inside
          have small := sound.events _ (Shared.mem_own_iff.mp inside)
          exact absurd (new ▸ small) (lt_irrefl _)
        subst new
        rw [Shared.own_after_same, fresh]
        rfl
      · rw [Shared.own_after_other (Ne.symm new)]
        exact ih number node program (by simpa [new] using running)
    | run call answer =>
      obtain ⟨_, owner, act, leaves, rest, result, world, found, acts, rfl⟩ :=
        Config.perform_run performed
      by_cases same : number = call
      · obtain ⟨rfl, rfl⟩ : owner = node ∧ rest result = program := by simpa [same] using running
        subst same
        obtain ⟨begun, events, own, leads⟩ := ih number owner _ found
        refine ⟨begun, events ++ (leaves result).toList, ?_, .step leads acts⟩
        rw [Shared.own_after_same, own]
        rfl
      · rw [Shared.own_after_other (Ne.symm same)]
        exact ih number node program (by simpa [same] using running)
    | crash owner =>
      cases performed
      exact ih number node program (filter_eq_some_iff.mp running).1
    | disturb outside =>
      obtain ⟨world, moved, rfl⟩ := map_eq_some_iff.mp performed
      exact ih number node program running

/-- The call that an action starts. -/
def Action.begins : sys.Action → List (sys.Node × sys.Call)
  | .spawn node call => [(node, call)]
  | _ => []

/-- These calls have been started, and those that are running have come from their starts. -/
structure Config.Begun (started : List (sys.Node × sys.Call)) (cfg : sys.Config) : Prop where
  spawned : cfg.spawned = started.length
  runs : ∀ number node program, cfg.calls number = some (node, program) → ∃ call,
    started[number]? = some (node, call) ∧ ∃ events, cfg.Runs number (sys.start node call) events

theorem Config.Begun.step {started} (begun : cfg.Begun started)
    (performed : cfg.perform action = some next) : next.Begun (started ++ action.begins) := by
  obtain ⟨spawned, runs⟩ := begun
  cases action with
  | spawn owner call =>
    cases performed
    refine ⟨by simp [Action.begins, spawned], ?_⟩
    intro number node program running
    by_cases new : number = cfg.spawned
    · obtain ⟨rfl, rfl⟩ : owner = node ∧ sys.start owner call = program := by
        simpa [new] using running
      exact ⟨call, by simp [Action.begins, new, spawned], [], _, _, running, .refl⟩
    · obtain ⟨call', known, events, owner', point, here, leads⟩ :=
        runs number node program (by simpa [new] using running)
      obtain ⟨early, -⟩ := List.getElem?_eq_some_iff.mp known
      refine ⟨call', by rw [List.getElem?_append_left early, known], events, owner',
        point, ?_, leads⟩
      simpa [new] using here
  | run call answer =>
    obtain ⟨_, owner, act, leaves, rest, result, world, found, acts, rfl⟩ :=
      Config.perform_run performed
    refine ⟨by simp [Action.begins, spawned], ?_⟩
    intro number node program running
    simp only [Action.begins, append_nil]
    by_cases same : number = call
    · subst same
      obtain ⟨begun, known, events, owner', point, here, leads⟩ := runs number owner _ found
      cases mem_unique found here
      obtain ⟨rfl, rfl⟩ : owner = node ∧ rest result = program := by simpa using running
      exact ⟨begun, known, _, _, _, running, .step leads acts⟩
    · obtain ⟨begun, known, events, owner', point, here, leads⟩ :=
        runs number node program (by simpa [same] using running)
      exact ⟨begun, known, events, owner', point, by simpa [same] using here, leads⟩
  | crash owner =>
    cases performed
    refine ⟨by simp [Action.begins, spawned], ?_⟩
    intro number node program running
    simp only [Action.begins, append_nil]
    have alive := (filter_eq_some_iff.mp running).1
    obtain ⟨begun, known, events, owner', point, here, leads⟩ := runs number node program alive
    cases mem_unique alive here
    exact ⟨begun, known, events, _, _, running, leads⟩
  | disturb outside =>
    obtain ⟨world, moved, rfl⟩ := map_eq_some_iff.mp performed
    refine ⟨by simp [Action.begins, spawned], ?_⟩
    simp only [Action.begins, append_nil]
    exact runs

/-- A call that runs at the end of a schedule has come from the start that the schedule gives it. -/
theorem Config.Begun.performAll {started actions}
    (begun : cfg.Begun started) (performed : cfg.performAll actions = some next) :
    next.Begun (started ++ actions.flatMap Action.begins) := by
  induction actions generalizing cfg started with
  | nil =>
    cases performed
    simpa using begun
  | cons action rest ih =>
    obtain ⟨middle, first, later⟩ := bind_eq_some_iff.mp performed
    simpa using ih (begun.step first) later

/-- Every step of a call whose program obeys is allowed, after the events of the call. -/
theorem Reaches.obeys (keeps : sys.Keeps D) {guard initial}
    (start : ∀ world, initial world → D.inv ⟨world, []⟩)
    (reached : Reaches guard initial cfg) {allowed call}
    (begun : ∀ other, (number, sys.started other) ∈ cfg.shared.history → other = call)
    (obeys : ∀ node, (sys.start node call).Obeys allowed (fun _ _ => True) [sys.started call])
    {event} (seen : action.event cfg = some (number, event))
    (performed : cfg.perform action = some next) :
    allowed (cfg.shared.own number) cfg.shared.world event next.shared.world := by
  obtain ⟨_, node, act, leaves, rest, answer, result, running, -, -⟩ :=
    Action.step_of_event seen performed
  obtain ⟨other, events, own, leads⟩ := reached.leads keeps start number node _ running
  obtain rfl := begun other (Shared.mem_own_iff.mp (by simp [own]))
  rw [own]
  exact Config.Runs.obeys ⟨node, _, running, leads⟩ (obeys node) seen performed

end System

end Foundation
