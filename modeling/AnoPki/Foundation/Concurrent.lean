import Mathlib

/-! # Programs that share a world

A program is a tree of atomic steps on a shared world. Calls run such programs on nodes, their steps
interleave in any order, a node may crash between two steps, and the world may change on its own. A
discipline says what one step of a program may do; a program that keeps to it from every state it
may find itself in gives every run the discipline's invariant. -/
namespace Foundation

open Option

/-- A program of atomic steps. A step asks the outside for an answer, may be blocked, changes the
world and may leave an event in the history. -/
inductive Prog (W O E : Type) (α : Type) : Type 1
  | ret (value : α)
  | step {β : Type} (act : O → W → Option (β × W)) (event : β → Option E)
      (next : β → Prog W O E α)

namespace Prog

variable {W O E α β : Type}

protected def bind : Prog W O E α → (α → Prog W O E β) → Prog W O E β
  | ret value, rest => rest value
  | step act event next, rest => step act event fun answer => (next answer).bind rest

instance : Monad (Prog W O E) where
  pure := ret
  bind := Prog.bind

end Prog

/-- The world together with the events that led to it, each with the call that left it. -/
structure Shared (W E : Type) where
  world : W
  history : List (Nat × E)

/-- The state after a step of a call. -/
def Shared.after {W E : Type} (s : Shared W E) (call : Nat) (event : Option E) (world : W) :
    Shared W E where
  world := world
  history := s.history ++ (event.map fun event => (call, event)).toList

theorem Shared.mem_after_iff {W E} {s : Shared W E} {call : Nat} {event} {world : W}
    {entry} : entry ∈ (s.after call event world).history ↔
      entry ∈ s.history ∨ (entry.1 = call ∧ event = some entry.2) := by
  rw [Shared.after, List.mem_append, mem_toList, map_eq_some_iff]
  constructor
  · rintro (old | ⟨seen, left, rfl⟩)
    · exact .inl old
    · exact .inr ⟨rfl, left⟩
  · rintro (old | ⟨rfl, left⟩)
    · exact .inl old
    · exact .inr ⟨entry.2, left, rfl⟩

/-- The events that a call has left so far. -/
def Shared.own {W E : Type} (s : Shared W E) (call : Nat) : List E :=
  s.history.filterMap fun entry => if entry.1 = call then some entry.2 else none

theorem Shared.mem_own_iff {W E} {s : Shared W E} {call : Nat} {event : E} :
    event ∈ s.own call ↔ (call, event) ∈ s.history := by
  rw [Shared.own, List.mem_filterMap]
  constructor
  · rintro ⟨⟨number, left⟩, inside, same⟩
    split at same
    · cases same
      obtain rfl : number = call := ‹_›
      exact inside
    · cases same
  · intro inside
    exact ⟨_, inside, if_pos rfl⟩

theorem Shared.own_after_other {W E} {s : Shared W E} {call number : Nat} {event}
    {world : W} (other : number ≠ call) : (s.after number event world).own call = s.own call := by
  cases event <;> simp [Shared.own, Shared.after, other]

/-- What the steps of the calls may do, what happens between them, what holds in every state, and
what stays true from a state on. -/
structure Discipline (W E : Type) where
  inv : Shared W E → Prop
  change : Nat → Shared W E → Option E → W → Prop
  outer : Shared W E → Shared W E → Prop
  later : Shared W E → Shared W E → Prop
  later_refl : ∀ s, later s s
  later_trans : ∀ {s t u}, later s t → later t u → later s u
  change_keeps : ∀ {call s event w}, inv s → change call s event w →
    inv (s.after call event w) ∧ later s (s.after call event w)
  outer_keeps : ∀ {s t}, inv s → outer s t → inv t ∧ later s t

namespace Prog

variable {W O E α β : Type} {D : Discipline W E} {call : Nat}

/-- From a state on, whatever the other calls do meanwhile, every step of the program keeps to the
discipline, and its result and last state satisfy the postcondition. The others leave no event of
this call. -/
def Meets (D : Discipline W E) (call : Nat) :
    Prog W O E α → (α → Shared W E → Prop) → Shared W E → Prop
  | ret value, post, s => post value s
  | step act event next, post, s => ∀ now, D.later s now → now.own call = s.own call → D.inv now →
      ∀ answer result world, act answer now.world = some (result, world) →
        D.change call now (event result) world ∧
          (next result).Meets D call post (now.after call (event result) world)

theorem Meets.bind {first : Prog W O E α} {rest} {post : β → Shared W E → Prop} {s}
    (meets : first.Meets D call (fun value t => (rest value).Meets D call post t) s) :
    (first.bind rest).Meets D call post s := by
  induction first generalizing s with
  | ret value => exact meets
  | step act event next ih =>
    intro now later own inv answer result world acts
    obtain ⟨change, continues⟩ := meets now later own inv answer result world acts
    exact ⟨change, ih result continues⟩

/-- The postcondition may be weakened, and the last state is later than the first. -/
theorem Meets.mono {program : Prog W O E α} {post post' s} (meets : program.Meets D call post s)
    (weaker : ∀ value t, D.later s t → post value t → post' value t) :
    program.Meets D call post' s := by
  induction program generalizing s with
  | ret value => exact weaker value s (D.later_refl s) meets
  | step act event next ih =>
    intro now later own nowInv answer result world acts
    obtain ⟨change, continues⟩ := meets now later own nowInv answer result world acts
    obtain ⟨-, thenLater⟩ := D.change_keeps nowInv change
    refine ⟨change, ih result continues ?_⟩
    intro value t afterwards
    exact weaker value t (D.later_trans later (D.later_trans thenLater afterwards))

/-- A program that keeps to a discipline keeps to a wider one, under which the others do no more
than the first allows for. -/
theorem Meets.widen {D'} {program : Prog W O E α} {post s} (inv : ∀ t, D'.inv t → D.inv t)
    (later : ∀ t u, D'.later t u → D.later t u)
    (change : ∀ t event world, D'.inv t → D.change call t event world →
    D'.change call t event world) (meets : program.Meets D call post s) :
    program.Meets D' call post s := by
  induction program generalizing s with
  | ret value => exact meets
  | step act event next ih =>
    intro now since own nowInv answer result world acts
    obtain ⟨does, continues⟩ :=
      meets now (later s now since) own (inv now nowInv) answer result world acts
    exact ⟨change now _ world nowInv does, ih result continues⟩

end Prog

/-- The calls a system offers, and what happens outside of them. -/
structure System (W O E : Type) where
  Call : Type
  Node : Type
  Outside : Type
  start : Node → Call → Prog W O E Unit
  started : Call → E
  /-- What a crash of a node does to the world. -/
  reset : Node → W → W
  disturb : Outside → W → Option W
  [decNode : DecidableEq Node]

namespace System

variable {W O E : Type} (sys : System W O E)

instance : DecidableEq sys.Node := sys.decNode

/-- A running system. Calls are numbered in the order they were started. -/
structure Config where
  shared : Shared W E
  spawned : Nat
  calls : Nat → Option (sys.Node × Prog W O E Unit)

inductive Action where
  | spawn (node : sys.Node) (call : sys.Call)
  | run (call : Nat) (answer : O)
  | crash (node : sys.Node)
  | disturb (outside : sys.Outside)

variable {sys}

/-- The part of an action others can see: which call moved, and the event it left. -/
def Action.event (action : sys.Action) (cfg : sys.Config) : Option (Nat × Option E) :=
  match action with
  | .run call answer =>
    match cfg.calls call with
    | some (_, .step act event _) =>
      (act answer cfg.shared.world).map fun (result, _) => (call, event result)
    | _ => none
  | _ => none

/-- One action; `none` when it is not possible. -/
def Config.perform (cfg : sys.Config) : sys.Action → Option sys.Config
  | .spawn node call => some {
      shared := cfg.shared.after cfg.spawned (some (sys.started call)) cfg.shared.world
      spawned := cfg.spawned + 1
      calls := fun other =>
        if other = cfg.spawned then some (node, sys.start node call) else cfg.calls other }
  | .run call answer =>
    match cfg.calls call with
    | some (node, .step act event next) =>
      (act answer cfg.shared.world).map fun (result, world) => {
        cfg with
        shared := cfg.shared.after call (event result) world
        calls := fun other =>
          if other = call then some (node, next result) else cfg.calls other }
    | _ => none
  | .crash node => some {
      cfg with
      shared := { cfg.shared with world := sys.reset node cfg.shared.world }
      calls := fun other => (cfg.calls other).filter fun running =>
        !decide (running.1 = node) }
  | .disturb outside => (sys.disturb outside cfg.shared.world).map fun world => {
      cfg with shared := { cfg.shared with world := world } }

/-- A system in which no call is running. -/
def idle (world : W) : sys.Config where
  shared := ⟨world, []⟩
  spawned := 0
  calls := fun _ => none

/-- The configurations reached from an initial world by actions that all pass the guard. -/
inductive Reaches (guard : sys.Config → sys.Action → Prop) (initial : W → Prop) :
    sys.Config → Prop
  | idle {world : W} (start : initial world) : Reaches guard initial (idle world)
  | step {cfg next : sys.Config} {action : sys.Action} (reached : Reaches guard initial cfg)
      (allowed : guard cfg action) (performed : cfg.perform action = some next) :
      Reaches guard initial next

/-- A whole schedule. -/
def Config.performAll (cfg : sys.Config) : List sys.Action → Option sys.Config
  | [] => some cfg
  | action :: rest => (cfg.perform action).bind fun next => next.performAll rest

/-- The step of a running call. -/
theorem Config.perform_run {cfg next : sys.Config} {call : Nat} {answer : O}
    (performed : cfg.perform (.run call answer) = some next) :
    ∃ (β : Type) (node : sys.Node) (act : O → W → Option (β × W)) (event : β → Option E)
      (rest : β → Prog W O E Unit) (result : β) (world : W),
      cfg.calls call = some (node, .step act event rest) ∧
        act answer cfg.shared.world = some (result, world) ∧ next = { cfg with
          shared := cfg.shared.after call (event result) world
          calls := fun other =>
            if other = call then some (node, rest result) else cfg.calls other } := by
  cases found : cfg.calls call with
  | none => simp [Config.perform, found] at performed
  | some entry =>
    obtain ⟨node, program⟩ := entry
    cases program with
    | ret value => simp [Config.perform, found] at performed
    | step act event rest =>
      simp only [Config.perform, found] at performed
      obtain ⟨⟨result, world⟩, acts, rfl⟩ := map_eq_some_iff.mp performed
      exact ⟨_, node, act, event, rest, result, world, rfl, acts, rfl⟩

theorem Reaches.mono {guard guard' initial}
    {cfg : sys.Config} (weaker : ∀ cfg action, guard cfg action → guard' cfg action)
    (reached : Reaches guard initial cfg) : Reaches guard' initial cfg := by
  induction reached with
  | idle start => exact .idle start
  | step _ allowed performed ih => exact .step ih (weaker _ _ allowed) performed

/-- Every call of the system keeps to the discipline. -/
structure Keeps (sys : System W O E) (D : Discipline W E) : Prop where
  start : ∀ node call number s, D.inv s → (number, sys.started call) ∈ s.history →
    (sys.start node call).Meets D number (fun _ _ => True) s
  spawn : ∀ call number s, D.inv s → (∀ event, (number, event) ∉ s.history) →
    D.outer s (s.after number (some (sys.started call)) s.world)
  reset : ∀ node s, D.inv s → D.outer s { s with world := sys.reset node s.world }
  disturb : ∀ outside s world, D.inv s → sys.disturb outside s.world = some world →
    D.outer s { s with world := world }

/-- Every running call still keeps to the discipline, and only calls that were started have left
events. -/
structure Config.Sound (D : Discipline W E) (cfg : sys.Config) : Prop where
  inv : D.inv cfg.shared
  meets : ∀ call node program, cfg.calls call = some (node, program) →
    ∃ s, D.later s cfg.shared ∧ cfg.shared.own call = s.own call ∧
      program.Meets D call (fun _ _ => True) s
  running : ∀ call, cfg.calls call ≠ none → call < cfg.spawned
  events : ∀ entry ∈ cfg.shared.history, entry.1 < cfg.spawned

variable {D : Discipline W E}

/-- What an action does to the shared state: a step of a call, or something outside of them. -/
inductive Moves (D : Discipline W E) (cfg : sys.Config) (action : sys.Action) :
    Shared W E → Prop
  | call {number : Nat} {event : Option E} {world : W}
      (seen : action.event cfg = some (number, event))
      (change : D.change number cfg.shared event world) :
      Moves D cfg action (cfg.shared.after number event world)
  | outer {next : Shared W E} (unseen : action.event cfg = none)
      (outer : D.outer cfg.shared next) : Moves D cfg action next

private theorem Config.Sound.others {cfg : sys.Config} (sound : cfg.Sound D)
    {shared} (later : D.later cfg.shared shared) (call : Nat)
    (own : shared.own call = cfg.shared.own call) (node : sys.Node) (program : Prog W O E Unit)
    (running : cfg.calls call = some (node, program)) :
    ∃ s, D.later s shared ∧ shared.own call = s.own call ∧
      program.Meets D call (fun _ _ => True) s := by
  obtain ⟨s, before, same, meets⟩ := sound.meets call node program running
  exact ⟨s, D.later_trans before later, own.trans same, meets⟩

private theorem events_after {shared : Shared W E} {bound call : Nat} {event} {world : W}
    (events : ∀ entry ∈ shared.history, entry.1 < bound) (inside : call < bound) :
    ∀ entry ∈ (shared.after call event world).history, entry.1 < bound := by
  intro entry member
  cases event with
  | none => exact events entry (by simpa [Shared.after] using member)
  | some event =>
    rcases List.mem_append.mp member with old | new
    · exact events entry old
    · obtain rfl : entry = (call, event) := by simpa using new
      exact inside

/-- One action from a sound configuration: the shared state moves as the discipline says and the
configuration stays sound. -/
theorem Config.Sound.perform (keeps : sys.Keeps D) {cfg next : sys.Config} {action : sys.Action}
    (sound : cfg.Sound D) (performed : cfg.perform action = some next) :
    Moves D cfg action next.shared ∧ next.Sound D := by
  cases action with
  | spawn node call =>
    cases performed
    have outer := keeps.spawn call cfg.spawned cfg.shared sound.inv
      fun event member => absurd (sound.events _ member) (lt_irrefl _)
    obtain ⟨inv, later⟩ := D.outer_keeps sound.inv outer
    refine ⟨.outer rfl outer, inv, ?_, ?_, ?_⟩
    · intro number owner program running
      by_cases new : number = cfg.spawned
      · obtain ⟨rfl, rfl⟩ : node = owner ∧ sys.start node call = program := by
          simpa [new] using running
        exact ⟨_, D.later_refl _, rfl,
          keeps.start node call number _ inv (by simp [Shared.after, new])⟩
      · exact sound.others later number (Shared.own_after_other (Ne.symm new)) owner program
          (by simpa [new] using running)
    · intro number running
      by_cases new : number = cfg.spawned
      · exact new ▸ Nat.lt_succ_self _
      · exact Nat.lt_succ_of_lt (sound.running number (by simpa [new] using running))
    · exact events_after (fun entry member => Nat.lt_succ_of_lt (sound.events entry member))
        (Nat.lt_succ_self _)
  | run call answer =>
    obtain ⟨_, node, act, event, rest, result, world, found, acts, rfl⟩ := perform_run performed
    obtain ⟨s, before, own, meets⟩ := sound.meets call node _ found
    obtain ⟨change, continues⟩ := meets cfg.shared before own sound.inv answer result world acts
    obtain ⟨inv, later⟩ := D.change_keeps sound.inv change
    have inside := sound.running call (by simp [found])
    refine ⟨.call (by simp [Action.event, found, acts]) change, inv, ?_, ?_, ?_⟩
    · intro number owner program running
      by_cases same : number = call
      · obtain ⟨rfl, rfl⟩ : node = owner ∧ rest result = program := by simpa [same] using running
        subst same
        exact ⟨_, D.later_refl _, rfl, continues⟩
      · exact sound.others later number (Shared.own_after_other (Ne.symm same)) owner program
          (by simpa [same] using running)
    · intro number running
      by_cases same : number = call
      · exact same ▸ inside
      · exact sound.running number (by simpa [same] using running)
    · exact events_after sound.events inside
  | crash node =>
    cases performed
    have outer := keeps.reset node cfg.shared sound.inv
    obtain ⟨inv, later⟩ := D.outer_keeps sound.inv outer
    refine ⟨.outer rfl outer, inv, ?_, ?_, sound.events⟩
    · intro number owner program running
      exact sound.others later number rfl owner program (filter_eq_some_iff.mp running).1
    · intro number running
      refine sound.running number fun stopped => running ?_
      simp [stopped]
  | disturb outside =>
    obtain ⟨world, moved, rfl⟩ := map_eq_some_iff.mp performed
    have outer := keeps.disturb outside cfg.shared world sound.inv moved
    obtain ⟨inv, later⟩ := D.outer_keeps sound.inv outer
    exact ⟨.outer rfl outer, inv, fun number => sound.others later number rfl, sound.running,
      sound.events⟩

/-- An action that is seen is possible, and the discipline allows what is seen of it. -/
theorem Config.Sound.seen (keeps : sys.Keeps D) {cfg} {action : sys.Action}
    (sound : cfg.Sound D) {number : Nat} {event} (seen : action.event cfg = some (number, event)) :
    ∃ world, D.change number cfg.shared event world := by
  obtain ⟨next, performed⟩ : ∃ next, cfg.perform action = some next := by
    cases action with
    | run call answer =>
      cases found : cfg.calls call with
      | none => simp [Action.event, found] at seen
      | some entry =>
        obtain ⟨node, program⟩ := entry
        cases program with
        | ret value => simp [Action.event, found] at seen
        | step act event rest =>
          simp only [Action.event, found] at seen
          obtain ⟨result, acts, -⟩ := map_eq_some_iff.mp seen
          simp [Config.perform, found, acts]
    | _ => simp [Action.event] at seen
  have moves := (sound.perform keeps performed).1
  generalize next.shared = shared at moves
  cases moves with
  | call seen' change =>
    cases mem_unique seen seen'
    exact ⟨_, change⟩
  | outer unseen =>
    rw [seen] at unseen
    cases unseen

section

variable (keeps : sys.Keeps D) {guard : sys.Config → sys.Action → Prop} {initial : W → Prop}
  (start : ∀ world, initial world → D.inv ⟨world, []⟩)

include keeps start

/-- Every reachable configuration is sound. -/
theorem Reaches.sound {cfg} (reached : Reaches guard initial cfg) : cfg.Sound D := by
  induction reached with
  | idle begin =>
    exact ⟨start _ begin, by simp [System.idle], by simp [System.idle], by simp [System.idle]⟩
  | step _ _ performed ih => exact (ih.perform keeps performed).2

/-- A property of the initial states that every step and everything outside of them preserves holds
in every reachable state. -/
theorem Reaches.induct {holds : Shared W E → Prop}
    (begins : ∀ world, initial world → holds ⟨world, []⟩)
    (moves : ∀ cfg action next, D.inv cfg.shared → holds cfg.shared → guard cfg action →
      Moves D cfg action next → holds next) {cfg} (reached : Reaches guard initial cfg) :
    holds cfg.shared := by
  induction reached with
  | idle begin => exact begins _ begin
  | step before allowed performed ih =>
    have sound := before.sound keeps start
    exact moves _ _ _ sound.inv ih allowed (sound.perform keeps performed).1

end

/-- A relation that every action from a reachable configuration keeps to relates the ends of every
schedule. -/
theorem Reaches.along (keeps : sys.Keeps D) {initial}
    (start : ∀ world, initial world → D.inv ⟨world, []⟩) {rel : Shared W E → Shared W E → Prop}
    (refl : ∀ s, rel s s) (trans : ∀ {s t u}, rel s t → rel t u → rel s u)
    (moves : ∀ (cfg : sys.Config) action next, D.inv cfg.shared → Moves D cfg action next →
      rel cfg.shared next) {cfg final} {actions : List sys.Action}
    (reached : Reaches (fun _ _ => True) initial cfg)
    (performed : cfg.performAll actions = some final) : rel cfg.shared final.shared := by
  induction actions generalizing cfg with
  | nil =>
    obtain rfl : cfg = final := by simpa [Config.performAll] using performed
    exact refl _
  | cons action rest ih =>
    obtain ⟨next, first, later⟩ := bind_eq_some_iff.mp performed
    have sound := reached.sound keeps start
    have here := moves _ _ _ sound.inv (sound.perform keeps first).1
    exact trans here (ih (.step reached trivial first) later)

end System

end Foundation
