import AnoPki.Foundation.Progress
import AnoPki.Foundation.Transaction

/-! # Rehearsals

A run of a system is rehearsed with programs that stand in for those of the system and are easier to
compute. They do the same wherever the worlds are alike, so whatever a rehearsal comes to, a run of
the system comes to as well. The stand-ins are put together as the programs are. -/
namespace Foundation

/-- Which state may stand in for which. -/
class Likeness (σ : Type) where
  Alike : σ → σ → Prop

open Likeness Option

/-- A body with one that stands in for it. -/
class Tx.Rehearsed {σ ε α : Type} [Preorder σ] [Likeness σ] (body : Tx σ ε α) where
  plain : σ → Except ε α × σ
  agrees : ∀ {s t}, Alike s t → (body s).1 = (plain t).1 ∧ Alike (body s).2 (plain t).2

namespace Tx.Rehearsed

variable {σ ε α β : Type} [Preorder σ] [Likeness σ]

/-- A look that cannot tell alike states apart. -/
@[reducible] def query {look : σ → Except ε α} (same : ∀ {s t}, Alike s t → look s = look t) :
    Rehearsed (Tx.query look) where
  plain t := (look t, t)
  agrees alike := ⟨same alike, alike⟩

@[reducible] def modify {update : σ → σ} {forward : ∀ s, s ≤ update s}
    (keeps : ∀ {s t}, Alike s t → Alike (update s) (update t)) :
    Rehearsed (Tx.modify update forward : Tx σ ε Unit) where
  plain t := (.ok (), update t)
  agrees alike := ⟨rfl, keeps alike⟩

instance (result : Except ε α) : Rehearsed (Tx.query fun _ => result : Tx σ ε α) :=
  query fun _ => rfl

instance (value : α) : Rehearsed (Pure.pure value : Tx σ ε α) := query fun _ => rfl

instance (err : ε) : Rehearsed (Tx.fail err : Tx σ ε α) := query fun _ => rfl

instance (holds : Prop) [Decidable holds] (err : ε) :
    Rehearsed (Tx.require holds err : Tx σ ε Unit) :=
  query fun _ => rfl

@[reducible] def seq {first : Tx σ ε α} {next : α → Tx σ ε β} (one : Rehearsed first)
    (two : ∀ value, Rehearsed (next value)) : Rehearsed (first >>= next) where
  plain t :=
    match one.plain t with
    | (.ok value, t) => (two value).plain t
    | (.error err, t) => (.error err, t)
  agrees {s t} alike := by
    have agreed := one.agrees alike
    change (Tx.bind _ _ s).1 = _ ∧ Alike (Tx.bind _ _ s).2 _
    simp only [Tx.bind]
    generalize first s = left at agreed ⊢
    generalize one.plain t = right at agreed ⊢
    obtain ⟨result, after⟩ := left
    obtain ⟨result', after'⟩ := right
    obtain ⟨rfl, next⟩ : result = result' ∧ _ := agreed
    cases result with
    | error => exact ⟨rfl, next⟩
    | ok value => exact (two value).agrees next

instance (first : Tx σ ε α) (next : α → Tx σ ε β) [one : Rehearsed first]
    [two : ∀ value, Rehearsed (next value)] : Rehearsed (first >>= next) :=
  .seq one two

@[reducible] def ite {holds : Prop} [Decidable holds] {yes no : Tx σ ε α} (one : Rehearsed yes)
    (two : Rehearsed no) : Rehearsed (if holds then yes else no) where
  plain t := if holds then one.plain t else two.plain t
  agrees alike := by
    split
    · exact one.agrees alike
    · exact two.agrees alike

instance (holds : Prop) [Decidable holds] (yes no : Tx σ ε α) [one : Rehearsed yes]
    [two : Rehearsed no] : Rehearsed (if holds then yes else no) :=
  .ite one two

instance (body : Tx σ ε α) [one : Rehearsed body] : Rehearsed body.attempt where
  plain t :=
    match one.plain t with
    | (result, t) => (.ok result, t)
  agrees alike := by
    obtain ⟨same, next⟩ := one.agrees alike
    exact ⟨congrArg Except.ok same, next⟩

instance (body : β → α → Tx σ ε β)
    [∀ collected item, Rehearsed (body collected item)] (collected : β) (items : List α) :
    Rehearsed (Tx.fold body collected items) :=
  items.rec (fun collected => inferInstanceAs (Rehearsed (Pure.pure collected : Tx σ ε β)))
    (fun item items rest collected =>
      let _ := rest
      inferInstanceAs (Rehearsed (body collected item >>= fun next => Tx.fold body next items)))
    collected

end Tx.Rehearsed

namespace Prog

variable {W O E α β : Type} [Likeness W]

/-- A program and one that stands in for it step by step. The results of a step may differ in what
the rest does not look at. -/
inductive Mirrors : Prog W O E α → Prog W O E α → Prop
  | ret (value : α) : Mirrors (.ret value) (.ret value)
  | step {β : Type} {act act' : O → W → Option (β × W)} {event event' : β → Option E}
      {next next' : β → Prog W O E α} (like : β → β → Prop)
      (acts : ∀ {answer s t result t'}, Alike s t → act' answer t = some (result, t') →
        ∃ real s', act answer s = some (real, s') ∧ Alike s' t' ∧ like real result)
      (events : ∀ {real result}, like real result → event real = event' result)
      (rest : ∀ {real result}, like real result → Mirrors (next real) (next' result)) :
      Mirrors (.step act event next) (.step act' event' next')

theorem Mirrors.bind {first first' : Prog W O E α} {rest rest' : α → Prog W O E β}
    (one : first.Mirrors first') (two : ∀ value, (rest value).Mirrors (rest' value)) :
    (first.bind rest).Mirrors (first'.bind rest') := by
  induction one with
  | ret value => exact two value
  | step like acts events _ ih => exact .step like acts events ih

/-- A program with one that stands in for it. -/
class Rehearsed (program : Prog W O E α) where
  plain : Prog W O E α
  mirrors : program.Mirrors plain

namespace Rehearsed

def standIn (program : Prog W O E α) [one : Rehearsed program] :
    { plain : Prog W O E α // program.Mirrors plain } :=
  ⟨one.plain, one.mirrors⟩

instance (value : α) : Rehearsed (.ret value : Prog W O E α) := ⟨.ret value, .ret value⟩

instance (first : Prog W O E α) (rest : α → Prog W O E β) [one : Rehearsed first]
    [two : ∀ value, Rehearsed (rest value)] : Rehearsed (first.bind rest) where
  plain := one.plain.bind fun value => (two value).plain
  mirrors := one.mirrors.bind fun value => (two value).mirrors

variable {ε : Type}

instance (value : α) : Rehearsed (Pure.pure value : ExceptT ε (Prog W O E) α).run :=
  ⟨.ret (.ok value), .ret _⟩

@[reducible] def seq {op : ExceptT ε (Prog W O E) α} {rest : α → ExceptT ε (Prog W O E) β}
    (one : Rehearsed op.run) (two : ∀ value, Rehearsed (rest value).run) :
    Rehearsed (op >>= rest).run where
  plain := one.plain.bind fun
    | .ok value => (two value).plain
    | .error err => .ret (.error err)
  mirrors := one.mirrors.bind fun
    | .ok value => (two value).mirrors
    | .error _ => .ret _

instance (op : ExceptT ε (Prog W O E) α) (rest : α → ExceptT ε (Prog W O E) β)
    [one : Rehearsed op.run] [two : ∀ value, Rehearsed (rest value).run] :
    Rehearsed (op >>= rest).run :=
  .seq one two

/-- To go on with a result is rehearsed when it is after a failure and after a success. -/
@[reducible] def result {next : Except ε α → Prog W O E β}
    (failed : ∀ err, Rehearsed (next (.error err))) (done : ∀ value, Rehearsed (next (.ok value))) :
    ∀ result, Rehearsed (next result)
  | .error err => failed err
  | .ok value => done value

@[reducible] def optional {next : Option α → Prog W O E β} (absent : Rehearsed (next none))
    (present : ∀ value, Rehearsed (next (some value))) : ∀ value, Rehearsed (next value)
  | none => absent
  | some value => present value

@[reducible] def ite {holds : Prop} [Decidable holds] {yes no : ExceptT ε (Prog W O E) α}
    (one : Rehearsed yes.run) (two : Rehearsed no.run) :
    Rehearsed (if holds then yes else no).run where
  plain := if holds then one.plain else two.plain
  mirrors := by
    split
    · exact one.mirrors
    · exact two.mirrors

instance (holds : Prop) [Decidable holds] (yes no : ExceptT ε (Prog W O E) α)
    [one : Rehearsed yes.run] [two : Rehearsed no.run] :
    Rehearsed (if holds then yes else no).run :=
  .ite one two

end Rehearsed

/-- The whole program with the answers in turn: what it returns, and the state it comes to. -/
def play (call : Nat) : Prog W O E α → List O → Shared W E → Option (α × Shared W E)
  | .ret value, _, s => some (value, s)
  | .step _ _ _, [], _ => none
  | .step act event next, answer :: answers, s => (act answer s.world).bind fun (result, world) =>
    (next result).play call answers (s.after call (event result) world)

/-- What a stand-in returns, the program returns. -/
theorem Goes.played {program plain} (mirrors : program.Mirrors plain) {call : Nat}
    {answers : List O} {s t after : Shared W E} {value : α} (alike : Alike s.world t.world)
    (told : s.history = t.history) (played : plain.play call answers t = some (value, after)) :
    ∃ s', Goes (fun _ _ _ => True) call program s (.ret value) s' ∧ Alike s'.world after.world ∧
      s'.history = after.history := by
  induction mirrors generalizing answers s t with
  | ret given =>
    cases some.inj played
    exact ⟨s, .here, alike, told⟩
  | @step _ _ _ event event' _ _ like acts events _ ih =>
    cases answers with
    | nil => cases played
    | cons answer answers =>
      obtain ⟨⟨result, world⟩, moves, later⟩ := bind_eq_some_iff.mp played
      obtain ⟨real, world', moves', alike', likely⟩ := acts alike moves
      have told' : (s.after call (event real) world').history =
          (t.after call (event' result) world).history := by
        simp only [Shared.after, told, events likely]
      have alike' : Alike (s.after call (event real) world').world
          (t.after call (event' result) world).world := alike'
      obtain ⟨s', goes, later⟩ := ih likely alike' told' later
      exact ⟨s', .step moves' trivial goes, later⟩

end Prog

namespace System

variable {W O E : Type} [Likeness W] {sys : System W O E}

/-- A system whose programs have others that stand in for them, or some of them have. -/
class Rehearsed (sys : System W O E) where
  start : ∀ node call, Option { plain : Prog W O E Unit // (sys.start node call).Mirrors plain }
  disturb : sys.Outside → W → Option W
  resets : ∀ node {s t}, Alike s t → Alike (sys.reset node s) (sys.reset node t)
  disturbs : ∀ {outside s t t'}, Alike s t → disturb outside t = some t' →
    ∃ s', sys.disturb outside s = some s' ∧ Alike s' t'

/-- One action of a rehearsal: a new call runs the program that stands in for its own. -/
def Config.rehearse [rehearsed : sys.Rehearsed] (cfg : sys.Config) (action : sys.Action) :
    Option sys.Config :=
  match action with
  | .spawn node call => (rehearsed.start node call).map fun plain => {
      shared := cfg.shared.after cfg.spawned (some (sys.started call)) cfg.shared.world
      spawned := cfg.spawned + 1
      calls := fun other =>
        if other = cfg.spawned then some (node, plain.1) else cfg.calls other }
  | .disturb outside => (rehearsed.disturb outside cfg.shared.world).map fun world =>
      { cfg with shared := { cfg.shared with world := world } }
  | action => cfg.perform action

/-- The actions in turn, as long as each of them is allowed. -/
def Config.play [sys.Rehearsed] (allows : sys.Config → sys.Action → Bool) (cfg : sys.Config) :
    List sys.Action → Option sys.Config
  | [] => some cfg
  | action :: rest =>
    if allows cfg action then (cfg.rehearse action).bind fun next => next.play allows rest else none

/-- A configuration and one of a rehearsal that stands in for it. -/
structure Config.Mirrors (cfg plan : sys.Config) : Prop where
  world : Alike cfg.shared.world plan.shared.world
  history : cfg.shared.history = plan.shared.history
  spawned : cfg.spawned = plan.spawned
  calls : ∀ call, Option.Rel (fun one other => one.1 = other.1 ∧ one.2.Mirrors other.2)
    (cfg.calls call) (plan.calls call)

namespace Config.Mirrors

variable {cfg plan next : sys.Config}

/-- A running call of a rehearsal and what it stands in for. -/
theorem running (mirrors : cfg.Mirrors plan) {call : Nat} {node} {β : Type} {act event rest}
    (runs : plan.calls call = some (node, .step act event rest)) {answer : O} {result : β}
    {world : W} (acts : act answer plan.shared.world = some (result, world)) :
    ∃ (act' : O → W → Option (β × W)) (event' : β → Option E) (rest' : β → Prog W O E Unit)
      (real : β) (world' : W), cfg.calls call = some (node, .step act' event' rest') ∧
      act' answer cfg.shared.world = some (real, world') ∧ Alike world' world ∧
      event' real = event result ∧ (rest' real).Mirrors (rest result) := by
  have related := mirrors.calls call
  rw [runs] at related
  rcases found : cfg.calls call with _ | ⟨node', program⟩
  · rw [found] at related
    cases related
  · rw [found] at related
    obtain ⟨rfl, standsIn⟩ := rel_some_some.mp related
    cases standsIn with
    | step like does events further =>
      obtain ⟨real, world', acts', alike, likely⟩ := does mirrors.world acts
      exact ⟨_, _, _, real, world', rfl, acts', alike, events likely, further likely⟩

/-- What a rehearsal shows of an action is what the action shows. -/
theorem event (mirrors : cfg.Mirrors plan) {action : sys.Action} {seen}
    (shown : action.event plan = some seen) : action.event cfg = some seen := by
  cases action with
  | run call answer =>
    simp only [Action.event] at shown
    split at shown
    · next runs =>
      obtain ⟨⟨result, world⟩, acts, rfl⟩ := map_eq_some_iff.mp shown
      obtain ⟨act, event, rest, real, world', runs', acts', -, same, -⟩ := mirrors.running runs acts
      simp [Action.event, runs', acts', same]
    · cases shown
  | spawn | crash | disturb => cases shown

/-- An action that was rehearsed can be performed. -/
theorem perform [sys.Rehearsed] (mirrors : cfg.Mirrors plan) {action}
    (rehearsed : plan.rehearse action = some next) :
    ∃ real, cfg.perform action = some real ∧ real.Mirrors next := by
  cases action with
  | spawn node call =>
    obtain ⟨plain, -, rfl⟩ := map_eq_some_iff.mp rehearsed
    refine ⟨_, rfl, mirrors.world, ?_, ?_, ?_⟩
    · simp only [Shared.after, mirrors.history, mirrors.spawned]
    · simp only [mirrors.spawned]
    · intro other
      simp only [mirrors.spawned]
      split
      · exact rel_some_some.mpr ⟨rfl, plain.2⟩
      · exact mirrors.calls other
  | run call answer =>
    simp only [rehearse, Config.perform] at rehearsed
    split at rehearsed
    · next node _ _ event _ runs =>
      obtain ⟨⟨result, world⟩, acts, rfl⟩ := map_eq_some_iff.mp rehearsed
      obtain ⟨act, event', rest, real, world', runs', acts', alike, same, further⟩ :=
        mirrors.running runs acts
      refine ⟨{ cfg with
        shared := cfg.shared.after call (event result) world'
        calls := fun other => if other = call then some (node, rest real) else cfg.calls other },
        by simp [Config.perform, runs', acts', same], alike, ?_, mirrors.spawned, ?_⟩
      · simp only [Shared.after, mirrors.history]
      · intro other
        dsimp only
        split
        · exact rel_some_some.mpr ⟨rfl, further⟩
        · exact mirrors.calls other
    · cases rehearsed
  | crash node =>
    cases rehearsed
    refine ⟨_, rfl, Rehearsed.resets node mirrors.world, mirrors.history, mirrors.spawned, ?_⟩
    intro other
    have related := mirrors.calls other
    dsimp only
    generalize cfg.calls other = one at related ⊢
    generalize plan.calls other = two at related ⊢
    cases related with
    | none => exact .none
    | @some one two standsIn =>
      have same := standsIn.1
      by_cases gone : two.1 = node
      · simp [Option.filter, same, gone]
      · simp [Option.filter, same, gone, standsIn.2]
  | disturb outside =>
    obtain ⟨world, moves, rfl⟩ := map_eq_some_iff.mp rehearsed
    obtain ⟨world', moves', alike⟩ := Rehearsed.disturbs mirrors.world moves
    have performed : cfg.perform (.disturb outside) =
        (sys.disturb outside cfg.shared.world).map _ := rfl
    rw [moves'] at performed
    exact ⟨_, performed, alike, mirrors.history, mirrors.spawned, mirrors.calls⟩

end Config.Mirrors

section

variable [sys.Rehearsed] {guard : sys.Config → sys.Action → Prop} {initial : W → Prop}
  {allows : sys.Config → sys.Action → Bool}
  (sound : ∀ cfg plan action, cfg.Mirrors plan → allows plan action = true → guard cfg action)

include sound

/-- What a rehearsal comes to, a run comes to. -/
theorem Reaches.rehearsed {cfg plan final actions}
    (reached : Reaches guard initial cfg) (mirrors : cfg.Mirrors plan)
    (played : plan.play allows actions = some final) :
    ∃ real, Reaches guard initial real ∧ cfg.performAll actions = some real ∧
    real.Mirrors final := by
  induction actions generalizing cfg plan with
  | nil =>
    cases played
    exact ⟨cfg, reached, rfl, mirrors⟩
  | cons action rest ih =>
    rw [Config.play] at played
    split at played
    · next allowed =>
      obtain ⟨next, first, later⟩ := bind_eq_some_iff.mp played
      obtain ⟨real, performed, mirrors'⟩ := mirrors.perform first
      obtain ⟨last, reached', all, mirrors''⟩ :=
        ih (.step reached (sound _ _ _ mirrors allowed) performed) mirrors' later
      exact ⟨last, reached', by rw [Config.performAll, performed, bind_some, all], mirrors''⟩
    · cases played

/-- What the end of a rehearsal shows, a run comes to. -/
theorem Reaches.shown {world : W} (start : initial world) (alike : Alike world world)
    {actions shows} [DecidablePred shows]
    (shown : ((System.idle world : sys.Config).play allows actions).any
      (fun plan => decide (shows plan)) = true) :
    ∃ cfg plan, Reaches guard initial cfg ∧ (System.idle world).performAll actions = some cfg ∧
      cfg.Mirrors plan ∧ shows plan := by
  rcases played : (System.idle world : sys.Config).play allows actions with _ | plan
  · rw [played] at shown
    cases shown
  · rw [played] at shown
    have begun : (System.idle world : sys.Config).Mirrors (System.idle world) :=
      ⟨alike, rfl, rfl, fun _ => .none⟩
    obtain ⟨cfg, reached, all, mirrors⟩ := Reaches.rehearsed sound (.idle start) begun played
    exact ⟨cfg, plan, reached, all, mirrors, of_decide_eq_true shown⟩

end

/-- An action whose event passes a check. -/
def Action.passes (check : Shared W E → Nat → Option E → Bool) (plan : sys.Config)
    (action : sys.Action) : Bool :=
  match action, action.event plan with
  | .run _ _, some (call, event) => check plan.shared call event
  | .run _ _, none => false
  | _, _ => true

theorem Guarded.of_passes {check : Shared W E → Nat → Option E → Bool} {passes}
    (sound : ∀ state plan call event, Alike state.world plan.world → state.history = plan.history →
      check plan call event = true → passes state call event)
    (cfg plan : sys.Config) (action : sys.Action) (mirrors : cfg.Mirrors plan)
    (passed : action.passes check plan = true) : Guarded passes cfg action := by
  intro call event seen
  cases action with
  | run number answer =>
    simp only [Action.passes] at passed
    rcases shown : (Action.run number answer : sys.Action).event plan with _ | ⟨number', event'⟩
    · rw [shown] at passed
      cases passed
    · rw [shown] at passed
      cases some.inj (seen.symm.trans (mirrors.event shown))
      exact sound _ _ _ _ mirrors.world mirrors.history passed
  | spawn | crash | disturb => cases seen

/-- A call is scheduled for so many steps with the same answer. -/
def Action.runs (call count : Nat) (answer : O) : List sys.Action :=
  List.replicate count (.run call answer)

end System

end Foundation
