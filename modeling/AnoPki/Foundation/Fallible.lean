import AnoPki.Foundation.Concurrent

/-! # Programs that may fail

A program of atomic steps that ends in a value or in an error. The rules say when such a program
keeps to a discipline and what is known of the value it returns; nothing is promised of an error. -/
namespace Foundation

variable {W O E ε α β : Type} {D : Discipline W E} {call : Nat}

/-- The program keeps to the discipline, and a value it returns satisfies the postcondition. -/
def Prog.MeetsOk (D : Discipline W E) (call : Nat) (op : ExceptT ε (Prog W O E) α)
    (post : α → Shared W E → Prop) (s : Shared W E) : Prop :=
  Prog.Meets D call op.run (fun result t => ∀ value, result = .ok value → post value t) s

namespace Prog.MeetsOk

variable {op : ExceptT ε (Prog W O E) α} {post post' : α → Shared W E → Prop} {s : Shared W E}

theorem pure {value : α} (holds : post value s) :
    MeetsOk D call (Pure.pure value : ExceptT ε (Prog W O E) α) post s := by
  rintro _ ⟨⟩
  exact holds

theorem result {outcome} : MeetsOk D call (ExceptT.mk (.ret outcome) : ExceptT ε (Prog W O E) α)
      (fun value _ => outcome = .ok value) s :=
  fun _ same => same

/-- A result that was computed leaves the state as it is. -/
theorem computed {outcome} : MeetsOk D call (ExceptT.mk (.ret outcome) : ExceptT ε (Prog W O E) α)
      (fun value t => outcome = .ok value ∧ t = s) s :=
  fun _ same => ⟨same, rfl⟩

theorem mono (meets : MeetsOk D call op post s)
    (weaker : ∀ value t, D.later s t → post value t → post' value t) :
    MeetsOk D call op post' s := by
  refine Prog.Meets.mono meets ?_
  intro result t later holds value same
  exact weaker value t later (holds value same)

theorem seq {rest} {after : β → Shared W E → Prop} (first : MeetsOk D call op post s)
    (continues : ∀ value t, D.later s t → post value t → MeetsOk D call (rest value) after t) :
    MeetsOk D call (op >>= rest) after s := by
  refine Prog.Meets.bind (Prog.Meets.mono first ?_)
  intro result t later holds
  cases result with
  | error err =>
    rintro _ ⟨⟩
  | ok value => exact continues value t later (holds value rfl)

/-- The result of a program is known whether it failed or not. -/
theorem attempt (meets : MeetsOk D call op post s) : MeetsOk D call
      (ExceptT.mk (Prog.bind op.run fun result => .ret (.ok result)) :
        ExceptT ε (Prog W O E) (Except ε α))
      (fun result t => ∀ value, result = .ok value → post value t) s := by
  refine Prog.Meets.bind (Prog.Meets.mono meets ?_)
  intro result t later holds value same
  cases same
  exact holds

theorem ite {holds} [Decidable holds] {yes no : ExceptT ε (Prog W O E) α}
    (left : holds → MeetsOk D call yes post s) (right : ¬ holds → MeetsOk D call no post s) :
    MeetsOk D call (if holds then yes else no) post s := by
  split
  · exact left ‹_›
  · exact right ‹_›

/-- One atomic step. -/
theorem step {act event}
    (spec : ∀ now, D.later s now → now.own call = s.own call → D.inv now → ∀ answer result world,
      act answer now.world = some (result, world) →
      D.change call now (event result) world ∧
        ∀ value, result = .ok value → post value (now.after call (event result) world)) :
    MeetsOk D call (ExceptT.mk (.step act event .ret) : ExceptT ε (Prog W O E) α) post s :=
  spec

end Prog.MeetsOk

end Foundation
