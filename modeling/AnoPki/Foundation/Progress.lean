import AnoPki.Foundation.Concurrent

/-! # Programs that come to a point

What a call can do when it is scheduled alone for a while. A program goes from a state to a point in
it, step by step with answers of the outside that suit it; programs are put together as their parts
go. -/
namespace Foundation

namespace Prog

variable {W O E α β : Type}

/-- Scheduled alone, the program comes from one state to a point in another. Every step on the way
passes the guard. -/
inductive Goes (passes : Shared W E → Nat → Option E → Prop) (call : Nat) :
    Prog W O E α → Shared W E → Prog W O E α → Shared W E → Prop
  | here {program : Prog W O E α} {s : Shared W E} : Goes passes call program s program s
  | step {β : Type} {act : O → W → Option (β × W)} {event : β → Option E}
      {next : β → Prog W O E α} {s t : Shared W E} {answer : O} {result : β} {world : W}
      {point : Prog W O E α} (acts : act answer s.world = some (result, world))
      (allowed : passes s call (event result))
      (rest : Goes passes call (next result) (s.after call (event result) world) point t) :
      Goes passes call (.step act event next) s point t

variable {passes : Shared W E → Nat → Option E → Prop} {call : Nat}

theorem Goes.trans {first second third : Prog W O E α} {s t u}
    (one : Goes passes call first s second t) (two : Goes passes call second t third u) :
    Goes passes call first s third u := by
  induction one with
  | here => exact two
  | step acts allowed _ ih => exact .step acts allowed (ih two)

/-- A part of a program goes on inside of it. -/
theorem Goes.bind {first point s t}
    (goes : Goes passes call first s point t) (rest : α → Prog W O E β) :
    Goes passes call (first.bind rest) s (point.bind rest) t := by
  induction goes with
  | here => exact .here
  | step acts allowed _ ih => exact .step acts allowed ih

/-- One part after the other. -/
theorem Goes.followed {first : Prog W O E α} {rest} {value : α}
    {point : Prog W O E β} {s t u} (one : Goes passes call first s (.ret value) t)
    (two : Goes passes call (rest value) t point u) :
    Goes passes call (first.bind rest) s point u :=
  (one.bind rest).trans two

theorem Goes.ret_iff {given : α} {point : Prog W O E α} {s t} :
    Goes passes call (.ret given) s point t ↔ point = .ret given ∧ t = s := by
  constructor
  · rintro ⟨⟩
    exact ⟨rfl, rfl⟩
  · rintro ⟨rfl, rfl⟩
    exact .here

/-- A sequence that comes to its end comes through the end of its first part. -/
theorem Goes.of_bind {first} {rest : α → Prog W O E β} {value : β} {s u}
    (goes : Goes passes call (first.bind rest) s (.ret value) u) : ∃ middle t,
      Goes passes call first s (.ret middle) t ∧
      Goes passes call (rest middle) t (.ret value) u := by
  induction first generalizing s with
  | ret given => exact ⟨given, s, .here, goes⟩
  | step act event next ih =>
    cases goes with
    | step acts allowed continues =>
      obtain ⟨middle, t, one, two⟩ := ih _ continues
      exact ⟨middle, t, .step acts allowed one, two⟩

end Prog

namespace System

variable {W O E : Type} {sys : System W O E}

/-- Every step of a call passes a guard on the state before it, the call and the event it leaves. -/
def Guarded (passes : Shared W E → Nat → Option E → Prop) (cfg : sys.Config)
    (action : sys.Action) : Prop :=
  ∀ call event, action.event cfg = some (call, event) → passes cfg.shared call event

end System

end Foundation
