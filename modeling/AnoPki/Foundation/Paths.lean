import AnoPki.Foundation.Concurrent

/-! # Paths through a program

A path follows a program to its end through any answers and any worlds: whatever others do between
the steps, what a run of the program leaves and returns is that of a path. -/
namespace Foundation

open List

variable {W O E ε α β : Type}

/-- The program may leave these events and return this value. -/
inductive Prog.Path : {α : Type} → Prog W O E α → List E → α → Prop
  | ret {α : Type} {value : α} : Path (.ret value) [] value
  | step {α β : Type} {act : O → W → Option (β × W)} {event : β → Option E}
      {next : β → Prog W O E α} {answer : O} {world after : W} {result : β}
      {events : List E} {value : α} (acts : act answer world = some (result, after))
      (rest : Path (next result) events value) :
      Path (.step act event next) ((event result).toList ++ events) value

namespace Prog.Path

theorem ret_iff {given value : α} {events} :
    Path (.ret given : Prog W O E α) events value ↔ events = [] ∧ value = given := by
  constructor
  · rintro ⟨⟩
    exact ⟨rfl, rfl⟩
  · rintro ⟨rfl, rfl⟩
    exact .ret

/-- A path through one step leaves the event of its result. -/
theorem of_step {act : O → W → Option (α × W)} {event} {events : List E} {value : α}
    (path : Path (.step act event .ret) events value) : events = (event value).toList := by
  cases path with
  | step acts rest =>
    obtain ⟨rfl, rfl⟩ := ret_iff.mp rest
    exact append_nil _

/-- A path through a sequence goes through its first part and then through the second. -/
theorem of_bind {first : Prog W O E α} {rest events} {value : β}
    (path : (first.bind rest).Path events value) : ∃ middle front back, first.Path front middle ∧
      (rest middle).Path back value ∧ events = front ++ back := by
  induction first generalizing events with
  | ret given => exact ⟨given, [], events, .ret, path, rfl⟩
  | step act event next ih =>
    cases path with
    | step acts continues =>
      obtain ⟨middle, front, back, through, along, rfl⟩ := ih _ continues
      exact ⟨middle, _, back, .step acts through, along, (append_assoc _ _ _).symm⟩

/-- A path through a sequence that may fail. -/
theorem of_seq {op : ExceptT ε (Prog W O E) α} {rest events}
    {result : Except ε β} (path : Path (op >>= rest).run events result) :
    (∃ err, result = .error err ∧ Path op.run events (.error err)) ∨
      ∃ value front back, Path op.run front (.ok value) ∧ Path (rest value).run back result ∧
        events = front ++ back := by
  obtain ⟨middle, front, back, through, along, rfl⟩ := of_bind path
  cases middle with
  | error err =>
    obtain ⟨rfl, rfl⟩ := ret_iff.mp along
    refine .inl ⟨err, rfl, ?_⟩
    rwa [append_nil]
  | ok value => exact .inr ⟨value, front, back, through, along, rfl⟩

end Prog.Path

/-- The program leaves no event. -/
def Prog.Quiet (op : ExceptT ε (Prog W O E) α) : Prop :=
  ∀ events result, Prog.Path op.run events result → events = []

namespace Prog.Quiet

variable {op : ExceptT ε (Prog W O E) α} {rest : α → ExceptT ε (Prog W O E) β}

theorem result (outcome : Except ε α) :
    Quiet (ExceptT.mk (.ret outcome) : ExceptT ε (Prog W O E) α) :=
  fun _ _ path => (Path.ret_iff.mp path).1

/-- After a part that leaves no event, a sequence has failed or goes on. -/
theorem seq (quiet : Quiet op) {events outcome} (path : Path (op >>= rest).run events outcome) :
    (events = [] ∧ ∃ err, outcome = .error err) ∨
    ∃ value, Path (rest value).run events outcome := by
  rcases Path.of_seq path with ⟨err, rfl, through⟩ | ⟨value, front, back, through, along, rfl⟩
  · exact .inl ⟨quiet _ _ through, err, rfl⟩
  · rw [quiet _ _ through, nil_append]
    exact .inr ⟨value, along⟩

theorem bind (quiet : Quiet op) (following : ∀ value, Quiet (rest value)) :
    Quiet (op >>= rest) := by
  intro events outcome path
  rcases quiet.seq path with ⟨silent, -⟩ | ⟨value, along⟩
  · exact silent
  · exact following value events outcome along

theorem attempt (quiet : Quiet op) :
    Quiet (ExceptT.mk (Prog.bind op.run fun result => .ret (.ok result)) :
      ExceptT ε (Prog W O E) (Except ε α)) := by
  intro events outcome path
  obtain ⟨middle, front, back, through, along, rfl⟩ := Path.of_bind path
  rw [quiet _ _ through, (Path.ret_iff.mp along).1]
  rfl

end Prog.Quiet

end Foundation
