import Mathlib

/-! # Signed machine integers and fallible results

Two facts on the successor of a 64-bit signed integer, which wraps around, and the lemmas that take
a successful computation apart at a bind and along a list. -/
namespace Foundation

open Int64 List

/-- A positive successor of a nonnegative number did not wrap around. -/
theorem Int64.toInt_succ {n : Int64} (nonnegative : 0 ≤ n.toInt) (positive : 0 < n + 1) :
    (n + 1).toInt = n.toInt + 1 := by
  have high := n.toInt_lt
  rw [lt_iff_toInt_lt, toInt_add] at positive
  rw [toInt_add]
  simp only [Int.bmod, show (1 : Int64).toInt = 1 from rfl, show (0 : Int64).toInt =
    0 from rfl] at *
  omega

/-- The successor of a number below the largest does not wrap around. -/
theorem Int64.succ_pos {n : Int64} (nonnegative : 0 ≤ n.toInt) (small : n.toInt + 1 < 2 ^ 63) :
    0 < n + 1 := by
  rw [lt_iff_toInt_lt, toInt_add]
  simp only [Int.bmod, show (1 : Int64).toInt = 1 from rfl, show (0 : Int64).toInt = 0 from rfl]
  omega

/-- The successor is the next number modulo `2 ^ 64`. -/
theorem Int64.toInt_succ_emod (n : Int64) :
    (n + 1).toInt % 18446744073709551616 = (n.toInt + 1) % 18446744073709551616 := by
  rw [toInt_add]
  exact Int.bmod_emod

variable {ε α β : Type}

theorem Except.bind_eq_ok {x} {f : α → Except ε β} {b : β} :
    (x >>= f) = .ok b ↔ ∃ a, x = .ok a ∧ f a = .ok b := by
  cases x with
  | error e | ok a => simp [bind, Except.bind]

theorem Except.bind_eq_error {x} {f : α → Except ε β} {e : ε} :
    (x >>= f) = .error e ↔ x = .error e ∨ ∃ a, x = .ok a ∧ f a = .error e := by
  cases x with
  | error e | ok a => simp [bind, Except.bind]

theorem Except.mapM_eq_ok {f : α → Except ε β} {items : List α} {results} :
    items.mapM f = .ok results ↔
      List.Forall₂ (fun item result => f item = .ok result) items results := by
  induction items generalizing results with
  | nil => simp [pure, Except.pure, eq_comm]
  | cons item items ih =>
    rw [mapM_cons, forall₂_cons_left_iff, bind_eq_ok]
    constructor
    · rintro ⟨result, first, rest⟩
      obtain ⟨others, later, whole⟩ := bind_eq_ok.mp rest
      exact ⟨result, others, first, ih.mp later, (Except.ok.inj whole).symm⟩
    · rintro ⟨result, others, first, later, rfl⟩
      exact ⟨result, first, bind_eq_ok.mpr ⟨others, ih.mpr later, rfl⟩⟩

section Common

variable {γ : Type} {R : α → β → Prop} {S : α → γ → Prop} {T : β → γ → Prop} {items : List α}
  {left : List β} {right : List γ}

/-- Two lists that go along with a third go along with each other. -/
theorem forall₂_common (one : List.Forall₂ R items left) (other : List.Forall₂ S items right)
    (meet : ∀ item x y, (item, y) ∈ items.zip right → R item x → T x y) :
    List.Forall₂ T left right := by
  induction one generalizing right with
  | nil =>
    cases other
    exact .nil
  | cons first _ ih =>
    cases other with
    | cons second rest =>
      refine .cons (meet _ _ _ mem_cons_self first) (ih rest ?_)
      intro item x y inside
      exact meet item x y (mem_cons_of_mem _ inside)

/-- The middle one of three lists that go along with each other. -/
theorem exists_of_forall₂ (one : List.Forall₂ R items left) (other : List.Forall₂ T left right)
    {pair} (inside : pair ∈ items.zip right) : ∃ x, R pair.1 x ∧ T x pair.2 := by
  induction one generalizing right with
  | nil => cases inside
  | cons first _ ih =>
    cases other with
    | cons second rest =>
      rcases mem_cons.mp inside with rfl | inside
      · exact ⟨_, first, second⟩
      · exact ih rest inside

end Common

end Foundation
