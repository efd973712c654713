import Mathlib

/-! # Names in labels

A name is split into labels at a separator. Whether the labels of one name are the last labels of
another can be told from the characters of the two names alone. -/
namespace Foundation

open List

section Intercalate

variable {α : Type} {separator : α}

/-- Two runs of pieces are joined by a separator. -/
theorem intercalate_append {front back} (front_ne : front ≠ []) (back_ne : back ≠ []) :
    [separator].intercalate (front ++ back) =
      [separator].intercalate front ++ separator :: [separator].intercalate back := by
  induction front with
  | nil => exact absurd rfl front_ne
  | cons piece rest ih =>
    by_cases last : rest = []
    · subst last
      rw [singleton_append, intercalate_cons_of_ne_nil back_ne]
      simp
    · rw [cons_append, intercalate_cons_of_ne_nil (by simp [last]), ih last,
        intercalate_cons_of_ne_nil last]
      simp

end Intercalate

variable {α : Type} [BEq α] [LawfulBEq α] {separator : α} {base name : List α}

theorem splitOn_append_cons (front : List α) : (front ++ separator :: base).splitOn separator =
      front.splitOn separator ++ base.splitOn separator :=
  splitOnP_append_cons front base (beq_self_eq_true separator)

/-- A name ends in a separator and a base if it has the labels of the base behind others. -/
theorem cons_isSuffix_iff : separator :: base <:+ name ↔
    ∃ front ≠ [], name.splitOn separator = front ++ base.splitOn separator := by
  constructor
  · rintro ⟨front, rfl⟩
    exact ⟨front.splitOn separator, splitOn_ne_nil _ _, splitOn_append_cons front⟩
  · rintro ⟨front, nonempty, same⟩
    refine ⟨[separator].intercalate front, ?_⟩
    have joined := congrArg [separator].intercalate same
    rw [intercalate_append nonempty (splitOn_ne_nil _ _), intercalate_splitOn,
      intercalate_splitOn] at joined
    exact joined.symm

/-- The labels of a base are the last labels of a name if the name is the base, or ends in a
separator and the base. -/
theorem splitOn_isSuffix_iff : base.splitOn separator <:+ name.splitOn separator ↔
    name = base ∨ separator :: base <:+ name := by
  rw [cons_isSuffix_iff]
  constructor
  · rintro ⟨front, same⟩
    by_cases whole : front = []
    · subst whole
      have joined := congrArg [separator].intercalate same
      rw [nil_append, intercalate_splitOn, intercalate_splitOn] at joined
      exact .inl joined.symm
    · exact .inr ⟨front, whole, same.symm⟩
  · rintro (rfl | ⟨front, -, same⟩)
    · exact List.suffix_refl _
    · exact ⟨front, same.symm⟩

end Foundation
