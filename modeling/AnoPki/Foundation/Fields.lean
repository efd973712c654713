import Mathlib

/-! # Fields between separators

A reader that splits its input at a separator and skips empty pieces reads back what a printer wrote
with a separator before each field, or before each but the first. -/
namespace Foundation

open List Option

theorem mapM_eq_some_iff {α β : Type*} {read} {items : List α} {values : List β} :
    items.mapM read = some values ↔ List.Forall₂
    (fun item value => read item = some value) items values := by
  induction items generalizing values with
  | nil => simp [eq_comm]
  | cons item items ih =>
    rw [mapM_cons, forall₂_cons_left_iff, bind_eq_bind, bind_eq_some_iff]
    refine exists_congr fun value => ?_
    rw [bind_eq_bind, bind_eq_some_iff]
    constructor
    · rintro ⟨here, rest, there, same⟩
      exact ⟨rest, here, ih.mp there, (Option.some.inj same).symm⟩
    · rintro ⟨rest, here, there, rfl⟩
      exact ⟨here, rest, ih.mpr there, rfl⟩

theorem exists_of_mem_forall₂ {α β : Type*} {R} {items : List α} {values}
    (related : List.Forall₂ R items values) {value : β} (inside : value ∈ values) :
    ∃ item ∈ items, R item value := by
  induction related with
  | nil => cases inside
  | @cons item first items values here _ ih =>
    rcases mem_cons.mp inside with rfl | later
    · exact ⟨item, mem_cons_self, here⟩
    · obtain ⟨item, there, holds⟩ := ih later
      exact ⟨item, mem_cons_of_mem _ there, holds⟩

theorem mem_intercalate_of_mem {α : Type*} {separator text : List α} {texts} {c : α}
    (inside : text ∈ texts) (here : c ∈ text) : c ∈ separator.intercalate texts := by
  induction texts with
  | nil => cases inside
  | cons first texts ih =>
    cases texts with
    | nil =>
      rw [mem_singleton] at inside
      simpa [← inside] using here
    | cons next texts =>
      rw [intercalate_cons_cons]
      rcases mem_cons.mp inside with rfl | later
      · exact mem_append_left _ (mem_append_left _ here)
      · exact mem_append_right _ (ih later)

section Fields

variable {α : Type*} [DecidableEq α] {separator : α}

/-- The pieces between separators that are not empty. -/
def fields (separator : α) (text : List α) : List (List α) :=
  (text.splitOn separator).filter (· ≠ [])

@[simp] theorem fields_nil : fields separator [] = [] := by
  simp [fields]

@[simp] theorem fields_separator (text : List α) :
    fields separator (separator :: text) = fields separator text := by
  simp [fields, splitOn_cons_eq_if_modifyHead]

theorem fields_alone {field} (apart : separator ∉ field) (filled : field ≠ []) :
    fields separator field = [field] := by
  rw [fields, splitOn_eq_singleton apart, filter_singleton]
  simp [filled]

theorem fields_before {field rest} (apart : separator ∉ field) (filled : field ≠ []) :
    fields separator (field ++ separator :: rest) = field :: fields separator rest := by
  rw [fields, splitOn_append_cons_self_of_not_mem apart,
    filter_cons_of_pos (by simpa using filled), fields]

/-- What was written with a separator before each field is read back. -/
theorem fields_flatMap {items : List β} {write}
    (apart : ∀ item ∈ items, separator ∉ write item) (filled : ∀ item ∈ items, write item ≠ []) :
    fields separator (items.flatMap fun item => separator :: write item) = items.map write := by
  induction items with
  | nil => simp
  | cons item items ih =>
    rw [forall_mem_cons] at apart filled
    have later := ih apart.2 filled.2
    rw [flatMap_cons, cons_append, fields_separator]
    cases items with
    | nil => simp [fields_alone apart.1 filled.1]
    | cons next items =>
      rw [flatMap_cons, cons_append, fields_separator] at later
      rw [flatMap_cons, cons_append, fields_before apart.1 filled.1, later]
      rfl

/-- No piece of a list that is split at an element holds it. -/
theorem not_mem_of_mem_splitOn {text field : List α} (piece : field ∈ text.splitOn separator) :
    separator ∉ field := by
  induction text generalizing field with
  | nil =>
    rw [splitOn_nil, mem_singleton] at piece
    simp [piece]
  | cons c text ih =>
    rw [splitOn_cons_eq_if_modifyHead] at piece
    split at piece
    · rcases mem_cons.mp piece with rfl | later
      · exact not_mem_nil
      · exact ih later
    · next other =>
      -- The first piece grows by one character, and the others stay.
      cases pieces : text.splitOn separator with
      | nil => exact absurd pieces (splitOn_ne_nil separator text)
      | cons first others =>
        rw [pieces, modifyHead_cons] at piece
        rw [pieces] at ih
        rcases mem_cons.mp piece with rfl | later
        · have apart : separator ∉ first := ih mem_cons_self
          have different : separator ≠ c := fun same => other (by simp [same])
          exact not_mem_cons_of_ne_of_not_mem different apart
        · exact ih (mem_cons_of_mem _ later)

theorem not_mem_of_mem_fields {text field : List α} (inside : field ∈ fields separator text) :
    separator ∉ field :=
  not_mem_of_mem_splitOn (mem_filter.mp inside).1

end Fields

end Foundation
