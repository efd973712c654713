import AnoPki.Foundation.Basic

/-! # Lists that are gone through

A loop that ends at the first item it has a verdict on depends on the order of the items exactly
when it has both verdicts among them. A loop that keeps the item which replaces the one it has kept
ends with the same item in every order exactly when that item replaces all others and no other
replaces it. -/
namespace Foundation

open List

section Verdicts

variable {α : Type} {verdict : α → Option Bool} {items : List α}

/-- The loop that returns at the first verdict, and `false` after the last item. -/
def firstVerdict (verdict : α → Option Bool) (items : List α) : Bool :=
  (items.findSome? verdict).getD false

theorem firstVerdict_of_no_true (never : ∀ item ∈ items, verdict item ≠ some true) :
    firstVerdict verdict items = false := by
  rw [firstVerdict]
  rcases found : items.findSome? verdict with _ | answer
  · rfl
  · obtain ⟨item, inside, given⟩ := exists_of_findSome?_eq_some found
    cases answer with
    | false => rfl
    | true => exact absurd given (never item inside)

theorem firstVerdict_of_no_false (never : ∀ item ∈ items, verdict item ≠ some false) :
    firstVerdict verdict items = true ↔ ∃ item ∈ items, verdict item = some true := by
  rw [firstVerdict]
  rcases found : items.findSome? verdict with _ | answer
  · have silent := List.findSome?_eq_none_iff.mp found
    simp only [Option.getD_none, Bool.false_eq_true, false_iff]
    rintro ⟨item, inside, given⟩
    rw [silent item inside] at given
    cases given
  · obtain ⟨item, inside, given⟩ := exists_of_findSome?_eq_some found
    cases answer with
    | false => exact absurd given (never item inside)
    | true => exact ⟨fun _ => ⟨item, inside, given⟩, fun _ => rfl⟩

/-- Every order of the items has the same outcome unless both verdicts are among them. -/
theorem firstVerdict_perm_iff [DecidableEq α] : (∀ other : List α, other.Perm items →
      firstVerdict verdict other = firstVerdict verdict items) ↔
      ¬ ((∃ item ∈ items, verdict item = some true) ∧
        ∃ item ∈ items, verdict item = some false) := by
  constructor
  · rintro same ⟨⟨yes, yesInside, accepts⟩, no, noInside, refuses⟩
    have first := same _ (perm_cons_erase yesInside).symm
    have second := same _ (perm_cons_erase noInside).symm
    simp only [firstVerdict, List.findSome?_cons, accepts, refuses,
      Option.getD_some] at first second
    exact absurd (first.trans second.symm) (by decide)
  · intro one other perm
    by_cases accepted : ∃ item ∈ items, verdict item = some true
    · have never : ∀ item ∈ items, verdict item ≠ some false :=
        fun item inside refuses => one ⟨accepted, item, inside, refuses⟩
      obtain ⟨item, inside, accepts⟩ := accepted
      rw [(firstVerdict_of_no_false never).mpr ⟨item, inside, accepts⟩]
      exact (firstVerdict_of_no_false fun item there => never item (perm.mem_iff.mp there)).mpr
        ⟨item, perm.mem_iff.mpr inside, accepts⟩
    · have never : ∀ item ∈ items, verdict item ≠ some true :=
        fun item inside accepts => accepted ⟨item, inside, accepts⟩
      rw [firstVerdict_of_no_true never]
      exact firstVerdict_of_no_true fun item there => never item (perm.mem_iff.mp there)

end Verdicts

section Keeping

variable {α : Type} {replaces : α → α → Prop} [DecidableRel replaces]
  {items rest : List α} {top : α}

/-- One turn of the loop that keeps an item. -/
def keepItem (replaces : α → α → Prop) [DecidableRel replaces] (kept : Option α)
    (item : α) : Option α :=
  match kept with
  | none => some item
  | some current => if replaces item current then some item else some current

theorem foldl_keepItem_mem {current last : α}
    (kept : rest.foldl (keepItem replaces) (some current) = some last) :
    last = current ∨ last ∈ rest := by
  induction rest generalizing current with
  | nil => exact .inl (Option.some.inj kept).symm
  | cons item rest ih =>
    rw [foldl_cons, keepItem] at kept
    split at kept
    · exact .inr (by simpa using ih kept)
    · rcases ih kept with same | inside
      · exact .inl same
      · exact .inr (mem_cons_of_mem _ inside)

theorem foldl_keepItem_stays (holds : ∀ item ∈ rest, ¬ replaces item top) :
    rest.foldl (keepItem replaces) (some top) = some top := by
  induction rest with
  | nil => rfl
  | cons item rest ih =>
    rw [foldl_cons, keepItem, if_neg (holds item mem_cons_self)]
    exact ih fun other inside => holds other (mem_cons_of_mem _ inside)

/-- Two different items come first, and the loop goes on from the second of them or from the
first. -/
theorem not_replaced_of_first [DecidableEq α] (nodup : items.Nodup) (inside : top ∈ items)
    (ends : ∀ other : List α, other.Perm items → other.foldl (keepItem replaces) none = some top)
    {item : α} (there : item ∈ items) (differs : item ≠ top) :
    replaces top item ∧ ¬ replaces item top := by
  have later : item ∈ items.erase top := (mem_erase_of_ne differs).mpr there
  have split : items.Perm (top :: item :: (items.erase top).erase item) :=
    (perm_cons_erase inside).trans ((perm_cons_erase later).cons top)
  have gone : top ∉ (items.erase top).erase item := fun still =>
    nodup.not_mem_erase (mem_of_mem_erase still)
  -- Whatever is kept in place of the top item at this point, the top item does not come again.
  have lost : ((items.erase top).erase item).foldl (keepItem replaces) (some item) ≠ some top := by
    intro kept
    rcases foldl_keepItem_mem kept with same | inside
    · exact differs same.symm
    · exact gone inside
  constructor
  · by_contra holds
    have kept := ends _ ((split.trans (.swap _ _ _)).symm)
    rw [foldl_cons, foldl_cons, keepItem, keepItem, if_neg holds] at kept
    exact lost kept
  · intro replaced
    have kept := ends _ split.symm
    rw [foldl_cons, foldl_cons, keepItem, keepItem, if_pos replaced] at kept
    exact lost kept

/-- The item that every order of the items ends with. -/
theorem foldl_keepItem_perm_iff [DecidableEq α] (nodup : items.Nodup) (inside : top ∈ items) :
    (∀ other : List α, other.Perm items → other.foldl (keepItem replaces) none = some top) ↔
      ∀ item ∈ items, item ≠ top → replaces top item ∧ ¬ replaces item top := by
  constructor
  · intro ends item there differs
    exact not_replaced_of_first nodup inside ends there differs
  · intro first other perm
    obtain ⟨before, after, rfl⟩ := append_of_mem (perm.mem_iff.mpr inside)
    have apart := (perm.nodup_iff.mpr nodup)
    have fresh : ∀ item ∈ before ++ after, item ≠ top := by
      rintro item member rfl
      exact (nodup_middle.mp apart).notMem member
    have known : ∀ item ∈ before ++ after, replaces top item ∧ ¬ replaces item top := by
      intro item member
      refine first item (perm.mem_iff.mp ?_) (fresh item member)
      rcases mem_append.mp member with left | right
      · exact mem_append_left _ left
      · exact mem_append_right _ (mem_cons_of_mem _ right)
    have taken : keepItem replaces (before.foldl (keepItem replaces) none) top = some top := by
      cases before with
      | nil => rfl
      | cons item before =>
        rw [foldl_cons, keepItem]
        rcases kept : before.foldl (keepItem replaces) (some item) with _ | last
        · rfl
        · rw [keepItem, if_pos (known last ?_).1]
          rcases foldl_keepItem_mem kept with rfl | later
          · exact mem_append_left _ mem_cons_self
          · exact mem_append_left _ (mem_cons_of_mem _ later)
    rw [foldl_append, foldl_cons, taken]
    exact foldl_keepItem_stays fun item member => (known item (mem_append_right _ member)).2

end Keeping

/-- The orders of the items that pass a test come from the orders of all items. -/
theorem forall_perm_filter_iff {α : Type} {test items} {holds : List α → Prop} :
    (∀ visited : List α, visited.Perm items → holds (visited.filter test)) ↔
      ∀ other : List α, other.Perm (items.filter test) → holds other := by
  constructor
  · intro all other perm
    have whole : (other ++ items.filter (fun item => !test item)).Perm items :=
      (perm.append_right _).trans (filter_append_perm test items)
    have passing : other.filter test = other :=
      filter_eq_self.mpr fun item inside => (mem_filter.mp (perm.subset inside)).2
    have failing : (items.filter fun item => !test item).filter test = [] := by
      simp
    have there := all _ whole
    rwa [filter_append, passing, failing, append_nil] at there
  · intro all visited perm
    exact all _ (perm.filter test)

end Foundation
