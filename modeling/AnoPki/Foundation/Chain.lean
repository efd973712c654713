import Mathlib

/-! # Chains of accepted entries

An acceptor moves from one chain point to the next by consuming an entry, or refuses it. A chain is
a list of entries accepted one after the other. `Chain.committed` is the tamper-evidence argument:
when a point determines the entry and the point before it, the final point of a chain determines
the whole chain. -/
namespace Foundation

open Option

variable {Point Entry : Type}

/-- The point a list of entries leads to, when each is accepted in turn. -/
def chain (accept : Point → Entry → Option Point) : Point → List Entry → Option Point
  | point, [] => some point
  | point, entry :: rest => (accept point entry).bind fun next => chain accept next rest

namespace Chain

variable {accept : Point → Entry → Option Point}

@[simp] theorem nil (point : Point) : chain accept point [] = some point := rfl

theorem cons_eq_some {point final entry rest} : chain accept point (entry :: rest) = some final ↔
      ∃ next, accept point entry = some next ∧ chain accept next rest = some final :=
  bind_eq_some_iff

theorem append (point : Point) (front back : List Entry) : chain accept point (front ++ back) =
      (chain accept point front).bind fun middle => chain accept middle back := by
  induction front generalizing point with
  | nil => rfl
  | cons entry rest ih =>
    simp only [List.cons_append, chain, bind_assoc]
    congr
    funext next
    exact ih next

theorem append_eq_some {point final front back} : chain accept point (front ++ back) = some final ↔
      ∃ middle, chain accept point front = some middle ∧ chain accept middle back = some final := by
  rw [append]
  exact bind_eq_some_iff

theorem snoc_eq_some {point final front entry} :
      chain accept point (front ++ [entry]) = some final ↔
      ∃ middle, chain accept point front = some middle ∧ accept middle entry = some final := by
  simp [append_eq_some, cons_eq_some]

/-- A property that every accepted entry carries on holds at the end of a chain. -/
theorem preserves {holds : Point → Prop}
    (step : ∀ {point entry next}, accept point entry = some next → holds point → holds next)
    {point final entries}
    (accepted : chain accept point entries = some final) (initially : holds point) :
    holds final := by
  induction entries generalizing point with
  | nil => exact Option.some.inj accepted ▸ initially
  | cons entry rest ih =>
    obtain ⟨next, first, tail⟩ := cons_eq_some.mp accepted
    exact ih tail (step first initially)

/-- Two chains from one point to one point agree entry by entry, when a point determines how it was
reached and no part of either chain leads back to its start. -/
theorem committed {agree : Entry → Entry → Prop} {good : Point → Prop} {start final left right}
    (initially : good start)
    (step : ∀ {point entry next}, accept point entry = some next → good point → good next)
    (noReturn : ∀ entries, entries <+: left ∨ entries <+: right →
      chain accept start entries = some start → entries = [])
    (backward : ∀ entry ∈ left, ∀ entry' ∈ right, ∀ {point point' next}, good point → good point' →
      accept point entry = some next → accept point' entry' = some next →
        point = point' ∧ agree entry entry') (leftChain : chain accept start left = some final)
    (rightChain : chain accept start right = some final) : List.Forall₂ agree left right := by
  -- The chains are compared from their common end.
  induction left using List.reverseRecOn generalizing right final with
  | nil =>
    cases leftChain
    rw [noReturn right (.inr List.prefix_rfl) rightChain]
    exact .nil
  | append_singleton front entry ih =>
    cases right using List.reverseRecOn with
    | nil =>
      cases rightChain
      exact absurd (noReturn _ (.inl List.prefix_rfl) leftChain) (by simp)
    | append_singleton front' entry' =>
      obtain ⟨point, leftFront, leftLast⟩ := snoc_eq_some.mp leftChain
      obtain ⟨point', rightFront, rightLast⟩ := snoc_eq_some.mp rightChain
      obtain ⟨rfl, lastAgree⟩ := backward entry (by simp) entry' (by simp)
        (preserves step leftFront initially) (preserves step rightFront initially)
        leftLast rightLast
      have fronts := ih (fun entries part => noReturn entries (part.imp
          (fun front => front.trans (List.prefix_append _ _))
          (fun front => front.trans (List.prefix_append _ _))))
        (fun entry member entry' member' =>
          backward entry (by simp [member]) entry' (by simp [member']))
        leftFront rightFront
      exact List.rel_append fronts (.cons lastAgree .nil)

end Chain
end Foundation
