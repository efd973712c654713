import Mathlib

/-! # Computations that may fail over a state

The bodies of transactions. A failed body hands back the state it had reached; whoever runs it
decides what to keep of that state. The states are ordered and a body only moves forward, whether it
fails or not. The rules take a successful run apart into its steps. -/
namespace Foundation

structure Tx (σ : Type) [Preorder σ] (ε α : Type) where
  run : σ → Except ε α × σ
  forward : ∀ s, s ≤ (run s).2

namespace Tx

variable {σ ε α β : Type} [Preorder σ]

instance : CoeFun (Tx σ ε α) fun _ => σ → Except ε α × σ := ⟨Tx.run⟩

/-- A look at the state. -/
def query (look : σ → Except ε α) : Tx σ ε α where
  run s := (look s, s)
  forward := le_refl

protected def pure (value : α) : Tx σ ε α := query fun _ => .ok value

protected def bind (first : Tx σ ε α) (next : α → Tx σ ε β) : Tx σ ε β where
  run s :=
    match first s with
    | (.ok value, s) => next value s
    | (.error err, s) => (.error err, s)
  forward s := by
    have moved := first.forward s
    rcases outcome : first s with ⟨_ | value, mid⟩
    · rwa [outcome] at moved
    · rw [outcome] at moved
      exact moved.trans ((next value).forward mid)

instance : Monad (Tx σ ε) where
  pure := Tx.pure
  bind := Tx.bind

def fail (err : ε) : Tx σ ε α := query fun _ => .error err

/-- Go on only when the condition holds. -/
def require (holds : Prop) [Decidable holds] (err : ε) : Tx σ ε Unit :=
  query fun _ => if holds then .ok () else .error err

/-- An update of the state that cannot fail. -/
def modify (update : σ → σ) (forward : ∀ s, s ≤ update s) : Tx σ ε Unit where
  run s := (.ok (), update s)
  forward

/-- The result of a body, whether it failed or not. -/
def attempt (body : Tx σ ε α) : Tx σ ε (Except ε α) where
  run s :=
    match body s with
    | (result, s) => (.ok result, s)
  forward := body.forward

/-- A body run on each item in turn with what the turns before have collected; the first failure
ends the loop. -/
def fold (body : β → α → Tx σ ε β) (collected : β) : List α → Tx σ ε β
  | [] => Tx.pure collected
  | item :: items => Tx.bind (body collected item) fun collected => fold body collected items

variable {s t : σ} {value : α} {result : β}

theorem pure_ok_iff {given : α} :
    (pure given : Tx σ ε α) s = (.ok value, t) ↔ given = value ∧ s = t := by
  change ((.ok given : Except ε α), s) = _ ↔ _
  simp

theorem query_ok_iff {look : σ → Except ε α} :
    (query look : Tx σ ε α) s = (.ok value, t) ↔ look s = .ok value ∧ s = t := by
  simp [query]

theorem bind_ok_iff {first} {next : α → Tx σ ε β} : (first >>= next) s = (.ok result, t) ↔
      ∃ value mid, first s = (.ok value, mid) ∧ next value mid = (.ok result, t) := by
  change (match first s with
    | (.ok value, s) => next value s
    | (.error err, s) => (.error err, s)) = _ ↔ _
  rcases first s with ⟨_ | value, mid⟩
  · simp
  · simp

theorem bind_error_iff {first} {next : α → Tx σ ε β} {err : ε} :
    (first >>= next) s = (.error err, t) ↔ first s = (.error err, t) ∨
      ∃ value mid, first s = (.ok value, mid) ∧ next value mid = (.error err, t) := by
  change (match first s with
    | (.ok value, s) => next value s
    | (.error err, s) => (.error err, s)) = _ ↔ _
  rcases first s with ⟨_ | value, mid⟩
  · simp
  · simp

theorem fail_ok_iff {err : ε} : (fail err : Tx σ ε α) s = (.ok value, t) ↔ False := by
  simp [fail, query]

theorem require_ok_iff {holds} [Decidable holds] {err : ε} {u} :
    (require holds err : Tx σ ε Unit) s = (.ok u, t) ↔ holds ∧ s = t := by
  by_cases h : holds
  · simp [require, query, h]
  · simp [require, query, h]

theorem require_error_iff {holds} [Decidable holds] {err err' : ε} :
    (require holds err : Tx σ ε Unit) s = (.error err', t) ↔ ¬ holds ∧ err = err' ∧ s = t := by
  by_cases h : holds
  · simp [require, query, h]
  · simp [require, query, h]

theorem modify_error_iff {update forward} {err : ε} :
    (modify update forward : Tx σ ε Unit) s = (.error err, t) ↔ False := by
  simp [modify]

theorem modify_ok_iff {update} {forward : ∀ s, s ≤ update s} {u} :
    (modify update forward : Tx σ ε Unit) s = (.ok u, t) ↔ update s = t := by
  simp [modify]

theorem attempt_ok_iff {body} {outcome : Except ε α} :
    attempt body s = (.ok outcome, t) ↔ body s = (outcome, t) := by
  rcases shape : body s with ⟨given, mid⟩
  simp [attempt, shape]

theorem ite_ok_iff {holds} [Decidable holds] {yes no : Tx σ ε α} :
    (if holds then yes else no) s = (.ok value, t) ↔
      (holds ∧ yes s = (.ok value, t)) ∨ (¬ holds ∧ no s = (.ok value, t)) := by
  by_cases h : holds
  · simp [h]
  · simp [h]

section

variable {items : List α} {body : β → α → Tx σ ε β} {begin : β} (holds : List α → β → σ → Prop)

/-- What a loop preserves: it holds of the items done so far, what they collected and the state. -/
theorem fold_induct (run : fold body begin items s = (.ok result, t)) (start : holds [] begin s)
    (turn : ∀ (done : List α) (item : α) (collected next : β) (mid after : σ),
      holds done collected mid → done ++ [item] <+: items →
      body collected item mid = (.ok next, after) → holds (done ++ [item]) next after) :
    holds items result t := by
  suffices general : ∀ (rest done : List α) (collected : β) (mid : σ), holds done collected mid →
      done ++ rest = items → fold body collected rest mid = (.ok result, t) →
      holds items result t from
    general items [] begin s start rfl run
  intro rest
  induction rest with
  | nil =>
    intro done collected mid reached whole finished
    obtain ⟨rfl, rfl⟩ := pure_ok_iff.mp finished
    rw [← whole, List.append_nil]
    exact reached
  | cons item rest ih =>
    intro done collected mid reached whole unfinished
    obtain ⟨next, after, first, later⟩ := bind_ok_iff.mp unfinished
    have grown : done ++ [item] ++ rest = items := by simpa using whole
    exact ih (done ++ [item]) next after
      (turn done item collected next mid after reached ⟨rest, grown⟩ first) grown later

/-- A loop succeeds if each of its turns does. -/
theorem fold_succeeds (start : holds [] begin s)
    (turn : ∀ (done : List α) (item : α) (collected : β) (mid : σ), holds done collected mid →
      done ++ [item] <+: items →
      ∃ next after, body collected item mid = (.ok next, after) ∧
    holds (done ++ [item]) next after) : ∃ result t, fold body begin items s = (.ok result, t) ∧
    holds items result t := by
  suffices general : ∀ (rest done : List α) (collected : β) (mid : σ), holds done collected mid →
      done ++ rest = items → ∃ result t, fold body collected rest mid = (.ok result, t) ∧
        holds items result t from
    general items [] begin s start rfl
  intro rest
  induction rest with
  | nil =>
    intro done collected mid reached whole
    rw [List.append_nil] at whole
    exact ⟨collected, mid, rfl, whole ▸ reached⟩
  | cons item rest ih =>
    intro done collected mid reached whole
    have grown : done ++ [item] ++ rest = items := by simpa using whole
    obtain ⟨next, after, first, further⟩ := turn done item collected mid reached ⟨rest, grown⟩
    obtain ⟨result, t, later, finished⟩ := ih (done ++ [item]) next after further grown
    exact ⟨result, t, bind_ok_iff.mpr ⟨next, after, first, later⟩, finished⟩

end

/-- A body that leaves the state as it is. -/
def ReadOnly (body : Tx σ ε α) : Prop := ∀ s, (body s).2 = s

namespace ReadOnly

theorem query (look : σ → Except ε α) : ReadOnly (Tx.query look) := fun _ => rfl

theorem pure (value : α) : ReadOnly (Pure.pure value : Tx σ ε α) := fun _ => rfl

theorem fail (err : ε) : ReadOnly (Tx.fail err : Tx σ ε α) := fun _ => rfl

theorem attempt {body : Tx σ ε α} (reads : ReadOnly body) : ReadOnly body.attempt := reads

theorem bind {first} {next : α → Tx σ ε β} (reads : ReadOnly first)
    (following : ∀ value, ReadOnly (next value)) : ReadOnly (first >>= next) := by
  intro s
  have same := reads s
  change (match first s with
    | (.ok value, s) => next value s
    | (.error err, s) => (.error err, s)).2 = s
  rcases outcome : first s with ⟨_ | value, mid⟩
  · rwa [outcome] at same
  · rw [outcome] at same
    exact (following value mid).trans same

theorem ite {holds} [Decidable holds] {yes no : Tx σ ε α} (left : ReadOnly yes)
    (right : ReadOnly no) : ReadOnly (if holds then yes else no) := by
  split
  · exact left
  · exact right

theorem same {body} (reads : ReadOnly body) {outcome : Except ε α}
    (run : body s = (outcome, t)) : t = s := by
  have unchanged := reads s
  rwa [run] at unchanged

end ReadOnly

end Tx

end Foundation
