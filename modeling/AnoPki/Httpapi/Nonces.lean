import AnoPki.Domain.Types
import AnoPki.Foundation.Table

/-! # Nonces in memory

`acmeMemoryNonceStore`: a nonce is issued once and consumed once. Expired nonces are swept on every
call, and the oldest ones are evicted when there are too many. A map is ranged over in any order. -/
namespace AnoPki.Httpapi

open Foundation Domain List Table AList Option

variable {store next : ACMEMemoryNonceStore} {call : NonceCall} {rest : Table ACMEStoredNonce}

structure ACMEStoredNonce where
  issuedAt : Time
  expiresAt : Time
deriving DecidableEq, Repr

structure ACMEMemoryNonceStore where
  nonces : Table ACMEStoredNonce
  maxSize : Nat
  positive : 0 < maxSize

/-- An order in which maps are ranged over. -/
structure MapOrder where
  order : Table ACMEStoredNonce → List ((_ : Text) × ACMEStoredNonce)
  perm : ∀ table, (order table).Perm table.entries

def newACMEMemoryNonceStore (maxSize : Nat) (positive : 0 < maxSize) : ACMEMemoryNonceStore where
  nonces := ∅
  maxSize := maxSize
  positive := positive

def removeExpiredLocked (nonces : Table ACMEStoredNonce) (now : Time) : Table ACMEStoredNonce :=
  nonces.keep fun stored => stored.expiresAt.after now

/-- One turn of the search for the oldest nonce. No nonce has been seen as long as it is empty. -/
def oldestTurn (oldest : Text × Time) (entry : (_ : Text) × ACMEStoredNonce) : Text × Time :=
  if oldest.1 = [] ∨ entry.2.issuedAt.before oldest.2 then (entry.1, entry.2.issuedAt) else oldest

def oldestNonce (entries : List ((_ : Text) × ACMEStoredNonce)) : Text :=
  (entries.foldl oldestTurn ([], Time.zero)).1

/-- The turns of the eviction, at most as many as there are nonces. -/
def evictLoop (range : MapOrder) (maxSize : Nat) :
    Nat → Table ACMEStoredNonce → Table ACMEStoredNonce
  | 0, nonces => nonces
  | turns + 1, nonces =>
    if maxSize < nonces.values.length then
      evictLoop range maxSize turns (nonces.erase (oldestNonce (range.order nonces)))
    else nonces

def evictOldestLocked (range : MapOrder) (nonces : Table ACMEStoredNonce) (maxSize : Nat) :
    Table ACMEStoredNonce :=
  evictLoop range maxSize nonces.values.length nonces

namespace ACMEMemoryNonceStore

/-- `Issue`; `ctxErr` is the error of the context. -/
def issue (store : ACMEMemoryNonceStore) (range : MapOrder) (ctxErr : Option Err) (nonce : Text)
    (issuedAt expiresAt : Time) : Except Err Unit × ACMEMemoryNonceStore :=
  match ctxErr with
  | some err => (.error err, store)
  | none =>
    let nonces := removeExpiredLocked store.nonces issuedAt
    let nonces := evictOldestLocked range nonces (store.maxSize - 1)
    (.ok (), { store with nonces := nonces.insert nonce ⟨issuedAt, expiresAt⟩ })

def consume (store : ACMEMemoryNonceStore) (ctxErr : Option Err) (nonce : Text) (now : Time) :
    Except Err Bool × ACMEMemoryNonceStore :=
  match ctxErr with
  | some err => (.error err, store)
  | none =>
    let nonces := removeExpiredLocked store.nonces now
    match nonces.lookup nonce with
    | none => (.ok false, { store with nonces := nonces })
    | some _ => (.ok true, { store with nonces := nonces.erase nonce })

end ACMEMemoryNonceStore

section Eviction

variable {range : MapOrder} {nonces : Table ACMEStoredNonce} {maxSize : Nat}

/-- The search keeps the oldest of the entries it has seen. -/
theorem foldl_oldestTurn {rest seen : List ((_ : Text) × ACMEStoredNonce)} {best}
    (inside : best ∈ seen) (oldest : ∀ other ∈ seen, best.2.issuedAt.nanos ≤ other.2.issuedAt.nanos)
    (named : ∀ entry ∈ seen ++ rest, entry.1 ≠ []) :
    ∃ entry ∈ seen ++ rest, rest.foldl oldestTurn (best.1, best.2.issuedAt) =
    (entry.1, entry.2.issuedAt) ∧
      ∀ other ∈ seen ++ rest, entry.2.issuedAt.nanos ≤ other.2.issuedAt.nanos := by
  induction rest generalizing seen best with
  | nil =>
    rw [append_nil]
    exact ⟨best, inside, rfl, oldest⟩
  | cons entry rest ih =>
    have bestNamed : best.1 ≠ [] := named best (mem_append_left _ inside)
    rw [append_cons] at named ⊢
    rw [foldl_cons, oldestTurn]
    by_cases older : entry.2.issuedAt.before best.2.issuedAt
    · rw [if_pos (.inr older)]
      refine ih mem_append_cons_self ?_ named
      intro other seen
      rcases mem_append.mp seen with seen | seen
      · exact (Int.le_of_lt older).trans (oldest other seen)
      · rw [mem_singleton.mp seen]
    · rw [if_neg (not_or.mpr ⟨bestNamed, older⟩)]
      refine ih (mem_append_left _ inside) ?_ named
      intro other seen
      rcases mem_append.mp seen with seen | seen
      · exact oldest other seen
      · rw [mem_singleton.mp seen]
        exact Int.not_lt.mp older

/-- If no entry is under the empty nonce, the search finds one that is as old as any. -/
theorem oldestNonce_spec {entries : List ((_ : Text) × ACMEStoredNonce)} (any : entries ≠ [])
    (named : ∀ entry ∈ entries, entry.1 ≠ []) : ∃ entry ∈ entries, oldestNonce entries = entry.1 ∧
      ∀ other ∈ entries, entry.2.issuedAt.nanos ≤ other.2.issuedAt.nanos := by
  obtain ⟨first, rest, rfl⟩ := exists_cons_of_ne_nil any
  obtain ⟨entry, inside, found, oldest⟩ := @foldl_oldestTurn rest [first] first mem_cons_self
    (fun other seen => by rw [mem_singleton.mp seen]) named
  refine ⟨entry, inside, ?_, oldest⟩
  rw [oldestNonce, foldl_cons, oldestTurn, if_pos (.inl rfl), found]

/-- The oldest nonce of a table in which no nonce is empty. -/
theorem oldest_lookup (range : MapOrder) (any : 0 < nonces.values.length)
    (named : nonces.lookup [] = none) :
    ∃ stored, nonces.lookup (oldestNonce (range.order nonces)) = some stored ∧
      ∀ other value, nonces.lookup other = some value →
      stored.issuedAt.nanos ≤ value.issuedAt.nanos := by
  have perm := range.perm nonces
  have filled : range.order nonces ≠ [] := by
    intro empty
    rw [empty] at perm
    rw [Table.values, length_map, ← perm.length_eq] at any
    exact absurd any (Nat.lt_irrefl 0)
  obtain ⟨⟨nonce, stored⟩, inside, found, oldest⟩ := oldestNonce_spec filled (by
    rintro ⟨nonce, stored⟩ inside rfl
    rw [mem_lookup_iff.mpr (perm.mem_iff.mp inside)] at named
    cases named)
  refine ⟨stored, ?_, fun other value there => ?_⟩
  · rw [found]
    exact mem_lookup_iff.mpr (perm.mem_iff.mp inside)
  · exact oldest ⟨other, value⟩ (perm.mem_iff.mpr (mem_lookup_iff.mp there))

/-- At least `room` other nonces of a table are not older than a nonce. -/
def CrowdedOut (nonces : Table ACMEStoredNonce) (room : Nat) (nonce : Text)
    (issuedAt : Time) : Prop :=
  ∃ others : List Text, others.Nodup ∧ room ≤ others.length ∧ nonce ∉ others ∧
    ∀ other ∈ others, ∃ value, nonces.lookup other = some value ∧
    issuedAt.nanos ≤ value.issuedAt.nanos

/-- What an eviction leaves, and whom it evicts. -/
structure Evicted (room : Nat) (nonces rest : Table ACMEStoredNonce) : Prop where
  bounded : rest.values.length ≤ room
  kept : ∀ nonce stored, rest.lookup nonce = some stored → nonces.lookup nonce = some stored
  crowded : ∀ nonce stored, nonces.lookup nonce = some stored → rest.lookup nonce = none →
    CrowdedOut nonces room nonce stored.issuedAt

theorem evictLoop_evicted (range : MapOrder) {turns : Nat} (enough : nonces.values.length ≤ turns)
    (named : nonces.lookup [] = none) :
    Evicted maxSize nonces (evictLoop range maxSize turns nonces) := by
  induction turns generalizing nonces with
  | zero =>
    refine ⟨enough.trans (Nat.zero_le _), fun _ _ found => found, fun nonce stored found gone => ?_⟩
    rw [evictLoop, found] at gone
    cases gone
  | succ turns ih =>
    rw [evictLoop]
    by_cases full : maxSize < nonces.values.length
    · rw [if_pos full]
      obtain ⟨oldest, found, older⟩ := oldest_lookup range (Nat.zero_lt_of_lt full) named
      generalize oldestNonce (range.order nonces) = first at found
      have length := length_values_erase found
      have rest := @ih (nonces.erase first) (by omega) (by rw [lookup_erase_eq, named, ite_self])
      have within : ∀ nonce stored, (nonces.erase first).lookup nonce = some stored →
          nonces.lookup nonce = some stored := by
        intro nonce stored there
        rw [lookup_erase_eq] at there
        split at there
        · cases there
        · exact there
      refine ⟨rest.bounded, fun nonce stored there => within _ _ (rest.kept _ _ there),
        fun nonce stored there gone => ?_⟩
      by_cases same : nonce = first
      · subst same
        obtain rfl : oldest = stored := mem_unique found there
        refine ⟨(nonces.erase nonce).keys, (nonces.erase nonce).keys_nodup, ?_, ?_,
          fun other inside => ?_⟩
        · rw [← length_values]
          omega
        · exact lookup_eq_none.mp (lookup_erase nonce nonces)
        · obtain ⟨value, stays⟩ := isSome_iff_exists.mp (lookup_isSome.mpr (mem_keys.mp inside))
          exact ⟨value, within _ _ stays, older _ _ (within _ _ stays)⟩
      · have stays : (nonces.erase first).lookup nonce = some stored := by
          rw [lookup_erase_eq, if_neg same, there]
        obtain ⟨others, distinct, many, apart, all⟩ := rest.crowded _ _ stays gone
        refine ⟨others, distinct, many, apart, fun other inside => ?_⟩
        obtain ⟨value, there, newer⟩ := all other inside
        exact ⟨value, within _ _ there, newer⟩
    · rw [if_neg full]
      refine ⟨Nat.not_lt.mp full, fun _ _ found => found, fun nonce stored found gone => ?_⟩
      rw [found] at gone
      cases gone

theorem evictOldestLocked_evicted (range : MapOrder) (maxSize : Nat)
    (named : nonces.lookup [] = none) :
    Evicted maxSize nonces (evictOldestLocked range nonces maxSize) :=
  evictLoop_evicted range (Nat.le_refl _) named

section

variable (nonces : Table ACMEStoredNonce) (now : Time) (nonce : Text)

theorem lookup_removeExpired (stored : ACMEStoredNonce) :
    (removeExpiredLocked nonces now).lookup nonce = some stored ↔
      nonces.lookup nonce = some stored ∧ stored.expiresAt.after now := by
  rw [removeExpiredLocked, lookup_keep, filter_eq_some_iff, decide_eq_true_eq]

theorem lookup_removeExpired_none : (removeExpiredLocked nonces now).lookup nonce = none ↔
      ∀ stored, nonces.lookup nonce = some stored → ¬ stored.expiresAt.after now := by
  constructor
  · intro gone stored found fresh
    rw [(lookup_removeExpired nonces now nonce stored).mpr ⟨found, fresh⟩] at gone
    cases gone
  · intro expired
    refine eq_none_iff_forall_ne_some.mpr fun stored found => ?_
    obtain ⟨found, fresh⟩ := (lookup_removeExpired nonces now nonce stored).mp found
    exact expired stored found fresh

end

end Eviction

section Runs

inductive NonceCall where
  | issue (range : MapOrder) (ctxErr : Option Err) (nonce : Text) (issuedAt expiresAt : Time)
  | consume (ctxErr : Option Err) (nonce : Text) (now : Time)

/-- What a call has done. -/
inductive NonceEvent where
  | issued (nonce : Text) (issuedAt expiresAt : Time)
  | consumed (nonce : Text) (now : Time) (accepted : Bool)
  | failed (err : Err) (now : Time)

/-- The time a call was given. -/
def NonceEvent.time : NonceEvent → Time
  | .issued _ issuedAt _ => issuedAt
  | .consumed _ now _ => now
  | .failed _ now => now

def ACMEMemoryNonceStore.step (store : ACMEMemoryNonceStore) :
    NonceCall → NonceEvent × ACMEMemoryNonceStore
  | .issue range ctxErr nonce issuedAt expiresAt =>
    match store.issue range ctxErr nonce issuedAt expiresAt with
    | (.ok (), next) => (.issued nonce issuedAt expiresAt, next)
    | (.error err, next) => (.failed err issuedAt, next)
  | .consume ctxErr nonce now =>
    match store.consume ctxErr nonce now with
    | (.ok accepted, next) => (.consumed nonce now accepted, next)
    | (.error err, next) => (.failed err now, next)

/-- The sequences of calls with a nondecreasing clock in which every nonce is issued once, from an
empty store on. -/
inductive NonceRun (maxSize : Nat) (positive : 0 < maxSize) :
    List NonceEvent → ACMEMemoryNonceStore → Prop
  | start : NonceRun maxSize positive [] (newACMEMemoryNonceStore maxSize positive)
  | call {events store next event}
      (call : NonceCall) : NonceRun maxSize positive events store →
      store.step call = (event, next) →
      (∀ earlier ∈ events, earlier.time.nanos ≤ event.time.nanos) →
        (∀ nonce issuedAt expiresAt, event = .issued nonce issuedAt expiresAt →
      ∀ i e, .issued nonce i e ∉ events) → NonceRun maxSize positive (events ++ [event]) next

/-- What a call can do to the nonces. -/
theorem ACMEMemoryNonceStore.step_cases {event} (step : store.step call = (event, next)) :
    next.maxSize = store.maxSize ∧
      ((∃ err now, event = .failed err now ∧ next.nonces = store.nonces) ∨
       (∃ range nonce issuedAt expiresAt, event = .issued nonce issuedAt expiresAt ∧ next.nonces =
          (evictOldestLocked range (removeExpiredLocked store.nonces issuedAt)
            (store.maxSize - 1)).insert nonce ⟨issuedAt, expiresAt⟩) ∨
       (∃ nonce now, event = .consumed nonce now false ∧
          (removeExpiredLocked store.nonces now).lookup nonce = none ∧
          next.nonces = removeExpiredLocked store.nonces now) ∨
       (∃ nonce now stored, event = .consumed nonce now true ∧
          (removeExpiredLocked store.nonces now).lookup nonce = some stored ∧
          next.nonces = (removeExpiredLocked store.nonces now).erase nonce)) := by
  rcases call with ⟨range, _ | err, nonce, issuedAt, expiresAt⟩ | ⟨_ | err, nonce, now⟩
  · cases step
    exact ⟨rfl, .inr (.inl ⟨range, nonce, issuedAt, expiresAt, rfl, rfl⟩)⟩
  · cases step
    exact ⟨rfl, .inl ⟨err, issuedAt, rfl, rfl⟩⟩
  · rw [ACMEMemoryNonceStore.step, consume] at step
    cases found : (removeExpiredLocked store.nonces now).lookup nonce with
    | none =>
      simp only [found] at step
      cases step
      exact ⟨rfl, .inr (.inr (.inl ⟨nonce, now, rfl, found, rfl⟩))⟩
    | some stored =>
      simp only [found] at step
      cases step
      exact ⟨rfl, .inr (.inr (.inr ⟨nonce, now, stored, rfl, found, rfl⟩))⟩
  · cases step
    exact ⟨rfl, .inl ⟨err, now, rfl, rfl⟩⟩

/-- At least `maxSize` other nonces were issued not earlier than a nonce. -/
def Overtaken (maxSize : Nat) (events : List NonceEvent) (nonce : Text) (issuedAt : Time) : Prop :=
  ∃ others : List Text, others.Nodup ∧ maxSize ≤ others.length ∧ nonce ∉ others ∧
    ∀ other ∈ others, ∃ i e, .issued other i e ∈ events ∧ issuedAt.nanos ≤ i.nanos

/-- A nonce was issued and has not been accepted yet. -/
structure Outstanding (events : List NonceEvent) (nonce : Text)
    (issuedAt expiresAt : Time) : Prop where
  issued : .issued nonce issuedAt expiresAt ∈ events
  unused : ∀ now, .consumed nonce now true ∉ events

/-- The stored nonces are outstanding, and the outstanding ones that are missing have expired or
were overtaken. -/
structure NoncesKept (maxSize : Nat) (events : List NonceEvent)
    (nonces : Table ACMEStoredNonce) : Prop where
  bounded : nonces.values.length ≤ maxSize
  stored : ∀ nonce value, nonces.lookup nonce = some value →
    Outstanding events nonce value.issuedAt value.expiresAt
  missing : ∀ nonce issuedAt expiresAt, Outstanding events nonce issuedAt expiresAt →
    nonces.lookup nonce = none → (∃ earlier ∈ events, expiresAt.nanos ≤ earlier.time.nanos) ∨
      Overtaken maxSize events nonce issuedAt
  single : ∀ nonce i e i' e', .issued nonce i e ∈ events →
    .issued nonce i' e' ∈ events → i = i' ∧ e = e'

variable {maxSize : Nat} {events : List NonceEvent} {nonces : Table ACMEStoredNonce}
  {event : NonceEvent} {nonce : Text} {issuedAt expiresAt now : Time}

theorem Overtaken.later (overtaken : Overtaken maxSize events nonce issuedAt) :
    Overtaken maxSize (events ++ [event]) nonce issuedAt := by
  obtain ⟨others, distinct, many, apart, all⟩ := overtaken
  refine ⟨others, distinct, many, apart, fun other inside => ?_⟩
  obtain ⟨i, e, issued, newer⟩ := all other inside
  exact ⟨i, e, mem_append_left _ issued, newer⟩

theorem Outstanding.earlier (outstanding : Outstanding (events ++ [event]) nonce issuedAt expiresAt)
    (other : event ≠ .issued nonce issuedAt expiresAt) :
    Outstanding events nonce issuedAt expiresAt := by
  refine ⟨?_, fun now accepted => outstanding.unused now (mem_append_left _ accepted)⟩
  rcases mem_append.mp outstanding.issued with issued | issued
  · exact issued
  · exact absurd (mem_singleton.mp issued).symm other

theorem Outstanding.later (outstanding : Outstanding events nonce issuedAt expiresAt)
    (other : ∀ now, event ≠ .consumed nonce now true) :
    Outstanding (events ++ [event]) nonce issuedAt expiresAt := by
  refine ⟨mem_append_left _ outstanding.issued, fun now accepted => ?_⟩
  rcases mem_append.mp accepted with accepted | accepted
  · exact outstanding.unused now accepted
  · exact other now (mem_singleton.mp accepted).symm

namespace NoncesKept

variable (kept : NoncesKept maxSize events nonces)

include kept

theorem single_later (fresh : ∀ nonce issuedAt expiresAt, event = .issued nonce issuedAt expiresAt →
      ∀ i e, .issued nonce i e ∉ events) (nonce : Text) (i e i' e' : Time)
    (one : .issued nonce i e ∈ events ++ [event]) (two : .issued nonce i' e' ∈ events ++ [event]) :
    i = i' ∧ e = e' := by
  rcases mem_append.mp one with one | one <;> rcases mem_append.mp two with two | two
  · exact kept.single nonce i e i' e' one two
  · exact absurd one (fresh _ _ _ (mem_singleton.mp two).symm _ _)
  · exact absurd two (fresh _ _ _ (mem_singleton.mp one).symm _ _)
  · cases (mem_singleton.mp one).trans (mem_singleton.mp two).symm
    exact ⟨rfl, rfl⟩

/-- A call that issues nothing and removes only what has expired and what it accepts. -/
theorem removes (silent : ∀ nonce i e, event ≠ .issued nonce i e)
    (fewer : rest.values.length ≤ nonces.values.length)
    (within : ∀ nonce value, rest.lookup nonce = some value → nonces.lookup nonce = some value)
    (accepted : ∀ nonce now, event = .consumed nonce now true → rest.lookup nonce = none)
    (removed : ∀ nonce value, nonces.lookup nonce = some value → rest.lookup nonce = none →
      value.expiresAt.nanos ≤ event.time.nanos ∨ ∃ now, event = .consumed nonce now true) :
    NoncesKept maxSize (events ++ [event]) rest where
  bounded := fewer.trans kept.bounded
  stored nonce value found := by
    refine (kept.stored nonce value (within _ _ found)).later fun now taken => ?_
    rw [accepted nonce now taken] at found
    cases found
  missing nonce issuedAt expiresAt outstanding gone := by
    have before := outstanding.earlier (silent _ _ _)
    cases found : nonces.lookup nonce with
    | none =>
      rcases kept.missing _ _ _ before found with ⟨earlier, inside, expired⟩ | overtaken
      · exact .inl ⟨earlier, mem_append_left _ inside, expired⟩
      · exact .inr overtaken.later
    | some value =>
      obtain ⟨-, rfl⟩ := kept.single _ _ _ _ _ before.issued (kept.stored _ _ found).issued
      rcases removed nonce value found gone with expired | ⟨now, rfl⟩
      · exact .inl ⟨event, mem_append_cons_self, expired⟩
      · exact absurd mem_append_cons_self (outstanding.unused now)
  single := kept.single_later fun nonce i e issued => absurd issued (silent nonce i e)

/-- A nonce that an eviction crowds out is overtaken by those that stay and by the new one. -/
theorem overtaken (clock : ∀ earlier ∈ events, earlier.time.nanos ≤ issuedAt.nanos)
    (fresh : ∀ i e, .issued nonce i e ∉ events) {old value} (found : nonces.lookup old = some value)
    (crowded : CrowdedOut (removeExpiredLocked nonces issuedAt) (maxSize - 1) old value.issuedAt) :
    Overtaken maxSize (events ++ [.issued nonce issuedAt expiresAt]) old value.issuedAt := by
  obtain ⟨others, distinct, many, apart, all⟩ := crowded
  have issued := (kept.stored _ _ found).issued
  have known : ∀ other ∈ others, ∃ i e, .issued other i e ∈ events ∧
      value.issuedAt.nanos ≤ i.nanos := by
    intro other inside
    obtain ⟨stays, there, newer⟩ := all other inside
    exact ⟨_, _, (kept.stored _ _ ((lookup_removeExpired _ _ _ _).mp there).1).issued, newer⟩
  refine ⟨nonce :: others, nodup_cons.mpr ⟨fun inside => ?_, distinct⟩, ?_, fun inside => ?_,
    fun other inside => ?_⟩
  · obtain ⟨i, e, issued, -⟩ := known nonce inside
    exact fresh i e issued
  · rw [length_cons]
    omega
  · rcases mem_cons.mp inside with rfl | inside
    · exact fresh _ _ issued
    · exact apart inside
  · rcases mem_cons.mp inside with rfl | inside
    · exact ⟨issuedAt, expiresAt, mem_append_cons_self, clock _ issued⟩
    · obtain ⟨i, e, issued, newer⟩ := known other inside
      exact ⟨i, e, mem_append_left _ issued, newer⟩

/-- `Issue` keeps the nonces. -/
theorem issues (positive : 0 < maxSize)
    (clock : ∀ earlier ∈ events, earlier.time.nanos ≤ issuedAt.nanos)
    (fresh : ∀ i e, .issued nonce i e ∉ events) (unspent : ∀ now, .consumed nonce now true ∉ events)
    (evicted : Evicted (maxSize - 1) (removeExpiredLocked nonces issuedAt) rest) :
    NoncesKept maxSize (events ++ [.issued nonce issuedAt expiresAt])
      (rest.insert nonce ⟨issuedAt, expiresAt⟩) where
  bounded := by
    have fewer : (Table.values (rest.erase nonce)).length ≤ rest.values.length := by
      cases found : rest.lookup nonce with
      | none => rw [erase_of_lookup_none found]
      | some value => exact (length_values_erase found).symm ▸ Nat.le_succ _
    have few := evicted.bounded
    rw [values_insert, length_cons]
    omega
  stored other value found := by
    rw [lookup_insert_eq] at found
    split at found
    · next same =>
      subst same
      cases found
      refine ⟨mem_append_cons_self, fun now accepted => ?_⟩
      rcases mem_append.mp accepted with accepted | accepted
      · exact unspent now accepted
      · cases mem_singleton.mp accepted
    · have there := ((lookup_removeExpired _ _ _ _).mp (evicted.kept _ _ found)).1
      exact (kept.stored _ _ there).later nofun
  missing other i e outstanding gone := by
    rw [lookup_insert_eq] at gone
    split at gone
    · cases gone
    next different =>
    have before := outstanding.earlier fun same => by
      cases same
      exact different rfl
    cases found : nonces.lookup other with
    | none =>
      rcases kept.missing _ _ _ before found with ⟨earlier, inside, expired⟩ | overtaken
      · exact .inl ⟨earlier, mem_append_left _ inside, expired⟩
      · exact .inr overtaken.later
    | some value =>
      obtain ⟨rfl, rfl⟩ := kept.single _ _ _ _ _ before.issued (kept.stored _ _ found).issued
      by_cases live : value.expiresAt.after issuedAt
      · have swept := (lookup_removeExpired _ _ _ _).mpr ⟨found, live⟩
        exact .inr (kept.overtaken clock fresh found (evicted.crowded _ _ swept gone))
      · exact .inl ⟨_, mem_append_cons_self, Int.not_lt.mp live⟩
  single := by
    refine kept.single_later fun other i e same => ?_
    cases same
    exact fresh

end NoncesKept

/-- A call keeps the nonces. -/
theorem step_kept (own : store.maxSize = maxSize) (kept : NoncesKept maxSize events store.nonces)
    (step : store.step call = (event, next))
    (clock : ∀ earlier ∈ events, earlier.time.nanos ≤ event.time.nanos)
    (fresh : ∀ nonce issuedAt expiresAt, event = .issued nonce issuedAt expiresAt →
      ∀ i e, .issued nonce i e ∉ events)
    (issuedFirst : ∀ nonce now, .consumed nonce now true ∈ events →
    ∃ i e, .issued nonce i e ∈ events) (named : ∀ i e, .issued [] i e ∉ events) :
    NoncesKept maxSize (events ++ [event]) next.nonces := by
  have within := fun now nonce value found =>
    ((lookup_removeExpired store.nonces now nonce value).mp found).1
  have expired := fun now nonce value found gone =>
    Int.not_lt.mp ((lookup_removeExpired_none store.nonces now nonce).mp gone value found)
  rcases (store.step_cases step).2 with ⟨err, now, rfl, same⟩ |
    ⟨range, nonce, issuedAt, expiresAt, rfl, same⟩ | ⟨nonce, now, rfl, gone, same⟩ |
    ⟨nonce, now, stored, rfl, found, same⟩
  · rw [same]
    refine kept.removes nofun (Nat.le_refl _) (fun _ _ found => found)
      nofun fun nonce value found gone => ?_
    rw [found] at gone
    cases gone
  · rw [same, own]
    have positive : 0 < maxSize := own ▸ store.positive
    have empty : store.nonces.lookup [] = none :=
      eq_none_iff_forall_ne_some.mpr fun value found => named _ _ (kept.stored _ _ found).issued
    refine kept.issues positive clock (fresh _ _ _ rfl) (fun now accepted => ?_)
      (evictOldestLocked_evicted range _ ?_)
    · obtain ⟨i, e, issued⟩ := issuedFirst _ _ accepted
      exact fresh _ _ _ rfl i e issued
    · refine (lookup_removeExpired_none _ _ _).mpr fun value found => ?_
      rw [empty] at found
      cases found
  · rw [same]
    exact kept.removes nofun (length_values_keep _ _) (within now)
      nofun fun nonce value found gone => .inl (expired now _ _ found gone)
  · rw [same]
    refine kept.removes nofun ?_ (fun other value there => ?_)
      (fun _ _ accepted => ?_) fun other value there gone => ?_
    · have fewer := length_values_erase found
      have swept := length_values_keep (fun stored => stored.expiresAt.after now) store.nonces
      rw [← removeExpiredLocked] at swept
      omega
    · rw [lookup_erase_eq] at there
      split at there
      · cases there
      · exact within now _ _ there
    · cases accepted
      exact lookup_erase _ _
    · rw [lookup_erase_eq] at gone
      split at gone
      · next other =>
        exact .inr ⟨now, by rw [other]⟩
      · exact .inl (expired now _ _ there gone)

/-- What holds of an event after the earlier ones. -/
def NonceEvent.Sound (maxSize : Nat) (earlier : List NonceEvent) : NonceEvent → Prop
  | .consumed nonce now true => ∃ issuedAt expiresAt, Outstanding earlier nonce issuedAt expiresAt ∧
      now.before expiresAt
  | .consumed nonce now false =>
      ∀ issuedAt expiresAt, Outstanding earlier nonce issuedAt expiresAt → now.before expiresAt →
        Overtaken maxSize earlier nonce issuedAt
  | _ => True

theorem step_sound (kept : NoncesKept maxSize events store.nonces)
    (step : store.step call = (event, next))
    (clock : ∀ earlier ∈ events, earlier.time.nanos ≤ event.time.nanos) :
    event.Sound maxSize events := by
  rcases (store.step_cases step).2 with
    ⟨err, now, rfl, -⟩ | ⟨range, nonce, issuedAt, expiresAt, rfl, -⟩ |
    ⟨nonce, now, rfl, gone, -⟩ | ⟨nonce, now, stored, rfl, found, -⟩
  · trivial
  · trivial
  · intro issuedAt expiresAt outstanding live
    cases found : store.nonces.lookup nonce with
    | none =>
      rcases kept.missing _ _ _ outstanding found with ⟨earlier, inside, expired⟩ | overtaken
      · exact absurd (expired.trans (clock earlier inside)) (Int.not_le.mpr live)
      · exact overtaken
    | some value =>
      obtain ⟨-, rfl⟩ := kept.single _ _ _ _ _ outstanding.issued (kept.stored _ _ found).issued
      exact absurd live ((lookup_removeExpired_none _ _ _).mp gone value found)
  · obtain ⟨found, live⟩ := (lookup_removeExpired _ _ _ _).mp found
    exact ⟨_, _, kept.stored _ _ found, live⟩

/-- Every event of a sequence holds what it should, and the nonces are kept. -/
structure NoncesTold (maxSize : Nat) (events : List NonceEvent)
    (store : ACMEMemoryNonceStore) : Prop where
  own : store.maxSize = maxSize
  kept : NoncesKept maxSize events store.nonces
  sound : ∀ earlier event later, events = earlier ++ event :: later → event.Sound maxSize earlier

theorem NonceRun.told {positive} (run : NonceRun maxSize positive events store)
    (named : ∀ i e, .issued [] i e ∉ events) : NoncesTold maxSize events store := by
  induction run with
  | start =>
    refine ⟨rfl, ⟨Nat.zero_le _, fun _ _ found => ?_, fun _ _ _ outstanding =>
      ?_, fun _ _ _ _ _ one => ?_⟩, fun earlier event later whole => ?_⟩
    · cases found
    · cases outstanding.issued
    · cases one
    · exact absurd whole (by simp)
  | @call events store next event call run step clock fresh ih =>
    obtain ⟨own, kept, sound⟩ := ih fun i e issued => named i e (mem_append_left _ issued)
    refine ⟨(store.step_cases step).1.trans own, step_kept own kept step clock fresh ?_
      fun i e issued => named i e (mem_append_left _ issued), ?_⟩
    · intro nonce now accepted
      obtain ⟨earlier, later, whole⟩ := append_of_mem accepted
      obtain ⟨i, e, outstanding, -⟩ := sound _ _ _ whole
      exact ⟨i, e, whole ▸ mem_append_left _ outstanding.issued⟩
    · intro earlier last later whole
      rcases eq_nil_or_concat later with rfl | ⟨later, final, rfl⟩
      · obtain ⟨rfl, same⟩ := append_inj' whole rfl
        cases same
        exact step_sound kept step clock
      · rw [concat_eq_append, ← cons_append, ← append_assoc] at whole
        exact sound earlier last later (append_inj' whole rfl).1

/-- A map ranged over from its second entry on. -/
def fromSecond : MapOrder where
  order table := table.entries.rotate 1
  perm table := List.rotate_perm table.entries 1

/-- Some nanoseconds after the zero time. -/
def nanosecond (n : Nat) : Time := ⟨n, 0⟩

def issueCall (nonce : Text) (n : Nat) : NonceCall :=
  .issue fromSecond none nonce (nanosecond n) (nanosecond 9)

def issuedEvent (nonce : Text) (n : Nat) : NonceEvent := .issued nonce (nanosecond n) (nanosecond 9)

section

variable {positive : 0 < maxSize} (run : NonceRun maxSize positive events store) (nonce : Text)
  (n : Nat) (clock : ∀ earlier ∈ events, earlier.time.nanos ≤ n)

include run clock

theorem NonceRun.issues (fresh : ∀ i e, .issued nonce i e ∉ events) :
    NonceRun maxSize positive (events ++ [issuedEvent nonce n])
    (store.step (issueCall nonce n)).2 :=
  .call (issueCall nonce n) run rfl clock fun _ _ _ same => by
    cases same
    exact fresh

theorem NonceRun.refuses
    (refused : (store.step (.consume none nonce (nanosecond n))).1 =
    .consumed nonce (nanosecond n) false) :
      NonceRun maxSize positive (events ++ [.consumed nonce (nanosecond n) false])
      (store.step (.consume none nonce (nanosecond n))).2 :=
  .call (.consume none nonce (nanosecond n)) run (Prod.ext refused rfl) clock fun _ _ _ same => by
    cases same

end

end Runs

end AnoPki.Httpapi
