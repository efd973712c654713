import AnoPki.Lifecycle.OutboxOperations
import AnoPki.Lifecycle.Deployment

/-! # Chains of issuers

`GetIssuerChain` follows the parents of an issuer and stops where it comes back to one it has seen.
Issuers are created after their parents, so it never does. -/
namespace AnoPki.Lifecycle

open Foundation Domain Store List Option

/-- The loop of `GetIssuerChain`; `none` if it takes more lookups than these. -/
def issuerChain (issuers : Table Issuer) (lookups : Nat) (seen : List Text) (currentID : Text) :
    Option (Except Err (List Issuer)) :=
  if currentID = [] then some (.ok [])
  else if seen.contains currentID then some (.error (ErrKind.err .invalidRequest))
  else match lookups with
    | 0 => none
    | lookups + 1 =>
      match issuers.lookup currentID with
      | none => some (.error (ErrKind.err .issuerNotFound))
      | some issuer => (issuerChain issuers lookups (currentID :: seen) issuer.parentIssuerID).map
          (Except.map (issuer :: ·))

def getIssuerChain (issuers : Table Issuer) (lookups : Nat) (id : Text) :
    Option (Except Err (List Issuer)) :=
  if isBlank id then some (.error (ErrKind.err .invalidRequest)) else
    issuerChain issuers lookups [] id

/-- The list from an issuer over its parents to one that has none. -/
inductive ParentChain (issuers : Table Issuer) : Text → List Issuer → Prop
  | nil : ParentChain issuers [] []
  | cons {id issuer chain} (named : id ≠ []) (found : issuers.lookup id = some issuer)
      (rest : ParentChain issuers issuer.parentIssuerID chain) :
      ParentChain issuers id (issuer :: chain)

/-- The stores that calls of `CreateIssuer` lead to from a new one. IDs may be drawn in between, as
calls that fail do. -/
inductive IssuersCreated (s : Service) : Session → Prop
  | new : IssuersCreated s ⟨Db.empty, 0⟩
  | created {t t' drawn ctx actor req now issuer} (earlier : IssuersCreated s t)
      (more : t.drawn ≤ drawn) (run : s.createIssuerTx ctx actor req now ⟨t.db, drawn⟩ =
        (.ok issuer, t')) : IssuersCreated s t'

variable {s : Service} {t : Session} {issuers : Table Issuer} {id : Text} {lookups : Nat}
  {seen : List Text}

theorem issuerChain_nil : issuerChain issuers lookups seen [] = some (.ok []) := by
  unfold issuerChain
  rfl

/-- The loop stops: it looks up each of the issuers at most once. -/
theorem issuerChain_ne_none (stored : seen ⊆ issuers.keys) (distinct : seen.Nodup)
    (enough : issuers.keys.length < lookups + seen.length) :
    issuerChain issuers lookups seen id ≠ none := by
  induction lookups generalizing seen id with
  | zero => exact absurd (distinct.subperm stored).length_le (by omega)
  | succ lookups ih =>
    rw [issuerChain]
    split_ifs with top again
    · simp
    · simp
    cases found : issuers.lookup id with
    | none => simp
    | some issuer =>
      have key : id ∈ issuers.keys := AList.lookup_isSome.mp (by simp [found])
      simpa using ih (cons_subset.mpr ⟨key, stored⟩)
        (nodup_cons.mpr ⟨by simpa using again, distinct⟩) (by simp; omega)

theorem ParentChain.unique {chain other} (one : ParentChain issuers id chain)
    (two : ParentChain issuers id other) : other = chain := by
  induction one generalizing other with
  | nil =>
    cases two with
    | nil => rfl
    | cons named => exact absurd rfl named
  | cons named found _ ih =>
    cases two with
    | nil => exact absurd rfl named
    | cons _ there rest =>
      cases mem_unique found there
      rw [ih rest]

/-- Every issuer is stored under its ID, and its parent was there before it. -/
def Descending (s : Service) (t : Session) : Prop :=
  ∀ id issuer, t.db.issuers.lookup id = some issuer → ∃ n < t.drawn, id = s.idgen n ∧
    issuer.id = id ∧ (issuer.parentIssuerID = [] ∨ ∃ m < n, issuer.parentIssuerID = s.idgen m ∧
      ∃ parent, t.db.issuers.lookup (s.idgen m) = some parent)

section Fresh

variable (ids : s.FreshIDs)

include ids

theorem IssuersCreated.descending (created : IssuersCreated s t) : Descending s t := by
  induction created with
  | new => rintro _ _ ⟨⟩
  | @created t t' drawn ctx actor req now issuer _ more run ih =>
    simp only [Service.createIssuerTx, Tx.bind_ok_iff, newID_ok_iff, Store.createIssuer,
      Shelf.write_ok_iff, Tx.pure_ok_iff] at run
    obtain ⟨_, _, ⟨rfl, rfl⟩, ⟨⟩, _, checked, ⟨⟩, _, rfl, ⟨⟩, _, audited, rfl, rfl⟩ := run
    have known : req.parentIssuerID = [] ∨
        ∃ parent, t.db.issuers.lookup req.parentIssuerID = some parent := by
      rcases Tx.ite_ok_iff.mp checked with ⟨top, -⟩ | ⟨-, looked⟩
      · exact .inl top
      · obtain ⟨parent, _, read, -⟩ := Tx.bind_ok_iff.mp looked
        exact .inr ⟨parent, (Shelf.get_ok_iff.mp read).1⟩
    cases (checkParentIssuer_readOnly _).same checked
    obtain ⟨log, rfl⟩ := auditEvent_ok audited
    -- No issuer that is stored has the new ID, so it is still found.
    have kept : ∀ m < drawn, ∀ parent, t.db.issuers.lookup (s.idgen m) = some parent →
        (t.db.issuers.insert (s.idgen drawn)
          (newIssuer (s.idgen drawn) req now)).lookup (s.idgen m) = some parent := by
      intro m small parent there
      rw [Table.lookup_insert_eq, if_neg fun same => small.ne (ids.injective same), there]
    intro id issuer found
    rw [Table.lookup_insert_eq] at found
    split at found
    · next here =>
      cases found
      refine ⟨drawn, Nat.lt_add_of_pos_right Nat.two_pos, here, here.symm, known.imp_right ?_⟩
      rintro ⟨parent, there⟩
      obtain ⟨m, small, named, -⟩ := ih _ parent there
      exact ⟨m, small.trans_le more, named, parent,
        kept m (small.trans_le more) parent (named ▸ there)⟩
    · obtain ⟨n, small, named, own, above⟩ := ih id issuer found
      refine ⟨n, Nat.lt_add_right 2 (small.trans_le more), named, own, above.imp_right ?_⟩
      rintro ⟨m, less, parent, known, there⟩
      exact ⟨m, less, parent, known, kept m (less.trans (small.trans_le more)) known there⟩

theorem unseen {n} (later : ∀ id ∈ seen, ∃ m, n < m ∧ id = s.idgen m) :
    ¬ seen.contains (s.idgen n) := by
  intro again
  obtain ⟨m, less, same⟩ := later _ (by simpa using again)
  exact less.ne (ids.injective same)

/-- What the loop returns from an issuer on, when it has seen only later ones. -/
theorem Descending.issuerChain_eq (descending : Descending s t) {n issuer result}
    (found : t.db.issuers.lookup (s.idgen n) = some issuer)
    (later : ∀ id ∈ seen, ∃ m, n < m ∧ id = s.idgen m)
    (stops : issuerChain t.db.issuers lookups seen (s.idgen n) = some result) :
    ∃ chain, result = .ok chain ∧ ParentChain t.db.issuers (s.idgen n) chain ∧ chain.Nodup ∧
      ∀ next ∈ chain, ∃ m ≤ n, next.id = s.idgen m := by
  induction lookups generalizing n issuer seen result with
  | zero =>
    rw [issuerChain, if_neg (ids.ne_nil n), if_neg (unseen ids later)] at stops
    cases stops
  | succ lookups ih =>
    rw [issuerChain, if_neg (ids.ne_nil n), if_neg (unseen ids later), found] at stops
    obtain ⟨rest, further, rfl⟩ := map_eq_some_iff.mp stops
    obtain ⟨n', -, same, own, above⟩ := descending _ issuer found
    cases ids.injective same
    rcases above with top | ⟨m, less, named, parent, there⟩
    · rw [top, issuerChain_nil] at further
      cases further
      exact ⟨[issuer], rfl, .cons (ids.ne_nil n) found (top ▸ .nil), nodup_singleton _,
        by simpa using ⟨n, le_refl _, own⟩⟩
    · rw [named] at further
      have later' : ∀ id ∈ s.idgen n :: seen, ∃ k, m < k ∧ id = s.idgen k :=
        forall_mem_cons.mpr ⟨⟨n, less, rfl⟩, fun id inside => by
          obtain ⟨k, larger, same⟩ := later id inside
          exact ⟨k, less.trans larger, same⟩⟩
      obtain ⟨chain, rfl, whole, distinct, small⟩ := ih there later' further
      refine ⟨issuer :: chain, rfl, .cons (ids.ne_nil n) found (named ▸ whole), ?_, ?_⟩
      · refine nodup_cons.mpr ⟨fun again => ?_, distinct⟩
        obtain ⟨k, below, other⟩ := small issuer again
        have := ids.injective (own.symm.trans other)
        omega
      · refine forall_mem_cons.mpr ⟨⟨n, le_refl _, own⟩, fun next member => ?_⟩
        obtain ⟨k, below, other⟩ := small next member
        exact ⟨k, below.trans less.le, other⟩

end Fresh

theorem getIssuerChain_ne_none (issuers : Table Issuer) (id : Text) :
    getIssuerChain issuers (issuers.keys.length + 1) id ≠ none := by
  rw [getIssuerChain]
  split
  · simp
  · exact issuerChain_ne_none (nil_subset _) nodup_nil (by simp)

/-- Calls of `CreateIssuer` lead to stores in which every issuer has its chain. Whatever is stored,
the loop stops after one lookup more than there are issuers. -/
theorem getIssuerChain_stops (ids : s.FreshIDs) :
    (∀ t, IssuersCreated s t → ∀ id issuer, t.db.issuers.lookup id = some issuer → ∃ chain,
      getIssuerChain t.db.issuers (t.db.issuers.keys.length + 1) id = some (.ok chain) ∧
        chain.Nodup ∧ ∀ other, ParentChain t.db.issuers id other ↔ other = chain) ∧
    ∀ issuers id, getIssuerChain issuers (issuers.keys.length + 1) id ≠ none := by
  refine ⟨?_, getIssuerChain_ne_none⟩
  intro t created id issuer found
  have descending := created.descending ids
  obtain ⟨n, -, rfl, -⟩ := descending id issuer found
  obtain ⟨result, stops⟩ := ne_none_iff_exists'.mp (getIssuerChain_ne_none t.db.issuers (s.idgen n))
  have named : isBlank (s.idgen n) = false := by simpa [isBlank] using ids.nonblank n
  have loop := stops
  rw [getIssuerChain, named] at loop
  obtain ⟨chain, rfl, whole, distinct, -⟩ := descending.issuerChain_eq ids found (by simp) loop
  exact ⟨chain, stops, distinct, fun other => ⟨whole.unique, fun same => same ▸ whole⟩⟩

theorem IssuersCreated.creating (created : IssuersCreated smallService t) (number req)
    (accepted : (smallService.createIssuerTx {} "admin" req newYear t).1 =
      .ok (newIssuer (smallID number) req newYear)) :
    IssuersCreated smallService (smallService.createIssuerTx {} "admin" req newYear t).2 :=
  .created created le_rfl (Prod.ext accepted rfl)

/-- An issuer under the first one. -/
def underFirst : CreateIssuerRequest :=
  { intermediateIssuer "a" with parentIssuerID := smallID 0 }

/-- An issuer under another has its chain, and the loop stops at one that is its own parent. -/
theorem ownParent_stops :
    (∃ t chain, IssuersCreated smallService t ∧ getIssuerChain t.db.issuers
      (t.db.issuers.keys.length + 1) (smallID 2) = some (.ok chain) ∧ chain.Nodup) ∧
    getIssuerChain ((∅ : Table Issuer).insert "a"
      (newIssuer "a" { rootIssuer with parentIssuerID := "a" } newYear)) 2 "a" ≠ none := by
  have stops := getIssuerChain_stops small_freshIDs
  have created := (IssuersCreated.new.creating 0 rootIssuer (by decide +kernel)).creating 2
    underFirst (by decide +kernel)
  obtain ⟨chain, stored, distinct, -⟩ := stops.1 _ created (smallID 2)
    (newIssuer (smallID 2) underFirst newYear) (by decide +kernel)
  exact ⟨⟨_, chain, created, stored, distinct⟩, stops.2 _ _⟩

end AnoPki.Lifecycle
