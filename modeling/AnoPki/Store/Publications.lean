import AnoPki.Foundation.Listing
import AnoPki.Store.Memory

/-! # The latest CRL of an issuer

`GetLatestCRLPublicationByIssuer` of the two stores. The database orders the publications by their
number, their time and their ID; the memory store goes through a map, and a publication takes the
place of the one it has kept when its number is larger or its time is later. -/
namespace AnoPki.Store

open Foundation Domain List

/-- When the loop of the memory store takes another publication. -/
def ReplacesLatest (publication latest : CRLPublication) : Prop :=
  publication.crlNumber > latest.crlNumber ∨ publication.createdAt.after latest.createdAt

instance : DecidableRel ReplacesLatest := fun _ _ => inferInstanceAs (Decidable (_ ∨ _))

def foundCRLPublication : Option CRLPublication → Except Err CRLPublication
  | none => .error (ErrKind.err .crlPublicationNotFound)
  | some latest => .ok latest

/-- `latestCRLPublicationByIssuer` on the publications in the order in which the map gives them. -/
def latestCRLPublicationByIssuer (publications : List CRLPublication) (issuerID : Text) :
    Except Err CRLPublication :=
  foundCRLPublication (publications.foldl (fun latest publication =>
    if publication.issuerID = issuerID then
      keepItem ReplacesLatest latest publication else latest) none)

/-- What `ORDER BY crl_number DESC, created_at DESC, id DESC` compares, from the first column on. -/
def latestKey (publication : CRLPublication) : Int ×ₗ Int ×ₗ Text :=
  toLex (publication.crlNumber.toInt, toLex (publication.createdAt.nanos, publication.id))

/-- A row stands before the rows with smaller keys. -/
abbrev OrderedLatest (a b : CRLPublication) : Prop := latestKey b ≤ latestKey a

instance : Std.Total OrderedLatest := ⟨fun a b => le_total (latestKey b) (latestKey a)⟩

instance : IsTrans CRLPublication OrderedLatest := ⟨fun _ _ _ first second => second.trans first⟩

/-- `GetLatestCRLPublicationByIssuer` of the database: the first of its ordered rows. -/
def sqlLatestCRLPublicationByIssuer (rows : List CRLPublication) (issuerID : Text) :
    Except Err CRLPublication :=
  foundCRLPublication
    ((rows.filter fun row => decide (row.issuerID = issuerID)).insertionSort OrderedLatest).head?

variable {publications : Table CRLPublication} {issuerID : Text}

theorem latestPublication_eq (visited : List CRLPublication) :
    latestCRLPublicationByIssuer visited issuerID = foundCRLPublication
      ((visited.filter fun row => decide (row.issuerID = issuerID)).foldl
        (keepItem ReplacesLatest) none) := by
  rw [latestCRLPublicationByIssuer, foldl_filter]
  simp only [decide_eq_true_eq]

/-- No publication of the issuer is later than the one with the largest number, and none is as late
with as large a number. -/
def LatestIsLargest (rows : List CRLPublication) (issuerID : Text) : Prop :=
  ∀ latest, sqlLatestCRLPublicationByIssuer rows issuerID = .ok latest →
    ∀ other ∈ rows, other.issuerID = issuerID → other ≠ latest →
      ¬ other.createdAt.after latest.createdAt ∧
        (other.crlNumber < latest.crlNumber ∨ other.createdAt.before latest.createdAt)

/-- The first of the ordered rows is one of the issuer, and has the largest number. -/
theorem sqlLatest_first {rows latest}
    (first : sqlLatestCRLPublicationByIssuer rows issuerID = .ok latest) :
    latest ∈ rows.filter (fun row => decide (row.issuerID = issuerID)) ∧
      ∀ other ∈ rows.filter (fun row => decide (row.issuerID = issuerID)),
        ¬ other.crlNumber > latest.crlNumber := by
  rw [sqlLatestCRLPublicationByIssuer] at first
  generalize rows.filter (fun row => decide (row.issuerID = issuerID)) = found at first ⊢
  have ordered := pairwise_insertionSort OrderedLatest found
  have members : ∀ row, row ∈ found.insertionSort OrderedLatest ↔ row ∈ found :=
    fun row => mem_insertionSort _
  cases sorted : found.insertionSort OrderedLatest with
  | nil =>
    rw [sorted] at first
    cases first
  | cons top rest =>
    rw [sorted] at first ordered members
    obtain rfl := Except.ok.inj first
    refine ⟨(members top).mp mem_cons_self, ?_⟩
    intro other inside larger
    have below : latestKey other ≤ latestKey top := by
      rcases mem_cons.mp ((members other).mpr inside) with rfl | later
      · exact le_refl _
      · exact (pairwise_cons.mp ordered).1 other later
    have number := Prod.Lex.monotone_fst _ _ below
    exact absurd (Int64.lt_iff_toInt_lt.mp larger) (not_lt.mpr number)

/-- Whatever the order of the map, the memory store returns the row of the database exactly when the
latest publication has the largest number and no other has both its time and its number. -/
theorem latestCRLPublication_agrees_iff (keyed : publications.KeyedBy CRLPublication.id) :
    (∀ visited : List CRLPublication, visited.Perm publications.values →
      latestCRLPublicationByIssuer visited issuerID =
        sqlLatestCRLPublicationByIssuer publications.values issuerID) ↔
      LatestIsLargest publications.values issuerID := by
  have nodup : (publications.values.filter fun row => decide (row.issuerID = issuerID)).Nodup :=
    keyed.nodup_values.of_map.filter _
  simp only [latestPublication_eq]
  rw [@forall_perm_filter_iff _ _ _ fun found => foundCRLPublication
    (found.foldl (keepItem ReplacesLatest) none) = _]
  rcases first : sqlLatestCRLPublicationByIssuer publications.values issuerID with err | top
  · -- Without a publication of the issuer both report that there is none.
    simp only [LatestIsLargest, first, reduceCtorEq, false_imp_iff, implies_true, iff_true]
    intro found perm
    rw [sqlLatestCRLPublicationByIssuer] at first
    cases sorted : (publications.values.filter fun row =>
        decide (row.issuerID = issuerID)).insertionSort OrderedLatest with
    | cons => rw [sorted] at first; cases first
    | nil =>
      have sort := perm_insertionSort OrderedLatest
        (publications.values.filter fun row => decide (row.issuerID = issuerID))
      rw [sorted] at sort
      obtain rfl := (perm.trans sort.symm).eq_nil
      rw [sorted] at first
      exact first
  · obtain ⟨inside, largest⟩ := sqlLatest_first first
    have ends : ∀ found : List CRLPublication, foundCRLPublication
        (found.foldl (keepItem ReplacesLatest) none) = .ok top ↔
          found.foldl (keepItem ReplacesLatest) none = some top := by
      intro found
      cases found.foldl (keepItem ReplacesLatest) none <;> simp [foundCRLPublication]
    simp only [ends, LatestIsLargest, first, Except.ok.injEq, forall_eq']
    rw [foldl_keepItem_perm_iff nodup inside]
    simp only [mem_filter, decide_eq_true_eq, and_imp]
    refine forall_congr' fun other => forall₃_congr fun member own differs => ?_
    have small := largest other (mem_filter.mpr ⟨member, by simpa using own⟩)
    simp only [ReplacesLatest, not_or, gt_iff_lt] at small ⊢
    tauto

/-- A publication of the issuer. -/
def smallPublication (id : Text) (number : Int64) (hour : Int) : CRLPublication where
  id := id
  issuerID := "issuer"
  distributionPoint := id
  crlNumber := number
  thisUpdate := .zero
  nextUpdate := .zero
  status := .published
  crlPEM := []
  createdAt := Time.zero.add (hour * 3600000000000)
  updatedAt := .zero

def smallPublications (publications : List CRLPublication) : Table CRLPublication :=
  Table.insertAll CRLPublication.id publications ∅

/-- Numbers and times that grow together. -/
theorem growing_agrees :
    latestCRLPublicationByIssuer [smallPublication "a" 1 1, smallPublication "b" 2 2] "issuer" =
      .ok (smallPublication "b" 2 2) := by
  let growing := smallPublications [smallPublication "a" 1 1, smallPublication "b" 2 2]
  have first : sqlLatestCRLPublicationByIssuer growing.values
      "issuer" = .ok (smallPublication "b" 2 2) := by
    decide +kernel
  have largest : LatestIsLargest growing.values "issuer" := by
    intro latest same
    cases first.symm.trans same
    decide +kernel
  have agrees := (@latestCRLPublication_agrees_iff growing "issuer"
    Table.KeyedBy.empty.insertAll).mpr largest [smallPublication "a" 1 1, smallPublication "b" 2 2]
      (by decide +kernel)
  exact agrees.trans first

/-- The second distribution point of the issuer is younger and has published less often: which
publication is kept depends on the order of the map. -/
theorem younger_disagrees :
    latestCRLPublicationByIssuer [smallPublication "a" 2 1, smallPublication "b" 1 2] "issuer" =
      .ok (smallPublication "b" 1 2) ∧
    latestCRLPublicationByIssuer [smallPublication "b" 1 2, smallPublication "a" 2 1] "issuer" =
      .ok (smallPublication "a" 2 1) ∧
    sqlLatestCRLPublicationByIssuer [smallPublication "a" 2 1, smallPublication "b" 1 2] "issuer" =
      .ok (smallPublication "a" 2 1) := by
  decide +kernel

end AnoPki.Store
