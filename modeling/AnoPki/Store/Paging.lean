import AnoPki.Store.Memory

/-! # Pages of a list

A list is given out in pages. The service and the memory store cut a page out of the sorted list;
the SQL store leaves that to the database, which is asked for a page only when there is a limit. -/
namespace AnoPki.Store

open Foundation Domain List

/-- The page that is asked for: from the offset on, as many entries as the limit, or all of them
when the limit is zero. -/
def page {α : Type} (limit offset : Int64) (rows : List α) : List α :=
  let rows := rows.drop offset.toInt.toNat
  if limit = 0 then rows else rows.take limit.toInt.toNat

/-- The end of a query, with the arguments of its placeholders. -/
structure LimitClause where
  limit : Option Int64 := none
  offset : Option Int64 := none
deriving DecidableEq

def appendSQLLimitOffset (limit offset : Int64) : LimitClause :=
  if limit ≤ 0 then {}
  else { limit := some limit, offset := if 0 < offset then some offset else none }

/-- The end of the query of `ListCertificatesExpiringWithin`. -/
def expiringLimitOffset (limit offset : Int64) : LimitClause :=
  if 0 < limit then { limit := some limit, offset := some offset } else {}

/-- What the database selects from the ordered rows. -/
def LimitClause.select {α : Type} (clause : LimitClause) (rows : List α) : List α :=
  let rows := rows.drop ((clause.offset.map (·.toInt.toNat)).getD 0)
  match clause.limit with
  | some limit => rows.take limit.toInt.toNat
  | none => rows

section Slices

variable {α : Type}

/-- The order in which a list is sorted; the sort is stable. -/
def sortItems (items : List α) (sortOrder : Text) (less : α → α → Bool) : List α :=
  if sortOrder = "desc" then items.insertionSort fun a b => ¬ less a b
  else items.insertionSort fun a b => ¬ less b a

/-- `items[start:end]` of the sorted list; `none` where the bounds are out of range. The sum of the
offset and the limit is one of machine integers. -/
def slicePage (items : List α) (limit offset : Int64) : Option (List α) :=
  if (items.length : Int) ≤ offset.toInt then some []
  else
    let stop := if 0 < limit ∧ (offset + limit).toInt < items.length then (offset + limit).toInt
      else items.length
    if stop < offset.toInt then none
    else some ((items.drop offset.toInt.toNat).take (stop - offset.toInt).toNat)

def sortAndPage (items : List α) (sortOrder : Text) (limit offset : Int64) (less : α → α → Bool) :
    Option (List α) :=
  slicePage (sortItems items sortOrder less) limit offset

end Slices

/-- The valid certificates that expire until the cutoff, in the order of both stores. -/
def expiringWithin (certificates : List Certificate) (now cutoff : Time) : List Certificate :=
  (certificates.filter fun certificate => certificate.status = .valid ∧
    certificate.notAfter.after now ∧ ¬ certificate.notAfter.after cutoff).insertionSort fun a b =>
      a.notAfter.before b.notAfter ∨ (a.notAfter.equal b.notAfter ∧ a.id ≤ b.id)

/-- The list of the memory store. -/
def listCertificatesExpiringWithin (certificates : List Certificate) (now cutoff : Time)
    (limit offset : Int64) : List Certificate :=
  let result := expiringWithin certificates now cutoff
  if (result.length : Int) ≤ offset.toInt then []
  else
    let result := result.drop offset.toInt.toNat
    if 0 < limit ∧ limit.toInt < result.length then result.take limit.toInt.toNat else result

/-- The list of the SQL store. -/
def sqlCertificatesExpiringWithin (certificates : List Certificate) (now cutoff : Time)
    (limit offset : Int64) : List Certificate :=
  (expiringLimitOffset limit offset).select (expiringWithin certificates now cutoff)

section Pages

variable {α : Type} {rows : List α} {limit offset : Int64}

/-- The offset is ignored when there is no limit. -/
def OffsetIgnored (rows : List α) (limit offset : Int64) : Prop :=
  limit = 0 ∧ 0 < offset ∧ rows ≠ []

/-- The end of the page is not a machine integer. -/
def EndOverflows (rows : List α) (limit offset : Int64) : Prop :=
  offset.toInt < rows.length ∧ 2 ^ 63 ≤ offset.toInt + limit.toInt
deriving Decidable

theorem page_all (rows : List α) (offset : Int64) :
    page 0 offset rows = rows.drop offset.toInt.toNat := by
  rw [page, if_pos rfl]

theorem page_taken (positive : 0 < limit) :
    page limit offset rows = (rows.drop offset.toInt.toNat).take limit.toInt.toNat := by
  rw [page, if_neg (Int64.ne_of_lt positive).symm]

theorem zero_lt_iff : 0 < limit ↔ 0 < limit.toInt := by rw [Int64.lt_iff_toInt_lt, Int64.toInt_zero]

theorem eq_zero_iff : limit = 0 ↔ limit.toInt = 0 := by rw [← Int64.toInt_inj, Int64.toInt_zero]

/-- Some entries are dropped from every list but the empty one. -/
theorem drop_ne_self_iff {n : Nat} : rows.drop n ≠ rows ↔ 0 < n ∧ rows ≠ [] := by
  constructor
  · intro changed
    constructor
    · rcases n.eq_zero_or_pos with rfl | positive
      · exact absurd rfl changed
      · exact positive
    · rintro rfl
      exact changed drop_nil
  · rintro ⟨positive, filled⟩ same
    have shorter := congrArg List.length same
    have length := length_pos_iff.mpr filled
    rw [length_drop] at shorter
    omega

/-- A query that leaves out its end when there is no limit. -/
theorem LimitClause.select_eq_page_iff {clause : LimitClause} (unlimited : limit = 0 → clause = {})
    (limited : 0 < limit → clause.select rows = page limit offset rows) (counts : 0 ≤ limit) :
    clause.select rows = page limit offset rows ↔ ¬ OffsetIgnored rows limit offset := by
  rcases Int64.lt_or_eq_of_le counts with positive | rfl
  · exact iff_of_true (limited positive) fun ignored => Int64.ne_of_lt positive ignored.1.symm
  · have all : LimitClause.select {} rows = rows := rfl
    have dropped : 0 < offset.toInt.toNat ↔ 0 < offset := by
      rw [zero_lt_iff]
      omega
    rw [unlimited rfl, all, page_all, OffsetIgnored, eq_comm, ← not_iff_not, not_not, ← dropped,
      ← drop_ne_self_iff]
    simp

theorem appendSQLLimitOffset_select (positive : 0 < limit) :
    (appendSQLLimitOffset limit offset).select rows = page limit offset rows := by
  rw [appendSQLLimitOffset, if_neg (Int64.not_le.mpr positive), page_taken positive]
  by_cases later : 0 < offset
  · rw [if_pos later]
    rfl
  · have zero : offset.toInt.toNat = 0 := by
      rw [zero_lt_iff] at later
      omega
    rw [if_neg later, zero]
    rfl

theorem expiringLimitOffset_select (positive : 0 < limit) :
    (expiringLimitOffset limit offset).select rows = page limit offset rows := by
  rw [expiringLimitOffset, if_pos positive, page_taken positive]
  rfl

/-- The sum of two numbers that are not negative, as a machine integer. -/
theorem toInt_add_eq (counts : 0 ≤ limit.toInt) (starts : 0 ≤ offset.toInt) :
    (offset + limit).toInt = if offset.toInt + limit.toInt < 2 ^ 63 then offset.toInt + limit.toInt
      else offset.toInt + limit.toInt - 2 ^ 64 := by
  have small := limit.toInt_lt
  have small' := offset.toInt_lt
  rw [Int64.toInt_add, Int.bmod_def, Int.emod_eq_of_lt (by omega) (by omega)]
  split <;> split <;> omega

theorem slicePage_eq (counts : 0 ≤ limit) (starts : 0 ≤ offset) : slicePage rows limit offset =
      if EndOverflows rows limit offset then none else some (page limit offset rows) := by
  rw [Int64.le_iff_toInt_le, Int64.toInt_zero] at counts starts
  have small := offset.toInt_lt
  have small' := limit.toInt_lt
  simp only [slicePage, toInt_add_eq counts starts, EndOverflows, page, zero_lt_iff, eq_zero_iff]
  split
  · next beyond =>
    have past : rows.drop offset.toInt.toNat = [] := drop_eq_nil_iff.mpr (by omega)
    rw [past, take_nil, ite_self, if_neg (by omega)]
  · next within =>
    by_cases overflows : 2 ^ 63 ≤ offset.toInt + limit.toInt
    · have wraps : 0 < limit.toInt ∧ offset.toInt + limit.toInt - 2 ^ 64 < rows.length := by omega
      rw [if_neg (not_lt.mpr overflows), if_pos wraps, if_pos (by omega),
        if_pos ⟨not_le.mp within, overflows⟩]
    rw [if_pos (not_le.mp overflows), @if_neg (_ ∧ _) _ fun both => overflows both.2]
    have length := @length_drop _ offset.toInt.toNat rows
    by_cases short : 0 < limit.toInt ∧ offset.toInt + limit.toInt < rows.length
    · rw [if_pos short, if_neg (by omega), if_neg (by omega), add_sub_cancel_left]
    · rw [if_neg short, if_neg (by omega), take_of_length_le (by omega)]
      split
      · rfl
      · rw [take_of_length_le (by omega)]

theorem slicePage_eq_page_iff (counts : 0 ≤ limit) (starts : 0 ≤ offset) :
    slicePage rows limit offset = some (page limit offset rows) ↔
    ¬ EndOverflows rows limit offset := by
  rw [slicePage_eq counts starts]
  split <;> simp_all

theorem listExpiring_eq_page (certificates : List Certificate) (now cutoff : Time)
    (counts : 0 ≤ limit) :
    listCertificatesExpiringWithin certificates now cutoff limit offset =
      page limit offset (expiringWithin certificates now cutoff) := by
  rw [Int64.le_iff_toInt_le, Int64.toInt_zero] at counts
  simp only [listCertificatesExpiringWithin, page, zero_lt_iff, eq_zero_iff]
  generalize expiringWithin certificates now cutoff = rows
  split
  · next beyond => rw [drop_eq_nil_iff.mpr (by omega), take_nil, ite_self]
  · split
    · next short => rw [if_neg (by omega)]
    · split
      · rfl
      · rw [take_of_length_le (by omega)]

end Pages

/-- The page of the SQL text is the one that is asked for unless an offset is ignored, and the page
of the service unless its end overflows; that of the memory store always is. -/
theorem pages_agree_iff {α : Type} (items : List α) (sortOrder : Text) (less : α → α → Bool)
    (certificates : List Certificate) (now cutoff : Time) (limit offset : Int64)
    (counts : 0 ≤ limit) (starts : 0 ≤ offset) :
    ((appendSQLLimitOffset limit offset).select (sortItems items sortOrder less) =
        page limit offset (sortItems items sortOrder less) ↔
      ¬ OffsetIgnored (sortItems items sortOrder less) limit offset) ∧
    (sortAndPage items sortOrder limit offset less =
        some (page limit offset (sortItems items sortOrder less)) ↔
      ¬ EndOverflows (sortItems items sortOrder less) limit offset) ∧
    (sqlCertificatesExpiringWithin certificates now cutoff limit offset =
        page limit offset (expiringWithin certificates now cutoff) ↔
      ¬ OffsetIgnored (expiringWithin certificates now cutoff) limit offset) ∧
    listCertificatesExpiringWithin certificates now cutoff limit offset =
      page limit offset (expiringWithin certificates now cutoff) := by
  refine ⟨?_, slicePage_eq_page_iff counts starts, ?_,
    listExpiring_eq_page certificates now cutoff counts⟩
  · refine LimitClause.select_eq_page_iff ?_ appendSQLLimitOffset_select counts
    rintro rfl
    rfl
  · refine LimitClause.select_eq_page_iff ?_ expiringLimitOffset_select counts
    rintro rfl
    rfl

/-- The second of three entries. -/
theorem second_page_agrees : sortAndPage [3, 1, 2] [] 1 1 (fun a b : Nat => a < b) = some [2] ∧
      (appendSQLLimitOffset 1 1).select [1, 2, 3] = [2] := by
  have agree := pages_agree_iff [3, 1, 2] [] (fun a b : Nat => a < b) [] Time.zero Time.zero 1 1
    (by decide) (by decide)
  exact ⟨agree.2.1.mpr (by rintro ⟨-, large⟩; exact absurd large (by decide)),
    agree.1.mpr (by rintro ⟨zero, -⟩; exact absurd zero (by decide))⟩

/-- Without a limit the SQL text has no offset. With the largest limit the service is out of
range. -/
theorem offset_without_limit_ignored : (appendSQLLimitOffset 0 1).select [1, 2, 3] = [1, 2, 3] ∧
      sortAndPage [1, 2, 3] [] 0 1 (fun a b : Nat => a < b) = some [2, 3] ∧
      (appendSQLLimitOffset 9223372036854775807 1).select [1, 2, 3] = [2, 3] ∧
      sortAndPage [1, 2, 3] [] 9223372036854775807 1 (fun a b : Nat => a < b) = none := by
  decide

section Sorting
variable {α : Type} {less : α → α → Bool}

/-- What `sort.SliceStable` promises: the same entries in order, where every part of the list that
was in order already keeps its order. -/
structure StableSort (less : α → α → Bool) (items sorted : List α) : Prop where
  perm : sorted.Perm items
  ordered : sorted.Pairwise fun a b => ¬ less b a
  stable : ∀ part : List α, part.Sublist items → (part.Pairwise fun a b => ¬ less b a) →
    part.Sublist sorted

/-- The order of a direction. -/
def directed (sortOrder : Text) (less : α → α → Bool) (a b : α) : Bool :=
  if sortOrder = "desc" then less b a else less a b

theorem insertionSort_stable (asymm : ∀ a b, less a b → ¬ less b a)
    (trans : ∀ a b c, ¬ less b a → ¬ less c b → ¬ less c a) (items : List α) :
    StableSort less items (items.insertionSort fun a b => ¬ less b a) := by
  have total : Std.Total fun a b => ¬ less b a :=
    ⟨fun a b => (em (less b a)).symm.imp_right (asymm b a)⟩
  have transitive : IsTrans α fun a b => ¬ less b a := ⟨trans⟩
  exact ⟨perm_insertionSort _ _, pairwise_insertionSort _ _,
    fun part within inOrder => sublist_insertionSort inOrder within⟩

theorem sortItems_stable [order : IsStrictWeakOrder α fun a b => less a b] (items : List α)
    (sortOrder : Text) :
    StableSort (directed sortOrder less) items (sortItems items sortOrder less) := by
  have asymm : ∀ a b, less a b → ¬ less b a := fun a b first second =>
    order.irrefl a (order.trans a b a first second)
  have trans : ∀ a b c, ¬ less b a → ¬ less c b → ¬ less c a := by
    intro a b c first second third
    have apart : ¬ less a b := fun before => second (order.trans c a b third before)
    have apart' : ¬ less b c := fun before => first (order.trans b c a before third)
    exact (order.incomp_trans a b c ⟨apart, first⟩ ⟨apart', second⟩).2 third
  unfold sortItems directed
  split
  · exact insertionSort_stable (fun a b => asymm b a)
      (fun a b c first second => trans c b a second first) items
  · exact insertionSort_stable asymm trans items

/-- The parts of one length, one after the other, are the list. -/
theorem flatten_parts {n count : Nat} {rows : List α} (covers : rows.length ≤ count * n) :
    ((range count).map fun index => (rows.drop (index * n)).take n).flatten = rows := by
  induction count generalizing rows with
  | zero =>
    rw [zero_mul] at covers
    rw [eq_nil_of_length_eq_zero (Nat.le_zero.mp covers)]
    rfl
  | succ count ih =>
    have rest := @ih (rows.drop n)
      (by rw [length_drop, Nat.sub_le_iff_le_add, ← Nat.succ_mul]; exact covers)
    simp only [drop_drop] at rest
    simp only [range_succ_eq_map, map_cons, map_map, flatten_cons, zero_mul, drop_zero,
      Function.comp_def, Nat.succ_mul, add_comm _ n, rest, take_append_drop]

end Sorting

/-- The offsets of `count` pages of one limit. -/
def pageOffsets (limit : Int64) (count : Nat) : List Int64 :=
  (range count).map fun index => .ofNat (index * limit.toInt.toNat)

/-- The offsets that machine integers have room for. -/
def Reachable (limit : Int64) (count : Nat) : Prop :=
  ∀ index < count, index * limit.toInt.toNat < 2 ^ 63

theorem flatten_pages {α : Type} {rows : List α} {limit : Int64} {count} (positive : 0 < limit)
    (reachable : Reachable limit count) (covers : rows.length ≤ count * limit.toInt.toNat) :
    ((pageOffsets limit count).map fun offset => page limit offset rows).flatten = rows := by
  rw [pageOffsets, map_map]
  refine Eq.trans (congrArg flatten (map_congr_left fun index member => ?_)) (flatten_parts covers)
  have exact := Int64.toInt_ofNat_of_lt (reachable index (mem_range.mp member))
  rw [Function.comp_apply, page_taken positive, exact, Int.toNat_natCast]

/-- The pages of the service are cut out of a stable sort of the list, and the pages of one limit,
one after the other, are the whole of it, unless the end of a page overflows. -/
theorem sortAndPage_stable_iff {α : Type} (items : List α) (sortOrder : Text) (less : α → α → Bool)
    [IsStrictWeakOrder α fun a b => less a b] (limit offset : Int64) (counts : 0 ≤ limit)
    (starts : 0 ≤ offset) :
    StableSort (directed sortOrder less) items (sortItems items sortOrder less) ∧
    (sortAndPage items sortOrder limit offset less =
        some (page limit offset (sortItems items sortOrder less)) ↔
      ¬ EndOverflows items limit offset) ∧
    ∀ count, 0 < limit → Reachable limit count → items.length ≤ count * limit.toInt.toNat →
      ((∃ pages : List (List α), pages.flatten = sortItems items sortOrder less ∧
          (pageOffsets limit count).map (sortAndPage items sortOrder limit · less) =
        pages.map some) ↔ ∀ offset ∈ pageOffsets limit count,
        ¬ EndOverflows items limit offset) := by
  have sorted := @sortItems_stable _ less _ items sortOrder
  have same : ∀ offset, EndOverflows (sortItems items sortOrder less) limit offset ↔
      EndOverflows items limit offset := fun offset => by
    rw [EndOverflows, EndOverflows, sorted.perm.length_eq]
  refine ⟨sorted, (slicePage_eq_page_iff counts starts).trans (not_congr (same offset)), ?_⟩
  intro count positive reachable covers
  have machine : ∀ offset ∈ pageOffsets limit count, 0 ≤ offset := by
    intro offset member
    obtain ⟨index, inside, rfl⟩ := mem_map.mp member
    rw [Int64.le_iff_toInt_le, Int64.toInt_ofNat_of_lt (reachable index (mem_range.mp inside))]
    exact Int.natCast_nonneg _
  constructor
  · rintro ⟨pages, -, given⟩ offset member overflows
    have cut : sortAndPage items sortOrder limit offset less ∈ pages.map some :=
      given ▸ mem_map_of_mem member
    rw [sortAndPage, slicePage_eq counts (machine offset member),
      if_pos ((same offset).mpr overflows)] at cut
    simp at cut
  · intro within
    refine ⟨(pageOffsets limit count).map fun offset =>
      page limit offset (sortItems items sortOrder less), ?_, ?_⟩
    · exact flatten_pages positive reachable (sorted.perm.length_eq ▸ covers)
    · rw [map_map]
      refine map_congr_left fun offset member => ?_
      rw [sortAndPage, slicePage_eq counts (machine offset member), if_neg fun overflows =>
        within offset member ((same offset).mp overflows)]
      rfl

/-- The last of three entries. -/
theorem last_page_stable :
    sortAndPage [3, 1, 2] "desc" 2 2 (fun a b : Nat => a < b) = some [1] := by
  have order : IsStrictWeakOrder Nat fun a b => decide (a < b) :=
    { irrefl := by simp
      trans := fun a b c => by simpa using Nat.lt_trans
      incomp_trans := fun a b c => by simp only [decide_eq_true_eq]; omega }
  exact (sortAndPage_stable_iff [3, 1, 2] "desc" (fun a b : Nat => a < b) 2 2 (by decide)
    (by decide)).2.1.mpr (by decide)

/-- The query asks for all that follows the first entry. -/
theorem largest_page_out_of_range :
    sortAndPage [3, 1, 2] "desc" 9223372036854775807 1 (fun a b : Nat => a < b) = none ∧
      page 9223372036854775807 1 (sortItems [3, 1, 2] "desc" (fun a b : Nat => a < b)) =
        [2, 1] := by
  decide

end AnoPki.Store
