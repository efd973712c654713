import AnoPki.Foundation.Basic
import AnoPki.Foundation.Text

/-! # Tables of records

A table maps keys to records. -/
namespace Foundation

open List AList

abbrev Table (α : Type) : Type := AList fun _ : Text => α

namespace Table

variable {α : Type}

/-- The records of a table. -/
def values (table : Table α) : List α := table.entries.map Sigma.snd

theorem mem_values_iff {table : Table α} {value : α} :
    value ∈ table.values ↔ ∃ key, table.lookup key = some value := by
  constructor
  · intro inside
    obtain ⟨⟨key, stored⟩, entry, rfl⟩ := mem_map.mp inside
    exact ⟨key, mem_lookup_iff.mpr entry⟩
  · rintro ⟨key, found⟩
    exact mem_map.mpr ⟨⟨key, value⟩, mem_lookup_iff.mp found, rfl⟩

theorem lookup_insert_eq (table : Table α) (key other : Text) (value : α) :
    (table.insert key value).lookup other =
      if other = key then some value else table.lookup other := by
  by_cases same : other = key
  · subst same
    simp
  · simp [same]

/-- What is found after a record was written: the record, or what was found before. -/
theorem of_lookup_insert {table : Table α} {key other} {value found : α}
    (there : (table.insert key value).lookup other = some found) :
    value = found ∨ table.lookup other = some found := by
  rw [lookup_insert_eq] at there
  split at there
  · exact .inl (Option.some.inj there)
  · exact .inr there

/-- A new version of a record matters only to its own owner. -/
theorem forall_owned_insert_iff {table : Table α} {key id} {old new : α} {owner : α → Text}
    {holds : α → Prop} (found : table.lookup key = some old) (same : owner new = owner old)
    (other : owner new ≠ id) :
    (∀ key' stored, (table.insert key new).lookup key' = some stored → owner stored = id →
        holds stored) ↔
      ∀ key' stored, table.lookup key' = some stored → owner stored = id → holds stored := by
  constructor
  · intro all key' stored there owned
    refine all key' stored ?_ owned
    rw [lookup_insert_eq, if_neg, there]
    rintro rfl
    cases Option.mem_unique found there
    exact other (same.trans owned)
  · intro all key' stored there owned
    rcases of_lookup_insert there with rfl | there
    · exact absurd owned other
    · exact all key' stored there owned

theorem lookup_erase_eq (table : Table α) (key other : Text) :
    (table.erase key).lookup other = if other = key then none else table.lookup other := by
  by_cases same : other = key
  · subst same
    simp
  · simp [same]

theorem lookup_singleton_eq (key other : Text) (value : α) :
    (singleton key value : Table α).lookup other = if other = key then some value else none := by
  rw [← insert_empty, lookup_insert_eq]
  rfl

/-- Writing a record puts it before the others. -/
theorem values_insert (table : Table α) (key : Text) (value : α) :
    values (table.insert key value) = value :: values (table.erase key) := rfl

/-- The record under a key and the others. -/
theorem values_perm_of_lookup {table key} {value : α} (found : table.lookup key = some value) :
    (values table).Perm (value :: values (table.erase key)) := by
  have entry := mem_lookup_iff.mp found
  obtain ⟨stored, front, back, -, whole, rest⟩ :=
    exists_of_kerase (mem_keys_of_mem entry)
  have same : stored = value := by
    have there : (⟨key, stored⟩ : (_ : Text) × α) ∈ table.entries := by simp [whole]
    exact table.nodupKeys.eq_of_mk_mem there entry
  subst same
  simp only [values, erase, rest, map_append]
  rw [whole, map_append, map_cons]
  exact perm_middle

/-- Leaving out a key that no record has. -/
theorem erase_of_lookup_none {table : Table α} {key} (absent : table.lookup key = none) :
    table.erase key = table := by
  apply ext
  exact kerase_of_notMem_keys (lookup_eq_none.mp absent)

theorem length_values (table : Table α) : table.values.length = table.keys.length := by
  rw [values, length_map, AList.keys, List.keys, length_map]

theorem length_values_erase {table key} {value : α} (found : table.lookup key = some value) :
    (values table).length = (values (table.erase key)).length + 1 := by
  rw [(values_perm_of_lookup found).length_eq, length_cons]

/-- The records of a kind, under their keys. -/
def keep (kind : α → Bool) (table : Table α) : Table α where
  entries := table.entries.filter fun entry => kind entry.2
  nodupKeys := table.nodupKeys.sublist filter_sublist

theorem lookup_keep (kind : α → Bool) (table : Table α) (key : Text) :
    (table.keep kind).lookup key = (table.lookup key).filter kind := by
  ext value
  rw [Option.mem_def.symm, mem_lookup_iff, Option.filter_eq_some_iff]
  change _ ∈ filter _ _ ↔ _
  rw [mem_filter, ← mem_lookup_iff]
  rfl

theorem length_values_keep (kind : α → Bool) (table : Table α) :
    (table.keep kind).values.length ≤ table.values.length := by
  rw [values, values, length_map, length_map]
  exact length_filter_le _ _

/-- Records entered one after the other, each under its own key. -/
def insertAll (key : α → Text) (records : List α) (table : Table α) : Table α :=
  records.foldl (fun table value => table.insert (key value) value) table

section InsertAll

variable {key : α → Text} {records : List α} {table : Table α}

theorem lookup_insertAll_of_notMem {id} (other : ∀ value ∈ records, key value ≠ id) :
    (insertAll key records table).lookup id = table.lookup id := by
  induction records generalizing table with
  | nil => rfl
  | cons value records ih =>
    have step := @ih (table.insert (key value) value) fun value inside =>
      other value (mem_cons_of_mem _ inside)
    rw [lookup_insert_eq, if_neg (Ne.symm (other value mem_cons_self))] at step
    exact step

theorem lookup_insertAll_of_mem (distinct : (records.map key).Nodup) {value : α}
    (inside : value ∈ records) : (insertAll key records table).lookup (key value) = some value := by
  induction records generalizing table with
  | nil => cases inside
  | cons first records ih =>
    rw [map_cons, nodup_cons] at distinct
    rcases mem_cons.mp inside with rfl | later
    · have step := @lookup_insertAll_of_notMem _ key records (table.insert (key value) value)
        (key value) fun other there same => distinct.1 (same ▸ mem_map_of_mem there)
      rw [lookup_insert_eq, if_pos rfl] at step
      exact step
    · exact ih distinct.2 later

/-- What is found after entering records: one of them, or what was there. -/
theorem lookup_insertAll_cases (distinct : (records.map key).Nodup) {id} {value : α}
    (found : (insertAll key records table).lookup id = some value) :
    (value ∈ records ∧ key value = id) ∨
      ((∀ value ∈ records, key value ≠ id) ∧ table.lookup id = some value) := by
  by_cases there : ∃ record ∈ records, key record = id
  · obtain ⟨record, inside, rfl⟩ := there
    rw [lookup_insertAll_of_mem distinct inside] at found
    cases found
    exact .inl ⟨inside, rfl⟩
  · have other : ∀ value ∈ records, key value ≠ id := by simpa using there
    rw [lookup_insertAll_of_notMem other] at found
    exact .inr ⟨other, found⟩

/-- The records after new ones were entered. -/
theorem values_insertAll_perm (distinct : (records.map key).Nodup)
    (fresh : ∀ value ∈ records, table.lookup (key value) = none) :
    (values (insertAll key records table)).Perm (records ++ values table) := by
  induction records generalizing table with
  | nil => exact .refl _
  | cons first records ih =>
    rw [map_cons, nodup_cons] at distinct
    have later : ∀ value ∈ records, (table.insert (key first) first).lookup (key value) = none := by
      intro value inside
      rw [lookup_insert_eq, if_neg, fresh value (mem_cons_of_mem _ inside)]
      intro same
      exact distinct.1 (same ▸ mem_map_of_mem inside)
    have rest := ih distinct.2 later
    rw [values_insert, erase_of_lookup_none (fresh first mem_cons_self)] at rest
    exact rest.trans perm_middle

end InsertAll

/-- Entries that items make, entered one after the other, a later one in the place of an earlier one
with its key. An item that makes none ends it. -/
def enter {ε β : Type} (entry : β → Except ε (Text × α)) (table : Table α) :
    List β → Except ε (Table α)
  | [] => .ok table
  | item :: items => do
    let (key, value) ← entry item
    enter entry (table.insert key value) items

section Enter

variable {ε β : Type} {entry : β → Except ε (Text × α)} {items : List β} {table result : Table α}
  {key : Text}

theorem enter_cons {item : β} : enter entry table (item :: items) =
      entry item >>= fun made => enter entry (table.insert made.1 made.2) items := rfl

theorem enter_append {more} : enter entry table (items ++ more) =
      enter entry table items >>= fun mid => enter entry mid more := by
  induction items generalizing table with
  | nil => rfl
  | cons item items ih =>
    rw [cons_append, enter_cons, enter_cons]
    cases entry item with
    | error err => rfl
    | ok made => exact ih

/-- What is found was entered under the key, or was there. -/
theorem enter_lookup (entered : enter entry table items = .ok result) {value : α}
    (found : result.lookup key = some value) :
    (∃ item ∈ items, entry item = .ok (key, value)) ∨ table.lookup key = some value := by
  induction items generalizing table with
  | nil =>
    cases entered
    exact .inr found
  | cons item items ih =>
    obtain ⟨⟨place, stored⟩, made, later⟩ := Except.bind_eq_ok.mp entered
    rcases ih later with ⟨other, inside, here⟩ | before
    · exact .inl ⟨other, mem_cons_of_mem _ inside, here⟩
    · rw [lookup_insert_eq] at before
      split at before
      · next same =>
        cases before
        exact .inl ⟨item, mem_cons_self, same ▸ made⟩
      · exact .inr before

/-- Keys that no item has keep what is under them. -/
theorem enter_lookup_of_notMem (entered : enter entry table items = .ok result)
    (other : ∀ item ∈ items, ∀ made, entry item = .ok made → made.1 ≠ key) :
    result.lookup key = table.lookup key := by
  induction items generalizing table with
  | nil =>
    cases entered
    rfl
  | cons item items ih =>
    obtain ⟨made, here, later⟩ := Except.bind_eq_ok.mp entered
    have step := ih later fun item inside => other item (mem_cons_of_mem _ inside)
    rw [lookup_insert_eq, if_neg (Ne.symm (other item mem_cons_self made here))] at step
    exact step

/-- What is under a key depends only on what was under it before. -/
theorem enter_lookup_congr {table' result'} (same : table.lookup key = table'.lookup key)
    (entered : enter entry table items = .ok result)
    (entered' : enter entry table' items = .ok result') :
    result.lookup key = result'.lookup key := by
  induction items generalizing table table' with
  | nil =>
    cases entered
    cases entered'
    exact same
  | cons item items ih =>
    obtain ⟨made, here, later⟩ := Except.bind_eq_ok.mp entered
    obtain ⟨made', here', later'⟩ := Except.bind_eq_ok.mp entered'
    cases here.symm.trans here'
    refine ih ?_ later later'
    rw [lookup_insert_eq, lookup_insert_eq, same]

/-- The last item's entry is found. -/
theorem enter_lookup_last {last : β} {value : α} (made : entry last = .ok (key, value))
    (entered : enter entry table (items ++ [last]) = .ok result) :
    result.lookup key = some value := by
  rw [enter_append] at entered
  obtain ⟨mid, -, final⟩ := Except.bind_eq_ok.mp entered
  rw [enter_cons, made] at final
  cases final
  exact lookup_insert _

/-- Under the key of an item something is found. -/
theorem enter_isSome (entered : enter entry table items = .ok result)
    (there : (∃ item ∈ items, ∃ value, entry item = .ok (key, value)) ∨
      (table.lookup key).isSome) : (result.lookup key).isSome := by
  induction items generalizing table with
  | nil =>
    cases entered
    simpa using there
  | cons item items ih =>
    obtain ⟨made, here, later⟩ := Except.bind_eq_ok.mp entered
    apply ih later
    rw [lookup_insert_eq]
    rcases there with ⟨other, inside, value, made'⟩ | before
    · rcases mem_cons.mp inside with rfl | inside
      · cases here.symm.trans made'
        simp
      · exact .inl ⟨other, inside, value, made'⟩
    · right
      split
      · rfl
      · exact before

/-- It succeeds exactly when every item makes an entry. -/
theorem enter_ok_iff : (∃ result, enter entry table items = .ok result) ↔
    ∀ item ∈ items, ∃ made, entry item = .ok made := by
  induction items generalizing table with
  | nil => simp [enter]
  | cons item items ih =>
    rw [enter_cons, forall_mem_cons]
    cases here : entry item with
    | error err => simp [bind, Except.bind]
    | ok made => simpa [bind, Except.bind] using ih

/-- It fails with the error of the first item that makes no entry. -/
theorem enter_error_iff {err : ε} {failure : β → Option ε}
    (fails : ∀ item err, failure item = some err ↔ entry item = .error err) :
    enter entry table items = .error err ↔ items.findSome? failure = some err := by
  induction items generalizing table with
  | nil => simp [enter]
  | cons item items ih =>
    rw [enter_cons, findSome?_cons]
    cases here : entry item with
    | error other =>
      rw [(fails item other).mpr here]
      simp [bind, Except.bind]
    | ok made =>
      have absent : failure item = none := by
        rw [Option.eq_none_iff_forall_ne_some]
        intro err failed
        cases ((fails item err).mp failed).symm.trans here
      rw [absent]
      exact ih

end Enter

/-- A table whose records are kept under their own key. -/
def KeyedBy (key : α → Text) (table : Table α) : Prop :=
  ∀ id value, table.lookup id = some value → key value = id

theorem KeyedBy.empty {key} : KeyedBy key (∅ : Table α) := by
  intro id value found
  simp at found

section

variable {key : α → Text} {table : Table α} (keyed : KeyedBy key table)

include keyed

theorem KeyedBy.insert (value : α) : KeyedBy key (table.insert (key value) value) := by
  intro id stored found
  rw [lookup_insert_eq] at found
  split at found
  · next same =>
    cases found
    exact same.symm
  · exact keyed id stored found

theorem KeyedBy.erase (id : Text) : KeyedBy key (table.erase id) := by
  intro other stored found
  rw [lookup_erase_eq] at found
  split at found
  · cases found
  · exact keyed other stored found

/-- Records under their own keys have different keys. -/
theorem KeyedBy.nodup_values : ((values table).map key).Nodup := by
  have keys : (values table).map key = table.keys := by
    rw [values, map_map, AList.keys, List.keys]
    apply map_congr_left
    rintro ⟨id, value⟩ entry
    exact keyed id value (mem_lookup_iff.mpr entry)
  rw [keys]
  exact table.keys_nodup

end

theorem KeyedBy.insertAll {key records} {table : Table α}
    (keyed : KeyedBy key table) : KeyedBy key (insertAll key records table) := by
  induction records generalizing table with
  | nil => exact keyed
  | cons value records ih => exact ih (keyed.insert value)

/-- Every record of one table lives on in the other, up to a relation. -/
def Grows (same : α → α → Prop) (before after : Table α) : Prop :=
  ∀ id value, before.lookup id = some value → ∃ stored, after.lookup id = some stored ∧
    same value stored

namespace Grows

variable {same : α → α → Prop} {before after : Table α}

theorem refl (reflexive : ∀ value, same value value) (table : Table α) : Grows same table table :=
  fun _ value found => ⟨value, found, reflexive value⟩

theorem trans (transitive : ∀ {a b c}, same a b → same b c → same a c) {mid}
    (first : Grows same before mid) (second : Grows same mid after) : Grows same before after := by
  intro id value found
  obtain ⟨stored, there, agree⟩ := first id value found
  obtain ⟨final, here, agrees⟩ := second id stored there
  exact ⟨final, here, transitive agree agrees⟩

/-- Writing a record that was not there, or that agrees with the one it replaces. -/
theorem insert (reflexive : ∀ value, same value value) {table key} {value : α}
    (agrees : ∀ stored, table.lookup key = some stored → same stored value) :
    Grows same table (table.insert key value) := by
  intro id stored found
  rw [lookup_insert_eq]
  by_cases here : id = key
  · subst here
    exact ⟨value, if_pos rfl, agrees stored found⟩
  · exact ⟨stored, by rw [if_neg here, found], reflexive stored⟩

/-- Writing a record in the place of one that agrees with it. -/
theorem replace (reflexive : ∀ value, same value value) {table key}
    {old value : α} (found : table.lookup key = some old) (agrees : same old value) :
    Grows same table (table.insert key value) := by
  apply insert reflexive
  intro stored there
  cases Option.mem_unique found there
  exact agrees

/-- What was there in some version still is. -/
theorem held {table table' key} {value : α} (trans : ∀ {a b c}, same a b → same b c → same a c)
    (grows : Grows same table table')
    (there : ∃ stored, table.lookup key = some stored ∧ same value stored) :
    ∃ stored, table'.lookup key = some stored ∧ same value stored := by
  obtain ⟨version, found, agrees⟩ := there
  obtain ⟨next, there, agrees'⟩ := grows _ version found
  exact ⟨next, there, trans agrees agrees'⟩

end Grows

end Table

end Foundation
