import AnoPki.Store.SqlAudit

/-! # The migration of the audit log

Rows from before the hash chain are read in the order they were created, hashed one after the other
and updated in place; the state of the chain is inserted last. `backfillLoop_ok` follows the rows
that are done and those that remain. -/
namespace AnoPki.Store

open Foundation Domain List

/-- The columns of a row that are older than the chain. -/
def legacyEvent (row : AuditEvent) : AuditEvent :=
  { row with sequence := 0, hashAlgorithm := [], previousEventHash := [], eventHash := [] }

/-- `UPDATE audit_events SET ... WHERE id`, for one row. -/
def updateAuditHash (prepared row : AuditEvent) : AuditEvent :=
  if row.id = prepared.id then { row with
    sequence := prepared.sequence
    hashAlgorithm := prepared.hashAlgorithm
    previousEventHash := prepared.previousEventHash
    eventHash := prepared.eventHash }
  else row

/-- The loop over the events, with the rows of the table and the last hash. -/
def backfillLoop (index : Nat) (previousHash : Text) (rows : List AuditEvent) :
    List AuditEvent → Except Err (List AuditEvent × Text)
  | [] => .ok (rows, previousHash)
  | event :: rest =>
    match withAuditEventHash (Int64.ofNat (index + 1)) previousHash event with
    | .error err => .error { err with detail := "backfill audit event" }
    | .ok prepared =>
      backfillLoop (index + 1) prepared.eventHash (rows.map (updateAuditHash prepared)) rest

/-- The row that the migration inserts. -/
def backfilledState (latestSequence : Nat) (latestEventHash : Text) (updatedAt : Time) :
    AuditChainState where
  hashAlgorithm := auditHashAlgorithmSHA256V1
  latestSequence := Int64.ofNat latestSequence
  latestEventHash
  checkpointSequence := 0
  checkpointEventHash := []
  updatedAt

section Order

variable {κ ι : Type} [LinearOrder κ] [LinearOrder ι] (created : Time → κ) (name : Text → ι)

/-- By `created_at` and `id`, as the database orders their values. -/
abbrev CreatedOrder (a b : AuditEvent) : Prop :=
  toLex (created a.createdAt, name a.id) ≤ toLex (created b.createdAt, name b.id)

/-- `SELECT ... ORDER BY created_at, id`. -/
def legacyAuditEvents (rows : List AuditEvent) : List AuditEvent :=
  (rows.insertionSort (CreatedOrder created name)).map legacyEvent

def backfillAuditHashChain (rows : List AuditEvent) (now : Time) : Except Err SqlAuditStore := do
  let events := legacyAuditEvents created name rows
  let (rows, previousHash) ← backfillLoop 0 [] rows events
  return ⟨rows, backfilledState events.length previousHash now⟩

/-- What the migration leaves of the rows it found. -/
structure Backfilled (rows : List AuditEvent) (store : SqlAuditStore) : Prop where
  valid : store.verifyAuditChain.valid = true
  checkpoint : store.auditChainState.checkpointSequence = 0
  numbered : store.listAuditEventsBySequence.map (·.sequence.toInt) =
    (range rows.length).map fun index : Nat => (index + 1 : Int)
  ordered : store.listAuditEventsBySequence.Pairwise (CreatedOrder created name)
  kept : (store.auditEvents.map legacyEvent).Perm (rows.map legacyEvent)

end Order

/-- The rows that are done form a sound log, and the others are as they were. `events` are the rows
in the order of the loop. -/
structure Backfilling (events rows done remaining : List AuditEvent) (hash : Text)
    (now : Time) : Prop where
  isOpen : AuditLog.Open ⟨done, backfilledState done.length hash now⟩ remaining.length
  same : rows.Perm (done ++ remaining)
  distinct : ((done ++ remaining).map (·.id)).Nodup
  order : (done ++ remaining).map legacyEvent = events

section Loop

variable {events rows done remaining : List AuditEvent} {hash : Text} {now : Time}

theorem Backfilling.step {row} (filling : Backfilling events rows done (row :: remaining) hash now)
    (readable : (Json.read row.metadataJSON).isSome) :
    ∃ prepared, withAuditEventHash (Int64.ofNat (done.length + 1))
      hash (legacyEvent row) = .ok prepared ∧
        Backfilling events (rows.map (updateAuditHash prepared))
        (done ++ [prepared]) remaining prepared.eventHash now := by
  have next : Int64.ofNat (done.length + 1) = Int64.ofNat done.length + 1 := Int64.ofNat_add _ _
  have read : Json.read (legacyEvent row).metadataJSON = _ := (Option.some_get readable).symm
  obtain ⟨prepared, hashed, shape, isOpen⟩ := filling.isOpen.extend read now
  have sameId : prepared.id = row.id := by rw [shape]; rfl
  have middle : (done ++ row :: remaining).Perm (row :: (done ++ remaining)) := perm_middle
  refine ⟨prepared, next ▸ hashed, ?_, ?_, by simpa [sameId] using filling.distinct, ?_⟩
  · have head : prepared.sequence = Int64.ofNat (done ++ [prepared]).length := by
      rw [length_append, length_singleton, next, shape]
      rfl
    rwa [head] at isOpen
  · obtain ⟨fresh, -⟩ := nodup_cons.mp ((middle.map (·.id)).nodup filling.distinct)
    have others : (done ++ remaining).map (updateAuditHash prepared) = done ++ remaining := by
      refine map_congr_left (fun other member => if_neg fun same => fresh ?_) |>.trans (map_id _)
      exact mem_map.mpr ⟨other, member, same.trans sameId⟩
    have here : updateAuditHash prepared row = prepared := by
      rw [updateAuditHash, if_pos sameId.symm, shape]
      rfl
    have updated := (filling.same.trans middle).map (updateAuditHash prepared)
    rw [map_cons, others, here] at updated
    rw [append_assoc]
    exact updated.trans perm_middle.symm
  · have same : legacyEvent prepared = legacyEvent row := by rw [shape]; rfl
    simpa [same] using filling.order

/-- Every row that remains is hashed and added to those that are done. -/
theorem backfillLoop_ok (filling : Backfilling events rows done remaining hash now)
    (readable : ∀ row ∈ remaining, (Json.read row.metadataJSON).isSome) :
    ∃ rows' done' hash', backfillLoop done.length hash rows (remaining.map legacyEvent) =
      .ok (rows', hash') ∧ Backfilling events rows' done' [] hash' now := by
  induction remaining generalizing rows done hash with
  | nil => exact ⟨rows, done, hash, rfl, filling⟩
  | cons row remaining ih =>
    obtain ⟨read, readable⟩ := forall_mem_cons.mp readable
    obtain ⟨prepared, hashed, filling⟩ := filling.step read
    have later := ih filling readable
    rw [length_append, length_singleton] at later
    rwa [map_cons, backfillLoop, hashed]

theorem backfillLoop_error {index event} (member : event ∈ events)
    (unreadable : Json.read event.metadataJSON = none) :
    ∃ err, backfillLoop index hash rows events = .error err := by
  induction events generalizing index hash rows with
  | nil => cases member
  | cons first rest ih =>
    rw [backfillLoop]
    cases hashed : withAuditEventHash (Int64.ofNat (index + 1)) hash first with
    | error err => exact ⟨_, rfl⟩
    | ok prepared =>
      rcases mem_cons.mp member with rfl | later
      · obtain ⟨-, found, shape⟩ := withHash_eq_ok hashed
        rw [auditEventHash, auditHashInput, canonicalAuditMetadata, shape, unreadable] at found
        cases found
      · exact ih later

end Loop

section Order

variable {κ ι : Type} [LinearOrder κ] [LinearOrder ι] {created : Time → κ} {name : Text → ι}
  {rows : List AuditEvent}

theorem Backfilling.backfilled {store : SqlAuditStore} {done hash now}
    (filled : Backfilling (legacyAuditEvents created name rows) store.auditEvents done [] hash now)
    (state : store.auditChainState =
      backfilledState (legacyAuditEvents created name rows).length hash now) :
    Backfilled created name rows store := by
  have stored : store.auditEvents.Perm done := append_nil done ▸ filled.same
  have increasing := filled.isOpen.sound.increasing
  have unique : (done.map (·.sequence)).Nodup := pairwise_map.mpr (increasing.imp Int64.ne_of_lt)
  -- The sequences are distinct, so ordered by them the rows stand in the order they were hashed.
  have listed : store.listAuditEventsBySequence = done := by
    let le (a b : AuditEvent) := a.sequence ≤ b.sequence
    have total : Std.Total le := ⟨fun a b => Int64.le_total a.sequence b.sequence⟩
    have trans : IsTrans _ le := ⟨fun _ _ _ => Int64.le_trans⟩
    have same := (perm_insertionSort le _).trans stored
    refine same.eq_of_pairwise (fun a b first second below above => ?_)
      (pairwise_insertionSort le _) (increasing.imp Int64.le_of_lt)
    exact inj_on_of_nodup_map unique (same.mem_iff.mp first) second (Int64.le_antisymm below above)
  have whole : done.map legacyEvent = _ := append_nil done ▸ filled.order
  have size : done.length = rows.length := by simpa [legacyAuditEvents] using congrArg length whole
  rw [← whole, length_map] at state
  refine ⟨?_, by rw [state]; rfl, ?_, ?_, ?_⟩
  · rw [SqlAuditStore.verifyAuditChain, listed, state]
    exact auditState_valid_iff.mpr filled.isOpen.sound.valid
  · rw [listed, ← size]
    refine ext_getElem (by simp) fun index inside _ => ?_
    rw [getElem_map, filled.isOpen.sound.contiguous, getElem_map, getElem_range]
    change (0 : Int) + 1 + index = _
    omega
  · have total : Std.Total (CreatedOrder created name) := ⟨fun _ _ => le_total _ _⟩
    have trans : IsTrans _ (CreatedOrder created name) := ⟨fun _ _ _ => le_trans⟩
    have ordered : (legacyAuditEvents created name rows).Pairwise (CreatedOrder created name) :=
      pairwise_map.mpr (pairwise_insertionSort _ rows)
    rw [← whole, pairwise_map] at ordered
    rwa [listed]
  · refine (stored.map _).trans ?_
    rw [whole]
    exact (perm_insertionSort _ _).map _

/-- The migration succeeds exactly if every metadata text is a document, and leaves a valid
chain. -/
theorem backfillAuditHashChain_spec (created : Time → κ) (name : Text → ι) (rows : List AuditEvent)
    (now : Time) (distinct : (rows.map (·.id)).Nodup) (numbers : rows.length < 2 ^ 63) :
    ((∀ row ∈ rows, (Json.read row.metadataJSON).isSome) →
      ∃ store, backfillAuditHashChain created name rows now = .ok store ∧
        Backfilled created name rows store) ∧
    ((∃ row ∈ rows, Json.read row.metadataJSON = none) →
      ∃ err, backfillAuditHashChain created name rows now = .error err) := by
  have perm := perm_insertionSort (CreatedOrder created name) rows
  constructor
  · intro readable
    have filling : Backfilling (legacyAuditEvents created name rows) rows []
        (rows.insertionSort (CreatedOrder created name)) [] now := {
      isOpen := ⟨⟨⟨⟨rfl, le_rfl, fun _ => rfl, absurd rfl⟩, rfl⟩, nofun, rfl⟩, by
        rw [perm.length_eq]
        change (0 : Int) + rows.length < _
        omega⟩
      same := perm.symm
      distinct := (perm.map _).nodup_iff.mpr distinct
      order := rfl }
    obtain ⟨rows', _, hash, run, filled⟩ :=
      backfillLoop_ok filling fun row member => readable row (perm.mem_iff.mp member)
    exact ⟨⟨rows', _⟩, Except.bind_eq_ok.mpr ⟨_, run, rfl⟩, filled.backfilled rfl⟩
  · rintro ⟨row, member, unreadable⟩
    obtain ⟨err, failed⟩ := @backfillLoop_error (legacyAuditEvents created name rows) rows [] 0
      (legacyEvent row) (mem_map_of_mem (perm.mem_iff.mpr member)) unreadable
    exact ⟨err, by rw [backfillAuditHashChain, failed]; rfl⟩

end Order

/-- Two rows, of which the second is the older one. -/
def legacyRows : List AuditEvent := [issuerCreatedAt 1, { issuerCreatedAt 0 with id := "event-0" }]

/-- They are numbered and linked by their times. -/
theorem backfillAuditHashChain_ordered : ∃ store,
    backfillAuditHashChain Time.nanos id legacyRows Time.zero = .ok store ∧
      Backfilled Time.nanos id legacyRows store :=
  (backfillAuditHashChain_spec Time.nanos id legacyRows Time.zero (by decide) (by decide)).1
    (by decide +kernel)

end AnoPki.Store
