import AnoPki.Store.AuditLog

/-! # The audit log of the SQL store on PostgreSQL

A `TIMESTAMPTZ` column keeps microseconds, so an event is read back with a rounded time, while its
hash was computed over the time given. `runSqlAuditCalls_valid` shows that the chain stays valid in
every run whose events fall on whole microseconds; `nanosecondEvent_breaks_chain` is a run with one
event that does not. -/
namespace AnoPki.Store

open Foundation Domain List Except

/-- The value of a `TIMESTAMPTZ` column: the nearest microsecond, ties to the even one. -/
def storedTime (t : Time) : Time :=
  let micros := t.nanos / 1000
  let rest := t.nanos % 1000
  let rounded := if rest < 500 ∨ (rest = 500 ∧ micros % 2 = 0) then micros else micros + 1
  ⟨rounded * 1000, 0⟩

/-- The rows of `audit_events`, in the order they were inserted, and the row of
`audit_chain_state`. -/
structure SqlAuditStore where
  auditEvents : List AuditEvent
  auditChainState : AuditChainState
deriving DecidableEq, Repr

namespace SqlAuditStore

/-- The store after the migrations ran on a database without events. -/
def empty : SqlAuditStore := ⟨[], emptyAuditChainState⟩

/-- `SELECT ... ORDER BY sequence`. -/
def listAuditEventsBySequence (store : SqlAuditStore) : List AuditEvent :=
  store.auditEvents.insertionSort (fun a b => a.sequence ≤ b.sequence)

/-- `INSERT INTO audit_events`; the identifier is the primary key and the sequence is unique. -/
def insertAuditEvent (store : SqlAuditStore) (event : AuditEvent) : Except Err SqlAuditStore :=
  if store.auditEvents.any fun row => row.id = event.id ∨ row.sequence = event.sequence then
    .error { kind := .other, detail := "duplicate key value violates unique constraint" }
  else
    .ok { store with
      auditEvents := store.auditEvents ++ [{ event with createdAt := storedTime event.createdAt }] }

def updateAuditChainState (store : SqlAuditStore) (state : AuditChainState) : SqlAuditStore :=
  { store with auditChainState := { state with updatedAt := storedTime state.updatedAt } }

def verifyAuditChain (store : SqlAuditStore) : AuditIntegrity :=
  verifyAuditState store.listAuditEventsBySequence store.auditChainState

/-- The transaction of `CreateAuditEvent`; an error rolls it back. `now` is the time the state row
is stamped with. -/
def createAuditEvent (store : SqlAuditStore) (event : AuditEvent) (now : Time) :
    Except Err SqlAuditStore := do
  let state := store.auditChainState
  let events := store.listAuditEventsBySequence
  let report := verifyAuditState events state
  auditIntegrityError report
  let prepared ← withAuditEventHash (report.lastSequence + 1) report.lastEventHash event
  let store ← store.insertAuditEvent prepared
  let state := { state with
    latestSequence := prepared.sequence
    latestEventHash := prepared.eventHash
    updatedAt := now }
  let store := store.updateAuditChainState state
  auditIntegrityError (verifyAuditState (events ++ [prepared]) state)
  return store

/-- The transaction of `DeleteAuditEventsBefore`, with the number of deleted events. -/
def deleteAuditEventsBefore (store : SqlAuditStore) (before now : Time) :
    Except Err (Nat × SqlAuditStore) := do
  let state := store.auditChainState
  let events := store.listAuditEventsBySequence
  auditIntegrityError (verifyAuditState events state)
  let deleteCount := auditRetentionPrefixLength events before
  if deleteCount < 0 then
    throw { kind := .auditIntegrity, detail := "retention_cutoff_non_prefix" }
  if deleteCount = 0 then
    return (0, store)
  match events[deleteCount.toNat - 1]? with
  | none => throw { kind := .other, detail := "index out of range" }
  | some lastDeleted =>
    let kept := store.auditEvents.filter fun row => ¬ row.sequence ≤ lastDeleted.sequence
    if store.auditEvents.length - kept.length ≠ deleteCount.toNat then
      throw { kind := .auditIntegrity, detail := "prune_row_count_mismatch" }
    let state := { state with
      checkpointSequence := lastDeleted.sequence
      checkpointEventHash := lastDeleted.eventHash
      updatedAt := now }
    let store := { store with auditEvents := kept }.updateAuditChainState state
    auditIntegrityError (verifyAuditState (events.drop deleteCount.toNat) state)
    return (deleteCount.toNat, store)

end SqlAuditStore

/-- An audited operation on the store, with the clock readings it makes. The database may refuse any
statement of a transaction. -/
inductive SqlAuditCall where
  | createAuditEvent (event : AuditEvent) (now : Time)
  | deleteAuditEventsBefore (before now : Time)
  | refused

/-- The store after a call; a transaction that fails is rolled back. -/
def SqlAuditCall.run (store : SqlAuditStore) : SqlAuditCall → SqlAuditStore
  | .createAuditEvent event now => (store.createAuditEvent event now).toOption.getD store
  | .deleteAuditEventsBefore before now =>
    ((store.deleteAuditEventsBefore before now).toOption.map Prod.snd).getD store
  | .refused => store

def runSqlAuditCalls (calls : List SqlAuditCall) : SqlAuditStore :=
  calls.foldl SqlAuditCall.run SqlAuditStore.empty

/-- The event a call creates, if any, falls on a whole microsecond. -/
def SqlAuditCall.OnMicrosecond : SqlAuditCall → Prop
  | .createAuditEvent event _ => event.createdAt.nanos % 1000 = 0
  | _ => True

/-- The rows as a log of the memory store. -/
def SqlAuditStore.log (store : SqlAuditStore) : AuditLog :=
  ⟨store.auditEvents, store.auditChainState⟩

theorem SqlAuditStore.list_of_sound {store : SqlAuditStore} (sound : store.log.Sound) :
    store.listAuditEventsBySequence = store.auditEvents :=
  (sound.increasing.imp Int64.le_of_lt).insertionSort_eq

theorem storedTime_of_micros {t} (micros : t.nanos % 1000 = 0) :
    (storedTime t).nanos = t.nanos := by
  simp only [storedTime, micros]
  split <;> omega

/-- The hash reads the instant of an event, not the zone it is shown in. -/
theorem withHash_sameInstant {sequence previousHash event t}
    (instant : t.nanos = event.createdAt.nanos) :
    withAuditEventHash sequence previousHash { event with createdAt := t } =
      (withAuditEventHash sequence previousHash event).map
        fun prepared => { prepared with createdAt := t } := by
  have shown : t.utc = event.createdAt.utc := by simp [Time.utc, instant]
  unfold withAuditEventHash auditEventHash auditHashInput auditHashPayload
  simp only [shown]
  by_cases positive : sequence ≤ 0
  · simp [positive, throw, throwThe, MonadExceptOf.throw, bind, Except.bind, Except.map]
  · cases canonicalAuditMetadata event.metadataJSON with
    | error err => simp [positive, bind, Except.bind, Except.map]
    | ok metadata => simp [positive, bind, Except.bind, Except.map, pure, Except.pure]

theorem SqlAuditStore.createAuditEvent_sound {store store' : SqlAuditStore} {event now}
    (sound : store.log.Sound) (micros : event.createdAt.nanos % 1000 = 0)
    (created : store.createAuditEvent event now = .ok store') : store'.log.Sound := by
  obtain ⟨-, lastSequence, lastHash⟩ := auditState_of_valid sound.valid
  unfold createAuditEvent at created
  rw [list_of_sound sound] at created
  obtain ⟨-, -, created⟩ := bind_eq_ok.mp created
  obtain ⟨prepared, hashed, created⟩ := bind_eq_ok.mp created
  obtain ⟨inserted, insertion, created⟩ := bind_eq_ok.mp created
  obtain ⟨-, -, created⟩ := bind_eq_ok.mp created
  have shape := (withHash_eq_ok hashed).2.2
  have createdAt : prepared.createdAt = event.createdAt := by rw [shape]
  -- The row is the event hashed with its stored time, so the log is extended by that event.
  have rowHashed : withAuditEventHash (store.log.state.latestSequence + 1)
      store.log.state.latestEventHash { event with createdAt := storedTime event.createdAt } =
      .ok { prepared with createdAt := storedTime event.createdAt } := by
    rw [withHash_sameInstant (storedTime_of_micros micros), ← lastSequence, ← lastHash]
    exact congrArg (Except.map _) hashed
  have extended := (sound.extend rowHashed (storedTime now)).2
  unfold insertAuditEvent at insertion
  split at insertion
  · cases insertion
  · cases insertion
    cases created
    have algorithm : store.auditChainState.hashAlgorithm = auditHashAlgorithmSHA256V1 :=
      sound.valid.checkpoint.algorithm
    rw [← createdAt] at extended
    simpa [log, updateAuditChainState, algorithm] using extended

/-- Deleting by sequence number removes the same events as cutting the log. -/
theorem AuditLog.Sound.filter_after {log : AuditLog} (sound : log.Sound) {removed kept last}
    (split : log.events = removed ++ [last] ++ kept) :
    log.events.filter (fun row => ¬ row.sequence ≤ last.sequence) = kept := by
  have increasing := sound.increasing
  rw [split, pairwise_append, pairwise_append] at increasing
  obtain ⟨⟨-, -, removedBelow⟩, -, keptAbove⟩ := increasing
  have removedGone : removed.filter (fun row => ¬ row.sequence ≤ last.sequence) = [] := by
    rw [filter_eq_nil_iff]
    intro row member
    simpa using Int64.le_of_lt (removedBelow row member last (by simp))
  have keptStays : kept.filter (fun row => ¬ row.sequence ≤ last.sequence) = kept := by
    rw [filter_eq_self]
    intro row member
    simpa using keptAbove last (by simp) row member
  rw [split, filter_append, filter_append, removedGone, keptStays]
  simp

theorem SqlAuditStore.deleteBefore_sound {store store' : SqlAuditStore}
    {before now} {count : Nat} (sound : store.log.Sound)
    (deleted : store.deleteAuditEventsBefore before now = .ok (count, store')) :
    store'.log.Sound := by
  unfold deleteAuditEventsBefore at deleted
  rw [list_of_sound sound] at deleted
  obtain ⟨-, -, deleted⟩ := bind_eq_ok.mp deleted
  generalize auditRetentionPrefixLength store.auditEvents before = total at deleted
  dsimp only at deleted
  split at deleted
  · cases deleted
  split at deleted
  · obtain rfl := congrArg Prod.snd (Except.ok.inj deleted)
    exact sound
  cases found : store.auditEvents[total.toNat - 1]? with
  | none =>
    rw [found] at deleted
    cases deleted
  | some last =>
    rw [found] at deleted
    dsimp only at deleted
    split at deleted
    · cases deleted
    obtain ⟨-, -, deleted⟩ := bind_eq_ok.mp deleted
    obtain rfl := congrArg Prod.snd (Except.ok.inj deleted)
    obtain ⟨inside, lastEq⟩ := List.getElem?_eq_some_iff.mp found
    have split : store.log.events = store.auditEvents.take (total.toNat - 1) ++ [last] ++
        store.auditEvents.drop (total.toNat - 1 + 1) := by
      rw [← lastEq, ← take_succ_eq_append_getElem inside, take_append_drop]
      rfl
    have kept := sound.filter_after split
    have algorithm : store.auditChainState.hashAlgorithm = auditHashAlgorithmSHA256V1 :=
      sound.valid.checkpoint.algorithm
    have cut := sound.cut split (storedTime now)
    rw [← kept] at cut
    simpa [log, updateAuditChainState, algorithm] using cut

theorem SqlAuditCall.run_sound {store : SqlAuditStore} (sound : store.log.Sound)
    (call : SqlAuditCall) (micros : call.OnMicrosecond) : (call.run store).log.Sound := by
  cases call with
  | createAuditEvent event now =>
    simp only [SqlAuditCall.run]
    cases created : store.createAuditEvent event now with
    | error err => exact sound
    | ok store' => exact SqlAuditStore.createAuditEvent_sound sound micros created
  | deleteAuditEventsBefore before now =>
    simp only [SqlAuditCall.run]
    cases deleted : store.deleteAuditEventsBefore before now with
    | error err => exact sound
    | ok result => exact SqlAuditStore.deleteBefore_sound sound deleted
  | refused => exact sound

theorem runSqlAuditCalls_sound (calls : List SqlAuditCall)
    (onMicrosecond : ∀ call ∈ calls, call.OnMicrosecond) : (runSqlAuditCalls calls).log.Sound := by
  have run : ∀ (calls : List SqlAuditCall) (store : SqlAuditStore),
      (∀ call ∈ calls, call.OnMicrosecond) → store.log.Sound →
      (calls.foldl SqlAuditCall.run store).log.Sound := by
    intro calls
    induction calls with
    | nil => exact fun store _ sound => sound
    | cons call rest ih =>
      intro store micros sound
      exact ih _ (fun call member => micros call (mem_cons_of_mem _ member))
        (call.run_sound sound (micros call mem_cons_self))
  exact run calls _ onMicrosecond AuditLog.sound_empty

/-- Every run whose events fall on whole microseconds keeps the chain valid after each call. -/
theorem runSqlAuditCalls_valid (calls : List SqlAuditCall)
    (onMicrosecond : ∀ call ∈ calls, call.OnMicrosecond) :
    ∀ made, made <+: calls → (runSqlAuditCalls made).verifyAuditChain.valid = true := by
  intro made part
  have sound := runSqlAuditCalls_sound made fun call member =>
    onMicrosecond call (part.subset member)
  rw [SqlAuditStore.verifyAuditChain, SqlAuditStore.list_of_sound sound]
  exact auditState_valid_iff.mpr sound.valid

/-- An event at a microsecond. -/
theorem runSqlAuditCalls_valid_microsecond :
    (runSqlAuditCalls [.createAuditEvent (issuerCreatedAt 1000) Time.zero]).verifyAuditChain.valid =
      true :=
  runSqlAuditCalls_valid [.createAuditEvent (issuerCreatedAt 1000) Time.zero]
    (forall_mem_singleton.mpr (by decide : (issuerCreatedAt 1000).createdAt.nanos % 1000 = 0)) _
    List.prefix_rfl

/-- One nanosecond past the second the event is stored, and the chain no longer verifies. -/
theorem nanosecondEvent_breaks_chain :
    (SqlAuditStore.empty.createAuditEvent (issuerCreatedAt 1) Time.zero).isOk = true ∧
    (runSqlAuditCalls [.createAuditEvent (issuerCreatedAt 1) Time.zero]).verifyAuditChain.valid =
      false ∧
    (runSqlAuditCalls [.createAuditEvent (issuerCreatedAt 1)
      Time.zero]).verifyAuditChain.failureReason = "event_hash_mismatch".toList := by
  decide +kernel

end AnoPki.Store
