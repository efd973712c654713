import AnoPki.Store.AuditHash

/-! # The audit log of the memory store

Appending and pruning work in place on the events and the chain state. `AuditLog.Sound` is what
every sequence of calls keeps: the log verifies, and its sequence numbers run without a gap from
the checkpoint to the head. -/
namespace AnoPki.Store

open Foundation Domain List Int64

variable {log : AuditLog} {event : AuditEvent} {sequence : Int64} {log' : AuditLog}
  {previousHash : Text} {prepared : AuditEvent} {err : Err} {removed kept : List AuditEvent}
  {last : AuditEvent}

structure AuditLog where
  events : List AuditEvent
  state : AuditChainState
deriving DecidableEq, Repr

namespace AuditLog

def empty : AuditLog := ⟨[], emptyAuditChainState⟩

end AuditLog

/-- Append an event. The log is written before the final check, so its result is returned beside
the outcome. -/
def appendMemoryAuditEvent (log : AuditLog) (event : AuditEvent) : Except Err Unit × AuditLog :=
  let report := verifyAuditState log.events log.state
  match auditIntegrityError report with
  | .error err => (.error err, log)
  | .ok () =>
    match withAuditEventHash (report.lastSequence + 1) report.lastEventHash event with
    | .error err => (.error err, log)
    | .ok prepared =>
      let log := {
        events := log.events ++ [prepared]
        state := { log.state with
          hashAlgorithm := auditHashAlgorithmSHA256V1
          latestSequence := prepared.sequence
          latestEventHash := prepared.eventHash
          updatedAt := prepared.createdAt } }
      let after := verifyAuditState log.events log.state
      (if after.valid = false then auditIntegrityError after else .ok (), log)

/-- The loop of `auditRetentionPrefixLength`. -/
def auditRetentionPrefixLoop (before : Time) (deleteCount : Int) (seenRetained : Bool) :
    List AuditEvent → Int
  | [] => deleteCount
  | event :: rest =>
    if event.createdAt.before before then
      if seenRetained then -1
      else auditRetentionPrefixLoop before (deleteCount + 1) seenRetained rest
    else auditRetentionPrefixLoop before deleteCount true rest

/-- How many events a cutoff removes from the front; negative when an event before the cutoff
follows one that is kept. -/
def auditRetentionPrefixLength (events : List AuditEvent) (before : Time) : Int :=
  auditRetentionPrefixLoop before 0 false events

/-- Remove the events before a cutoff and make the last of them the checkpoint. -/
def pruneMemoryAuditEvents (log : AuditLog) (before : Time) : Except Err Nat × AuditLog :=
  let report := verifyAuditState log.events log.state
  match auditIntegrityError report with
  | .error err => (.error err, log)
  | .ok () =>
    let deleteCount := auditRetentionPrefixLength log.events before
    if deleteCount < 0 then
      (.error { kind := .auditIntegrity, detail := "retention_cutoff_non_prefix" }, log)
    else if deleteCount = 0 then (.ok 0, log)
    else
      match log.events[deleteCount.toNat - 1]? with
      | none => (.error { kind := .other, detail := "index out of range" }, log)
      | some lastDeleted =>
        let log := {
          events := log.events.drop deleteCount.toNat
          state := { log.state with
            hashAlgorithm := auditHashAlgorithmSHA256V1
            checkpointSequence := lastDeleted.sequence
            checkpointEventHash := lastDeleted.eventHash
            updatedAt := lastDeleted.createdAt } }
        let after := verifyAuditState log.events log.state
        (if after.valid = false then (auditIntegrityError after).map fun _ => 0
          else .ok deleteCount.toNat, log)

/-- A call on the store's audit log. -/
inductive AuditCall where
  | createAuditEvent (event : AuditEvent)
  | deleteAuditEventsBefore (before : Time)

/-- The outcome of a call and the log after it. -/
def AuditCall.run (log : AuditLog) : AuditCall → Except Err Nat × AuditLog
  | .createAuditEvent event =>
    let (result, log) := appendMemoryAuditEvent log event
    (result.map fun _ => 0, log)
  | .deleteAuditEventsBefore before => pruneMemoryAuditEvents log before

/-- The log after a sequence of calls on a new store. -/
def runAuditCalls (calls : List AuditCall) : AuditLog :=
  calls.foldl (fun log call => (call.run log).2) AuditLog.empty

/-- The log verifies, and its events are numbered from the checkpoint to the head. -/
structure AuditLog.Sound (log : AuditLog) : Prop where
  valid : AuditChainValid log.events log.state
  contiguous : ∀ (index : Nat) (inside : index < log.events.length),
    log.events[index].sequence.toInt = log.state.checkpointSequence.toInt + 1 + index
  latest : log.state.latestSequence.toInt =
    log.state.checkpointSequence.toInt + log.events.length

namespace AuditLog

theorem sound_empty : empty.Sound where
  valid := {
    checkpoint := ⟨rfl, le_refl _, fun _ => rfl, fun positive => absurd rfl positive⟩
    linked := rfl }
  contiguous index inside := absurd inside (Nat.not_lt_zero index)
  latest := rfl

/-- Sequence numbers increase along the log. -/
theorem Sound.increasing (sound : log.Sound) :
    log.events.Pairwise (fun a b => a.sequence < b.sequence) := by
  rw [pairwise_iff_getElem]
  intro i j first second order
  rw [lt_iff_toInt_lt, sound.contiguous i first, sound.contiguous j second]
  omega

theorem Sound.verified (sound : log.Sound) :
    auditIntegrityError (verifyAuditState log.events log.state) = .ok () := by
  simp [auditIntegrityError, auditState_valid_iff.mpr sound.valid]

end AuditLog

/-- An event that differs from the given one only in the fields of the chain. -/
abbrev PreparedFor (sequence : Int64) (previousHash : Text) (event prepared : AuditEvent) : Prop :=
  prepared = { event with
    sequence
    hashAlgorithm := auditHashAlgorithmSHA256V1
    previousEventHash := previousHash
    eventHash := prepared.eventHash }

theorem withHash_eq_ok
    (hashed : withAuditEventHash sequence previousHash event = .ok prepared) : 0 < sequence ∧
      auditEventHash previousHash prepared = .ok prepared.eventHash ∧
      PreparedFor sequence previousHash event prepared := by
  unfold withAuditEventHash at hashed
  by_cases positive : sequence ≤ 0
  · simp [positive, throw, throwThe, MonadExceptOf.throw, bind, Except.bind] at hashed
  · rw [if_neg positive] at hashed
    obtain ⟨-, -, hashed⟩ := Except.bind_eq_ok.mp hashed
    obtain ⟨hash, found, built⟩ := Except.bind_eq_ok.mp hashed
    simp only [pure, Except.pure, Except.ok.injEq] at built
    subst built
    exact ⟨Int64.not_le.mp positive, found, rfl⟩

/-- An append that succeeds adds one event that says what the given one does. -/
theorem appendMemory_ok (appended : appendMemoryAuditEvent log event = (.ok (), log')) :
    ∃ prepared, log'.events = log.events ++ [prepared] ∧ prepared.action = event.action ∧
      prepared.resourceType = event.resourceType ∧ prepared.resourceID = event.resourceID := by
  unfold appendMemoryAuditEvent at appended
  dsimp only at appended
  split at appended
  · cases (Prod.mk.inj appended).1
  split at appended
  · cases (Prod.mk.inj appended).1
  · next prepared hashed =>
    obtain ⟨-, -, shape⟩ := withHash_eq_ok hashed
    obtain rfl := (Prod.mk.inj appended).2
    refine ⟨prepared, rfl, ?_, ?_, ?_⟩
    all_goals rw [shape]

theorem withHash_error (refused : withAuditEventHash sequence previousHash event = .error err) :
    err.kind = .other := by
  simp only [withAuditEventHash, auditEventHash, auditHashInput, canonicalAuditMetadata] at refused
  by_cases negative : sequence ≤ 0
  · simp only [if_pos negative] at refused
    cases refused
    rfl
  · simp only [if_neg negative] at refused
    cases read : Json.read event.metadataJSON with
    | none =>
      rw [read] at refused
      cases refused
      rfl
    | some metadata =>
      rw [read] at refused
      cases refused

/-- An event is refused by the log or for what it says. -/
theorem appendMemory_error (refused : appendMemoryAuditEvent log event = (.error err, log')) :
    err.kind = .auditIntegrity ∨ err.kind = .other := by
  have integrity : ∀ report err, auditIntegrityError report = .error err →
      err.kind = .auditIntegrity := by
    intro report err invalid
    rw [auditIntegrityError] at invalid
    split at invalid
    · cases invalid
    · cases invalid
      rfl
  unfold appendMemoryAuditEvent at refused
  dsimp only at refused
  split at refused
  · next err invalid =>
    cases refused
    exact .inl (integrity _ _ invalid)
  split at refused
  · next err unhashed =>
    cases refused
    exact .inr (withHash_error unhashed)
  · split at refused
    · exact .inl (integrity _ _ (Prod.mk.inj refused).1)
    · cases refused

/-- A sound log stays sound when an event hashed for its head is added. A number that wrapped around
would not be positive, so the event takes the successor of the last one. -/
theorem AuditLog.Sound.extend (sound : log.Sound)
    (hashed : withAuditEventHash (log.state.latestSequence + 1)
      log.state.latestEventHash event = .ok prepared) (updatedAt : Time) :
    PreparedFor (log.state.latestSequence + 1) log.state.latestEventHash event prepared ∧
    AuditLog.Sound {
      events := log.events ++ [prepared]
      state := { log.state with
        hashAlgorithm := auditHashAlgorithmSHA256V1
        latestSequence := prepared.sequence
        latestEventHash := prepared.eventHash
        updatedAt } } := by
  obtain ⟨positive, found, shape⟩ := withHash_eq_ok hashed
  have nonnegative := sound.valid.checkpoint.nonnegative
  have latest := sound.latest
  have sequence : prepared.sequence = log.state.latestSequence + 1 := by rw [shape]
  have next := toInt_succ (by omega) positive
  refine ⟨shape, ⟨⟨rfl, nonnegative, sound.valid.checkpoint.unhashed,
    sound.valid.checkpoint.hashed⟩,
    Chain.snoc_eq_some.mpr ⟨log.state.latest, sound.valid.linked, ?_⟩⟩, ?_, ?_⟩
  · exact extendChain_eq_some.mpr ⟨sequence, by rw [shape], by rw [shape]; rfl, found, rfl⟩
  · intro index inside
    simp only [length_append, length_singleton] at inside
    rcases Nat.lt_succ_iff_lt_or_eq.mp inside with old | rfl
    · simpa [getElem_append_left old] using sound.contiguous index old
    · simp only [getElem_concat_length, sequence, next, latest]
      omega
  · simp only [sequence, next, latest, length_append, length_singleton]
    omega

/-- What an append to a sound log can do: leave it alone and report an error, or add one event that
differs from the given one only in the fields of the chain. -/
theorem appendMemory_cases (sound : log.Sound) (event : AuditEvent) :
    (∃ err, appendMemoryAuditEvent log event = (.error err, log)) ∨
    ∃ prepared log', appendMemoryAuditEvent log event = (.ok (), log') ∧ log'.Sound ∧
      log'.events = log.events ++ [prepared] ∧
      PreparedFor (log.state.latestSequence + 1) log.state.latestEventHash event prepared ∧
      log'.state = { log.state with
        latestSequence := prepared.sequence
        latestEventHash := prepared.eventHash
        updatedAt := prepared.createdAt } := by
  obtain ⟨-, lastSequence, lastHash⟩ := auditState_of_valid sound.valid
  unfold appendMemoryAuditEvent
  simp only [sound.verified, lastSequence, lastHash]
  cases hashed : withAuditEventHash (log.state.latestSequence + 1)
      log.state.latestEventHash event with
  | error err => exact .inl ⟨err, rfl⟩
  | ok prepared =>
    obtain ⟨shape, after⟩ := sound.extend hashed prepared.createdAt
    refine .inr ⟨prepared, _, ?_, after, rfl, shape, ?_⟩
    · simp [auditState_valid_iff.mpr after.valid]
    · simp [sound.valid.checkpoint.algorithm]

theorem appendMemory_sound {u} (sound : log.Sound)
    (appended : appendMemoryAuditEvent log event = (.ok u, log')) : log'.Sound := by
  rcases appendMemory_cases sound event with ⟨err, failed⟩ | ⟨_, _, run, sound', -⟩
  · rw [failed] at appended
    cases appended
  · rw [run] at appended
    cases appended
    exact sound'

/-- A sound log that can still number so many events. -/
structure AuditLog.Open (log : AuditLog) (room : Nat) : Prop where
  sound : log.Sound
  numbers : log.state.latestSequence.toInt + room < 2 ^ 63

theorem AuditLog.open_empty {room : Nat} (small : room < 2 ^ 63) : AuditLog.empty.Open room where
  sound := sound_empty
  numbers := by
    change (0 : Int) + room < 2 ^ 63
    omega

theorem withHash_succeeds (positive : 0 < sequence) (previousHash : Text) {metadata}
    (readable : Json.read event.metadataJSON = some metadata) :
    ∃ prepared, withAuditEventHash sequence previousHash event = .ok prepared := by
  have nonzero : ¬ sequence ≤ 0 := Int64.not_le.mpr positive
  simp [withAuditEventHash, nonzero, auditEventHash, auditHashInput,
    canonicalAuditMetadata, readable, bind, Except.bind, pure, Except.pure]

/-- A log that has room can be extended by every event whose metadata is a document. -/
theorem AuditLog.Open.extend {room : Nat} (isOpen : log.Open (room + 1)) {metadata}
    (readable : Json.read event.metadataJSON = some metadata) (updatedAt : Time) : ∃ prepared,
      withAuditEventHash (log.state.latestSequence + 1) log.state.latestEventHash
      event = .ok prepared ∧
      PreparedFor (log.state.latestSequence + 1) log.state.latestEventHash event prepared ∧
      AuditLog.Open ⟨log.events ++ [prepared], { log.state with
        hashAlgorithm := auditHashAlgorithmSHA256V1
        latestSequence := prepared.sequence
        latestEventHash := prepared.eventHash
        updatedAt }⟩ room := by
  have checkpoint := isOpen.sound.valid.checkpoint.nonnegative
  have latest := isOpen.sound.latest
  have numbers := isOpen.numbers
  have positive := succ_pos (n := log.state.latestSequence) (by omega) (by omega)
  obtain ⟨prepared, hashed⟩ := withHash_succeeds positive log.state.latestEventHash readable
  obtain ⟨shape, sound⟩ := isOpen.sound.extend hashed updatedAt
  refine ⟨prepared, hashed, shape, sound, ?_⟩
  have next := toInt_succ (n := log.state.latestSequence) (by omega) positive
  rw [shape]
  change (log.state.latestSequence + 1).toInt + room < 2 ^ 63
  omega

/-- A log that has room takes every event whose metadata is a document. -/
theorem AuditLog.Open.append {log} {room : Nat} (isOpen : log.Open (room + 1))
    {event metadata} (readable : Json.read event.metadataJSON = some metadata) :
    ∃ log', appendMemoryAuditEvent log event = (.ok (), log') ∧ log'.Open room := by
  obtain ⟨-, lastSequence, lastHash⟩ := auditState_of_valid isOpen.sound.valid
  obtain ⟨prepared, hashed, shape, after⟩ := isOpen.extend readable event.createdAt
  have same : prepared.createdAt = event.createdAt := by rw [shape]
  rw [← same] at after
  refine ⟨_, ?_, after⟩
  simp [appendMemoryAuditEvent, isOpen.sound.verified, lastSequence, lastHash, hashed,
    auditState_valid_iff.mpr after.sound.valid]

private theorem retentionLoop_seen (before : Time) (count : Int)
    (events : List AuditEvent) :
    auditRetentionPrefixLoop before count true events =
      if ∃ event ∈ events, event.createdAt.before before then -1 else count := by
  induction events with
  | nil => simp [auditRetentionPrefixLoop]
  | cons event rest ih =>
    by_cases old : event.createdAt.before before
    · simp [auditRetentionPrefixLoop, old]
    · simp [auditRetentionPrefixLoop, old, ih]

/-- The events a cutoff is meant to remove. -/
def eventsBefore (events : List AuditEvent) (before : Time) : List AuditEvent :=
  events.filter fun event => event.createdAt.before before

private theorem retentionLoop_eq (before : Time) (count : Int) (events : List AuditEvent) :
    auditRetentionPrefixLoop before count false events =
      if eventsBefore events before <+: events then count + (eventsBefore events before).length
      else -1 := by
  induction events generalizing count with
  | nil => simp [auditRetentionPrefixLoop, eventsBefore]
  | cons event rest ih =>
    by_cases old : event.createdAt.before before
    · have removed : eventsBefore (event :: rest) before = event :: eventsBefore rest before := by
        simp [eventsBefore, old]
      simp only [auditRetentionPrefixLoop, old, if_true, removed, ih,
        prefix_cons_inj, length_cons, Bool.false_eq_true, if_false]
      congr 1
      push_cast
      omega
    · have kept : eventsBefore (event :: rest) before = eventsBefore rest before := by
        simp [eventsBefore, old]
      simp only [auditRetentionPrefixLoop, old, if_false, retentionLoop_seen, kept]
      cases later : eventsBefore rest before with
      | nil =>
        have kept : ¬ ∃ event ∈ rest, event.createdAt.before before := by
          simpa [eventsBefore, filter_eq_nil_iff] using later
        simp [kept]
      | cons first others =>
        have member : first ∈ eventsBefore rest before := later ▸ mem_cons_self
        have gap : ∃ event ∈ rest, event.createdAt.before before :=
          ⟨first, (mem_filter.mp member).1, by simpa using (mem_filter.mp member).2⟩
        have apart : ¬ first :: others <+: event :: rest := by
          intro front
          rw [(cons_prefix_cons.mp front).1] at member
          exact old (by simpa using (mem_filter.mp member).2)
        rw [if_pos gap, if_neg apart]

theorem retentionPrefix_eq (events : List AuditEvent) (before : Time) :
    auditRetentionPrefixLength events before =
      if eventsBefore events before <+: events then ((eventsBefore events before).length : Int)
      else -1 := by
  rw [auditRetentionPrefixLength, retentionLoop_eq]
  simp

/-- What is left when the removed events are a front of the log. -/
theorem drop_eventsBefore {events before} (front : eventsBefore events before <+: events) :
    events.drop (eventsBefore events before).length =
      events.filter fun event => ¬ event.createdAt.before before := by
  obtain ⟨kept, split⟩ := front
  have noneKept : eventsBefore kept before = [] := by
    have filtered := congrArg (fun events => eventsBefore events before) split
    simpa [eventsBefore, filter_append, filter_filter] using filtered
  have noneRemoved : (eventsBefore events before).filter
      (fun event => ¬ event.createdAt.before before) = [] := by
    simp [eventsBefore, filter_filter, filter_eq_nil_iff]
  have allKept : kept.filter (fun event => ¬ event.createdAt.before before) = kept := by
    simpa [eventsBefore, filter_eq_nil_iff, filter_eq_self] using noneKept
  calc events.drop (eventsBefore events before).length
      = (eventsBefore events before ++ kept).drop (eventsBefore events before).length := by
        rw [split]
    _ = kept := by simp
    _ = events.filter fun event => ¬ event.createdAt.before before := by
        conv_rhs => rw [← split, filter_append, noneRemoved, allKept, nil_append]

/-- Cutting a valid chain after an event makes that event's number and hash the new checkpoint. -/
theorem AuditChainValid.cut {state}
    (valid : AuditChainValid (removed ++ [last] ++ kept) state) (positive : 0 < last.sequence.toInt)
    (updatedAt : Time) : AuditChainValid kept { state with
      hashAlgorithm := auditHashAlgorithmSHA256V1
      checkpointSequence := last.sequence
      checkpointEventHash := last.eventHash
      updatedAt } := by
  obtain ⟨middle, front, back⟩ := Chain.append_eq_some.mp valid.linked
  obtain ⟨point, -, extended⟩ := Chain.snoc_eq_some.mp front
  have hashed := extendChain_isAuditHash extended
  obtain ⟨-, -, -, -, rfl⟩ := extendChain_eq_some.mp extended
  refine ⟨⟨rfl, le_of_lt positive, fun zero => ?_, fun _ => hashed⟩, back⟩
  exact absurd (congrArg toInt zero) (ne_of_gt positive)

/-- A sound log stays sound when a front of it is replaced by a checkpoint. -/
theorem AuditLog.Sound.cut (sound : log.Sound) (split : log.events = removed ++ [last] ++ kept)
    (updatedAt : Time) : AuditLog.Sound {
      events := kept
      state := { log.state with
        hashAlgorithm := auditHashAlgorithmSHA256V1
        checkpointSequence := last.sequence
        checkpointEventHash := last.eventHash
        updatedAt } } := by
  have nonnegative := sound.valid.checkpoint.nonnegative
  have latest := sound.latest
  have total : log.events.length = removed.length + 1 + kept.length := by
    simp only [split, length_append, length_singleton]
  have lastSequence :
      last.sequence.toInt = log.state.checkpointSequence.toInt + 1 + removed.length := by
    rw [← sound.contiguous removed.length (by omega)]
    simp [split]
  refine ⟨(split ▸ sound.valid).cut (by omega) _, ?_, ?_⟩
  · intro index bound
    have old := sound.contiguous (removed.length + 1 + index) (by simp only at bound; omega)
    have shifted : log.events[removed.length + 1 + index]? = kept[index]? := by
      rw [split, getElem?_append_right (by simp)]
      simp
    rw [getElem?_eq_getElem (by simp only at bound; omega),
      getElem?_eq_getElem bound] at shifted
    rw [Option.some.inj shifted] at old
    simp only [old, lastSequence]
    push_cast
    omega
  · simp only [latest, lastSequence, total]
    push_cast
    omega

/-- What a prune of a sound log can do: refuse a cutoff that would leave a gap, find nothing to
remove, or remove the events before the cutoff and move the checkpoint to the last of them. -/
theorem pruneMemory_cases (sound : log.Sound) (before : Time) :
    (¬ eventsBefore log.events before <+: log.events ∧
      ∃ err, pruneMemoryAuditEvents log before = (.error err, log)) ∨
    (eventsBefore log.events before = [] ∧ pruneMemoryAuditEvents log before = (.ok 0, log)) ∨
    ∃ removed last log', eventsBefore log.events before = removed ++ [last] ∧
      eventsBefore log.events before <+: log.events ∧
      pruneMemoryAuditEvents log before = (.ok (eventsBefore log.events before).length, log') ∧
      log'.Sound ∧
      log'.events = (log.events.filter fun event => ¬ event.createdAt.before before) ∧
      log'.state = { log.state with
        checkpointSequence := last.sequence
        checkpointEventHash := last.eventHash
        updatedAt := last.createdAt } := by
  by_cases front : eventsBefore log.events before <+: log.events
  swap
  · refine .inl ⟨front, { kind := .auditIntegrity, detail := "retention_cutoff_non_prefix" }, ?_⟩
    simp [pruneMemoryAuditEvents, sound.verified, retentionPrefix_eq, front]
  rcases eq_nil_or_concat (eventsBefore log.events before) with empty | ⟨removed, last, shape⟩
  · refine .inr (.inl ⟨empty, ?_⟩)
    simp [pruneMemoryAuditEvents, sound.verified, retentionPrefix_eq, empty]
  · rw [concat_eq_append] at shape
    have keptEvents := drop_eventsBefore front
    have count : auditRetentionPrefixLength log.events before = (removed.length + 1 : Nat) := by
      rw [retentionPrefix_eq, if_pos front, shape]
      simp
    obtain ⟨kept, split⟩ := shape ▸ front
    have after := sound.cut split.symm last.createdAt
    have found : log.events[removed.length]? = some last := by simp [← split]
    have rest : log.events.drop (removed.length + 1) = kept := by simp [← split]
    refine .inr (.inr ⟨removed, last, _, shape, front, ?_, after, ?_, ?_⟩)
    · have positive : ¬ ((removed.length + 1 : Nat) : Int) < 0 := by omega
      have nonzero : ((removed.length + 1 : Nat) : Int) ≠ 0 := by omega
      simp only [pruneMemoryAuditEvents, sound.verified, count, if_neg positive, if_neg nonzero,
        Int.toNat_natCast, Nat.add_sub_cancel, found, rest, auditState_valid_iff.mpr after.valid,
        Bool.true_eq_false, if_false, shape, length_append, length_singleton]
    · rw [← keptEvents, shape, length_append, length_singleton, rest]
    · simp [sound.valid.checkpoint.algorithm]

/-- One call on a sound log leaves a sound log, and a call that fails leaves the log it found. -/
theorem AuditCall.run_sound (sound : log.Sound) (call : AuditCall) :
    (call.run log).2.Sound ∧ ∀ err, (call.run log).1 = .error err → (call.run log).2 = log := by
  cases call with
  | createAuditEvent event =>
    simp only [AuditCall.run]
    rcases appendMemory_cases sound event with
      ⟨err, failed⟩ | ⟨prepared, log', appended, sound', -, -, -⟩
    · rw [failed]
      exact ⟨sound, fun _ _ => rfl⟩
    · rw [appended]
      exact ⟨sound', nofun⟩
  | deleteAuditEventsBefore before =>
    simp only [AuditCall.run]
    rcases pruneMemory_cases sound before with
      ⟨-, err, failed⟩ | ⟨-, nothing⟩ | ⟨removed, last, log', -, -, pruned, sound', -, -⟩
    · rw [failed]
      exact ⟨sound, fun _ _ => rfl⟩
    · rw [nothing]
      exact ⟨sound, fun _ _ => rfl⟩
    · rw [pruned]
      exact ⟨sound', nofun⟩

theorem runAuditCalls_sound (calls : List AuditCall) : (runAuditCalls calls).Sound := by
  have run : ∀ (calls : List AuditCall) (log : AuditLog), log.Sound →
      (calls.foldl (fun log call => (call.run log).2) log).Sound := by
    intro calls
    induction calls with
    | nil => exact fun log sound => sound
    | cons call rest ih => exact fun log sound => ih _ (call.run_sound sound).1
  exact run calls _ AuditLog.sound_empty

/-- After every sequence of calls on a new store the log verifies and is numbered without gaps from
its checkpoint; an append adds one event at the end; a prune removes exactly the events before the
cutoff when they are a front of the log, and fails otherwise; a failed call changes nothing. -/
theorem runAuditCalls_keeps_chain (calls : List AuditCall) :
    let log := runAuditCalls calls
    (verifyAuditState log.events log.state).valid = true ∧
    (∀ (index : Nat) (inside : index < log.events.length),
      log.events[index].sequence.toInt = log.state.checkpointSequence.toInt + 1 + index) ∧
    (∀ event log', appendMemoryAuditEvent log event = (.ok (), log') →
      ∃ prepared, log'.events = log.events ++ [prepared] ∧ prepared = { event with
          sequence := log.state.latestSequence + 1
          hashAlgorithm := auditHashAlgorithmSHA256V1
          previousEventHash := log.state.latestEventHash
          eventHash := prepared.eventHash } ∧
        log'.state.checkpoint = log.state.checkpoint) ∧
    (∀ before, eventsBefore log.events before <+: log.events →
      ∃ log', pruneMemoryAuditEvents log before =
          (.ok (eventsBefore log.events before).length, log') ∧
        log'.events = (log.events.filter fun event => ¬ event.createdAt.before before) ∧
        (eventsBefore log.events before = [] → log' = log) ∧
        ∀ last ∈ (eventsBefore log.events before).getLast?,
          log'.state.checkpointSequence = last.sequence ∧
          log'.state.checkpointEventHash = last.eventHash) ∧
    (∀ before, ¬ eventsBefore log.events before <+: log.events →
      ∃ err, (pruneMemoryAuditEvents log before).1 = .error err) ∧
    (∀ (call : AuditCall) err, (call.run log).1 = .error err → (call.run log).2 = log) := by
  intro log
  have sound : log.Sound := runAuditCalls_sound calls
  refine ⟨auditState_valid_iff.mpr sound.valid, sound.contiguous, ?_, ?_, ?_, ?_⟩
  · intro event log' appended
    rcases appendMemory_cases sound event with
      ⟨err, failed⟩ | ⟨prepared, log'', appended', -, events, shape, state⟩
    · rw [failed] at appended
      cases appended
    · rw [appended'] at appended
      cases appended
      exact ⟨prepared, events, shape, by simp [state, AuditChainState.checkpoint]⟩
  · intro before front
    rcases pruneMemory_cases sound before with
      ⟨gap, -⟩ | ⟨empty, nothing⟩ | ⟨removed, last, log', shape, -, pruned, -, events, state⟩
    · exact absurd front gap
    · refine ⟨log, by simp [nothing, empty], ?_, fun _ => rfl, by simp [empty]⟩
      simpa [empty] using drop_eventsBefore front
    · exact ⟨log', pruned, events, by simp [shape], by simp [shape, state]⟩
  · intro before gap
    rcases pruneMemory_cases sound before with
      ⟨-, err, failed⟩ | ⟨empty, -⟩ | ⟨removed, last, log', -, front, -⟩
    · exact ⟨err, by rw [failed]⟩
    · exact absurd (empty ▸ nil_prefix) gap
    · exact absurd front gap
  · exact fun call => (call.run_sound sound).2

/-- An event of the given nanosecond of the year 2026. -/
def issuerCreatedAt (nanosecond : Int) : AuditEvent where
  id := "event-1"
  sequence := 0
  actor := "admin"
  action := "issuer.created"
  resourceType := "issuer"
  resourceID := "issuer-1"
  metadataJSON := "\x7b\x7d"
  hashAlgorithm := []
  previousEventHash := []
  eventHash := []
  createdAt := ⟨63902822400000000000 + nanosecond, 0⟩

end AnoPki.Store
