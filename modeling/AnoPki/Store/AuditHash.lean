import AnoPki.Domain.Types
import AnoPki.Foundation.Basic
import AnoPki.Foundation.Chain
import AnoPki.Foundation.Json
import AnoPki.Foundation.Sha256

/-! # The audit hash chain

The hash of an audit event covers the previous hash and a JSON payload of the event. Verification
walks the events from the checkpoint and compares every link. The walk is seen as a chain of
accepted events: `auditState_valid_iff` is the bridge every result about stored logs uses. -/
namespace AnoPki.Store

open Foundation Domain

variable {events : List AuditEvent} {point : AuditPoint} {event : AuditEvent}
  {state : AuditChainState} {next : AuditPoint} {previousHash hash : Text} {final : AuditPoint}

def auditHashAlgorithmSHA256V1 : Text := "sha256-v1"

/-- The head of the chain and the checkpoint that replaces pruned events. -/
structure AuditChainState where
  hashAlgorithm : Text
  latestSequence : Int64
  latestEventHash : Text
  checkpointSequence : Int64
  checkpointEventHash : Text
  updatedAt : Time
deriving DecidableEq, Repr

def emptyAuditChainState : AuditChainState where
  hashAlgorithm := auditHashAlgorithmSHA256V1
  latestSequence := 0
  latestEventHash := []
  checkpointSequence := 0
  checkpointEventHash := []
  updatedAt := Time.zero

/-- Metadata decoded as one JSON document and written again. -/
def canonicalAuditMetadata (value : Text) : Except Err Text :=
  match Json.read value with
  | some metadata => .ok metadata.write
  | none => .error { kind := .other, detail := "decode audit metadata" }

/-- The payload of an event around its canonical metadata. The raw metadata is a compact document
already, so the encoder copies it. -/
def auditHashPayload (event : AuditEvent) (canonicalMetadata : Text) : Text :=
  Json.writeObject [
    ("hash_algorithm", Json.quote event.hashAlgorithm),
    ("sequence", Text.decimalInt event.sequence.toInt),
    ("id", Json.quote event.id),
    ("actor", Json.quote event.actor),
    ("action", Json.quote event.action),
    ("resource_type", Json.quote event.resourceType),
    ("resource_id", Json.quote event.resourceID),
    ("metadata", canonicalMetadata),
    ("created_at", Json.quote event.createdAt.utc.rfc3339Nano)]

/-- The bytes that are hashed for an event. -/
def auditHashInput (previousHash : Text) (event : AuditEvent) : Except Err (List UInt8) := do
  let canonicalMetadata ← canonicalAuditMetadata event.metadataJSON
  return Text.utf8 (previousHash ++ auditHashPayload event canonicalMetadata)

def auditEventHash (previousHash : Text) (event : AuditEvent) : Except Err Text := do
  let input ← auditHashInput previousHash event
  return Text.hexEncode (sha256 input)

def withAuditEventHash (sequence : Int64) (previousHash : Text) (event : AuditEvent) :
    Except Err AuditEvent := do
  if sequence ≤ 0 then
    throw { kind := .other, detail := "audit sequence must be positive" }
  let event := { event with
    sequence
    hashAlgorithm := auditHashAlgorithmSHA256V1
    previousEventHash := previousHash }
  let hash ← auditEventHash previousHash event
  return { event with eventHash := hash }

def isAuditHash (value : Text) : Bool :=
  value.byteLength == 64 &&
    match Text.hexDecode value with
    | some decoded => decoded.length == 32 && value == Text.hexEncode decoded
    | none => false

/-- The loop of `verifyAuditEvents`; the early return carries its report in the error. -/
def verifyAuditEventsLoop (index : Nat) (expectedSequence : Int64) (previousHash : Text)
    (report : AuditIntegrity) : List AuditEvent → Except AuditIntegrity AuditIntegrity
  | [] => .ok report
  | event :: rest =>
    if event.sequence ≠ expectedSequence then
      .error { report with failureReason := "sequence_gap" }
    else if event.hashAlgorithm ≠ auditHashAlgorithmSHA256V1 then
      .error { report with failureReason := "hash_algorithm_mismatch" }
    else if event.previousEventHash ≠ previousHash then
      .error { report with failureReason := "previous_hash_mismatch" }
    else
      match auditEventHash previousHash event with
      | .error _ => .error { report with failureReason := "metadata_invalid" }
      | .ok expectedHash =>
        if event.eventHash ≠ expectedHash ∨ isAuditHash event.eventHash = false then
          .error { report with failureReason := "event_hash_mismatch" }
        else
          verifyAuditEventsLoop (index + 1) (expectedSequence + 1) event.eventHash
            { report with
              firstSequence := if index = 0 then event.sequence else report.firstSequence
              lastSequence := event.sequence
              lastEventHash := event.eventHash }
            rest

def verifyAuditEvents (events : List AuditEvent) (checkpoint : AuditChainCheckpoint) :
    AuditIntegrity :=
  let report : AuditIntegrity := {
    valid := false
    hashAlgorithm := auditHashAlgorithmSHA256V1
    eventCount := events.length
    firstSequence := 0
    lastSequence := 0
    lastEventHash := []
    checkpointSequence := checkpoint.sequence
    checkpointEventHash := checkpoint.eventHash
    failureReason := [] }
  if checkpoint.sequence < 0 then
    { report with failureReason := "checkpoint_sequence_invalid" }
  else if checkpoint.sequence = 0 ∧ checkpoint.eventHash ≠ [] then
    { report with failureReason := "checkpoint_hash_unexpected" }
  else if checkpoint.sequence = 0 ∧ checkpoint.hashAlgorithm ≠ [] ∧
      checkpoint.hashAlgorithm ≠ auditHashAlgorithmSHA256V1 then
    { report with failureReason := "checkpoint_algorithm_mismatch" }
  else if checkpoint.sequence ≠ 0 ∧ checkpoint.hashAlgorithm ≠ auditHashAlgorithmSHA256V1 then
    { report with failureReason := "checkpoint_algorithm_mismatch" }
  else if checkpoint.sequence ≠ 0 ∧ isAuditHash checkpoint.eventHash = false then
    { report with failureReason := "checkpoint_hash_invalid" }
  else
    match verifyAuditEventsLoop 0 (checkpoint.sequence + 1) checkpoint.eventHash report
        events with
    | .error report => report
    | .ok report =>
      let report := if events.length = 0 then
        { report with lastSequence := checkpoint.sequence, lastEventHash := checkpoint.eventHash }
        else report
      { report with valid := true }

def AuditChainState.checkpoint (state : AuditChainState) : AuditChainCheckpoint where
  sequence := state.checkpointSequence
  hashAlgorithm := state.hashAlgorithm
  eventHash := state.checkpointEventHash

def verifyAuditState (events : List AuditEvent) (state : AuditChainState) : AuditIntegrity :=
  let report := verifyAuditEvents events state.checkpoint
  if report.valid = false then report
  else if state.hashAlgorithm ≠ auditHashAlgorithmSHA256V1 then
    { report with valid := false, failureReason := "state_algorithm_mismatch" }
  else if state.latestSequence ≠ report.lastSequence ∨
      state.latestEventHash ≠ report.lastEventHash then
    { report with valid := false, failureReason := "state_latest_mismatch" }
  else report

def auditIntegrityError (report : AuditIntegrity) : Except Err Unit :=
  if report.valid then .ok () else
    .error { kind := .auditIntegrity, detail := report.failureReason }

/-- Where a walk along the chain stands: the last sequence number and hash seen. -/
structure AuditPoint where
  sequence : Int64
  hash : Text
deriving DecidableEq, Repr

/-- One link of the chain: the event that may follow a point. -/
def extendAuditChain (point : AuditPoint) (event : AuditEvent) : Option AuditPoint :=
  if event.sequence = point.sequence + 1 ∧
      event.hashAlgorithm = auditHashAlgorithmSHA256V1 ∧
      event.previousEventHash = point.hash ∧
      auditEventHash point.hash event = .ok event.eventHash then
    some ⟨event.sequence, event.eventHash⟩
  else none

/-- The point a checkpoint stands for. -/
def checkpointPoint (checkpoint : AuditChainCheckpoint) : AuditPoint :=
  ⟨checkpoint.sequence, checkpoint.eventHash⟩

def AuditChainState.latest (state : AuditChainState) : AuditPoint :=
  ⟨state.latestSequence, state.latestEventHash⟩

/-- The checkpoint is the start of the chain or a hashed event of the algorithm in use. -/
structure AuditChainState.CheckpointValid (state : AuditChainState) : Prop where
  algorithm : state.hashAlgorithm = auditHashAlgorithmSHA256V1
  nonnegative : 0 ≤ state.checkpointSequence.toInt
  unhashed : state.checkpointSequence = 0 → state.checkpointEventHash = []
  hashed : state.checkpointSequence ≠ 0 → isAuditHash state.checkpointEventHash

/-- The events link the checkpoint to the recorded head. -/
structure AuditChainValid (events : List AuditEvent) (state : AuditChainState) : Prop where
  checkpoint : state.CheckpointValid
  linked : chain extendAuditChain (checkpointPoint state.checkpoint) events = some state.latest

theorem extendChain_eq_some : extendAuditChain point event = some next ↔
      event.sequence = point.sequence + 1 ∧
      event.hashAlgorithm = auditHashAlgorithmSHA256V1 ∧
      event.previousEventHash = point.hash ∧
      auditEventHash point.hash event = .ok event.eventHash ∧
      next = ⟨event.sequence, event.eventHash⟩ := by
  unfold extendAuditChain
  split <;> simp_all [eq_comm]

theorem auditEventHash_eq_ok : auditEventHash previousHash event = .ok hash ↔
      ∃ input, auditHashInput previousHash event = .ok input ∧
        hash = Text.hexEncode (sha256 input) := by
  unfold auditEventHash
  rw [Except.bind_eq_ok]
  simp only [pure, Except.pure, Except.ok.injEq, eq_comm]

theorem isAuditHash_hexEncode {bytes} (size : bytes.length = 32) :
    isAuditHash (Text.hexEncode bytes) := by
  have ascii : Text.byteLength (Text.hexEncode bytes) = 64 := by
    rw [Text.byteLength_eq_length fun c member => (Text.mem_hexEncode member).1]
    simp [size]
  simp [isAuditHash, ascii, Text.hexDecode_hexEncode, size]

theorem isAuditHash_auditEventHash (hashed : auditEventHash previousHash event = .ok hash) :
    isAuditHash hash := by
  obtain ⟨input, -, rfl⟩ := auditEventHash_eq_ok.mp hashed
  exact isAuditHash_hexEncode (length_sha256 input)

theorem extendChain_isAuditHash (extended : extendAuditChain point event = some next) :
    isAuditHash next.hash := by
  obtain ⟨-, -, -, hashed, rfl⟩ := extendChain_eq_some.mp extended
  exact isAuditHash_auditEventHash hashed

/-- The loop reports the end of the chain exactly when every event extends it. -/
private theorem verifyLoop_spec (index : Nat) (point : AuditPoint)
    (report : AuditIntegrity) (events : List AuditEvent) :
    match chain extendAuditChain point events with
    | some final => ∃ r, verifyAuditEventsLoop index (point.sequence + 1) point.hash report
        events = .ok r ∧
        r.lastSequence = (if events = [] then report.lastSequence else final.sequence) ∧
        r.lastEventHash = (if events = [] then report.lastEventHash else final.hash)
    | none => ∃ r, verifyAuditEventsLoop index (point.sequence + 1) point.hash report
        events = .error r ∧ r.valid = report.valid := by
  induction events generalizing index point report with
  | nil => simp [verifyAuditEventsLoop]
  | cons event rest ih =>
    simp only [chain, verifyAuditEventsLoop]
    by_cases sequence : event.sequence = point.sequence + 1
    swap
    · simp [extendAuditChain, sequence]
    by_cases algorithm : event.hashAlgorithm = auditHashAlgorithmSHA256V1
    swap
    · simp [extendAuditChain, sequence, algorithm]
    by_cases previous : event.previousEventHash = point.hash
    swap
    · simp [extendAuditChain, sequence, algorithm, previous]
    cases hashed : auditEventHash point.hash event with
    | error e => simp [extendAuditChain, sequence, algorithm, previous, hashed]
    | ok expected =>
      by_cases same : event.eventHash = expected
      swap
      · simp [extendAuditChain, sequence, algorithm, previous, hashed, same, Ne.symm same]
      subst same
      have extended : extendAuditChain point event = some ⟨event.sequence, event.eventHash⟩ :=
        extendChain_eq_some.mpr ⟨sequence, algorithm, previous, hashed, rfl⟩
      have wellFormed := isAuditHash_auditEventHash hashed
      have tail := ih (index + 1) ⟨event.sequence, event.eventHash⟩ { report with
        firstSequence := if index = 0 then event.sequence else report.firstSequence
        lastSequence := event.sequence
        lastEventHash := event.eventHash }
      rw [extended, Option.bind_some]
      rw [← sequence]
      simp only [algorithm, previous, wellFormed, ne_eq, not_true_eq_false, if_false,
        or_self, Bool.true_eq_false]
      cases ending : chain extendAuditChain ⟨event.sequence, event.eventHash⟩ rest with
      | none => simpa [ending] using tail
      | some final =>
        simp only [ending] at tail ⊢
        obtain ⟨r, finished, lastSequence, lastHash⟩ := tail
        refine ⟨r, finished, ?_, ?_⟩
        · rw [lastSequence]
          cases rest with
          | nil => simp [chain] at ending; simp [← ending]
          | cons _ _ => simp
        · rw [lastHash]
          cases rest with
          | nil => simp [chain] at ending; simp [← ending]
          | cons _ _ => simp

private theorem verifyLoop_of_linked
    (linked : chain extendAuditChain point events = some final) (report : AuditIntegrity) :
    ∃ r, verifyAuditEventsLoop 0 (point.sequence + 1) point.hash report events = .ok r ∧
      r.lastSequence = (if events = [] then report.lastSequence else final.sequence) ∧
      r.lastEventHash = (if events = [] then report.lastEventHash else final.hash) := by
  have spec := verifyLoop_spec 0 point report events
  rwa [linked] at spec

private theorem verifyLoop_of_broken (broken : chain extendAuditChain point events = none)
    (report : AuditIntegrity) :
    ∃ r, verifyAuditEventsLoop 0 (point.sequence + 1) point.hash report events =
      .error r ∧ r.valid = report.valid := by
  have spec := verifyLoop_spec 0 point report events
  rwa [broken] at spec

/-- The checks `verifyAuditEvents` makes of a checkpoint before it walks the events. -/
structure CheckpointAccepted (checkpoint : AuditChainCheckpoint) : Prop where
  nonnegative : 0 ≤ checkpoint.sequence.toInt
  unhashed : checkpoint.sequence = 0 → checkpoint.eventHash = [] ∧
    (checkpoint.hashAlgorithm = [] ∨ checkpoint.hashAlgorithm = auditHashAlgorithmSHA256V1)
  hashed : checkpoint.sequence ≠ 0 →
    checkpoint.hashAlgorithm = auditHashAlgorithmSHA256V1 ∧ isAuditHash checkpoint.eventHash

theorem AuditChainState.CheckpointValid.accepted (valid : state.CheckpointValid) :
    CheckpointAccepted state.checkpoint where
  nonnegative := valid.nonnegative
  unhashed zero := ⟨valid.unhashed zero, .inr valid.algorithm⟩
  hashed positive := ⟨valid.algorithm, valid.hashed positive⟩

theorem verifyAuditEvents_of_chain {checkpoint} (accepted : CheckpointAccepted checkpoint)
    (linked : chain extendAuditChain (checkpointPoint checkpoint) events = some final) :
    (verifyAuditEvents events checkpoint).valid = true ∧
      (verifyAuditEvents events checkpoint).lastSequence = final.sequence ∧
      (verifyAuditEvents events checkpoint).lastEventHash = final.hash := by
  obtain ⟨nonnegative, unhashed, hashed⟩ := accepted
  have notNegative : ¬ checkpoint.sequence < 0 := by
    rw [Int64.lt_iff_toInt_lt]
    exact not_lt.mpr nonnegative
  dsimp only [verifyAuditEvents]
  rw [if_neg notNegative, if_neg (fun h => h.2 (unhashed h.1).1),
    if_neg (fun h => (unhashed h.1).2.elim h.2.1 h.2.2), if_neg (fun h => h.2 (hashed h.1).1),
    if_neg (fun h => by simp [(hashed h.1).2] at h)]
  obtain ⟨r, finished, lastSequence, lastHash⟩ := verifyLoop_of_linked linked _
  rw [show checkpoint.sequence = (checkpointPoint checkpoint).sequence from rfl,
    show checkpoint.eventHash = (checkpointPoint checkpoint).hash from rfl, finished]
  cases events with
  | nil =>
    cases linked
    exact ⟨rfl, rfl, rfl⟩
  | cons event rest => exact ⟨rfl, lastSequence, lastHash⟩

theorem verifyAuditEvents_valid {checkpoint}
    (valid : (verifyAuditEvents events checkpoint).valid = true) : CheckpointAccepted checkpoint ∧
      ∃ final, chain extendAuditChain (checkpointPoint checkpoint) events = some final := by
  dsimp only [verifyAuditEvents] at valid
  split at valid
  · cases valid
  split at valid
  · cases valid
  split at valid
  · cases valid
  split at valid
  · cases valid
  split at valid
  · cases valid
  next nonnegative unexpected unhashedAlgorithm algorithm hash =>
    refine ⟨⟨?_, fun zero => ⟨?_, ?_⟩, fun positive => ⟨?_, ?_⟩⟩, ?_⟩
    · rw [Int64.lt_iff_toInt_lt] at nonnegative
      exact not_lt.mp nonnegative
    · exact not_not.mp fun wrong => unexpected ⟨zero, wrong⟩
    · by_contra wrong
      exact unhashedAlgorithm ⟨zero, not_or.mp wrong⟩
    · exact not_not.mp fun wrong => algorithm ⟨positive, wrong⟩
    · exact Bool.of_not_eq_false fun wrong => hash ⟨positive, wrong⟩
    · cases ending : chain extendAuditChain (checkpointPoint checkpoint) events with
      | some final => exact ⟨final, rfl⟩
      | none =>
        obtain ⟨r, failed, invalid⟩ := verifyLoop_of_broken ending _
        rw [show checkpoint.sequence = (checkpointPoint checkpoint).sequence from rfl,
          show checkpoint.eventHash = (checkpointPoint checkpoint).hash from rfl, failed] at valid
        exact absurd (invalid.symm.trans valid) Bool.false_ne_true

/-- The report of a valid log ends where the state says it does. -/
theorem auditState_of_valid (valid : AuditChainValid events state) :
    (verifyAuditState events state).valid = true ∧
      (verifyAuditState events state).lastSequence = state.latestSequence ∧
      (verifyAuditState events state).lastEventHash = state.latestEventHash := by
  obtain ⟨walked, lastSequence, lastHash⟩ :=
    verifyAuditEvents_of_chain valid.checkpoint.accepted valid.linked
  dsimp only [verifyAuditState]
  rw [if_neg (by rw [walked]; exact Bool.noConfusion),
    if_neg (not_not.mpr valid.checkpoint.algorithm),
    if_neg (by rw [lastSequence, lastHash]; exact fun h => h.elim (· rfl) (· rfl))]
  exact ⟨walked, lastSequence, lastHash⟩

/-- A log verifies exactly when its events link the checkpoint to the recorded head. -/
theorem auditState_valid_iff :
    (verifyAuditState events state).valid = true ↔ AuditChainValid events state := by
  constructor
  · intro valid
    dsimp only [verifyAuditState] at valid
    split at valid
    · next invalid => exact absurd (invalid.symm.trans valid) Bool.false_ne_true
    split at valid
    · cases valid
    split at valid
    · cases valid
    next algorithm latest =>
      obtain ⟨accepted, final, linked⟩ := verifyAuditEvents_valid valid
      obtain ⟨-, lastSequence, lastHash⟩ := verifyAuditEvents_of_chain accepted linked
      rw [lastSequence, lastHash, not_or, not_not, not_not] at latest
      refine ⟨⟨not_not.mp algorithm, accepted.nonnegative, fun zero => (accepted.unhashed zero).1,
        fun positive => (accepted.hashed positive).2⟩, ?_⟩
      rw [linked, AuditChainState.latest, latest.1, latest.2]
  · exact fun valid => (auditState_of_valid valid).1

end AnoPki.Store
