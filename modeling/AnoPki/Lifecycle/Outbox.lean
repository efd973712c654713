import AnoPki.Lifecycle.Webhook
import AnoPki.Lifecycle.Policy

/-! # The dispatcher of outbox messages

A dispatcher lists the messages that are due and works through the list: it claims a message with a
lease, hands it to the handler and stores the outcome together with a record of the attempt. The
list may be old by the time a message is claimed, so every write is made only while the message is
still the one that was read. Failed messages are made pending again by hand, one by one or in
bulk. -/
namespace AnoPki.Lifecycle

open Foundation Domain Store

/-- `clock.Now()` of the dispatcher and of those who replay messages; the history keeps it. -/
def readClock : Op Time :=
  Op.atomic (fun _ world => (.ok world.clock, world)) fun time => some (.outbox (.clockRead time))

/-- How an operation handles a message. -/
abbrev OutboxHandler : Type 1 := OutboxMessage → Op Unit

/-- The store and the world outside as the webhook handler sees them. -/
def webhookRepository : WebhookRepository Op where
  listNotificationEndpoints := repo listNotificationEndpoints
  getWebhookDelivery outboxMessageID endpointID := do
    match ← Op.attempt (repo (getWebhookDelivery outboxMessageID endpointID)) with
    | .ok delivery => pure (some delivery)
    | .error err => if err.kind = .webhookDeliveryNotFound then pure none else Op.fail err
  upsertWebhookDelivery delivery := repo (upsertWebhookDelivery delivery)
  now := Op.now
  postWebhook _ _ := Op.ask (fun oracle => .ok oracle.postWebhook) fun _ => none

def webhookOutboxHandler : OutboxHandler := handleWebhookMessage webhookRepository

def noopOutboxHandler : OutboxHandler := fun _ => pure ()

/-- The types for which the registries of the service have a handler. -/
def lifecycleMessageTypes : List Text :=
  ["certificate.suspended".toList, "certificate.resumed".toList,
    "certificate.renewal_requested".toList, "certificate.reissue_requested".toList,
    "certificate.expiration_warning".toList, "certificate.expired".toList,
    "certificate.revoked".toList, "certificate.force_revoked".toList]

/-- The handlers by the type of the message. -/
structure OutboxHandlerRegistry where
  handlers : List (Text × OutboxHandler)

def newLifecycleOutboxHandler : OutboxHandlerRegistry where
  handlers := lifecycleMessageTypes.map fun messageType => (messageType, noopOutboxHandler)

def newLifecycleOutboxHandlerWithWebhook : Option OutboxHandler → OutboxHandlerRegistry
  | none => newLifecycleOutboxHandler
  | some webhook => ⟨lifecycleMessageTypes.map fun messageType => (messageType, webhook)⟩

def OutboxHandlerRegistry.handleOutboxMessage (registry : OutboxHandlerRegistry) : OutboxHandler :=
  fun message =>
    match registry.handlers.lookup message.type with
    | none => Op.fail { kind := .outboxHandlerNotFound, detail := message.type }
    | some handler => handler message

def defaultOutboxProcessingLease : Int := 600000000000

/-- A minute, five minutes, a quarter of an hour and an hour. -/
def outboxRetryDelays : List Int := [60000000000, 300000000000, 900000000000, 3600000000000]

def effectiveOutboxMaxAttempts (message : OutboxMessage) : Int64 :=
  if message.maxAttempts > 0 then message.maxAttempts else defaultOutboxMaxAttempts

def outboxRetryDelayForAttempt (attemptCount : Int64) : Int :=
  if attemptCount ≤ 1 then outboxRetryDelays.getD 0 0
  else outboxRetryDelays.getD (min (attemptCount.toInt.toNat - 1) (outboxRetryDelays.length - 1)) 0

/-- The hash of `fnv.New32a`. -/
def fnv32a (bytes : List UInt8) : UInt32 :=
  bytes.foldl (fun hash byte => (hash ^^^ byte.toUInt32) * 16777619) 2166136261

def nonNegativeUint64 (value : Int64) : UInt64 := if value ≤ 0 then 0 else value.toUInt64

def littleEndian64 (value : UInt64) : List UInt8 :=
  (List.range 8).map fun place => (value >>> (UInt64.ofNat (8 * place))).toUInt8

def outboxRetryDelayForMessage (message : OutboxMessage) : Int :=
  let base := outboxRetryDelayForAttempt message.attemptCount
  let jitterMax := base.tdiv 10
  if jitterMax ≤ 0 then base
  else
    let hash := fnv32a (message.id.utf8 ++ littleEndian64 (nonNegativeUint64 message.attemptCount))
    base + (hash.toNat : Int) % (jitterMax + 1)

/-- A message that is taken out of an expired lease. -/
def recoveredMessage (message : OutboxMessage) (now : Time) : OutboxMessage :=
  { message with status := .pending, processingDeadlineAt := Time.zero, updatedAt := now }

def claimedMessage (message : OutboxMessage) (now : Time) : OutboxMessage :=
  { message with
    status := .processing
    processingDeadlineAt := now.add defaultOutboxProcessingLease
    updatedAt := now }

/-- Store a message in the place of the one that was read; `false` when that one is gone. -/
def takeOutboxMessage (message current : OutboxMessage) (event : OutboxEvent) : Op Bool := do
  match ← Op.attempt (withinTx (updateOutboxMessageIfCurrent message current) fun _ =>
      some (.outbox event)) with
  | .ok _ => pure true
  | .error err =>
    if err.kind = .invalidTransition ∨ err.kind = .outboxMessageNotFound then pure false
    else Op.fail err

/-- The second write of `claim`, of a message that is pending. -/
def claimPending (message : OutboxMessage) (now : Time) : Op (Option OutboxMessage) := do
  let taken ← takeOutboxMessage (claimedMessage message now) message
    (.claimed (claimedMessage message now))
  if taken then pure (some (claimedMessage message now)) else pure none

/-- `claim`: no message is returned when another dispatcher was faster. -/
def claim (message : OutboxMessage) : Op (Option OutboxMessage) :=
  if message.status ≠ .pending ∧ message.status ≠ .processing then pure none
  else do
    let now ← readClock
    if message.status = .processing then
      let taken ← takeOutboxMessage (recoveredMessage message now) message
        (.recovered (recoveredMessage message now))
      if taken then claimPending (recoveredMessage message now) now else pure none
    else claimPending message now

/-- The claimed message as it is stored when the handler is done with it. -/
def finishedMessage (claimed : OutboxMessage) (outcome : Except Err Unit) (finishedAt : Time) :
    OutboxMessage :=
  match outcome with
  | .ok _ => { claimed with
      status := .completed
      lastError := []
      processingDeadlineAt := Time.zero
      updatedAt := finishedAt }
  | .error err =>
    let failed := { claimed with
      attemptCount := claimed.attemptCount + 1
      maxAttempts := effectiveOutboxMaxAttempts claimed
      lastError := err.text
      processingDeadlineAt := Time.zero
      updatedAt := finishedAt }
    if failed.attemptCount ≥ failed.maxAttempts then { failed with status := .deadLetter }
    else { failed with
      status := .pending
      availableAt := finishedAt.add (outboxRetryDelayForMessage failed) }

def jobAttempt (id : Text) (claimed : OutboxMessage) (outcome : Except Err Unit)
    (startedAt finishedAt : Time) : JobAttempt where
  id := id
  outboxMessageID := claimed.id
  status :=
    match outcome with
    | .ok _ => .succeeded
    | .error _ => .failed
  error :=
    match outcome with
    | .ok _ => []
    | .error err => err.text
  startedAt := startedAt
  finishedAt := finishedAt
  createdAt := finishedAt

/-- `finish`, with the ID that is drawn for the attempt. -/
def Service.finishTx (s : Service) (claimed : OutboxMessage) (outcome : Except Err Unit)
    (startedAt finishedAt : Time) : Repo JobAttempt := do
  let id ← s.newID
  updateOutboxMessageIfCurrent (finishedMessage claimed outcome finishedAt) claimed
  createJobAttempt (jobAttempt id claimed outcome startedAt finishedAt)
  pure (jobAttempt id claimed outcome startedAt finishedAt)

/-- What `RunOnce` does with a message it has claimed. -/
def Service.deliver (s : Service) (handler : OutboxHandler)
    (claimed : OutboxMessage) : Op Unit := do
  let startedAt ← readClock
  let outcome ← Op.attempt (handler claimed)
  let finishedAt ← readClock
  let _ ← withinTx (s.finishTx claimed outcome startedAt finishedAt) fun attempt =>
    some (.outbox (.finished (finishedMessage claimed outcome finishedAt) attempt))
  pure ()

/-- The loop of `RunOnce`: how many messages were processed, and the error that ended it. -/
def Service.processMessages (s : Service) (handler : OutboxHandler) :
    List OutboxMessage → Nat → Op (Nat × Option Err)
  | [], processed => pure (processed, none)
  | message :: messages, processed => do
    match ← Op.attempt (claim message) with
    | .error err => pure (processed, some err)
    | .ok none => s.processMessages handler messages processed
    | .ok (some claimed) =>
      match ← Op.attempt (s.deliver handler claimed) with
      | .error err => pure (processed, some err)
      | .ok _ => s.processMessages handler messages (processed + 1)

def Service.runOnce (s : Service) (handler : OutboxHandler) (limit : Int64) :
    Op (Nat × Option Err) := do
  let now ← readClock
  match ← Op.attempt (repo (listDueOutboxMessages now limit)) with
  | .error err => pure (0, some err)
  | .ok messages => s.processMessages handler messages 0

def outboxMessageForReplay (message : OutboxMessage) (now : Time) : OutboxMessage :=
  { message with
    status := .pending
    availableAt := now
    processingDeadlineAt := Time.zero
    attemptCount := 0
    maxAttempts :=
      if message.maxAttempts ≤ 0 then defaultOutboxMaxAttempts else message.maxAttempts
    lastError := []
    updatedAt := now }

def Service.retryOutboxMessageTx (s : Service) (ctx : Context) (actor : Text)
    (message : OutboxMessage) (currentStatus : OutboxMessageStatus) (now : Time) : Repo Unit := do
  updateOutboxMessageStatusIfStatus message currentStatus
  s.createAuditEvent ctx actor "outbox.retry_requested" "outbox_message" message.id
    now (auditFields [ ("outbox_message_id", message.id),
    ("outbox_message_type", message.type)])

def Service.retryOutboxMessage (s : Service) (ctx : Context) (actor id : Text) :
    Op OutboxMessage := do
  Op.require (¬ isBlank id) .invalidRequest
  let now ← readClock
  let message ← repo (getOutboxMessage id)
  Op.require (message.status = .deadLetter ∨ message.status = .failed) .invalidTransition
  let replayed := outboxMessageForReplay message now
  withinTx (s.retryOutboxMessageTx ctx actor replayed message.status now) fun _ =>
    some (.outbox (.replayed [replayed]))
  pure replayed

structure ReplayDeadLetterOutboxRequest where
  eventType : Text
  createdFrom : Time
  createdTo : Time
  limit : Int64

/-- Whether a dead message is one of those to be sent again. -/
def ReplayDeadLetterOutboxRequest.selects (req : ReplayDeadLetterOutboxRequest)
    (message : OutboxMessage) : Prop :=
  message.type = req.eventType ∧ ¬ message.createdAt.before req.createdFrom ∧
    ¬ message.createdAt.after req.createdTo
deriving Decidable

/-- The loop of `ReplayDeadLetterOutboxMessages`. -/
def replayMessages (req : ReplayDeadLetterOutboxRequest) (now : Time)
    (messages : List OutboxMessage) : Repo (List OutboxMessage) :=
  Tx.fold (fun replayed message =>
    if (replayed.length : Int) < req.limit.toInt ∧ req.selects message then do
      updateOutboxMessageStatusIfStatus (outboxMessageForReplay message now) .deadLetter
      pure (replayed ++ [outboxMessageForReplay message now])
    else pure replayed) [] messages

def Service.replayDeadLetterOutboxMessagesTx (s : Service) (ctx : Context) (actor : Text)
    (req : ReplayDeadLetterOutboxRequest) (now : Time) : Repo (List OutboxMessage) := do
  let messages ← listOutboxMessages .deadLetter
  let replayed ← replayMessages req now messages
  let resourceID ← s.newID
  s.createAuditEvent ctx actor "outbox.bulk_replay_requested" "outbox_messages" resourceID now
    (auditFields [
      ("outbox_message_type", req.eventType),
      ("created_from", req.createdFrom.rfc3339Nano),
      ("created_to", req.createdTo.rfc3339Nano),
      ("limit", Text.decimalInt req.limit.toInt),
      ("replayed_count", Text.decimalInt replayed.length)])
  pure replayed

def Service.replayDeadLetterOutboxMessages (s : Service) (ctx : Context) (actor : Text)
    (req : ReplayDeadLetterOutboxRequest) : Op (List OutboxMessage) := do
  Op.require (¬ (isBlank req.eventType ∨ req.createdFrom.isZero ∨ req.createdTo.isZero ∨
    req.createdTo.before req.createdFrom ∨ req.limit ≤ 0)) .invalidRequest
  let now ← readClock
  withinTx (s.replayDeadLetterOutboxMessagesTx ctx actor req now) fun replayed =>
    some (.outbox (.replayed replayed))

end AnoPki.Lifecycle
