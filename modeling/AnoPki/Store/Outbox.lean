import AnoPki.Store.Memory

/-! # Outbox messages, deliveries and API keys in the memory store

The tables behind the dispatcher and the authentication. A message is replaced only while it is
still the one that was read, which is recognised by its status, its deadline and the time of its
last update; an API key only while it is still in the expected status. -/
namespace AnoPki.Store

open Foundation Domain

@[reducible] def outboxMessages : Shelf OutboxMessage where
  table := Db.outbox
  put table db := { db with outbox := table }
  key := OutboxMessage.id
  missing := .outboxMessageNotFound

@[reducible] def jobAttempts : Shelf JobAttempt where
  table db := db.annex.jobAttempts
  put table db := { db with annex := { db.annex with jobAttempts := table } }
  key := JobAttempt.id
  -- no job attempt is ever looked up
  missing := .other

def webhookDeliveryKey (outboxMessageID endpointID : Text) : Text :=
  outboxMessageID ++ [Char.ofNat 0] ++ endpointID

@[reducible] def webhookDeliveries : Shelf WebhookDelivery where
  table db := db.annex.webhookDeliveries
  put table db := { db with annex := { db.annex with webhookDeliveries := table } }
  key delivery := webhookDeliveryKey delivery.outboxMessageID delivery.endpointID
  missing := .webhookDeliveryNotFound

@[reducible] def apiKeys : Shelf APIKey where
  table db := db.annex.apiKeys
  put table db := { db with annex := { db.annex with apiKeys := table } }
  key := APIKey.id
  missing := .apiKeyNotFound

def getOutboxMessage (id : Text) : Repo OutboxMessage := outboxMessages.get id

/-- The order of a list by creation, and by ID among records of one time. -/
def CreatedBefore (createdAt createdAt' : Time) (id id' : Text) : Prop :=
  createdAt.before createdAt' ∨ (createdAt.equal createdAt' ∧ id ≤ id')
deriving Decidable

def listOutboxMessages (status : OutboxMessageStatus) : Repo (List OutboxMessage) :=
  Tx.query fun s =>
    let found := s.db.outbox.values.filter fun message => decide (message.status = status)
    .ok (found.insertionSort fun a b => CreatedBefore a.createdAt b.createdAt a.id b.id)

def outboxMessageDue (message : OutboxMessage) (now : Time) : Bool :=
  match message.status with
  | .pending => decide (¬ message.availableAt.after now)
  | .processing => decide (¬ message.processingDeadlineAt.isZero ∧
      ¬ message.processingDeadlineAt.after now)
  | _ => false

def outboxMessageDueAt (message : OutboxMessage) : Time :=
  if message.status = .processing then message.processingDeadlineAt else message.availableAt

def listDueOutboxMessages (now : Time) (limit : Int64) : Repo (List OutboxMessage) :=
  Tx.query fun s =>
    if limit ≤ 0 then .ok []
    else
      let due := s.db.outbox.values.filter fun message => outboxMessageDue message now
      .ok ((due.insertionSort fun a b =>
        (outboxMessageDueAt a).before (outboxMessageDueAt b) ∨
          ((outboxMessageDueAt a).equal (outboxMessageDueAt b) ∧
            CreatedBefore a.createdAt b.createdAt a.id b.id)).take limit.toInt.toNat)

def updateOutboxMessageStatusIfStatus (message : OutboxMessage)
    (currentStatus : OutboxMessageStatus) : Repo Unit :=
  outboxMessages.updateIfStatus OutboxMessage.status message currentStatus

/-- The fields by which a stored message is recognised as the one that was read. -/
structure SameOutboxMessage (stored current : OutboxMessage) : Prop where
  status : stored.status = current.status
  processingDeadlineAt : stored.processingDeadlineAt.equal current.processingDeadlineAt
  updatedAt : stored.updatedAt.equal current.updatedAt

instance (stored current : OutboxMessage) : Decidable (SameOutboxMessage stored current) :=
  decidable_of_iff (stored.status = current.status ∧
      stored.processingDeadlineAt.equal current.processingDeadlineAt ∧
      stored.updatedAt.equal current.updatedAt)
    ⟨fun ⟨status, deadline, updated⟩ => ⟨status, deadline, updated⟩,
      fun same => ⟨same.status, same.processingDeadlineAt, same.updatedAt⟩⟩

def updateOutboxMessageIfCurrent (message current : OutboxMessage) : Repo Unit := do
  let stored ← outboxMessages.get message.id
  Tx.require (SameOutboxMessage stored current) (ErrKind.err .invalidTransition)
  outboxMessages.write message

def createJobAttempt (attempt : JobAttempt) : Repo Unit := jobAttempts.write attempt

def listNotificationEndpoints : Repo (List NotificationEndpoint) :=
  Tx.query fun s => .ok (s.db.annex.notifications.values.insertionSort fun a b =>
    CreatedBefore a.createdAt b.createdAt a.id b.id)

def getWebhookDelivery (outboxMessageID endpointID : Text) : Repo WebhookDelivery :=
  webhookDeliveries.get (webhookDeliveryKey outboxMessageID endpointID)

def upsertWebhookDelivery (delivery : WebhookDelivery) : Repo Unit :=
  webhookDeliveries.write delivery

def createAPIKey (key : APIKey) : Repo Unit := apiKeys.write key

def getAPIKey (id : Text) : Repo APIKey := apiKeys.get id

/-- The key with this hash; the hashes of the stored keys are taken to be different. -/
def getAPIKeyByTokenHash (tokenHash : Text) : Repo APIKey :=
  Tx.query fun s =>
    match s.db.annex.apiKeys.values.find? fun key => decide (key.tokenHash = tokenHash) with
    | some key => .ok key
    | none => .error (ErrKind.err .apiKeyNotFound)

def updateAPIKeyIfStatus (key : APIKey) (currentStatus : APIKeyStatus) : Repo Unit :=
  apiKeys.updateIfStatus APIKey.status key currentStatus

section Rules

variable {s t : Session} {u : Unit}

theorem updateMessage_ok_iff {message current} :
    updateOutboxMessageIfCurrent message current s = (.ok u, t) ↔
      ∃ stored, s.db.outbox.lookup message.id = some stored ∧ SameOutboxMessage stored current ∧
        { s with db := { s.db with outbox := s.db.outbox.insert message.id message } } = t := by
  simp only [updateOutboxMessageIfCurrent, Tx.bind_ok_iff, Shelf.get_ok_iff, Tx.require_ok_iff,
    Shelf.write_ok_iff]
  constructor
  · rintro ⟨stored, _, ⟨found, rfl⟩, _, _, ⟨same, rfl⟩, rfl⟩
    exact ⟨stored, found, same, rfl⟩
  · rintro ⟨stored, found, same, rfl⟩
    exact ⟨stored, s, ⟨found, rfl⟩, (), s, ⟨same, rfl⟩, rfl⟩

/-- Due messages are stored, and their time has come. -/
theorem mem_of_listDueOutboxMessages {now limit messages}
    (listed : listDueOutboxMessages now limit s = (.ok messages, t)) :
    s = t ∧ ∀ message ∈ messages, message ∈ s.db.outbox.values ∧ outboxMessageDue message now := by
  obtain ⟨found, rfl⟩ := Tx.query_ok_iff.mp listed
  refine ⟨rfl, ?_⟩
  intro message member
  split at found
  · cases found
    cases member
  · cases found
    have sorted := List.mem_of_mem_take member
    rw [List.mem_insertionSort, List.mem_filter] at sorted
    exact sorted

end Rules

end AnoPki.Store
