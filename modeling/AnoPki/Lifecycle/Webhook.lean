import AnoPki.Corecli.Runner
import AnoPki.Store.Outbox

/-! # Delivery of an outbox message to the webhooks

A message goes to every active endpoint that asks for its type and has not received it yet, one
after the other. An endpoint that fails ends the run with an error: the endpoints behind it are not
tried, and when the message is handled again the same endpoint comes first again. -/
namespace AnoPki.Lifecycle

open Foundation Domain Store List

def webhookEndpointMatches (endpoint : NotificationEndpoint) (eventType : Text) : Bool :=
  endpoint.type == .webhook && endpoint.status == .active &&
    (endpoint.eventTypes == [] || endpoint.eventTypes.contains eventType)

/-- The payload has to be a JSON object; `null` is read as an empty one. -/
def decodeOutboxPayload (message : OutboxMessage) : Except Err Unit :=
  match Json.read message.payloadJSON with
  | some (.object _) => .ok ()
  | some .null => .ok ()
  | _ => .error { kind := .other, detail := "decode outbox payload" }

/-- `json.Marshal` of the body: all of it can be written but a time without a strict text. -/
def encodeWebhookBody (message : OutboxMessage) : Except Err Unit :=
  if Corecli.HasStrictText message.createdAt then .ok ()
  else .error { kind := .other, detail := "json: error calling MarshalJSON for type time.Time" }

section Handler

universe u

/-- What the handler works with: the store, in which a delivery may be missing, the time, and the
POST to an endpoint. -/
structure WebhookRepository (m : Type → Type u) where
  listNotificationEndpoints : m (List NotificationEndpoint)
  getWebhookDelivery (outboxMessageID endpointID : Text) : m (Option WebhookDelivery)
  upsertWebhookDelivery (delivery : WebhookDelivery) : m Unit
  now : m Time
  postWebhook (endpoint : NotificationEndpoint) (message : OutboxMessage) : m (Except Err Unit)

variable {m : Type → Type u} [Monad m] [MonadExceptOf Err m] (repo : WebhookRepository m)

def recordWebhookDelivery (message : OutboxMessage) (endpoint : NotificationEndpoint)
    (current : Option WebhookDelivery) (status : JobAttemptStatus) (lastError : Text) : m Unit := do
  let now ← repo.now
  repo.upsertWebhookDelivery {
    outboxMessageID := message.id
    endpointID := endpoint.id
    status
    attemptCount := (current.map WebhookDelivery.attemptCount).getD 0 + 1
    lastError
    lastAttemptedAt := now
    createdAt :=
      match current with
      | some delivery => if delivery.createdAt.isZero then now else delivery.createdAt
      | none => now
    updatedAt := now }

/-- The loop of `HandleOutboxMessage` over the endpoints. -/
def deliverToEndpoints (message : OutboxMessage) : List NotificationEndpoint → m Unit
  | [] => pure ()
  | endpoint :: endpoints =>
    if webhookEndpointMatches endpoint message.type then do
      let delivery ← repo.getWebhookDelivery message.id endpoint.id
      if delivery.any fun delivery => delivery.status == .succeeded then
        deliverToEndpoints message endpoints
      else
        match ← repo.postWebhook endpoint message with
        | .error err =>
          recordWebhookDelivery repo message endpoint delivery .failed err.text
          throw err
        | .ok _ =>
          recordWebhookDelivery repo message endpoint delivery .succeeded []
          deliverToEndpoints message endpoints
    else deliverToEndpoints message endpoints

/-- `WebhookOutboxHandler.HandleOutboxMessage`. -/
def handleWebhookMessage (message : OutboxMessage) : m Unit := do
  let endpoints ← repo.listNotificationEndpoints
  match decodeOutboxPayload message >>= fun _ => encodeWebhookBody message with
  | .error err => throw err
  | .ok _ => deliverToEndpoints repo message endpoints

end Handler

end AnoPki.Lifecycle
