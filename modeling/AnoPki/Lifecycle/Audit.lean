import AnoPki.Lifecycle.Service

/-! # Audit events and outbox messages of the service

What an operation tells about itself: the fields it collects, the metadata of an audit event and the
payload of an outbox message made of them. -/
namespace AnoPki.Lifecycle

open Foundation Domain Store

abbrev Fields : Type := List (Text × Json)

/-- `fields[key] = value`. -/
def Fields.set (fields : Fields) (key : Text) (value : Json) : Fields :=
  Json.setMember key value fields

def Fields.setText (fields : Fields) (key value : Text) : Fields := fields.set key (.string value)

def jsonTexts (texts : List Text) : Json := .array (texts.map .string)

/-- Fields with an empty key or value are left out. -/
def auditFields (pairs : List (Text × Text)) : Fields :=
  pairs.foldl (fun fields pair =>
    if pair.1 ≠ [] ∧ pair.2 ≠ [] then fields.setText pair.1 pair.2 else fields) []

def addStatusTransition (fields : Fields) (previous next : Text) : Fields :=
  (fields.setText "previous_status" previous).setText "new_status" next

def addPolicyDecisionAuditFields (fields : Fields) (decision reason : Text) (refs : List Text) :
    Fields :=
  let fields := (fields.setText "policy_decision" decision).setText "policy_decision_reason" reason
  if refs = [] then fields else fields.set "policy_validation_evidence_refs" (jsonTexts refs)

/-- The identity's deployment target, when there is one. -/
def addIdentityDeploymentTarget (identityID : Text) (fields : Fields) : Repo Fields := do
  match ← Tx.attempt (getIdentity identityID) with
  | .ok identity =>
    if identity.deploymentTarget = [] then pure fields
    else pure (fields.setText "deployment_target" identity.deploymentTarget)
  | .error err => if err.kind = .identityNotFound then pure fields else Tx.fail err

def auditMetadataKeySensitive (lower : Char → Char) (key : Text) : Bool :=
  ["secret", "token", "password", "private_key"].any fun word =>
    decide (String.toList word <:+: key.toLower lower)

def auditMetadataValue (lower : Char → Char) (key : Text) (value : Json) : Json :=
  if auditMetadataKeySensitive lower key then .string "[redacted]" else value

/-- A reference to a decision, if it is short and has only plain characters. -/
def auditDecisionReference (value : Text) : Text :=
  let value := value.trimSpace
  if value = [] ∨ value.byteLength > 128 then []
  else if value.all fun c => c.isAlphanum || c ∈ ['-', '.', '_', ':', '/', '@', '+'] then value
  else []

/-- Set a text field unless the value is empty. -/
def Fields.setNonempty (fields : Fields) (key value : Text) : Fields :=
  if value = [] then fields else fields.setText key value

def AuditRequestMetadata.add (request : AuditRequestMetadata) (metadata : Fields) : Fields :=
  let metadata := metadata.setNonempty "request_id" request.requestID
  let metadata := metadata.setNonempty "traceparent" request.traceparent
  let metadata := metadata.setNonempty "client_ip" request.clientIP
  let metadata := metadata.setNonempty "user_agent" request.userAgent
  let metadata := metadata.setNonempty "auth_method" request.authMethod
  match request.elapsedMs with
  | none => metadata
  | some ms => metadata.set "elapsed_ms" (.number (Text.decimalInt ms.toInt))

def AuthorizationAuditMetadata.add (authorization : AuthorizationAuditMetadata)
    (metadata : Fields) : Fields :=
  let set (metadata : Fields) (key value : Text) :=
    metadata.setNonempty key (auditDecisionReference value)
  let metadata := set metadata "authorization_outcome" authorization.outcome
  let metadata := set metadata "authorization_decision_id" authorization.decisionID
  let metadata := set metadata "authorization_reason_code" authorization.reasonCode
  let metadata := set metadata "authorization_policy_revision" authorization.policyRevision
  set metadata "authorization_evaluator_status" authorization.evaluatorStatus

def APIKeyAuditMetadata.add (key : APIKeyAuditMetadata) (metadata : Fields) : Fields :=
  let metadata := metadata.setNonempty "api_key_id" key.id
  let metadata := metadata.setNonempty "api_key_name" key.name
  let metadata := metadata.setNonempty "api_key_actor" key.actor
  let metadata := metadata.setNonempty "api_key_fingerprint" key.fingerprint
  if key.scopes = [] then metadata else metadata.set "api_key_scopes" (jsonTexts key.scopes)

/-- The members of an event's metadata. -/
def auditMetadata (lower : Char → Char) (ctx : Context) (fields : Fields)
    (resultCode errorCode : Text) : Fields :=
  let metadata : Fields :=
    fields.map fun field => (field.1, auditMetadataValue lower field.1 field.2)
  let metadata := metadata.setText "result_code" resultCode
  let metadata := metadata.setNonempty "error_code" errorCode
  let metadata := ctx.request.elim metadata fun request => request.add metadata
  let metadata := ctx.authorization.elim metadata fun authorization => authorization.add metadata
  ctx.apiKey.elim metadata fun key => key.add metadata

def auditMetadataJSON (lower : Char → Char) (ctx : Context) (fields : Fields)
    (resultCode errorCode : Text) : Text :=
  (Json.object (auditMetadata lower ctx fields resultCode errorCode)).write

def Service.createAuditEventWithResult (s : Service) (ctx : Context)
    (actor action resourceType resourceID : Text) (createdAt : Time) (fields : Fields)
    (resultCode errorCode : Text) : Repo Unit := do
  let id ← s.newID
  Store.createAuditEvent {
    id, actor, action, resourceType, resourceID, createdAt
    metadataJSON := auditMetadataJSON s.lowerRune ctx fields resultCode errorCode
    sequence := 0
    hashAlgorithm := []
    previousEventHash := []
    eventHash := [] }

def Service.createAuditEvent (s : Service) (ctx : Context)
    (actor action resourceType resourceID : Text) (createdAt : Time) (fields : Fields) :
    Repo Unit :=
  s.createAuditEventWithResult ctx actor action resourceType resourceID createdAt fields "ok" []

def defaultOutboxMaxAttempts : Int64 := 5

/-- The payload of an outbox message: the fields and the type of the event. -/
def outboxPayload (messageType : Text) (fields : Fields) : Fields :=
  fields.setText "event_type" messageType

def Service.createOutboxMessage (s : Service) (messageType : Text) (createdAt : Time)
    (fields : Fields) : Repo Unit := do
  let id ← s.newID
  Store.createOutboxMessage {
    id
    type := messageType
    payloadJSON := (Json.object (outboxPayload messageType fields)).write
    status := .pending
    availableAt := createdAt
    maxAttempts := defaultOutboxMaxAttempts
    createdAt
    updatedAt := createdAt }

end AnoPki.Lifecycle
