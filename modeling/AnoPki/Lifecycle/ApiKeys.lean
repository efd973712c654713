import AnoPki.Lifecycle.Configuration
import AnoPki.Store.Outbox

/-! # API keys

`AuthenticateAPIKey`, `DisableAPIKey` and `RotateAPIKey`. Authentication reads a key, looks at it
and at the clock, and writes the whole record back if the key is still active. -/
namespace AnoPki.Lifecycle

open Foundation Domain Store

def hashAPIKeyToken (token : Text) : Text :=
  "sha256:".toList ++ Text.hexEncode (sha256 (Text.utf8 token))

def hashAPIKeyTokenWithPepper (token pepper : Text) : Text :=
  let pepper := pepper.trimSpace
  if pepper = [] then hashAPIKeyToken token
  else "hmac-sha256:".toList ++ Text.hexEncode (hmacSha256 (Text.utf8 pepper) (Text.utf8 token))

/-- `s.hashAPIKeyToken`. -/
def Service.hashAPIKeyToken (s : Service) (token : Text) : Text :=
  hashAPIKeyTokenWithPepper token s.apiKeyPepper

/-- The key of a token, also when its hash was made without the pepper. -/
def Service.getAPIKeyByToken (s : Service) (token : Text) : Op APIKey :=
  if s.apiKeyPepper.trimSpace ≠ [] then do
    match ← Op.attempt (repo (getAPIKeyByTokenHash (s.hashAPIKeyToken token))) with
    | .ok key => pure key
    | .error err =>
      if err.kind = .apiKeyNotFound then
        repo (getAPIKeyByTokenHash (Lifecycle.hashAPIKeyToken token))
      else Op.fail err
  else repo (getAPIKeyByTokenHash (Lifecycle.hashAPIKeyToken token))

/-- A token that no key has authenticates nobody. -/
def unauthorizedIfMissing (err : Err) : Err :=
  if err.kind = .apiKeyNotFound then ErrKind.err .unauthorized else err

/-- A key that is gone or no longer active authenticates nobody. -/
def unauthorizedIfChanged (err : Err) : Err :=
  if err.kind = .apiKeyNotFound ∨ err.kind = .invalidTransition then
    ErrKind.err .unauthorized else err

/-- A key has an expiry, and it has come. -/
def APIKeyExpired (key : APIKey) (now : Time) : Prop :=
  ¬ key.expiresAt.isZero ∧ ¬ key.expiresAt.after now
deriving Decidable

/-- The key as it is written back. -/
def usedAPIKey (key : APIKey) (now : Time) : APIKey :=
  { key with lastUsedAt := now, updatedAt := now }

def Service.authenticateAPIKey (s : Service) (token : Text) : Op APIKey := do
  let token := token.trimSpace
  Op.require (token ≠ []) .unauthorized
  let found ← Op.attempt (s.getAPIKeyByToken token)
  let key ← Op.ofExcept (found.mapError unauthorizedIfMissing)
  Op.require (¬ (key.status ≠ .active ∨ key.actor.trimSpace = [])) .unauthorized
  Op.require (key.scopes ≠ []) .unauthorized
  let now ← Op.now
  Op.require (¬ APIKeyExpired key now) .unauthorized
  let key := usedAPIKey key now
  let updated ← Op.attempt (withinTx (updateAPIKeyIfStatus key .active)
    fun _ => some (.apiKey (.authenticated key)))
  Op.ofExcept (updated.mapError unauthorizedIfChanged)
  pure key

def apiKeyScopesToStrings (scopes : List APIKeyScope) : List Text := scopes.map APIKeyScope.text

def apiKeyAuditFields (key : APIKey) : Fields :=
  (auditFields [("api_key_id", key.id), ("api_key_name", key.name),
    ("api_key_actor", key.actor)]).set "api_key_scopes"
      (jsonTexts (apiKeyScopesToStrings key.scopes))

/-- The transaction of `DisableAPIKey`. -/
def Service.disableAPIKeyTx (s : Service) (ctx : Context) (actor id : Text) (now : Time) :
    Repo APIKey := do
  let key ← getAPIKey id
  Tx.require (key.status = .active) (ErrKind.err .invalidTransition)
  let key := { key with status := .disabled, updatedAt := now }
  updateAPIKeyIfStatus key .active
  s.createAuditEvent ctx actor "api_key.disabled" "api_key" key.id now
    (addStatusTransition (apiKeyAuditFields key) APIKeyStatus.active.text key.status.text)
  pure key

def Service.disableAPIKey (s : Service) (ctx : Context) (actor id : Text) : Op APIKey := do
  Op.require (¬ isBlank id) .invalidRequest
  let now ← Op.now
  withinTx (s.disableAPIKeyTx ctx actor id now) fun key => some (.apiKey (.disabled key))

/-- The key that takes the place of another. -/
def successorKey (id : Text) (oldKey : APIKey) (tokenHash : Text) (now : Time) : APIKey where
  id := id
  name := oldKey.name
  tokenHash := tokenHash
  status := .active
  actor := oldKey.actor
  scopes := oldKey.scopes
  expiresAt := oldKey.expiresAt
  createdAt := now
  updatedAt := now

/-- The transaction of `RotateAPIKey`: the key it disables and the one it stores. -/
def Service.rotateAPIKeyTx (s : Service) (ctx : Context) (actor id token : Text) (now : Time) :
    Repo (APIKey × APIKey) := do
  let oldKey ← getAPIKey id
  Tx.require (¬ (oldKey.status ≠ .active ∨ APIKeyExpired oldKey now))
    (ErrKind.err .invalidTransition)
  let oldStatus := oldKey.status
  let oldKey := { oldKey with status := .disabled, updatedAt := now }
  updateAPIKeyIfStatus oldKey .active
  let newID ← s.newID
  let newKey := successorKey newID oldKey (s.hashAPIKeyToken token) now
  createAPIKey newKey
  s.createAuditEvent ctx actor "api_key.rotated" "api_key" newKey.id now
    ((addStatusTransition (apiKeyAuditFields newKey) oldStatus.text newKey.status.text).setText
      "rotated_from_api_key_id" oldKey.id)
  pure (oldKey, newKey)

structure CreateAPIKeyResult where
  key : APIKey
  token : Text

def Service.rotateAPIKey (s : Service) (ctx : Context) (actor id : Text) :
    Op CreateAPIKeyResult := do
  Op.require (¬ isBlank id) .invalidRequest
  let token ← Op.ask (fun oracle => oracle.generateAPIKeyToken) fun _ => none
  let now ← Op.now
  let keys ← withinTx (s.rotateAPIKeyTx ctx actor id token now) fun keys =>
    some (.apiKey (.rotated keys.1 keys.2))
  pure { key := keys.2, token := token }

end AnoPki.Lifecycle
