import AnoPki.Lifecycle.Configuration
import AnoPki.Store.Responders

/-! # OCSP responders

`CreateOCSPResponder`, `RotateOCSPResponder` and `DisableOCSPResponder`. Creation and rotation look
for an active responder before the certificate is validated, and the transaction looks again. -/
namespace AnoPki.Lifecycle

open Foundation Domain Store

/-- The fields of `CreateOCSPResponderRequest` and of `RotateOCSPResponderRequest`. -/
structure OCSPResponderRequest where
  issuerID : Text
  name : Text
  certificatePEM : Text
  keyRef : Text
deriving DecidableEq, Repr

/-- `mapOCSPResponseError`. -/
def mapOCSPResponseError (err : CoreError) : Err :=
  { kind := .ocspResponseFailed, detail := err.text }

def newOCSPResponder (id : Text) (req : OCSPResponderRequest) (now : Time) : OCSPResponder where
  id := id
  issuerID := req.issuerID
  name := req.name
  status := .active
  certificatePEM := req.certificatePEM
  keyRef := req.keyRef
  createdAt := now
  updatedAt := now

/-- The core looks at the certificates of the issuer and of the responder. -/
def validateOCSPResponder : Op Unit := do
  let valid ← Op.ask (fun oracle => oracle.validateOCSPResponder.mapError mapOCSPResponseError)
    fun _ => none
  Op.require (valid = true) .ocspResponderValidationFailed

def ocspResponderAuditFields (responder : OCSPResponder) : Fields :=
  auditFields [("issuer_id", responder.issuerID), ("ocsp_responder_id", responder.id)]

/-- A request has all of its fields. -/
def OCSPResponderRequest.complete (req : OCSPResponderRequest) : Prop :=
  ¬ (isBlank req.issuerID ∨ isBlank req.name ∨ isBlank req.certificatePEM ∨ isBlank req.keyRef)
deriving Decidable

/-- The transaction of `CreateOCSPResponder`. -/
def Service.createOCSPResponderTx (s : Service) (ctx : Context) (actor : Text)
    (req : OCSPResponderRequest) (now : Time) : Repo OCSPResponder := do
  let id ← s.newID
  let responder := newOCSPResponder id req now
  Store.createOCSPResponder responder
  s.createAuditEvent ctx actor "ocsp_responder.created" "ocsp_responder" responder.id now
    (legacyKeyProviderAuditFields s.lowerRune req.keyRef (ocspResponderAuditFields responder))
  pure responder

def Service.createOCSPResponder (s : Service) (ctx : Context) (actor : Text)
    (req : OCSPResponderRequest) : Op OCSPResponder := do
  Op.require req.complete .invalidRequest
  Op.require (¬ (s.productionPolicy ∧ Keyref.classOf s.lowerRune req.keyRef = Keyref.classFile))
    .invalidRequest
  Op.ofExcept (validateSupportedSigningKeyRef s.lowerRune req.keyRef)
  let now ← Op.now
  let _ ← repo (getIssuer req.issuerID)
  let active ← Op.attempt (repo (getActiveOCSPResponderByIssuer req.issuerID))
  Op.ofExcept (match active with
    | .ok _ => .error (ErrKind.err .invalidTransition)
    | .error err => demand (err.kind = .ocspResponderNotFound) err)
  validateOCSPResponder
  withinTx (s.createOCSPResponderTx ctx actor req now) fun responder =>
    some (.responder (.created responder))

/-- The transaction of `DisableOCSPResponder`. -/
def Service.disableOCSPResponderTx (s : Service) (ctx : Context) (actor issuerID responderID : Text)
    (now : Time) : Repo OCSPResponder := do
  let _ ← getIssuer issuerID
  let responder ← getOCSPResponder responderID
  Tx.require (responder.issuerID = issuerID) (ErrKind.err .ocspResponderNotFound)
  Tx.require (responder.status = .active) (ErrKind.err .invalidTransition)
  let responder := { responder with status := .disabled, updatedAt := now }
  updateOCSPResponderIfStatus responder .active
  s.createAuditEvent ctx actor "ocsp_responder.disabled" "ocsp_responder" responder.id now
    (ocspResponderAuditFields responder)
  pure responder

def Service.disableOCSPResponder (s : Service) (ctx : Context) (actor issuerID responderID : Text) :
    Op OCSPResponder := do
  Op.require (¬ (isBlank issuerID ∨ isBlank responderID)) .invalidRequest
  let now ← Op.now
  withinTx (s.disableOCSPResponderTx ctx actor issuerID responderID now) fun responder =>
    some (.responder (.disabled responder))

/-- The active responder that is rotated out; an issuer without one has nothing to rotate. -/
def responderToRotate (found : Except Err OCSPResponder) : Except Err OCSPResponder :=
  found.mapError fun err =>
    if err.kind = .ocspResponderNotFound then ErrKind.err .invalidTransition else err

/-- The transaction of `RotateOCSPResponder`: the responder it disables and the one it stores. -/
def Service.rotateOCSPResponderTx (s : Service) (ctx : Context) (actor : Text)
    (req : OCSPResponderRequest) (now : Time) : Repo (OCSPResponder × OCSPResponder) := do
  let id ← s.newID
  let responder := newOCSPResponder id req now
  let _ ← getIssuer req.issuerID
  let found ← Tx.attempt (getActiveOCSPResponderByIssuer req.issuerID)
  let current ← Tx.query fun _ => responderToRotate found
  let current := { current with status := .disabled, updatedAt := now }
  updateOCSPResponderIfStatus current .active
  s.createAuditEvent ctx actor "ocsp_responder.disabled" "ocsp_responder" current.id now
    (ocspResponderAuditFields current)
  Store.createOCSPResponder responder
  s.createAuditEvent ctx actor "ocsp_responder.created" "ocsp_responder" responder.id now
    (ocspResponderAuditFields responder)
  pure (current, responder)

/-- Unlike `CreateOCSPResponder`, it does not look at the class of the key reference. -/
def Service.rotateOCSPResponder (s : Service) (ctx : Context) (actor : Text)
    (req : OCSPResponderRequest) : Op OCSPResponder := do
  Op.require req.complete .invalidRequest
  let now ← Op.now
  let _ ← repo (getIssuer req.issuerID)
  let active ← Op.attempt (repo (getActiveOCSPResponderByIssuer req.issuerID))
  let _ ← Op.ofExcept (responderToRotate active)
  validateOCSPResponder
  let stored ← withinTx (s.rotateOCSPResponderTx ctx actor req now) fun stored =>
    some (.responder (.rotated stored.1 stored.2))
  pure stored.2

end AnoPki.Lifecycle
