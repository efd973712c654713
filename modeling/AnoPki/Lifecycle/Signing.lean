import AnoPki.Lifecycle.Policy

/-! # Evidence of signing

How a key reference is classified, what the core's evidence of a signature must say, and what an
audit event repeats of it. -/
namespace AnoPki.Lifecycle

open Foundation Domain

namespace Keyref

def classFile : Text := "file"

def looksLikeWindowsAbs : Text → Bool
  | drive :: ':' :: slash :: _ => drive.isAlpha && (slash = '\\' || slash = '/')
  | _ => false

/-- `keyref.Class`: the scheme of a reference; a path is a file. -/
def classOf (lower : Char → Char) (ref : Text) : Text :=
  let trimmed := ref.trimSpace
  if ("file:" : Text) <+: trimmed.toLower lower ∨ looksLikeWindowsAbs trimmed then classFile
  else
    match trimmed.cut ':' with
    | some (scheme, _) => if scheme = [] then classFile else scheme.toLower lower
    | none => classFile

def exportability (lower : Char → Char) (ref : Text) : Text :=
  let keyClass := classOf lower ref
  if keyClass = classFile then "exportable"
  else if keyClass = "kms" ∨ keyClass = "pkcs11" then "non_exportable_expected"
  else "unknown"

end Keyref

/-- The fields of the evidence as they are stored with an attempt. -/
def signingEvidenceFields (evidence : SigningEvidence) :
    List (Text × Option Corecli.FieldValue) := [
  ("schema_version", some (.int evidence.schemaVersion)),
  ("evidence_source", some (.string evidence.evidenceSource)),
  ("operation", some (.string evidence.operation)),
  ("provider_id", some (.string evidence.providerID)),
  ("provider_class", some (.string evidence.providerClass)),
  ("provider_readiness", some (.string evidence.providerReadiness)),
  ("provider_exportability", some (.string evidence.providerExportability)),
  ("reference_class", some (.string evidence.referenceClass)),
  ("key_algorithm", some (.string evidence.keyAlgorithm)),
  ("requested_signature_algorithm", some (.string evidence.requestedSignatureAlgorithm)),
  ("issuer_binding_verified", some (.bool evidence.issuerBindingVerified)),
  ("fallback_used", some (.bool evidence.fallbackUsed)),
  ("result_code", some (.string evidence.resultCode))]

def signingEvidenceJSON (evidence : SigningEvidence) : Text :=
  Corecli.marshal (signingEvidenceFields evidence)

/-- A member of a decoded object; an absent one is null. -/
def jsonMember (key : Text) (members : List (Text × Json)) : Json :=
  ((members.find? fun member => decide (member.1 = key)).map Prod.snd).getD .null

/-- A string of a struct; null leaves it empty. -/
def decodeText (key : Text) (members : List (Text × Json)) : Option Text :=
  match jsonMember key members with
  | .null => some []
  | .string text => some text
  | _ => none

def decodeBool (key : Text) (members : List (Text × Json)) : Option Bool :=
  match jsonMember key members with
  | .null => some false
  | .bool value => some value
  | _ => none

/-- The integer a number literal writes, if it is one of 64 bits. -/
def integerLiteral (literal : Text) : Option Int64 :=
  let (negative, digits) := match literal with
    | '-' :: digits => (true, digits)
    | digits => (false, digits)
  if digits = [] ∨ digits.any fun c => !c.isDigit then none
  else
    let magnitude : Int := Nat.ofDigitChars 10 digits 0
    let value := if negative then -magnitude else magnitude
    if -9223372036854775808 ≤ value ∧ value ≤ 9223372036854775807 then some (Int64.ofInt value)
    else none

def decodeInt (key : Text) (members : List (Text × Json)) : Option Int64 :=
  match jsonMember key members with
  | .null => some 0
  | .number literal => integerLiteral literal
  | _ => none

/-- The stored evidence read back. -/
def decodeSigningEvidence (text : Text) : Option SigningEvidence := do
  match ← Json.read text with
  | .object members =>
    return {
      schemaVersion := ← decodeInt "schema_version" members
      evidenceSource := ← decodeText "evidence_source" members
      operation := ← decodeText "operation" members
      providerID := ← decodeText "provider_id" members
      providerClass := ← decodeText "provider_class" members
      providerReadiness := ← decodeText "provider_readiness" members
      providerExportability := ← decodeText "provider_exportability" members
      referenceClass := ← decodeText "reference_class" members
      keyAlgorithm := ← decodeText "key_algorithm" members
      requestedSignatureAlgorithm := ← decodeText "requested_signature_algorithm" members
      issuerBindingVerified := ← decodeBool "issuer_binding_verified" members
      fallbackUsed := ← decodeBool "fallback_used" members
      resultCode := ← decodeText "result_code" members }
  | _ => none

/-- The evidence is that of a completed signature of the expected kind. -/
def SigningEvidence.Consistent (evidence : SigningEvidence)
    (expectedOperation expectedAlgorithm : Text) : Prop :=
  evidence.schemaVersion = 1 ∧
    evidence.evidenceSource = "core_signing".toList ∧
    evidence.operation = expectedOperation ∧
    evidence.providerID.trimSpace ≠ [] ∧
    evidence.providerClass.trimSpace ≠ [] ∧
    evidence.providerReadiness = "ready".toList ∧
    (evidence.providerExportability = "exportable".toList ∨
      evidence.providerExportability = "non_exportable".toList) ∧
    evidence.referenceClass.trimSpace ≠ [] ∧
    evidence.keyAlgorithm.trimSpace ≠ [] ∧
    evidence.requestedSignatureAlgorithm = expectedAlgorithm ∧
    evidence.issuerBindingVerified ∧
    ¬ evidence.fallbackUsed ∧
    evidence.resultCode = "ok".toList
deriving Decidable

def validateSigningEvidence (evidence : SigningEvidence)
    (expectedOperation expectedAlgorithm : Text) : Except CoreError Unit :=
  if evidence.Consistent expectedOperation expectedAlgorithm then .ok ()
  else .error {
    code := none
    text := "validate signing evidence: inconsistent core signing result" }

def coreSigningAuditFields (evidence : SigningEvidence) (fields : Fields) : Fields :=
  let fields := fields.setText "key_provider_id" evidence.providerID
  let fields := fields.setText "key_provider_class" evidence.providerClass
  let fields := fields.setText "key_provider_readiness" evidence.providerReadiness
  let fields := fields.setText "key_provider_exportability" evidence.providerExportability
  let fields := fields.setText "key_provider_reference_class" evidence.referenceClass
  let fields := fields.setText "key_provider_operation" evidence.operation
  let fields := fields.setText "key_provider_key_algorithm" evidence.keyAlgorithm
  let fields := fields.setText "key_provider_signature_algorithm"
    evidence.requestedSignatureAlgorithm
  let fields := fields.set "key_provider_binding_verified" (.bool evidence.issuerBindingVerified)
  let fields := fields.set "key_provider_fallback_used" (.bool evidence.fallbackUsed)
  let fields := fields.setText "key_provider_result_code" evidence.resultCode
  let fields := fields.setText "key_provider_evidence_source" evidence.evidenceSource
  fields.set "key_provider_signing_proven" (.bool true)

def legacyKeyProviderAuditFields (lower : Char → Char) (keyRef : Text) (fields : Fields) :
    Fields :=
  let fields := fields.setText "key_provider_class" (Keyref.classOf lower keyRef)
  let fields := fields.setText "key_provider_exportability" (Keyref.exportability lower keyRef)
  let fields := fields.setText "key_provider_evidence_source" "legacy_key_ref_classification"
  fields.set "key_provider_signing_proven" (.bool false)

/-- `mapIssueError`. -/
def mapIssueError (err : CoreError) : Err :=
  if err.code = some "issue.csr_parse_failed".toList then
    { kind := .csrParseFailed, detail := err.text }
  else { kind := .certificateIssuanceFailed, detail := err.text }

end AnoPki.Lifecycle
