import AnoPki.Core.Requests
import AnoPki.Foundation.Table

/-! # OCSP responses of the core

The core answers the certificate IDs of a request with the statuses the service decided. It finds
the status of an ID in a map whose keys are texts put together from the parts of the ID. The texts
tell the serial number and the hash algorithm, but not where the hash of the issuer's name ends. -/
namespace AnoPki.Core

open Foundation Except List Text

variable {id : OcspCertID} {status : OCSPCertificateStatus} {algorithm algorithm' : HashAlgorithm}
  {id' : OcspCertID} {thisUpdate nextUpdate : Text}

inductive HashAlgorithm where
  | sha1
  | sha256
  | sha384
  | sha512
deriving DecidableEq, Repr

def HashAlgorithm.name : HashAlgorithm → Text
  | sha1 => "sha1"
  | sha256 => "sha256"
  | sha384 => "sha384"
  | sha512 => "sha512"

/-- A certificate ID as it stands in a request. There is no hash algorithm when the object
identifier is none of the four. -/
structure OcspCertID where
  hashAlgorithm : Option HashAlgorithm
  issuerNameHash : List UInt8
  issuerKeyHash : List UInt8
  serial : Int
deriving DecidableEq, Repr

structure OcspRequest where
  ids : List OcspCertID
  nonce : Option (List UInt8)
deriving DecidableEq, Repr

/-- A certificate ID in the texts the core hands out. -/
structure OCSPCertificateID where
  serialNumber : Text
  issuerNameHash : Text
  issuerKeyHash : Text
  hashAlgorithm : Text
deriving DecidableEq, Repr

def octetsToHex : List UInt8 → Text := hexEncode

def serialToDecimal : Int → Text := decimalInt

def normalizeHashAlgorithm (value : Text) : Except Text Text :=
  let normalized := (value.filter fun ch => ch ≠ '-' && ch ≠ '_').map Char.toLower
  if normalized = [] then .ok "sha1"
  else if normalized = "sha1".toList ∨ normalized = "sha256".toList ∨ normalized = "sha384".toList ∨
      normalized = "sha512".toList then .ok normalized
  else .error "ocsp.create_failed"

def hashAlgorithmName : Option HashAlgorithm → Except Text Text
  | some algorithm => .ok algorithm.name
  | none => .error "ocsp.parse_failed"

def certificateId (id : OcspCertID) : Except Text OCSPCertificateID := do
  return {
    serialNumber := serialToDecimal id.serial
    issuerNameHash := octetsToHex id.issuerNameHash
    issuerKeyHash := octetsToHex id.issuerKeyHash
    hashAlgorithm := ← hashAlgorithmName id.hashAlgorithm }

/-- What a C string literal holds: the characters before the first zero character. -/
def cString (literal : Text) : Text := literal.takeWhile fun c => c ≠ Char.ofNat 0

def statusKey (serialNumber hashAlgorithm issuerNameHash issuerKeyHash : Text) :
    Except Text Text := do
  let algorithm ← normalizeHashAlgorithm hashAlgorithm
  return serialNumber ++ cString "\x00" ++ algorithm ++ cString "\x00" ++ issuerNameHash ++
    cString "\x00" ++ issuerKeyHash

/-- The key a status is kept under. -/
def OCSPCertificateStatus.key (status : OCSPCertificateStatus) : Except Text Text :=
  if status.hashAlgorithm = [] ∧ status.issuerNameHash = [] ∧ status.issuerKeyHash = [] then
    .ok status.serialNumber
  else
    statusKey status.serialNumber status.hashAlgorithm status.issuerNameHash status.issuerKeyHash

def statusesById (statuses : List OCSPCertificateStatus) :
    Except Text (Table OCSPCertificateStatus) :=
  Table.enter (fun status => do return (← status.key, status)) ∅ statuses

/-- What the core leaves to OpenSSL and to the key providers. -/
structure OcspBackend where
  parseRequestDer : List UInt8 → Option OcspRequest
  /-- The certificate is parsed, may sign responses, and the reference resolves to its key. -/
  resolveSigner : Text → Text → Except Text Unit
  /-- `ASN1_TIME_set_string` accepts the text. -/
  validTime : Text → Bool

def asn1TimeFromRfc3339 (value : Text) : Except Text Text :=
  if value.byteLength = 20 ∧ value[4]? = some '-' ∧ value[7]? = some '-' ∧ value[10]? = some 'T' ∧
      value[13]? = some ':' ∧ value[16]? = some ':' ∧ value[19]? = some 'Z' then
    .ok (value.take 4 ++ (value.drop 5).take 2 ++ (value.drop 8).take 2 ++ (value.drop 11).take 2 ++
      (value.drop 14).take 2 ++ (value.drop 17).take 2 ++ ['Z'])
  else .error "ocsp.invalid_time"

def makeTime (backend : OcspBackend) (value : Text) : Except Text Text := do
  let time ← asn1TimeFromRfc3339 value
  if backend.validTime time then .ok time else .error "ocsp.invalid_time"

inductive OcspRevocationReason where
  | unspecified
  | keyCompromise
  | caCompromise
  | affiliationChanged
  | superseded
  | cessationOfOperation
  | privilegeWithdrawn
deriving DecidableEq, Repr

def ocspRevocationReason (reason : Text) : OcspRevocationReason :=
  if reason = "key_compromise".toList then .keyCompromise
  else if reason = "ca_compromise".toList then .caCompromise
  else if reason = "affiliation_changed".toList then .affiliationChanged
  else if reason = "superseded".toList then .superseded
  else if reason = "cessation_of_operation".toList then .cessationOfOperation
  else if reason = "privilege_withdrawn".toList then .privilegeWithdrawn
  else .unspecified

/-- The status in a single response. -/
inductive CertStatus where
  | good
  | revoked (revokedAt : Text) (reason : OcspRevocationReason)
  | unknown
deriving DecidableEq, Repr

/-- The status, the revocation date and the reason that go into a single response. -/
def OCSPCertificateStatus.certStatus (backend : OcspBackend) (status : OCSPCertificateStatus) :
    Except Text CertStatus :=
  if status.status = "revoked".toList then do
    let revokedAt ← makeTime backend status.revokedAt
    return .revoked revokedAt (ocspRevocationReason status.revocationReason)
  else if status.status = "good".toList then .ok .good
  else if status.status = "unknown".toList then .ok .unknown
  else .error "ocsp.create_failed"

structure SingleResponse where
  id : OcspCertID
  status : CertStatus
  thisUpdate : Text
  nextUpdate : Text
deriving DecidableEq, Repr

/-- A response before it is signed. -/
structure BasicResponse where
  responses : List SingleResponse
  nonce : Option (List UInt8)
deriving DecidableEq, Repr

/-- The status that the map has for an ID. -/
def statusFor (statuses : Table OCSPCertificateStatus) (parsed : OCSPCertificateID) :
    Except Text OCSPCertificateStatus := do
  let key ← statusKey parsed.serialNumber parsed.hashAlgorithm parsed.issuerNameHash
    parsed.issuerKeyHash
  return ((statuses.lookup key).or (statuses.lookup parsed.serialNumber)).getD {
    serialNumber := parsed.serialNumber
    status := "unknown"
    revokedAt := []
    revocationReason := []
    hashAlgorithm := parsed.hashAlgorithm
    issuerNameHash := parsed.issuerNameHash
    issuerKeyHash := parsed.issuerKeyHash }

def singleResponse (backend : OcspBackend) (statuses : Table OCSPCertificateStatus)
    (thisUpdate nextUpdate : Text) (id : OcspCertID) : Except Text SingleResponse := do
  let parsed ← certificateId id
  let status ← statusFor statuses parsed
  return { id, status := ← status.certStatus backend, thisUpdate, nextUpdate }

/-- `generate_ocsp_response` up to the signature. -/
def basicOcspResponse (backend : OcspBackend) (request : GenerateOCSPResponseRequest) :
    Except Text BasicResponse := do
  let ocspRequest ← match backend.parseRequestDer request.requestDer with
    | some ocspRequest => pure ocspRequest
    | none => throw "ocsp.parse_failed".toList
  backend.resolveSigner request.issuerCertificatePem request.issuerKeyRef
  let thisUpdate ← makeTime backend request.thisUpdate
  let nextUpdate ← makeTime backend request.nextUpdate
  let statuses ← statusesById request.certificates
  let responses ← ocspRequest.ids.mapM (singleResponse backend statuses thisUpdate nextUpdate)
  return { responses, nonce := ocspRequest.nonce }

/-- The key of an ID with a known hash algorithm. -/
def OcspCertID.keyText (id : OcspCertID) (algorithm : HashAlgorithm) : Text :=
  decimalInt id.serial ++
    (algorithm.name ++ hexEncode (id.issuerNameHash ++ id.issuerKeyHash))

/-- Two IDs with one key: the hashes of the issuers' names and keys run together to the same
bytes. -/
structure Confusable (id id' : OcspCertID) : Prop where
  serial : id.serial = id'.serial
  hashAlgorithm : id.hashAlgorithm = id'.hashAlgorithm
  hashes : id.issuerNameHash ++ id.issuerKeyHash = id'.issuerNameHash ++ id'.issuerKeyHash

theorem normalizeHashAlgorithm_name (algorithm : HashAlgorithm) :
    normalizeHashAlgorithm algorithm.name = .ok algorithm.name := by
  cases algorithm <;> decide

theorem statusKey_of_id (id : OcspCertID) (algorithm : HashAlgorithm) :
    statusKey (serialToDecimal id.serial) algorithm.name (octetsToHex id.issuerNameHash)
      (octetsToHex id.issuerKeyHash) = .ok (id.keyText algorithm) := by
  have separator : cString "\x00" = [] := by decide
  have hashes : octetsToHex id.issuerNameHash ++ octetsToHex id.issuerKeyHash =
      hexEncode (id.issuerNameHash ++ id.issuerKeyHash) := flatMap_append.symm
  rw [statusKey, normalizeHashAlgorithm_name, separator]
  simp only [append_nil, append_assoc, hashes]
  rfl

/-- The name of an algorithm without its first letter. -/
def HashAlgorithm.rest : HashAlgorithm → Text
  | sha1 => ['h', 'a', '1']
  | sha256 => ['h', 'a', '2', '5', '6']
  | sha384 => ['h', 'a', '3', '8', '4']
  | sha512 => ['h', 'a', '5', '1', '2']

theorem HashAlgorithm.name_eq (algorithm : HashAlgorithm) :
    algorithm.name = 's' :: algorithm.rest := by
  cases algorithm <;> decide

theorem HashAlgorithm.rest_append_inj {after after'}
    (same : algorithm.rest ++ after = algorithm'.rest ++ after') :
    algorithm = algorithm' ∧ after = after' := by
  cases algorithm <;> cases algorithm' <;> simp_all [HashAlgorithm.rest]

private theorem s_notMem_decimalInt (number : Int) : 's' ∉ decimalInt number := by
  intro member
  rcases mem_decimalInt member with minus | digit
  · cases minus
  · simp at digit

/-- Two IDs have one key exactly when their hashes run together to the same bytes. -/
theorem keyText_eq_iff (known : id.hashAlgorithm = some algorithm)
    (known' : id'.hashAlgorithm = some algorithm') :
    id.keyText algorithm = id'.keyText algorithm' ↔ Confusable id id' := by
  constructor
  · intro same
    -- the serial number ends at the first letter of the algorithm's name
    simp only [OcspCertID.keyText, HashAlgorithm.name_eq, cons_append] at same
    obtain ⟨serials, tails⟩ :=
      split_unique (s_notMem_decimalInt _) (s_notMem_decimalInt _) same
    obtain ⟨rfl, hashes⟩ := HashAlgorithm.rest_append_inj tails
    exact ⟨decimalInt_injective serials, known.trans known'.symm, hexEncode_injective hashes⟩
  · rintro ⟨serial, hashAlgorithm, hashes⟩
    obtain rfl : algorithm = algorithm' :=
      Option.some.inj (known.symm.trans (hashAlgorithm.trans known'))
    rw [OcspCertID.keyText, OcspCertID.keyText, serial, hashes]

/-- IDs whose name hashes have one length are told apart. -/
theorem Confusable.eq_of_length (confusable : Confusable id id')
    (length : id.issuerNameHash.length = id'.issuerNameHash.length) : id = id' := by
  obtain ⟨algorithm, name, key, serial⟩ := id
  obtain ⟨algorithm', name', key', serial'⟩ := id'
  obtain ⟨rfl, rfl, hashes⟩ := confusable
  obtain ⟨rfl, rfl⟩ := append_inj hashes length
  rfl

section Entered

variable {statuses : List OCSPCertificateStatus} {table : Table OCSPCertificateStatus} {key : Text}

/-- What is found in the map was entered under that key. -/
theorem statusesById_lookup (entered : statusesById statuses = .ok table)
    (found : table.lookup key = some status) : status ∈ statuses ∧ status.key = .ok key := by
  rcases Table.enter_lookup entered found with ⟨_, inside, made⟩ | before
  · obtain ⟨_, keyed, shape⟩ := bind_eq_ok.mp made
    cases ok.inj shape
    exact ⟨inside, keyed⟩
  · simp at before

/-- Under the key of a status something is found. -/
theorem statusesById_found (entered : statusesById statuses = .ok table)
    (inside : status ∈ statuses) (keyed : status.key = .ok key) :
    ∃ found, table.lookup key = some found := by
  refine Option.isSome_iff_exists.mp
    (Table.enter_isSome entered (.inl ⟨status, inside, status, ?_⟩))
  rw [keyed]
  rfl

end Entered

section Responses

variable {backend : OcspBackend} {request : GenerateOCSPResponseRequest} {ocspRequest : OcspRequest}
  {basic : BasicResponse}

/-- A status that repeats the parts of an ID. -/
structure Echoes (id : OcspCertID) (status : OCSPCertificateStatus) : Prop where
  serialNumber : status.serialNumber = serialToDecimal id.serial
  hashAlgorithm : hashAlgorithmName id.hashAlgorithm = .ok status.hashAlgorithm
  issuerNameHash : status.issuerNameHash = octetsToHex id.issuerNameHash
  issuerKeyHash : status.issuerKeyHash = octetsToHex id.issuerKeyHash

theorem hashAlgorithmName_ok {hashAlgorithm name}
    (named : hashAlgorithmName hashAlgorithm = .ok name) :
    ∃ algorithm, hashAlgorithm = some algorithm ∧ algorithm.name = name := by
  cases hashAlgorithm with
  | none => cases named
  | some algorithm => exact ⟨algorithm, rfl, ok.inj named⟩

theorem Echoes.key (echoes : Echoes id status) :
    ∃ algorithm, id.hashAlgorithm = some algorithm ∧ status.key = .ok (id.keyText algorithm) := by
  obtain ⟨algorithm, known, name⟩ := hashAlgorithmName_ok echoes.hashAlgorithm
  have named : status.hashAlgorithm ≠ [] := by
    rw [← name, HashAlgorithm.name_eq]
    exact cons_ne_nil _ _
  refine ⟨algorithm, known, ?_⟩
  rw [OCSPCertificateStatus.key, if_neg (fun empty => named empty.1), echoes.serialNumber, ← name,
    echoes.issuerNameHash, echoes.issuerKeyHash]
  exact statusKey_of_id id algorithm

/-- A response carries the status that is found under the key of its ID. -/
theorem singleResponse_ok {statuses response} (known : id.hashAlgorithm = some algorithm)
    (found : statuses.lookup (id.keyText algorithm) = some status)
    (built : singleResponse backend statuses thisUpdate nextUpdate id = .ok response) :
    status.certStatus backend = .ok response.status := by
  have parsed : certificateId id = .ok {
      serialNumber := serialToDecimal id.serial
      issuerNameHash := octetsToHex id.issuerNameHash
      issuerKeyHash := octetsToHex id.issuerKeyHash
      hashAlgorithm := algorithm.name } := by
    rw [certificateId, known]
    rfl
  obtain ⟨_, same, built⟩ := bind_eq_ok.mp built
  cases parsed.symm.trans same
  obtain ⟨chosen, looked, built⟩ := bind_eq_ok.mp built
  obtain ⟨key, keyed, chosen'⟩ := bind_eq_ok.mp looked
  cases (statusKey_of_id id algorithm).symm.trans keyed
  rw [found] at chosen'
  cases chosen'
  obtain ⟨decided, converted, built⟩ := bind_eq_ok.mp built
  cases built
  exact converted

/-- Every ID is answered with the status of some ID it can be confused with, and IDs that can be
confused with each other get one answer. -/
theorem singleResponse_answers (backend : OcspBackend) {statuses ids table}
    (echo : List.Forall₂ Echoes ids statuses) (entered : statusesById statuses = .ok table)
    {own} (member : (id, own) ∈ ids.zip statuses) :
    ∃ other ∈ ids.zip statuses, Confusable id other.1 ∧ ∀ id' response, Confusable id id' →
      singleResponse backend table thisUpdate nextUpdate id' = .ok response →
      other.2.certStatus backend = .ok response.status := by
  obtain ⟨algorithm, known, keyed⟩ := (forall₂_zip echo member).key
  obtain ⟨status, found⟩ := statusesById_found entered (of_mem_zip member).2 keyed
  obtain ⟨inside, sameKey⟩ := statusesById_lookup entered found
  obtain ⟨number, short, there⟩ := getElem_of_mem inside
  have inIds : number < ids.length := by rw [echo.length_eq]; exact short
  have paired : (ids[number], status) ∈ ids.zip statuses := by
    rw [mem_iff_getElem]
    refine ⟨number, by simp [inIds, short], ?_⟩
    simp [there]
  obtain ⟨algorithm', known', keyed'⟩ := (forall₂_zip echo paired).key
  have keys : id.keyText algorithm = ids[number].keyText algorithm' :=
    ok.inj (sameKey.symm.trans keyed')
  refine ⟨_, paired, (keyText_eq_iff known known').mp keys, ?_⟩
  intro id' response confusable built
  have known'' : id'.hashAlgorithm = some algorithm := confusable.hashAlgorithm ▸ known
  rw [(keyText_eq_iff known known'').mpr confusable] at found
  exact singleResponse_ok known'' found built

/-- The parts of a response that was built. -/
theorem basicOcspResponse_ok (parsed : backend.parseRequestDer request.requestDer =
    some ocspRequest) (built : basicOcspResponse backend request = .ok basic) :
    ∃ table thisUpdate nextUpdate, statusesById request.certificates = .ok table ∧
      List.Forall₂ (fun id response =>
        singleResponse backend table thisUpdate nextUpdate id = .ok response)
        ocspRequest.ids basic.responses := by
  rw [basicOcspResponse, parsed] at built
  obtain ⟨_, ⟨⟩, built⟩ := bind_eq_ok.mp built
  obtain ⟨_, -, built⟩ := bind_eq_ok.mp built
  obtain ⟨thisUpdate, -, built⟩ := bind_eq_ok.mp built
  obtain ⟨nextUpdate, -, built⟩ := bind_eq_ok.mp built
  obtain ⟨table, entered, built⟩ := bind_eq_ok.mp built
  obtain ⟨responses, answered, built⟩ := bind_eq_ok.mp built
  cases built
  exact ⟨table, thisUpdate, nextUpdate, entered, mapM_eq_ok.mp answered⟩

/-- Each response carries the status that was sent for its ID exactly when IDs whose hashes run
together to the same bytes were sent with the same status, date and reason. -/
theorem responses_carry_iff (parsed : backend.parseRequestDer request.requestDer = some ocspRequest)
    (echo : List.Forall₂ Echoes ocspRequest.ids request.certificates)
    (built : basicOcspResponse backend request = .ok basic) :
    List.Forall₂ (fun response status => status.certStatus backend = .ok response.status)
        basic.responses request.certificates ↔
      ∀ one ∈ ocspRequest.ids.zip request.certificates,
        ∀ other ∈ ocspRequest.ids.zip request.certificates, Confusable one.1 other.1 →
          one.2.certStatus backend = other.2.certStatus backend := by
  obtain ⟨table, thisUpdate, nextUpdate, entered, answered⟩ := basicOcspResponse_ok parsed built
  constructor
  · intro carried one inside other inside' confusable
    obtain ⟨response, answer, own⟩ := exists_of_forall₂ answered carried inside
    obtain ⟨response', answer', own'⟩ := exists_of_forall₂ answered carried inside'
    obtain ⟨winner, -, -, answers⟩ := singleResponse_answers backend echo entered inside
    have first := answers _ _ ⟨rfl, rfl, rfl⟩ answer
    have second := answers _ _ confusable answer'
    exact own.trans (first.symm.trans (second.trans own'.symm))
  · intro agree
    refine forall₂_common answered echo ?_
    intro id response status inside answer
    obtain ⟨winner, there, confusable, answers⟩ :=
      singleResponse_answers backend echo entered inside
    rw [agree _ inside _ there confusable]
    exact answers id response ⟨rfl, rfl, rfl⟩ answer

/-- A backend that reads one request and accepts every signer and every time. -/
def OcspBackend.reading (ids : List OcspCertID) : OcspBackend where
  parseRequestDer _ := some { ids, nonce := none }
  resolveSigner _ _ := .ok ()
  validTime _ := true

/-- The ID with serial number 1 and the given hashes. -/
def idOne (issuerNameHash issuerKeyHash : List UInt8) : OcspCertID where
  hashAlgorithm := some .sha1
  issuerNameHash := issuerNameHash
  issuerKeyHash := issuerKeyHash
  serial := 1

/-- A status for an ID with the serial number 1. -/
def statusOne (id : OcspCertID) (status : Text) : OCSPCertificateStatus where
  serialNumber := "1"
  status := status
  revokedAt := []
  revocationReason := []
  hashAlgorithm := "sha1"
  issuerNameHash := octetsToHex id.issuerNameHash
  issuerKeyHash := octetsToHex id.issuerKeyHash

theorem Echoes.one (issuerNameHash issuerKeyHash : List UInt8) (status : Text) :
    Echoes (idOne issuerNameHash issuerKeyHash)
      (statusOne (idOne issuerNameHash issuerKeyHash) status) :=
  have serial : "1".toList = serialToDecimal 1 := by decide
  ⟨serial, rfl, rfl, rfl⟩

/-- A request in which the first ID is good and the second one is unknown. -/
def goodAndUnknown (first second : OcspCertID) : GenerateOCSPResponseRequest where
  requestDer := []
  issuerCertificatePem := []
  issuerKeyRef := []
  thisUpdate := "2026-01-01T00:00:00Z"
  nextUpdate := "2026-01-02T00:00:00Z"
  certificates := [statusOne first "good", statusOne second "unknown"]

/-- The answers to two IDs on that day. -/
def answers (first second : OcspCertID) (status status' : CertStatus) : BasicResponse where
  responses := [⟨first, status, "20260101000000Z", "20260102000000Z"⟩,
    ⟨second, status', "20260101000000Z", "20260102000000Z"⟩]
  nonce := none

/-- IDs with hashes of one length get their own answers. -/
theorem responses_carry_pair : List.Forall₂ (fun response status => OCSPCertificateStatus.certStatus
        (.reading [idOne [1] [2], idOne [3] [4]]) status = .ok response.status)
      (answers (idOne [1] [2]) (idOne [3] [4]) .good .unknown).responses
      (goodAndUnknown (idOne [1] [2]) (idOne [3] [4])).certificates := by
  refine (@responses_carry_iff (.reading [idOne [1] [2], idOne [3] [4]])
    (goodAndUnknown (idOne [1] [2]) (idOne [3] [4])) _ _ rfl
    (.cons (.one [1] [2] _) (.cons (.one [3] [4] _) .nil)) (by decide)).mpr ?_
  intro one inside other inside' confusable
  suffices same : one = other by rw [same]
  have length : ∀ pair ∈ [idOne [1] [2], idOne [3] [4]].zip
      (goodAndUnknown (idOne [1] [2]) (idOne [3] [4])).certificates,
      pair.1.issuerNameHash.length = 1 ∧ pair.2 = statusOne pair.1 (
        if pair.1 = idOne [1] [2] then "good" else "unknown") := by
    decide
  have ids := confusable.eq_of_length ((length _ inside).1.trans (length _ inside').1.symm)
  exact Prod.ext ids (by rw [(length _ inside).2, (length _ inside').2, ids])

/-- A byte that moves from the one hash to the other is not seen: the ID that the service decided is
good is answered with the status of the other one. -/
theorem response_of_other_id : List.Forall₂ Echoes [idOne [1] [2, 3], idOne [1, 2] [3]]
        (goodAndUnknown (idOne [1] [2, 3]) (idOne [1, 2] [3])).certificates ∧
      idOne [1] [2, 3] ≠ idOne [1, 2] [3] ∧
      basicOcspResponse (.reading [idOne [1] [2, 3], idOne [1, 2] [3]])
          (goodAndUnknown (idOne [1] [2, 3]) (idOne [1, 2] [3])) =
        .ok (answers (idOne [1] [2, 3]) (idOne [1, 2] [3]) .unknown .unknown) ∧
      (statusOne (idOne [1] [2, 3]) "good").certStatus (.reading []) = .ok .good := by
  refine ⟨.cons (.one [1] [2, 3] _) (.cons (.one [1, 2] [3] _) .nil), ?_, ?_, ?_⟩
  · decide
  · decide
  · decide

end Responses

end AnoPki.Core
