import AnoPki.Core.Requests
import AnoPki.Corecli.Wire
import AnoPki.Foundation.Time

/-! # Request files of the core runner

The service hands a request to the core in a JSON file. For each of the three requests
`requestFile_roundTrip_iff` says exactly when the core reads back what was written: the same fields,
and texts that tell the instants of the request. -/
namespace AnoPki.Corecli

open Foundation List Core.JsonParser

structure IssueRequest where
  csrPEM : Text
  issuerCertificatePEM : Text
  issuerKeyRef : Text
  aiaURL : Text
  crlDistributionPoints : Option (List Text)
  subject : Text
  dnsNames : Option (List Text)
  ipAddresses : Option (List Text)
  notBefore : Time
  notAfter : Time
  signatureAlgorithm : Text
  profileID : Text
  basicConstraintsCritical : Bool
  basicConstraintsCA : Bool
  basicConstraintsMaxPathLen : Option Int64
  keyUsageCritical : Bool
  keyUsage : Option (List Text)
  extendedKeyUsageCritical : Bool
  extendedKeyUsage : Option (List Text)
  subjectKeyIdentifier : Bool
  authorityKeyIdentifier : Bool
deriving DecidableEq, Repr

structure RevokedCertificate where
  serialNumber : Text
  revokedAt : Time
  reason : Text
deriving DecidableEq, Repr

structure GenerateCRLRequest where
  issuerCertificatePEM : Text
  issuerKeyRef : Text
  crlNumber : Int64
  thisUpdate : Time
  nextUpdate : Time
  revokedCertificates : List RevokedCertificate
deriving DecidableEq, Repr

structure OCSPCertificateID where
  serialNumber : Text
  issuerNameHash : Text
  issuerKeyHash : Text
  hashAlgorithm : Text
deriving DecidableEq, Repr

structure OCSPIssuerInfo where
  issuerNameHash : Text
  issuerKeyHash : Text
  hashAlgorithm : Text
deriving DecidableEq, Repr

structure OCSPCertificateStatus where
  serialNumber : Text
  status : Text
  revokedAt : Time
  revocationReason : Text
  hashAlgorithm : Text
  issuerNameHash : Text
  issuerKeyHash : Text
deriving DecidableEq, Repr

structure GenerateOCSPResponseRequest where
  requestDER : List UInt8
  issuerCertificatePEM : Text
  issuerKeyRef : Text
  thisUpdate : Time
  nextUpdate : Time
  certificates : List OCSPCertificateStatus
deriving DecidableEq, Repr

/-- A time has a strict RFC 3339 text: four digits for the year, and less than a day of offset. -/
def HasStrictText (t : Time) : Prop :=
  0 ≤ (CivilDate.ofDays t.localDays).year ∧ (CivilDate.ofDays t.localDays).year ≤ 9999 ∧
    (t.offset.tdiv 60).natAbs / 60 < 24
deriving Decidable

/-- `time.Time.MarshalJSON`: an error for a time without a strict text. -/
def marshalTime (t : Time) : Option FieldValue :=
  if HasStrictText t then some (.string t.rfc3339Nano) else none

/-- The fields of an issue request, in the order of the struct. -/
def issueFields (req : IssueRequest) (notBefore notAfter : FieldValue) :
    List (Text × Option FieldValue) := [
  ("csr_pem", some (.string req.csrPEM)),
  ("issuer_certificate_pem", some (.string req.issuerCertificatePEM)),
  ("issuer_key_ref", some (.string req.issuerKeyRef)),
  ("aia_url", omitEmpty req.aiaURL),
  ("crl_distribution_points", omitEmptySlice req.crlDistributionPoints),
  ("subject", some (.string req.subject)),
  ("dns_names", some (.strings req.dnsNames)),
  ("ip_addresses", some (.strings req.ipAddresses)),
  ("not_before", some notBefore),
  ("not_after", some notAfter),
  ("signature_algorithm", some (.string req.signatureAlgorithm)),
  ("profile_id", omitEmpty req.profileID),
  ("basic_constraints_critical", omitFalse req.basicConstraintsCritical),
  ("basic_constraints_ca", omitFalse req.basicConstraintsCA),
  ("basic_constraints_max_path_len", req.basicConstraintsMaxPathLen.map .int),
  ("key_usage_critical", omitFalse req.keyUsageCritical),
  ("key_usage", omitEmptySlice req.keyUsage),
  ("extended_key_usage_critical", omitFalse req.extendedKeyUsageCritical),
  ("extended_key_usage", omitEmptySlice req.extendedKeyUsage),
  ("subject_key_identifier", omitFalse req.subjectKeyIdentifier),
  ("authority_key_identifier", omitFalse req.authorityKeyIdentifier)]

/-- The request file of `Runner.Issue`; `none` when the encoder fails. -/
def issueRequestFile (req : IssueRequest) : Option Text := do
  let notBefore ← marshalTime req.notBefore
  let notAfter ← marshalTime req.notAfter
  return encode (issueFields req notBefore notAfter)

def coreTime (value : Time) : Text := value.utc.rfc3339

/-- The fields of `crlFileRequest`. -/
def crlFields (req : GenerateCRLRequest) : List (Text × Option FieldValue) := [
  ("issuer_certificate_pem", some (.string req.issuerCertificatePEM)),
  ("issuer_key_ref", some (.string req.issuerKeyRef)),
  ("crl_number", some (.int req.crlNumber)),
  ("this_update", some (.string (coreTime req.thisUpdate))),
  ("next_update", some (.string (coreTime req.nextUpdate))),
  ("revoked_serial_numbers",
    some (.strings (some (req.revokedCertificates.map (·.serialNumber))))),
  ("revoked_at_times",
    some (.strings (some (req.revokedCertificates.map fun revoked => coreTime revoked.revokedAt)))),
  ("revocation_reasons", some (.strings (some (req.revokedCertificates.map (·.reason)))))]

/-- The request file of `Runner.GenerateCRL`. -/
def crlRequestFile (req : GenerateCRLRequest) : Text := encode (crlFields req)

/-- The fields of `ocspResponseFileRequest`. -/
def ocspFields (req : GenerateOCSPResponseRequest) : List (Text × Option FieldValue) := [
  ("issuer_certificate_pem", some (.string req.issuerCertificatePEM)),
  ("issuer_key_ref", some (.string req.issuerKeyRef)),
  ("this_update", some (.string (coreTime req.thisUpdate))),
  ("next_update", some (.string (coreTime req.nextUpdate))),
  ("serial_numbers", some (.strings (some (req.certificates.map (·.serialNumber))))),
  ("hash_algorithms", some (.strings (some (req.certificates.map (·.hashAlgorithm))))),
  ("issuer_name_hashes", some (.strings (some (req.certificates.map (·.issuerNameHash))))),
  ("issuer_key_hashes", some (.strings (some (req.certificates.map (·.issuerKeyHash))))),
  ("statuses", some (.strings (some (req.certificates.map (·.status))))),
  ("revoked_at_times",
    some (.strings (some (req.certificates.map fun certificate =>
      coreTime certificate.revokedAt)))),
  ("revocation_reasons",
    some (.strings (some (req.certificates.map (·.revocationReason)))))]

/-- The request file of `Runner.GenerateOCSPResponse`; the request DER is a file of its own. -/
def ocspResponseRequestFile (req : GenerateOCSPResponseRequest) : Text := encode (ocspFields req)

/-- The same request as the core holds it, with times in their wire text. -/
def IssueRequest.core (req : IssueRequest) : Core.IssueRequest where
  csrPem := req.csrPEM
  issuerCertificatePem := req.issuerCertificatePEM
  issuerKeyRef := req.issuerKeyRef
  aiaUrl := req.aiaURL
  crlDistributionPoints := req.crlDistributionPoints.getD []
  subject := req.subject
  dnsNames := req.dnsNames.getD []
  ipAddresses := req.ipAddresses.getD []
  notBefore := req.notBefore.rfc3339Nano
  notAfter := req.notAfter.rfc3339Nano
  signatureAlgorithm := req.signatureAlgorithm
  profileId := req.profileID
  basicConstraintsCritical := req.basicConstraintsCritical
  basicConstraintsCa := req.basicConstraintsCA
  basicConstraintsMaxPathLen := (req.basicConstraintsMaxPathLen.map Int64.toInt).getD (-1)
  keyUsageCritical := req.keyUsageCritical
  keyUsage := req.keyUsage.getD []
  extendedKeyUsageCritical := req.extendedKeyUsageCritical
  extendedKeyUsage := req.extendedKeyUsage.getD []
  subjectKeyIdentifier := req.subjectKeyIdentifier
  authorityKeyIdentifier := req.authorityKeyIdentifier

/-- The strings of an issue request. -/
def IssueRequest.strings (req : IssueRequest) : List Text :=
  [req.csrPEM, req.issuerCertificatePEM, req.issuerKeyRef, req.aiaURL, req.subject,
    req.signatureAlgorithm, req.profileID] ++ req.crlDistributionPoints.getD [] ++
    req.dnsNames.getD [] ++ req.ipAddresses.getD [] ++ req.keyUsage.getD [] ++
    req.extendedKeyUsage.getD []

/-- The text is a strict one of the instant, in a zone of whole minutes. -/
def Tells (text : Text) (instant : Time) : Prop :=
  ∃ told : Time, told.nanos = instant.nanos ∧ told.offset % 60 = 0 ∧ HasStrictText told ∧
    text = told.rfc3339Nano

/-- What the core read is the request, with texts that tell its times. -/
structure IssueRequest.ReadAs (req : IssueRequest) (read : Core.IssueRequest) : Prop where
  fields : read = { req.core with notBefore := read.notBefore, notAfter := read.notAfter }
  notBefore : Tells read.notBefore req.notBefore
  notAfter : Tells read.notAfter req.notAfter

/-- The requests the core reads back: every string is readable, the times have a strict text and no
seconds in their zones, and the path length fits an `int`. -/
structure IssueRequest.Transferable (req : IssueRequest) : Prop where
  strings : ∀ text ∈ req.strings, CoreReadable text
  notBefore : HasStrictText req.notBefore ∧ req.notBefore.offset % 60 = 0
  notAfter : HasStrictText req.notAfter ∧ req.notAfter.offset % 60 = 0
  maxPathLen : ∀ n ∈ req.basicConstraintsMaxPathLen,
    -2147483648 ≤ n.toInt ∧ n.toInt ≤ 2147483647

/-- The same request as the core holds it. -/
def GenerateCRLRequest.core (req : GenerateCRLRequest) : Core.GenerateCRLRequest where
  issuerCertificatePem := req.issuerCertificatePEM
  issuerKeyRef := req.issuerKeyRef
  crlNumber := req.crlNumber.toInt
  thisUpdate := coreTime req.thisUpdate
  nextUpdate := coreTime req.nextUpdate
  revokedCertificates := req.revokedCertificates.map fun revoked =>
    ⟨revoked.serialNumber, coreTime revoked.revokedAt, revoked.reason⟩

def GenerateCRLRequest.strings (req : GenerateCRLRequest) : List Text :=
  [req.issuerCertificatePEM, req.issuerKeyRef] ++
    req.revokedCertificates.map (·.serialNumber) ++ req.revokedCertificates.map (·.reason)

def GenerateCRLRequest.times (req : GenerateCRLRequest) : List Time :=
  [req.thisUpdate, req.nextUpdate] ++ req.revokedCertificates.map (·.revokedAt)

/-- What the core read is the request, with texts that tell its times. -/
@[mk_iff] structure GenerateCRLRequest.ReadAs (req : GenerateCRLRequest)
    (read : Core.GenerateCRLRequest) : Prop where
  issuerCertificatePem : read.issuerCertificatePem = req.issuerCertificatePEM
  issuerKeyRef : read.issuerKeyRef = req.issuerKeyRef
  crlNumber : read.crlNumber = req.crlNumber.toInt
  thisUpdate : Tells read.thisUpdate req.thisUpdate
  nextUpdate : Tells read.nextUpdate req.nextUpdate
  revokedCertificates : Forall₂ (fun revoked entry => entry.serialNumber = revoked.serialNumber ∧
    Tells entry.revokedAt revoked.revokedAt ∧ entry.reason = revoked.reason)
      req.revokedCertificates read.revokedCertificates

/-- The strings and times that a CRL or OCSP request file carries over: readable strings, and whole
seconds of years with four digits. -/
structure Carried (strings : List Text) (times : List Time) : Prop where
  readable : ∀ text ∈ strings, CoreReadable text
  whole : ∀ time ∈ times, time.nanos % 1000000000 = 0 ∧ HasStrictText time.utc

/-- The same request as the core holds it. -/
def GenerateOCSPResponseRequest.core (req : GenerateOCSPResponseRequest) :
    Core.GenerateOCSPResponseRequest where
  requestDer := req.requestDER
  issuerCertificatePem := req.issuerCertificatePEM
  issuerKeyRef := req.issuerKeyRef
  thisUpdate := coreTime req.thisUpdate
  nextUpdate := coreTime req.nextUpdate
  certificates := req.certificates.map fun certificate => {
    serialNumber := certificate.serialNumber
    status := certificate.status
    revokedAt := coreTime certificate.revokedAt
    revocationReason := certificate.revocationReason
    hashAlgorithm := certificate.hashAlgorithm
    issuerNameHash := certificate.issuerNameHash
    issuerKeyHash := certificate.issuerKeyHash }

def GenerateOCSPResponseRequest.strings (req : GenerateOCSPResponseRequest) : List Text :=
  [req.issuerCertificatePEM, req.issuerKeyRef] ++ req.certificates.map (·.serialNumber) ++
    req.certificates.map (·.status) ++ req.certificates.map (·.revocationReason) ++
    req.certificates.map (·.hashAlgorithm) ++ req.certificates.map (·.issuerNameHash) ++
    req.certificates.map (·.issuerKeyHash)

def GenerateOCSPResponseRequest.times (req : GenerateOCSPResponseRequest) : List Time :=
  [req.thisUpdate, req.nextUpdate] ++ req.certificates.map (·.revokedAt)

/-- What the core read is the request, with texts that tell its times. -/
@[mk_iff] structure GenerateOCSPResponseRequest.ReadAs (req : GenerateOCSPResponseRequest)
    (read : Core.GenerateOCSPResponseRequest) : Prop where
  requestDer : read.requestDer = req.requestDER
  issuerCertificatePem : read.issuerCertificatePem = req.issuerCertificatePEM
  issuerKeyRef : read.issuerKeyRef = req.issuerKeyRef
  thisUpdate : Tells read.thisUpdate req.thisUpdate
  nextUpdate : Tells read.nextUpdate req.nextUpdate
  certificates : Forall₂ (fun certificate entry =>
    entry.serialNumber = certificate.serialNumber ∧ entry.status = certificate.status ∧
    Tells entry.revokedAt certificate.revokedAt ∧
    entry.revocationReason = certificate.revocationReason ∧
    entry.hashAlgorithm = certificate.hashAlgorithm ∧
    entry.issuerNameHash = certificate.issuerNameHash ∧
    entry.issuerKeyHash = certificate.issuerKeyHash) req.certificates read.certificates

/-- The text of a time in its own zone tells the instant unless the zone has seconds. -/
theorem tells_rfc3339Nano_iff {t : Time} (strict : HasStrictText t) :
    Tells t.rfc3339Nano t ↔ t.offset % 60 = 0 := by
  constructor
  · rintro ⟨told, instant, zone, -, same⟩
    obtain ⟨clocks, -⟩ := Time.rfc3339Nano_injective same
    simp only [Time.localNanos] at clocks
    omega
  · intro zone
    exact ⟨t, rfl, zone, strict, rfl⟩

/-- The text that the runner writes tells the second. -/
theorem coreTime_eq (t : Time) :
    coreTime t = Time.rfc3339Nano ⟨t.nanos - t.nanos % 1000000000, 0⟩ := by
  have days : t.utc.localDays = Time.localDays ⟨t.nanos - t.nanos % 1000000000, 0⟩ := by
    simp only [Time.localDays, Time.localNanos, Time.utc]
    omega
  have second : t.utc.secondOfDay = Time.secondOfDay ⟨t.nanos - t.nanos % 1000000000, 0⟩ := by
    simp only [Time.secondOfDay, Time.localNanos, Time.utc]
    omega
  have fraction : Time.nanoOfSecond ⟨t.nanos - t.nanos % 1000000000, 0⟩ = 0 := by
    simp only [Time.nanoOfSecond, Time.localNanos]
    omega
  rw [coreTime, Time.rfc3339, Time.rfc3339Nano, days, second, fraction]
  rfl

theorem tells_coreTime_iff {t : Time} :
    Tells (coreTime t) t ↔ t.nanos % 1000000000 = 0 ∧ HasStrictText t.utc := by
  rw [coreTime_eq]
  constructor
  · rintro ⟨told, instant, -, strict, same⟩
    obtain ⟨clocks, zones⟩ := Time.rfc3339Nano_injective same
    have utc : told.offset = 0 := by
      by_contra other
      rw [Time.zoneText, if_pos rfl, Time.zoneText, if_neg other] at zones
      have sign := (cons.inj zones).1
      split at sign <;> cases sign
    have here : told = t.utc := by
      obtain ⟨nanos, offset⟩ := told
      cases instant
      cases utc
      rfl
    rw [here] at strict
    simp only [Time.localNanos, utc] at clocks
    exact ⟨by omega, strict⟩
  · rintro ⟨seconds, strict⟩
    exact ⟨t.utc, rfl, rfl, strict, by rw [seconds, Int.sub_zero]; rfl⟩

private theorem timeMark_readable {c} (mark : c ∈ ['-', 'T', ':', '.', 'Z', '+'] ∨ c.isDigit) :
    coreReadable c := by
  rcases mark with mark | digit
  · simp only [mem_cons, not_mem_nil, or_false] at mark
    rcases mark with rfl | rfl | rfl | rfl | rfl | rfl <;> rfl
  · simp [coreReadable, Json.hexEscaped_of_isDigit digit]

private theorem rfc3339Nano_readable (t : Time) : CoreReadable t.rfc3339Nano :=
  fun _ member => timeMark_readable (Time.mem_rfc3339Nano member)

private theorem coreTime_readable (t : Time) : CoreReadable (coreTime t) :=
  fun _ member => timeMark_readable (Time.mem_rfc3339 member)

/-- A field is left out or its value is readable. -/
private def FieldReadable (field : Option FieldValue) : Prop := ∀ value ∈ field, value.Readable

private theorem present_readable_iff {fields} :
    (∀ member ∈ present fields, member.2.Readable) ↔ ∀ field ∈ fields, FieldReadable field.2 := by
  constructor
  · intro all field inside value found
    exact all (field.1, value) (mem_filterMap.mpr ⟨field, inside, by
      rw [Option.mem_def.mp found]
      rfl⟩)
  · intro all member inside
    obtain ⟨field, within, shape⟩ := mem_filterMap.mp inside
    obtain ⟨value, found, rfl⟩ := Option.map_eq_some_iff.mp shape
    exact all field within value found

private theorem readable_string_iff {text} :
    FieldReadable (some (.string text)) ↔ CoreReadable text := by
  simp [FieldReadable, FieldValue.Readable]

private theorem readable_strings_iff {values} :
    FieldReadable (some (.strings values)) ↔ ∀ text ∈ values.getD [], CoreReadable text := by
  cases values <;> simp [FieldReadable, FieldValue.Readable]

private theorem readable_omitEmpty_iff {text} :
    FieldReadable (omitEmpty text) ↔ CoreReadable text := by
  by_cases empty : text = []
  · simp [FieldReadable, omitEmpty, empty]
  · simp [FieldReadable, omitEmpty, empty, FieldValue.Readable]

private theorem readable_omitEmptySlice_iff {values} :
    FieldReadable (omitEmptySlice values) ↔ ∀ text ∈ values.getD [], CoreReadable text := by
  by_cases empty : values.getD [] = []
  · simp [FieldReadable, omitEmptySlice, empty]
  · rw [omitEmptySlice, if_neg empty, readable_strings_iff]

private theorem readable_omitFalse {value} : FieldReadable (omitFalse value) := by
  cases value <;> simp [FieldReadable, omitFalse, FieldValue.Readable]

private theorem readable_int {value} : FieldReadable (some (.int value)) := by
  simp [FieldReadable, FieldValue.Readable]

private theorem readable_optionalInt {value : Option Int64} :
    FieldReadable (value.map FieldValue.int) := by
  cases value with
  | none => simp [FieldReadable]
  | some value => exact readable_int

private theorem issueFields_readable_iff {req : IssueRequest} :
    (∀ member ∈ present (issueFields req (.string req.notBefore.rfc3339Nano)
      (.string req.notAfter.rfc3339Nano)), member.2.Readable) ↔
      ∀ text ∈ req.strings, CoreReadable text := by
  rw [present_readable_iff]
  simp only [issueFields, IssueRequest.strings, forall_mem_cons, forall_mem_append,
    readable_string_iff, readable_strings_iff, readable_omitEmpty_iff,
    readable_omitEmptySlice_iff, readable_omitFalse, readable_optionalInt,
    rfc3339Nano_readable]
  simp only [not_mem_nil, false_implies, implies_true, and_true, true_and]
  tauto

private theorem keys_of_map {fields : List (Text × Option FieldValue)}
    (keys : (fields.map Prod.fst).Nodup ∧ ∀ key ∈ fields.map Prod.fst, CoreReadable key) :
    (fields.map Prod.fst).Nodup ∧ ∀ field ∈ fields, CoreReadable field.1 :=
  ⟨keys.1, fun field inside => keys.2 field.1 (mem_map_of_mem inside)⟩

/-- The keys of an issue request. -/
private theorem issueKeys (req : IssueRequest) (notBefore notAfter : FieldValue) :
    ((issueFields req notBefore notAfter).map Prod.fst).Nodup ∧
      ∀ field ∈ issueFields req notBefore notAfter, CoreReadable field.1 := by
  refine keys_of_map ?_
  simp only [issueFields, map_cons, map_nil]
  decide +kernel

private theorem read_field {α β : Type} {field} {value : α} {rest}
    {result : Option β} (found : field = some value) (tail : rest value = result) :
    (field >>= rest) = result := by
  rw [found]
  exact tail

/-- Reading a file of fields: it is refused unless every field is readable. -/
private theorem read_fields {β : Type} {fields : List (Text × Option FieldValue)} {rest}
    {result : Option β} (keys : ∀ field ∈ fields, CoreReadable field.1) {strings : Prop}
    [Decidable strings] (readable : (∀ member ∈ present fields, member.2.Readable) ↔ strings)
    (tail : rest (enterMembers ∅ (present fields)) = result) :
    (Core.JsonParser.parseObject (encode fields) >>= rest) = if strings then result else none := by
  rw [parseObject_encode keys]
  by_cases all : strings
  · rw [if_pos (readable.mpr all), if_pos all]
    exact tail
  · rw [if_neg (mt readable.mp all), if_neg all]
    rfl

section Fields

variable {β : Type} {fields : List (Text × Option FieldValue)} (index : Nat) {key : Text}
  (distinct : (fields.map Prod.fst).Nodup) {result : Option β}

include distinct

-- The getters at the position of the field in the struct.

private theorem text_at {value : Text} (found : fields[index]? = some (key, some (.string value)))
    {rest : Text → Option β} (tail : rest value = result) :
    (Core.getStringField (enterMembers ∅ (present fields)) key >>= rest) = result :=
  read_field (getStringField_written distinct (mem_of_getElem? found)) tail

private theorem texts_at {values : Option (List Text)}
    (found : fields[index]? = some (key, some (.strings values))) {rest : List Text → Option β}
    (tail : rest (values.getD []) = result) :
    (Core.getStringArrayField (enterMembers ∅ (present fields)) key >>= rest) = result :=
  read_field (getStringArrayField_written distinct (mem_of_getElem? found)) tail

private theorem optional_at {value : Text} (found : fields[index]? = some (key, omitEmpty value))
    {rest : Text → Option β} (tail : rest value = result) :
    (Core.getStringField (enterMembers ∅ (present fields)) key >>= rest) = result :=
  read_field (getStringField_omitEmpty distinct (mem_of_getElem? found)) tail

private theorem optionals_at {values : Option (List Text)}
    (found : fields[index]? = some (key, omitEmptySlice values)) {rest : List Text → Option β}
    (tail : rest (values.getD []) = result) :
    (Core.getStringArrayField (enterMembers ∅ (present fields)) key >>= rest) = result :=
  read_field (getStringArrayField_omitEmptySlice distinct (mem_of_getElem? found)) tail

private theorem flag_at {value : Bool} (found : fields[index]? = some (key, omitFalse value))
    {rest : Bool → Option β} (tail : rest value = result) :
    (Core.getBoolField (enterMembers ∅ (present fields)) key >>= rest) = result :=
  read_field (getBoolField_omitFalse distinct (mem_of_getElem? found)) tail

end Fields

/-- What the core makes of an issue request file. -/
private theorem issueRequestFromJson_encode (req : IssueRequest) :
    Core.issueRequestFromJson (encode (issueFields req (.string req.notBefore.rfc3339Nano)
      (.string req.notAfter.rfc3339Nano))) =
      if (∀ text ∈ req.strings, CoreReadable text) ∧
          ∀ n ∈ req.basicConstraintsMaxPathLen, -2147483648 ≤ n.toInt ∧ n.toInt ≤ 2147483647
      then some req.core else none := by
  obtain ⟨distinct, keys⟩ := issueKeys req (.string req.notBefore.rfc3339Nano)
    (.string req.notAfter.rfc3339Nano)
  have pathLen := @getIntField_written _ distinct "basic_constraints_max_path_len"
    req.basicConstraintsMaxPathLen (-1) (mem_of_getElem? (i := 14) rfl)
  rw [ite_and]
  refine read_fields keys issueFields_readable_iff ?_
  refine text_at 0 distinct rfl ?_
  refine text_at 1 distinct rfl ?_
  refine text_at 2 distinct rfl ?_
  refine optional_at 3 distinct rfl ?_
  refine optionals_at 4 distinct rfl ?_
  refine text_at 5 distinct rfl ?_
  refine texts_at 6 distinct rfl ?_
  refine texts_at 7 distinct rfl ?_
  refine text_at 8 distinct rfl ?_
  refine text_at 9 distinct rfl ?_
  refine text_at 10 distinct rfl ?_
  refine optional_at 11 distinct rfl ?_
  refine flag_at 12 distinct rfl ?_
  refine flag_at 13 distinct rfl ?_
  by_cases fits : ∀ n ∈ req.basicConstraintsMaxPathLen, -2147483648 ≤ n.toInt ∧ n.toInt ≤ 2147483647
  swap
  · rw [if_neg fits] at pathLen
    rw [if_neg fits, pathLen]
    rfl
  rw [if_pos fits] at pathLen
  rw [if_pos fits]
  refine read_field pathLen ?_
  refine flag_at 15 distinct rfl ?_
  refine optionals_at 16 distinct rfl ?_
  refine flag_at 17 distinct rfl ?_
  refine optionals_at 18 distinct rfl ?_
  refine flag_at 19 distinct rfl ?_
  refine flag_at 20 distinct rfl ?_
  rfl

private theorem map_range_length {α β : Type} (items : List α) (g : Nat → β) (f : α → β)
    (agree : ∀ (index : Nat) (h : index < items.length), g index = f items[index]) :
    (List.range items.length).map g = items.map f := by
  refine ext_getElem (by simp) ?_
  intro index _ inside
  simpa using agree index (by simpa using inside)

/-- An entry of one of the parallel arrays. -/
private theorem getD_map_of_lt {α : Type} (items : List α) (f : α → Text) {index : Nat}
    (inside : index < items.length) : (items.map f).getD index [] = f items[index] := by
  rw [getD_eq_getElem _ _ (by simpa using inside), getElem_map]

private theorem crlFields_readable_iff {req} :
    (∀ member ∈ present (crlFields req), member.2.Readable) ↔
      ∀ text ∈ req.strings, CoreReadable text := by
  rw [present_readable_iff]
  simp only [crlFields, GenerateCRLRequest.strings, forall_mem_cons, forall_mem_append,
    forall_mem_map, readable_string_iff, readable_strings_iff, Option.getD_some,
    coreTime_readable, readable_int]
  simp only [not_mem_nil, false_implies, implies_true, and_true, true_and, and_assoc]

private theorem crlKeys (req : GenerateCRLRequest) :
    ((crlFields req).map Prod.fst).Nodup ∧ ∀ field ∈ crlFields req, CoreReadable field.1 := by
  refine keys_of_map ?_
  simp only [crlFields, map_cons, map_nil]
  decide +kernel

/-- What the core makes of a CRL request file. -/
theorem crlRequestFromJson_encode (req : GenerateCRLRequest) :
    Core.crlRequestFromJson (crlRequestFile req) =
      if ∀ text ∈ req.strings, CoreReadable text then some req.core else none := by
  obtain ⟨distinct, keys⟩ := crlKeys req
  refine read_fields keys crlFields_readable_iff ?_
  refine text_at 0 distinct rfl ?_
  refine text_at 1 distinct rfl ?_
  refine read_field (getInt64Field_written distinct (mem_of_getElem? (i := 2) rfl)) ?_
  refine text_at 3 distinct rfl ?_
  refine text_at 4 distinct rfl ?_
  refine texts_at 5 distinct rfl ?_
  refine texts_at 6 distinct rfl ?_
  refine texts_at 7 distinct rfl ?_
  have joined : (List.range req.revokedCertificates.length).map
      (Core.revokedCertificate (req.revokedCertificates.map (·.serialNumber))
        (req.revokedCertificates.map fun revoked => coreTime revoked.revokedAt)
        (req.revokedCertificates.map (·.reason))) = req.core.revokedCertificates := by
    apply map_range_length
    intro index inside
    simp only [Core.revokedCertificate, getD_map_of_lt _ _ inside]
  simp only [Option.getD_some, length_map, ne_eq, not_true_eq_false, or_self, if_false, joined]
  rfl

private theorem ocspFields_readable_iff {req} :
    (∀ member ∈ present (ocspFields req), member.2.Readable) ↔
      ∀ text ∈ req.strings, CoreReadable text := by
  rw [present_readable_iff]
  simp only [ocspFields, GenerateOCSPResponseRequest.strings, forall_mem_cons,
    forall_mem_append, forall_mem_map, readable_string_iff, readable_strings_iff,
    Option.getD_some, coreTime_readable]
  simp only [not_mem_nil, false_implies, implies_true, and_true, true_and]
  tauto

private theorem ocspKeys (req : GenerateOCSPResponseRequest) :
    ((ocspFields req).map Prod.fst).Nodup ∧ ∀ field ∈ ocspFields req, CoreReadable field.1 := by
  refine keys_of_map ?_
  simp only [ocspFields, map_cons, map_nil]
  decide +kernel

/-- What the core makes of an OCSP request file. -/
private theorem ocspResponseRequestFromJson_encode (req : GenerateOCSPResponseRequest) :
    Core.ocspResponseRequestFromJson (ocspResponseRequestFile req) req.requestDER =
      if ∀ text ∈ req.strings, CoreReadable text then some req.core else none := by
  obtain ⟨distinct, keys⟩ := ocspKeys req
  refine read_fields keys ocspFields_readable_iff ?_
  refine text_at 0 distinct rfl ?_
  refine text_at 1 distinct rfl ?_
  refine text_at 2 distinct rfl ?_
  refine text_at 3 distinct rfl ?_
  refine texts_at 4 distinct rfl ?_
  refine texts_at 8 distinct rfl ?_
  refine texts_at 5 distinct rfl ?_
  refine texts_at 6 distinct rfl ?_
  refine texts_at 7 distinct rfl ?_
  refine texts_at 9 distinct rfl ?_
  refine texts_at 10 distinct rfl ?_
  have joined : (List.range req.certificates.length).map
      (Core.ocspCertificateStatus (req.certificates.map (·.serialNumber))
        (req.certificates.map (·.status))
        (req.certificates.map fun certificate => coreTime certificate.revokedAt)
        (req.certificates.map (·.revocationReason)) (req.certificates.map (·.hashAlgorithm))
        (req.certificates.map (·.issuerNameHash)) (req.certificates.map (·.issuerKeyHash))) =
      req.core.certificates := by
    apply map_range_length
    intro index inside
    simp only [Core.ocspCertificateStatus, getD_map_of_lt _ _ inside]
  simp only [Option.getD_some, length_map, ne_eq, not_true_eq_false, or_self, and_false,
    if_false, joined]
  rfl

/-- A request that is read back if its strings are readable. -/
private theorem carried_iff {β : Type} {core : β} {ReadAs : β → Prop} {strings times}
    (as : ReadAs core ↔ ∀ time ∈ times, Tells (coreTime time) time) :
    (∃ read, (if ∀ text ∈ strings, CoreReadable text then some core else none) = some read ∧
      ReadAs read) ↔ Carried strings times := by
  simp only [tells_coreTime_iff] at as
  constructor
  · rintro ⟨read, found, readAs⟩
    obtain ⟨readable, same⟩ := Option.ite_none_right_eq_some.mp found
    cases same
    exact ⟨readable, as.mp readAs⟩
  · rintro ⟨readable, whole⟩
    exact ⟨core, if_pos readable, as.mpr whole⟩

/-- The core reads back an issue request exactly when it is transferable, and a CRL or OCSP request
exactly when its strings and times are carried over. -/
theorem requestFile_roundTrip_iff (req : IssueRequest) (crl : GenerateCRLRequest)
    (ocsp : GenerateOCSPResponseRequest) :
    ((∃ read, (issueRequestFile req).bind Core.issueRequestFromJson = some read ∧ req.ReadAs read) ↔
      req.Transferable) ∧
    ((∃ read, Core.crlRequestFromJson (crlRequestFile crl) = some read ∧ crl.ReadAs read) ↔
      Carried crl.strings crl.times) ∧
    ((∃ read, Core.ocspResponseRequestFromJson (ocspResponseRequestFile ocsp) ocsp.requestDER =
        some read ∧ ocsp.ReadAs read) ↔ Carried ocsp.strings ocsp.times) := by
  refine ⟨?_, ?_, ?_⟩
  rotate_left
  · rw [crlRequestFromJson_encode]
    refine carried_iff ?_
    simp [GenerateCRLRequest.readAs_iff, GenerateCRLRequest.core, GenerateCRLRequest.times]
  · rw [ocspResponseRequestFromJson_encode]
    refine carried_iff ?_
    simp [GenerateOCSPResponseRequest.readAs_iff, GenerateOCSPResponseRequest.core,
      GenerateOCSPResponseRequest.times]
  by_cases strict : HasStrictText req.notBefore ∧ HasStrictText req.notAfter
  swap
  · have fails : issueRequestFile req = none := by
      by_cases before : HasStrictText req.notBefore
      · have after : ¬ HasStrictText req.notAfter := fun after => strict ⟨before, after⟩
        simp [issueRequestFile, marshalTime, before, after]
      · simp [issueRequestFile, marshalTime, before]
    rw [fails]
    exact ⟨nofun, fun good => absurd ⟨good.notBefore.1, good.notAfter.1⟩ strict⟩
  have written : issueRequestFile req = some (encode (issueFields req
      (.string req.notBefore.rfc3339Nano) (.string req.notAfter.rfc3339Nano))) := by
    simp [issueRequestFile, marshalTime, strict.1, strict.2]
  rw [written, Option.bind_some, issueRequestFromJson_encode]
  constructor
  · rintro ⟨read, found, as⟩
    obtain ⟨⟨strings, fits⟩, same⟩ := Option.ite_none_right_eq_some.mp found
    cases same
    exact ⟨strings, ⟨strict.1, (tells_rfc3339Nano_iff strict.1).mp as.notBefore⟩,
      ⟨strict.2, (tells_rfc3339Nano_iff strict.2).mp as.notAfter⟩, fits⟩
  · intro good
    exact ⟨_, if_pos ⟨good.strings, good.maxPathLen⟩, rfl,
      (tells_rfc3339Nano_iff strict.1).mpr good.notBefore.2,
      (tells_rfc3339Nano_iff strict.2).mpr good.notAfter.2⟩

/-- A request for the subject `CN=a&b`. -/
def ampersandRequest : IssueRequest where
  csrPEM := "csr"
  issuerCertificatePEM := "issuer"
  issuerKeyRef := "key"
  aiaURL := []
  crlDistributionPoints := none
  subject := "CN=a&b"
  dnsNames := some ["a.example.com"]
  ipAddresses := none
  notBefore := Time.zero
  notAfter := Time.zero
  signatureAlgorithm := "ecdsa-with-SHA256"
  profileID := []
  basicConstraintsCritical := false
  basicConstraintsCA := false
  basicConstraintsMaxPathLen := none
  keyUsageCritical := false
  keyUsage := none
  extendedKeyUsageCritical := false
  extendedKeyUsage := none
  subjectKeyIdentifier := false
  authorityKeyIdentifier := false

/-- The encoder writes the ampersand as an escape that the core refuses. -/
theorem ampersandRequest_refused : ((issueRequestFile ampersandRequest).isSome ∧
      (issueRequestFile ampersandRequest).bind Core.issueRequestFromJson = none) := by
  decide +kernel

/-- The core reads the integer that a sign and a run of digits denote when it is one of 64 bits and
throws otherwise; no operation overflows, and the number of a CRL arrives as it was written. -/
theorem parseValue_integer {text digits rest : Text} (negative : Bool)
    (number : skipWs text = signText negative ++ (digits ++ rest)) (filled : digits ≠ [])
    (allDigits : ∀ c ∈ digits, c.isDigit) (maximal : ∀ c ∈ rest.head?, ¬ c.isDigit) :
    (parseValue text = if FitsInt64 (denoted negative digits) then
        some (.number (denoted negative digits), rest) else none) ∧
    NoOverflow negative (digits ++ rest) ∧
    ∀ crl : GenerateCRLRequest, (Core.crlRequestFromJson (crlRequestFile crl)).map (·.crlNumber) =
      if ∀ text ∈ crl.strings, CoreReadable text then some crl.crlNumber.toInt else none := by
  refine ⟨?_, noOverflow negative (digits ++ rest), ?_⟩
  · obtain ⟨c, tail, shape, start⟩ : ∃ c tail, signText negative ++ (digits ++ rest) = c :: tail ∧
        (c = '-' ∨ c.isDigit) := by
      cases negative with
      | true => exact ⟨_, _, rfl, .inl rfl⟩
      | false =>
        obtain ⟨c, tail, rfl⟩ := exists_cons_of_ne_nil filled
        exact ⟨_, _, rfl, .inr (allDigits c mem_cons_self)⟩
    rw [← parseValue_skipWs, number, shape, parseValue_number start, ← shape,
      parseInteger_run negative filled allDigits maximal]
    split <;> rfl
  · intro crl
    rw [crlRequestFromJson_encode]
    split <;> rfl

/-- A negative number. -/
theorem negative_integer_read : parseValue " -42," = some (.number (-42), [',']) := by
  obtain ⟨read, -⟩ :=
    @parseValue_integer " -42," ['4', '2'] [','] true (by decide) (by decide) (by simp) (by simp)
  exact read

end AnoPki.Corecli
