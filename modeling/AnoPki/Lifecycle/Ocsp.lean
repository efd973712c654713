import AnoPki.Lifecycle.Deployment
import AnoPki.Core.Ocsp

/-! # The statuses of OCSP responses

The service looks up the issuer of each certificate ID by the hashes of its name and key, and the
certificate by issuer and serial number. The issuers that the hashes belong to are found by asking
the core for the hashes of every active issuer; what the store's lists return is given. -/
namespace AnoPki.Lifecycle

open Foundation Domain Store List Table Text

variable {algorithm : Text} {issuer : Issuer} {hashAlgorithm : Text}
  {algorithm' : Core.HashAlgorithm} {made : Text × Issuer} {item : Issuer × Text}
  {algorithms : List Text} {ids : List Corecli.OCSPCertificateID} {table : Table Issuer}
  {certificate : Certificate}

/-- `mapOCSPDecodeError`. -/
def mapOCSPDecodeError (err : CoreError) : Err := { kind := .ocspDecodeFailed, detail := err.text }

def normalizeOCSPHashAlgorithm (lower : Char → Char) (hashAlgorithm : Text) : Text :=
  let normalized := toLower lower
    ((hashAlgorithm.filter fun c => c ≠ '-').filter fun c => c ≠ '_')
  if normalized = [] then "sha1" else normalized

/-- The algorithms seen so far and the one of an ID, each once. -/
def addHashAlgorithm (lower : Char → Char) (algorithms : List Text)
    (id : Corecli.OCSPCertificateID) : List Text :=
  let algorithm := normalizeOCSPHashAlgorithm lower id.hashAlgorithm
  if algorithms.contains algorithm then algorithms else algorithms ++ [algorithm]

def ocspHashAlgorithms (lower : Char → Char) (ids : List Corecli.OCSPCertificateID) : List Text :=
  let algorithms := ids.foldl (addHashAlgorithm lower) []
  if algorithms = [] then ["sha1".toList] else algorithms

def ocspIssuerHashKey (lower : Char → Char) (hashAlgorithm nameHash keyHash : Text) : Text :=
  normalizeOCSPHashAlgorithm lower hashAlgorithm ++ [Char.ofNat 0] ++ nameHash ++ [Char.ofNat 0] ++
    keyHash

def ocspIssuerSerialKey (issuerID serialNumber : Text) : Text :=
  issuerID ++ [Char.ofNat 0] ++ serialNumber

def ocspStatusForID (lower : Char → Char) (id : Corecli.OCSPCertificateID) (status : Text) :
    Corecli.OCSPCertificateStatus where
  serialNumber := id.serialNumber
  status := status
  revokedAt := Time.zero
  revocationReason := []
  hashAlgorithm := normalizeOCSPHashAlgorithm lower id.hashAlgorithm
  issuerNameHash := id.issuerNameHash
  issuerKeyHash := id.issuerKeyHash

def unknownOCSPStatus (lower : Char → Char) (id : Corecli.OCSPCertificateID) :
    Corecli.OCSPCertificateStatus :=
  ocspStatusForID lower id "unknown"

def revokedOCSPStatus (lower : Char → Char) (id : Corecli.OCSPCertificateID)
    (certificate : Certificate) (revocations : List RevokedCertificateEntry) :
    Corecli.OCSPCertificateStatus :=
  let status := ocspStatusForID lower id "revoked"
  match revocations.find? fun revocation =>
    decide (revocation.serialNumber = certificate.serialNumber) with
  | some revocation =>
    { status with revokedAt := revocation.revokedAt, revocationReason := revocation.reason.text }
  | none => status

/-- What the service reads: the lists of the store in the order they were returned, and the hashes
of the name and the key that the core finds in a certificate with a hash algorithm. -/
structure OcspReads where
  hashes : Text → Text → Except CoreError (List UInt8 × List UInt8)
  issuers : List Issuer
  certificates : List Certificate
  revocationsByIssuer : Text → List RevokedCertificateEntry

/-- `InspectOCSPIssuer`: the core writes the hashes in hexadecimal. -/
def OcspReads.inspectOCSPIssuer (reads : OcspReads) (issuerCertificatePEM hashAlgorithm : Text) :
    Except CoreError Corecli.OCSPIssuerInfo := do
  let hashes ← reads.hashes issuerCertificatePEM hashAlgorithm
  return {
    issuerNameHash := Core.octetsToHex hashes.1
    issuerKeyHash := Core.octetsToHex hashes.2
    hashAlgorithm }

/-- The active issuers, each with every algorithm. -/
def activeIssuers (issuers : List Issuer) (hashAlgorithms : List Text) : List (Issuer × Text) :=
  (issuers.filter fun issuer => issuer.status = .active).flatMap fun issuer =>
    hashAlgorithms.map fun hashAlgorithm => (issuer, hashAlgorithm)

/-- The entry of an issuer's hashes. -/
def issuerEntry (lower : Char → Char) (reads : OcspReads) (item : Issuer × Text) :
    Except Err (Text × Issuer) := do
  let info ← (reads.inspectOCSPIssuer item.1.certificatePEM item.2).mapError mapOCSPDecodeError
  return (ocspIssuerHashKey lower item.2 info.issuerNameHash info.issuerKeyHash, item.1)

/-- The error of the first of these items for which the core finds no hashes. -/
def OcspReads.failure (reads : OcspReads) (issuers : List Issuer) (hashAlgorithms : List Text) :
    Option Err :=
  (activeIssuers issuers hashAlgorithms).findSome? fun item =>
    match reads.hashes item.1.certificatePEM item.2 with
    | .error err => some (mapOCSPDecodeError err)
    | .ok _ => none

def ocspIssuersByHash (lower : Char → Char) (reads : OcspReads)
    (ids : List Corecli.OCSPCertificateID) : Except Err (Table Issuer) :=
  enter (issuerEntry lower reads) ∅
    (activeIssuers reads.issuers (ocspHashAlgorithms lower ids))

/-- The certificate in the map by issuer and serial number, where the first one under a key
stays. -/
def byIssuerSerial (certificates : List Certificate) (key : Text) : Option Certificate :=
  certificates.find? fun certificate =>
    decide (ocspIssuerSerialKey certificate.issuerID certificate.serialNumber = key)

/-- The status of an ID whose issuer was found. -/
def ocspStatusOf (lower : Char → Char) (reads : OcspReads) (issuer : Issuer)
    (id : Corecli.OCSPCertificateID) : Corecli.OCSPCertificateStatus :=
  match byIssuerSerial reads.certificates (ocspIssuerSerialKey issuer.id id.serialNumber) with
  | none => unknownOCSPStatus lower id
  | some certificate =>
    match certificate.status with
    | .valid => ocspStatusForID lower id "good"
    | .revoked => revokedOCSPStatus lower id certificate
        (reads.revocationsByIssuer certificate.issuerID)
    | _ => unknownOCSPStatus lower id

/-- The loop over the IDs, with the issuer that was found first. -/
def ocspStatuses (lower : Char → Char) (reads : OcspReads) (issuersByHash : Table Issuer)
    (issuerID : Text) : List Corecli.OCSPCertificateID →
    Except Err (List Corecli.OCSPCertificateStatus × Text)
  | [] => .ok ([], issuerID)
  | id :: ids =>
    match issuersByHash.lookup
        (ocspIssuerHashKey lower id.hashAlgorithm id.issuerNameHash id.issuerKeyHash) with
    | none => do
      let (statuses, issuerID) ← ocspStatuses lower reads issuersByHash issuerID ids
      return (unknownOCSPStatus lower id :: statuses, issuerID)
    | some issuer =>
      let issuerID := if issuerID = [] then issuer.id else issuerID
      if issuerID ≠ issuer.id then .error (ErrKind.err .invalidRequest)
      else do
        let (statuses, issuerID) ← ocspStatuses lower reads issuersByHash issuerID ids
        return (ocspStatusOf lower reads issuer id :: statuses, issuerID)

/-- The statuses of the IDs and the issuer they are about, which is empty when none was found. -/
def ocspCertificateStatuses (lower : Char → Char) (reads : OcspReads)
    (ids : List Corecli.OCSPCertificateID) :
    Except Err (List Corecli.OCSPCertificateStatus × Text) := do
  let issuersByHash ← ocspIssuersByHash lower reads ids
  ocspStatuses lower reads issuersByHash [] ids

/-- A certificate ID that the core could read. -/
structure RequestedID where
  hashAlgorithm : Core.HashAlgorithm
  issuerNameHash : List UInt8
  issuerKeyHash : List UInt8
  serial : Int
deriving DecidableEq, Repr

/-- The ID in the texts the core hands out. -/
def RequestedID.text (id : RequestedID) : Corecli.OCSPCertificateID where
  serialNumber := Core.serialToDecimal id.serial
  issuerNameHash := Core.octetsToHex id.issuerNameHash
  issuerKeyHash := Core.octetsToHex id.issuerKeyHash
  hashAlgorithm := id.hashAlgorithm.name

/-- The algorithms of a request. -/
abbrev requestAlgorithms (lower : Char → Char) (ids : List RequestedID) : List Text :=
  ocspHashAlgorithms lower (ids.map RequestedID.text)

/-- Where an ID looks for its issuer. -/
abbrev RequestedID.key (lower : Char → Char) (id : RequestedID) : Text :=
  ocspIssuerHashKey lower id.text.hashAlgorithm id.text.issuerNameHash id.text.issuerKeyHash

section Lookup

variable {lower : Char → Char} {reads : OcspReads}

@[simp] theorem normalizeHash_name (algorithm : Core.HashAlgorithm) :
    normalizeOCSPHashAlgorithm lower algorithm.name = algorithm.name := by
  cases algorithm <;>
    simp [normalizeOCSPHashAlgorithm, Core.HashAlgorithm.name, toLower]

theorem zero_notMem_name (algorithm : Core.HashAlgorithm) : Char.ofNat 0 ∉ algorithm.name := by
  cases algorithm <;> decide

theorem name_injective {algorithm} (same : algorithm.name = algorithm'.name) :
    algorithm = algorithm' := by
  cases algorithm <;> cases algorithm' <;> first | rfl | simp [Core.HashAlgorithm.name] at same

/-- The key of hashes in hexadecimal names the algorithm and both hashes. -/
theorem ocspIssuerHashKey_inj {algorithm name name' key key'}
    (same : ocspIssuerHashKey lower algorithm.name (Core.octetsToHex name) (Core.octetsToHex key) =
      ocspIssuerHashKey lower algorithm'.name (Core.octetsToHex name') (Core.octetsToHex key')) :
    algorithm = algorithm' ∧ name = name' ∧ key = key' := by
  simp only [ocspIssuerHashKey, normalizeHash_name, append_assoc,
    singleton_append] at same
  obtain ⟨algorithms, hashes⟩ :=
    split_unique (zero_notMem_name _) (zero_notMem_name _) same
  obtain ⟨names, keys⟩ :=
    split_unique (zero_notMem_hexEncode _) (zero_notMem_hexEncode _) hashes
  exact ⟨name_injective algorithms, hexEncode_injective names, hexEncode_injective keys⟩

/-- The entry of an issuer whose hashes the core finds. -/
theorem issuerEntry_eq {hashes}
    (found : reads.hashes issuer.certificatePEM hashAlgorithm = .ok hashes) :
    issuerEntry lower reads (issuer, hashAlgorithm) = .ok (ocspIssuerHashKey lower hashAlgorithm
      (Core.octetsToHex hashes.1) (Core.octetsToHex hashes.2), issuer) := by
  simp [issuerEntry, OcspReads.inspectOCSPIssuer, found, bind, Except.bind, Except.mapError, pure,
    Except.pure]

theorem issuerEntry_ok (entered : issuerEntry lower reads (issuer, hashAlgorithm) = .ok made) :
    ∃ hashes, reads.hashes issuer.certificatePEM hashAlgorithm = .ok hashes ∧
      made = (ocspIssuerHashKey lower hashAlgorithm (Core.octetsToHex hashes.1)
        (Core.octetsToHex hashes.2), issuer) := by
  cases found : reads.hashes issuer.certificatePEM hashAlgorithm with
  | error err =>
    simp [issuerEntry, OcspReads.inspectOCSPIssuer, found, bind, Except.bind, Except.mapError]
      at entered
  | ok hashes =>
    rw [issuerEntry_eq found] at entered
    exact ⟨hashes, rfl, (Except.ok.inj entered).symm⟩

theorem mem_activeIssuers_iff {issuers hashAlgorithms} :
      item ∈ activeIssuers issuers hashAlgorithms ↔ item.1 ∈ issuers ∧ item.1.status = .active ∧
      item.2 ∈ hashAlgorithms := by
  simp only [activeIssuers, mem_flatMap, mem_filter, decide_eq_true_eq, mem_map]
  constructor
  · rintro ⟨issuer, ⟨inside, active⟩, algorithm, member, rfl⟩
    exact ⟨inside, active, member⟩
  · rintro ⟨inside, active, member⟩
    exact ⟨item.1, ⟨inside, active⟩, item.2, member, rfl⟩

theorem mem_addHashAlgorithm_iff {id} : algorithm ∈ addHashAlgorithm lower algorithms id ↔
      algorithm ∈ algorithms ∨ normalizeOCSPHashAlgorithm lower id.hashAlgorithm = algorithm := by
  simp only [addHashAlgorithm]
  split
  · next there =>
    have inside : normalizeOCSPHashAlgorithm lower id.hashAlgorithm ∈ algorithms := by
      simpa using there
    constructor
    · exact .inl
    · rintro (old | rfl)
      · exact old
      · exact inside
  · rw [mem_append, mem_singleton, @eq_comm _ algorithm]

theorem mem_foldl_addHashAlgorithm_iff : algorithm ∈ ids.foldl (addHashAlgorithm lower) algorithms ↔
      algorithm ∈ algorithms ∨
        ∃ id ∈ ids, normalizeOCSPHashAlgorithm lower id.hashAlgorithm = algorithm := by
  induction ids generalizing algorithms with
  | nil => simp
  | cons id ids ih =>
    rw [foldl_cons, ih, mem_addHashAlgorithm_iff, exists_mem_cons_iff, or_assoc]

/-- The algorithms of a request are those of its IDs. -/
theorem mem_ocspHashAlgorithms_iff {ids} (filled : ids ≠ []) :
    algorithm ∈ requestAlgorithms lower ids ↔
      ∃ id ∈ ids, id.hashAlgorithm.name = algorithm := by
  have nonempty : (ids.map RequestedID.text).foldl (addHashAlgorithm lower) [] ≠ [] := by
    obtain ⟨id, rest, rfl⟩ := exists_cons_of_ne_nil filled
    exact ne_nil_of_mem (mem_foldl_addHashAlgorithm_iff.mpr (.inr ⟨id.text, by simp, rfl⟩))
  rw [requestAlgorithms, ocspHashAlgorithms, if_neg nonempty, mem_foldl_addHashAlgorithm_iff]
  simp [RequestedID.text]

theorem activeIssuers_append (front back : List Issuer) (hashAlgorithms : List Text) :
    activeIssuers (front ++ back) hashAlgorithms =
      activeIssuers front hashAlgorithms ++ activeIssuers back hashAlgorithms := by
  simp [activeIssuers]

section Failure

variable {issuers : List Issuer} {err : Err}

theorem enter_error_iff_failure : enter (issuerEntry lower reads) table
      (activeIssuers issuers algorithms) = .error err ↔
      reads.failure issuers algorithms = some err := by
  refine enter_error_iff fun item err => ?_
  obtain ⟨issuer, algorithm⟩ := item
  cases found : reads.hashes issuer.certificatePEM algorithm with
  | error other =>
    simp [issuerEntry, OcspReads.inspectOCSPIssuer, found, bind, Except.bind, Except.mapError]
  | ok hashes => simp [issuerEntry_eq found]

theorem failure_eq_none_iff : reads.failure issuers algorithms = none ↔
    ∀ issuer ∈ issuers, issuer.status = .active → ∀ algorithm ∈ algorithms,
      ∃ hashes, reads.hashes issuer.certificatePEM algorithm = .ok hashes := by
  have item : ∀ item : Issuer × Text, (match reads.hashes item.1.certificatePEM item.2 with
      | .error err => some (mapOCSPDecodeError err)
      | .ok _ => none) = none ↔
        ∃ hashes, reads.hashes item.1.certificatePEM item.2 = .ok hashes := by
    intro item
    split <;> simp [*]
  simp only [OcspReads.failure, findSome?_eq_none_iff, item, mem_activeIssuers_iff, Prod.forall]
  grind

theorem failure_append (front back : List Issuer) : reads.failure (front ++ back) algorithms =
    (reads.failure front algorithms).or (reads.failure back algorithms) := by
  rw [OcspReads.failure, activeIssuers_append, findSome?_append]
  rfl

theorem failure_kind (failed : reads.failure issuers algorithms = some err) :
    err.kind = .ocspDecodeFailed := by
  obtain ⟨item, -, here⟩ := exists_of_findSome?_eq_some failed
  split at here
  · cases here
    rfl
  · cases here

theorem failure_member (failed : reads.failure issuers algorithms = some err) :
    ∃ issuer ∈ issuers, reads.failure [issuer] algorithms = some err := by
  induction issuers with
  | nil => cases failed
  | cons issuer issuers ih =>
    rw [show issuer :: issuers = [issuer] ++ issuers from rfl, failure_append,
      Option.or_eq_some_iff] at failed
    rcases failed with here | ⟨-, later⟩
    · exact ⟨issuer, mem_cons_self, here⟩
    · obtain ⟨other, inside, there⟩ := ih later
      exact ⟨other, mem_cons_of_mem _ inside, there⟩

end Failure

/-- The statuses depend on the map of issuers only where the IDs look. -/
theorem ocspStatuses_congr {table'} (same : ∀ id ∈ ids,
      table.lookup (ocspIssuerHashKey lower id.hashAlgorithm id.issuerNameHash id.issuerKeyHash) =
        table'.lookup (ocspIssuerHashKey lower id.hashAlgorithm id.issuerNameHash id.issuerKeyHash))
    (issuerID : Text) :
    ocspStatuses lower reads table issuerID ids = ocspStatuses lower reads table' issuerID ids := by
  induction ids generalizing issuerID with
  | nil => rfl
  | cons id ids ih =>
    have rest := ih fun id inside => same id (mem_cons_of_mem _ inside)
    rw [ocspStatuses, ocspStatuses, same id mem_cons_self]
    simp only [rest]

/-- The loop over the IDs fails when they are about two issuers. -/
theorem ocspStatuses_error {issuerID err}
    (failed : ocspStatuses lower reads table issuerID ids = .error err) :
    err = ErrKind.err .invalidRequest := by
  induction ids generalizing issuerID with
  | nil => cases failed
  | cons id ids ih =>
    rw [ocspStatuses] at failed
    split at failed
    · rcases Except.bind_eq_error.mp failed with later | ⟨_, _, ⟨⟩⟩
      exact ih later
    · next issuer _ =>
      dsimp only at failed
      generalize (if issuerID = [] then issuer.id else issuerID) = current at failed
      split at failed
      · exact (Except.error.inj failed).symm
      · rcases Except.bind_eq_error.mp failed with later | ⟨_, _, ⟨⟩⟩
        exact ih later

/-- An ID whose issuer is found gets the status that the issuer's certificates give it. -/
theorem ocspStatuses_forall₂ {issuerID statuses final}
    (answered : ocspStatuses lower reads table issuerID ids = .ok (statuses, final)) :
    Forall₂ (fun id status => ∀ issuer, table.lookup (ocspIssuerHashKey lower id.hashAlgorithm
      id.issuerNameHash id.issuerKeyHash) = some issuer →
        status = ocspStatusOf lower reads issuer id) ids statuses := by
  induction ids generalizing issuerID statuses with
  | nil =>
    cases answered
    exact .nil
  | cons id ids ih =>
    rw [ocspStatuses] at answered
    split at answered
    · next absent =>
      obtain ⟨⟨later, last⟩, rest, same⟩ := Except.bind_eq_ok.mp answered
      cases same
      refine .cons (fun issuer found => ?_) (ih rest)
      cases absent.symm.trans found
    · next issuer looked =>
      dsimp only at answered
      generalize (if issuerID = [] then issuer.id else issuerID) = current at answered
      split at answered
      · cases answered
      · obtain ⟨⟨later, last⟩, rest, same⟩ := Except.bind_eq_ok.mp answered
        cases same
        refine .cons (fun other found => ?_) (ih rest)
        cases looked.symm.trans found
        rfl

/-- The store with other issuers. -/
def OcspReads.withIssuers (reads : OcspReads) (issuers : List Issuer) : OcspReads :=
  { reads with issuers }

theorem ocspStatuses_withIssuers (issuers : List Issuer) (table : Table Issuer) (issuerID : Text)
    (ids : List Corecli.OCSPCertificateID) :
    ocspStatuses lower (reads.withIssuers issuers) table issuerID ids =
      ocspStatuses lower reads table issuerID ids := by
  induction ids generalizing issuerID with
  | nil => rfl
  | cons id ids ih =>
    simp only [ocspStatuses, ih]
    rfl

/-- The answer to a request with these issuers. -/
abbrev OcspReads.answer (lower : Char → Char) (reads : OcspReads) (issuers : List Issuer)
    (ids : List RequestedID) : Except Err (List Corecli.OCSPCertificateStatus × Text) :=
  ocspCertificateStatuses lower (reads.withIssuers issuers) (ids.map RequestedID.text)

end Lookup

section Isolation

variable {lower : Char → Char} {reads : OcspReads} {front back : List Issuer} {added : Issuer}
  {ids : List RequestedID}

/-- The IDs do not look where an issuer whose hashes they do not carry is entered. -/
theorem issuerEntry_elsewhere
    (foreign : ∀ id ∈ ids, reads.hashes added.certificatePEM id.hashAlgorithm.name ≠
      .ok (id.issuerNameHash, id.issuerKeyHash)) {id} (inside : id ∈ ids)
    (member : item ∈ activeIssuers [added] (requestAlgorithms lower ids))
    (entered : issuerEntry lower reads item = .ok made) :
    made.1 ≠ id.key lower := by
  obtain ⟨issuer, algorithm⟩ := item
  obtain ⟨here, -, chosen⟩ := mem_activeIssuers_iff.mp member
  cases mem_singleton.mp here
  obtain ⟨other, -, rfl⟩ := (mem_ocspHashAlgorithms_iff (ne_nil_of_mem inside)).mp chosen
  obtain ⟨hashes, found, rfl⟩ := issuerEntry_ok entered
  intro same
  obtain ⟨algorithms, names, keys⟩ := ocspIssuerHashKey_inj same
  apply foreign id inside
  rw [← algorithms, ← names, ← keys]
  exact found

/-- The issuers are entered one after the other. -/
theorem answer_eq (issuers : List Issuer) (ids : List RequestedID) :
    reads.answer lower issuers ids = enter (issuerEntry lower reads) ∅
      (activeIssuers issuers (requestAlgorithms lower ids)) >>= fun table =>
        ocspStatuses lower reads table [] (ids.map RequestedID.text) := by
  refine congrArg (enter _ _ _ >>= ·) (funext fun table => ?_)
  exact ocspStatuses_withIssuers issuers table [] _

/-- An answer fails as the search for issuers does. -/
theorem answer_error_iff {issuers : List Issuer} {err : Err} (kind : err.kind = .ocspDecodeFailed) :
    reads.answer lower issuers ids = .error err ↔
      reads.failure issuers (requestAlgorithms lower ids) = some err := by
  rw [answer_eq]
  constructor
  · intro failed
    rcases Except.bind_eq_error.mp failed with early | ⟨table, -, late⟩
    · exact enter_error_iff_failure.mp early
    · rw [ocspStatuses_error late] at kind
      cases kind
  · intro failed
    rw [enter_error_iff_failure.mpr failed]
    rfl

/-- Entering an issuer of whom the core finds the hashes. -/
theorem ocspStatuses_addIssuer
    (foreign : ∀ id ∈ ids, reads.hashes added.certificatePEM id.hashAlgorithm.name ≠
      .ok (id.issuerNameHash, id.issuerKeyHash))
    (inspected : ∀ item ∈ activeIssuers [added] (requestAlgorithms lower ids),
      ∃ made, issuerEntry lower reads item = .ok made) :
    reads.answer lower (front ++ ([added] ++ back)) ids =
      reads.answer lower (front ++ back) ids := by
  simp only [answer_eq, activeIssuers_append, enter_append]
  cases enter (issuerEntry lower reads) ∅ (activeIssuers front (requestAlgorithms lower ids)) with
  | error err => rfl
  | ok mid =>
    obtain ⟨between, entered⟩ : ∃ between, enter (issuerEntry lower reads) mid
        (activeIssuers [added] (requestAlgorithms lower ids)) = .ok between :=
      enter_ok_iff.mpr inspected
    change (enter _ mid _ >>= _) >>= _ = enter _ mid _ >>= _
    rw [entered]
    change enter _ between _ >>= _ = _
    cases later : enter (issuerEntry lower reads) between
      (activeIssuers back (requestAlgorithms lower ids)) with
    | error err => rw [enter_error_iff_failure.mpr (enter_error_iff_failure.mp later)]
    | ok result =>
      cases later' : enter (issuerEntry lower reads) mid
        (activeIssuers back (requestAlgorithms lower ids)) with
      | error err =>
        cases later.symm.trans (enter_error_iff_failure.mpr (enter_error_iff_failure.mp later'))
      | ok result' =>
        apply ocspStatuses_congr
        intro _ there
        obtain ⟨id, inside, rfl⟩ := mem_map.mp there
        refine enter_lookup_congr ?_ later later'
        apply enter_lookup_of_notMem entered
        intro item member made here
        exact issuerEntry_elsewhere foreign inside member here

/-- An active issuer that is added to the store leaves the statuses of IDs that do not carry its
hashes as they were exactly when the core can find its hashes, or the first issuer for which it
cannot is one that leads to the same error without the new issuer. -/
theorem ocspCertificateStatuses_addIssuer_iff (active : added.status = .active)
    (foreign : ∀ id ∈ ids, reads.hashes added.certificatePEM id.hashAlgorithm.name ≠
      .ok (id.issuerNameHash, id.issuerKeyHash)) :
    reads.answer lower (front ++ added :: back) ids = reads.answer lower (front ++ back) ids ↔
      (∀ algorithm ∈ requestAlgorithms lower ids,
        ∃ hashes, reads.hashes added.certificatePEM algorithm = .ok hashes) ∨
      reads.failure (front ++ back) (requestAlgorithms lower ids) =
        reads.failure (front ++ [added]) (requestAlgorithms lower ids) := by
  rw [show front ++ added :: back = front ++ ([added] ++ back) from rfl]
  by_cases inspected : ∀ algorithm ∈ requestAlgorithms lower ids,
      ∃ hashes, reads.hashes added.certificatePEM algorithm = .ok hashes
  · refine iff_of_true ?_ (.inl inspected)
    apply ocspStatuses_addIssuer foreign
    rintro ⟨issuer, algorithm⟩ member
    obtain ⟨here, -, chosen⟩ := mem_activeIssuers_iff.mp member
    cases mem_singleton.mp here
    obtain ⟨hashes, found⟩ := inspected algorithm chosen
    exact ⟨_, issuerEntry_eq found⟩
  · -- the new issuer, or one before it, ends the search for issuers with an error
    cases failed : reads.failure (front ++ [added]) (requestAlgorithms lower ids) with
    | none =>
      exact absurd (failure_eq_none_iff.mp failed added mem_append_cons_self active) inspected
    | some err =>
      have kind := failure_kind failed
      have fails : reads.answer lower (front ++ ([added] ++ back)) ids = .error err := by
        rw [answer_error_iff kind, ← append_assoc, failure_append, failed]
        rfl
      rw [fails, eq_comm, answer_error_iff kind, or_iff_right inspected]

/-- A core that cannot read the certificate `junk` and finds the texts of all others in their
hashes. -/
def textHashes (certificatePEM _hashAlgorithm : Text) :
    Except CoreError (List UInt8 × List UInt8) :=
  if certificatePEM = "junk".toList then
    .error { code := some "ocsp.issuer_parse_failed", text := [] }
  else .ok (certificatePEM.utf8, certificatePEM.utf8)

/-- An issuer that `CreateIssuer` makes of a certificate. -/
def issuerOf (id certificatePEM : Text) : Issuer :=
  newIssuer id {
    name := id, kind := .rootCA, certificatePEM := certificatePEM, keyRef := "file:key" } Time.zero

/-- A certificate of an issuer with a serial number. -/
def certificateOf (issuerID serialNumber : Text) (status : CertificateStatus) : Certificate :=
  { webCertificate with id := serialNumber, issuerID, serialNumber, status }

/-- A store with a certificate of the issuer `a`. -/
def readsOfA (status : CertificateStatus) : OcspReads where
  hashes := textHashes
  issuers := []
  certificates := [certificateOf "a" "7" status]
  revocationsByIssuer _ := []

/-- The request for that certificate. -/
def requestOfA : List RequestedID := [⟨.sha256, utf8 "a", utf8 "a", 7⟩]

/-- Another issuer that can be read does not matter. -/
theorem ocspCertificateStatuses_addIssuer_b :
    (readsOfA .valid).answer id [issuerOf "a" "a", issuerOf "b" "b"] requestOfA =
      (readsOfA .valid).answer id [issuerOf "a" "a"] requestOfA :=
  (@ocspCertificateStatuses_addIssuer_iff id (readsOfA .valid) [issuerOf "a" "a"] []
    (issuerOf "b" "b") requestOfA rfl (by decide)).mpr (.inl fun _ _ => ⟨_, rfl⟩)

/-- An issuer with a certificate that the core cannot read, which `CreateIssuer` accepts, ends the
answers for the other issuers. -/
theorem ocspCertificateStatuses_junk : validateCreateIssuerRequest id {
        name := "junk", kind := .rootCA, certificatePEM := "junk", keyRef := "file:key" } false =
      .ok () ∧
    (∀ id ∈ requestOfA, textHashes (issuerOf "junk" "junk").certificatePEM id.hashAlgorithm.name ≠
      .ok (id.issuerNameHash, id.issuerKeyHash)) ∧
    (readsOfA .valid).answer id [issuerOf "a" "a"] requestOfA =
      .ok ([ocspStatusForID id ⟨"7", "61", "61", "sha256"⟩ "good"], "a") ∧
    (readsOfA .valid).answer id [issuerOf "a" "a", issuerOf "junk" "junk"] requestOfA =
      .error (ErrKind.err .ocspDecodeFailed) := by
  refine ⟨?_, ?_, ?_, ?_⟩
  · decide
  · decide
  · decide
  · decide

end Isolation

section Listing

variable {lower : Char → Char} {reads : OcspReads} {algorithm : Core.HashAlgorithm}
  {hashes : List UInt8 × List UInt8} {serial : Int} {issuer : Issuer}

/-- An active issuer has these hashes of its name and key. -/
structure OcspReads.Bears (reads : OcspReads) (algorithm : Core.HashAlgorithm)
    (hashes : List UInt8 × List UInt8) (issuer : Issuer) : Prop where
  stored : issuer ∈ reads.issuers
  active : issuer.status = .active
  found : reads.hashes issuer.certificatePEM algorithm.name = .ok hashes

/-- The hashes of an ID are those of the issuer. -/
abbrev OcspReads.Carries (reads : OcspReads) (id : RequestedID) : Issuer → Prop :=
  reads.Bears id.hashAlgorithm (id.issuerNameHash, id.issuerKeyHash)

/-- The ID of a certificate of an issuer with these hashes. -/
def requestedID (algorithm : Core.HashAlgorithm) (hashes : List UInt8 × List UInt8) (serial : Int) :
    RequestedID where
  hashAlgorithm := algorithm
  issuerNameHash := hashes.1
  issuerKeyHash := hashes.2
  serial := serial

/-- The core finds the hashes of every active issuer. -/
def OcspReads.Inspected (reads : OcspReads) (algorithm : Core.HashAlgorithm) : Prop :=
  ∀ issuer ∈ reads.issuers, issuer.status = .active →
    ∃ hashes, reads.hashes issuer.certificatePEM algorithm.name = .ok hashes

section

variable (lower : Char → Char) (algorithm : Core.HashAlgorithm) (hashes : List UInt8 × List UInt8)
  (serial : Int)

theorem ocspHashAlgorithms_single :
    ocspHashAlgorithms lower [(requestedID algorithm hashes serial).text] = [algorithm.name] := by
  simp [ocspHashAlgorithms, addHashAlgorithm, RequestedID.text, requestedID]

/-- Where the ID of a certificate of an issuer with these hashes looks. -/
theorem requestedID_key :
    ocspIssuerHashKey lower (requestedID algorithm hashes serial).text.hashAlgorithm
        (requestedID algorithm hashes serial).text.issuerNameHash
        (requestedID algorithm hashes serial).text.issuerKeyHash =
      ocspIssuerHashKey lower algorithm.name (Core.octetsToHex hashes.1)
        (Core.octetsToHex hashes.2) := rfl

end

theorem inspected_iff_failure :
    reads.Inspected algorithm ↔ reads.failure reads.issuers [algorithm.name] = none := by
  simp [failure_eq_none_iff, OcspReads.Inspected]

section Tables

variable {ids : List RequestedID} {id : RequestedID}
  (entered : ocspIssuersByHash lower reads (ids.map RequestedID.text) = .ok table)
  (inside : id ∈ ids)

include entered inside

/-- The issuer that an ID finds. -/
theorem bears_of_lookup (found : table.lookup (id.key lower) = some issuer) :
    reads.Carries id issuer := by
  rcases enter_lookup entered found with ⟨⟨other, name⟩, member, made⟩ | absent
  · obtain ⟨stored, active, chosen⟩ := mem_activeIssuers_iff.mp member
    obtain ⟨request, -, rfl⟩ := (mem_ocspHashAlgorithms_iff (ne_nil_of_mem inside)).mp chosen
    obtain ⟨hashes, looked, shape⟩ := issuerEntry_ok made
    obtain ⟨keys, rfl⟩ := Prod.mk.inj shape
    obtain ⟨algorithms, names, keys⟩ := ocspIssuerHashKey_inj keys
    rw [OcspReads.Carries, algorithms, names, keys]
    exact ⟨stored, active, looked⟩
  · simp at absent

/-- An ID with the hashes of an issuer finds one. -/
theorem lookup_of_bears (bears : reads.Carries id issuer) :
    ∃ found, table.lookup (id.key lower) = some found := by
  have member : (issuer, id.hashAlgorithm.name) ∈ activeIssuers reads.issuers
      (requestAlgorithms lower ids) := by
    refine mem_activeIssuers_iff.mpr ⟨bears.stored, bears.active, ?_⟩
    exact (mem_ocspHashAlgorithms_iff (ne_nil_of_mem inside)).mpr ⟨id, inside, rfl⟩
  exact Option.isSome_iff_exists.mp
    (enter_isSome entered (.inl ⟨_, member, issuer, issuerEntry_eq bears.found⟩))

/-- If the hashes are those of one issuer only, that is the one that is found. -/
theorem lookup_eq_some_iff_bears (alone : ∀ issuer other,
      reads.Carries id issuer → reads.Carries id other → issuer = other) :
    table.lookup (id.key lower) = some issuer ↔ reads.Carries id issuer := by
  constructor
  · exact bears_of_lookup entered inside
  · intro bears
    obtain ⟨found, looked⟩ := lookup_of_bears entered inside bears
    rw [looked, alone found issuer (bears_of_lookup entered inside looked) bears]

end Tables

theorem ocspIssuersByHash_ok {ids : List Corecli.OCSPCertificateID}
    (inspected : reads.failure reads.issuers (ocspHashAlgorithms lower ids) = none) :
    ∃ table, ocspIssuersByHash lower reads ids = .ok table := by
  cases run : ocspIssuersByHash lower reads ids with
  | ok table => exact ⟨table, rfl⟩
  | error err => cases inspected.symm.trans (enter_error_iff_failure.mp run)

/-- The answer when the hashes are those of some issuer. -/
theorem ocspStatuses_single {bearer} (bears : reads.Bears algorithm hashes bearer)
    (inspected : reads.Inspected algorithm) (serial : Int) :
    ∃ found, reads.Bears algorithm hashes found ∧
      ocspCertificateStatuses lower reads [(requestedID algorithm hashes serial).text] =
        .ok ([ocspStatusOf lower reads found (requestedID algorithm hashes serial).text],
          found.id) := by
  obtain ⟨table, entered⟩ := @ocspIssuersByHash_ok lower reads
    [(requestedID algorithm hashes serial).text]
    (by rw [ocspHashAlgorithms_single, ← inspected_iff_failure]; exact inspected)
  have there : requestedID algorithm hashes serial ∈ [requestedID algorithm hashes serial] :=
    mem_cons_self
  obtain ⟨found, looked⟩ := lookup_of_bears entered there bears
  refine ⟨found, bears_of_lookup entered there looked, ?_⟩
  rw [ocspCertificateStatuses, entered]
  change ocspStatuses lower reads table [] [_] = _
  rw [ocspStatuses, looked]
  simp [ocspStatuses, bind, Except.bind, pure, Except.pure]

/-- The answer when the core does not find the hashes of every active issuer. -/
theorem ocspStatuses_uninspected
    (uninspected : ¬ reads.Inspected algorithm) (hashes : List UInt8 × List UInt8) (serial : Int) :
    ∃ err, ocspCertificateStatuses lower reads [(requestedID algorithm hashes serial).text] =
      .error err ∧ err.kind = .ocspDecodeFailed := by
  rw [inspected_iff_failure] at uninspected
  obtain ⟨err, failed⟩ := Option.ne_none_iff_exists'.mp uninspected
  have kind := failure_kind failed
  refine ⟨err, (@answer_error_iff lower reads [requestedID algorithm hashes serial] reads.issuers _
    kind).mpr ?_, kind⟩
  rw [requestAlgorithms, map_singleton, ocspHashAlgorithms_single]
  exact failed

/-- What the stores see to: issuers have IDs of their own, which have no zero character, and no two
certificates have one issuer and serial number. -/
structure OcspReads.Regular (reads : OcspReads) : Prop where
  distinct : (reads.issuers.map Issuer.id).Nodup
  nonzero : ∀ issuer ∈ reads.issuers, Char.ofNat 0 ∉ issuer.id
  unique : ∀ certificate ∈ reads.certificates, ∀ other ∈ reads.certificates,
    certificate.issuerID = other.issuerID → certificate.serialNumber = other.serialNumber →
    certificate = other

theorem zero_notMem_serial (serial : Int) : Char.ofNat 0 ∉ Core.serialToDecimal serial := by
  intro member
  rcases mem_decimalInt member with minus | digit
  · cases minus
  · simp at digit

/-- A key with one zero character names the issuer and the serial number. -/
theorem ocspIssuerSerialKey_inj {issuerID issuerID' serialNumber serialNumber'}
    (nonzero : Char.ofNat 0 ∉ issuerID) (nonzero' : Char.ofNat 0 ∉ serialNumber)
    (same : ocspIssuerSerialKey issuerID' serialNumber' =
    ocspIssuerSerialKey issuerID serialNumber) :
    issuerID' = issuerID ∧ serialNumber' = serialNumber := by
  simp only [ocspIssuerSerialKey, append_assoc, singleton_append] at same
  have counts := congrArg (count (Char.ofNat 0)) same
  simp only [count_append, count_cons_self, count_eq_zero.mpr nonzero,
    count_eq_zero.mpr nonzero'] at counts
  refine split_unique (count_eq_zero.mp ?_) nonzero same
  omega

/-- The certificate of an issuer with a serial number is found. -/
theorem byIssuerSerial_eq
    (unique : ∀ other ∈ reads.certificates, other.issuerID = certificate.issuerID →
      other.serialNumber = certificate.serialNumber → other = certificate)
    (nonzero : Char.ofNat 0 ∉ certificate.issuerID) (stored : certificate ∈ reads.certificates)
    (numbered : certificate.serialNumber = Core.serialToDecimal serial) :
    byIssuerSerial reads.certificates (ocspIssuerSerialKey certificate.issuerID
      (Core.serialToDecimal serial)) = some certificate := by
  cases found : byIssuerSerial reads.certificates
      (ocspIssuerSerialKey certificate.issuerID (Core.serialToDecimal serial)) with
  | none =>
    have missed := find?_eq_none.mp found certificate stored
    simp [numbered] at missed
  | some other =>
    have key := find?_some found
    rw [decide_eq_true_eq] at key
    obtain ⟨issuers, serials⟩ := ocspIssuerSerialKey_inj nonzero (zero_notMem_serial serial) key
    rw [unique other (mem_of_find?_eq_some found) issuers (serials.trans numbered.symm)]

/-- A valid or revoked certificate that is found is not unknown. -/
theorem ocspStatusOf_ne_unknown (regular : reads.Regular)
    (stored : certificate ∈ reads.certificates) (known : issuer ∈ reads.issuers)
    (issued : certificate.issuerID = issuer.id)
    (numbered : certificate.serialNumber = Core.serialToDecimal serial)
    (status : certificate.status = .valid ∨ certificate.status = .revoked) :
    (ocspStatusOf lower reads issuer (requestedID algorithm hashes serial).text).status ≠
      "unknown".toList := by
  have found := byIssuerSerial_eq (fun other inside issuers serials =>
    regular.unique other inside certificate stored issuers serials)
    (issued ▸ regular.nonzero issuer known) stored numbered
  rw [issued] at found
  rw [ocspStatusOf, show (requestedID algorithm hashes serial).text.serialNumber =
    Core.serialToDecimal serial from rfl, found]
  rcases status with valid | revoked
  · simp [valid, ocspStatusForID]
  · simp only [revoked, revokedOCSPStatus]
    split <;> simp [ocspStatusForID]

/-- What a request is answered with when the issuers are listed in some order: the same as in every
order, and a valid or revoked certificate of an active issuer is not unknown. -/
structure OcspReads.Answers (lower : Char → Char) (reads : OcspReads) (ids : List RequestedID)
    (listing : List Issuer) : Prop where
  orderFree : reads.answer lower listing ids = reads.answer lower reads.issuers ids
  known : ∀ statuses issuerID, reads.answer lower listing ids = .ok (statuses, issuerID) →
    Forall₂ (fun id status => ∀ issuer certificate,
      reads.Carries id issuer → certificate ∈ reads.certificates →
      certificate.issuerID = issuer.id → certificate.serialNumber = id.text.serialNumber →
      certificate.status = .valid ∨ certificate.status = .revoked →
      status.status ≠ "unknown".toList) ids statuses

/-- What the issuers of a store have to be for that. -/
structure OcspReads.Unambiguous (lower : Char → Char) (reads : OcspReads) : Prop where
  /-- With the algorithms of a request, all issuers for which the core finds no hashes lead to the
  same error. -/
  failures : ∀ (ids : List RequestedID) issuer other err err', issuer ∈ reads.issuers →
    other ∈ reads.issuers → reads.failure [issuer] (requestAlgorithms lower ids) = some err →
    reads.failure [other] (requestAlgorithms lower ids) = some err' → err = err'
  /-- With an algorithm for which there are none of them, no two issuers have the same hashes. -/
  unshared : ∀ algorithm, reads.Inspected algorithm → ∀ hashes issuer other,
    reads.Bears algorithm hashes issuer → reads.Bears algorithm hashes other → issuer = other

theorem failure_perm {listing : List Issuer} {ids : List RequestedID}
    (unambiguous : reads.Unambiguous lower) (listed : listing.Perm reads.issuers) :
    reads.failure listing (requestAlgorithms lower ids) =
      reads.failure reads.issuers (requestAlgorithms lower ids) := by
  have absent : reads.failure listing (requestAlgorithms lower ids) = none ↔
      reads.failure reads.issuers (requestAlgorithms lower ids) = none := by
    simp only [failure_eq_none_iff, listed.mem_iff]
  cases here : reads.failure listing (requestAlgorithms lower ids) with
  | none => exact (absent.mp here).symm
  | some err =>
    cases there : reads.failure reads.issuers (requestAlgorithms lower ids) with
    | none => cases here.symm.trans (absent.mpr there)
    | some err' =>
      obtain ⟨issuer, inside, failed⟩ := failure_member here
      obtain ⟨other, inside', failed'⟩ := failure_member there
      rw [unambiguous.failures ids issuer other err err' (listed.mem_iff.mp inside) inside' failed
        failed']

/-- The issuer that is listed last is the one that is found. -/
theorem ocspStatuses_last {front} (inspected : reads.Inspected algorithm)
    (listed : (front ++ [issuer]).Perm reads.issuers)
    (bears : reads.Bears algorithm hashes issuer) :
      ∃ statuses, reads.answer lower (front ++ [issuer])
      [requestedID algorithm hashes serial] = .ok (statuses, issuer.id) := by
  have shape : activeIssuers (front ++ [issuer]) [algorithm.name] =
      activeIssuers front [algorithm.name] ++ [(issuer, algorithm.name)] := by
    simp [activeIssuers, bears.active]
  cases entered : enter (issuerEntry lower reads) ∅ (activeIssuers (front ++ [issuer])
      [algorithm.name]) with
  | error err =>
    have failed := enter_error_iff_failure.mp entered
    have absent : reads.failure (front ++ [issuer]) [algorithm.name] = none := by
      simpa [failure_eq_none_iff, OcspReads.Inspected, ← listed.mem_iff] using inspected
    cases failed.symm.trans absent
  | ok table =>
    refine ⟨[ocspStatusOf lower reads issuer (requestedID algorithm hashes serial).text], ?_⟩
    rw [answer_eq, requestAlgorithms, map_singleton, ocspHashAlgorithms_single, entered]
    rw [shape] at entered
    have looked := enter_lookup_last (issuerEntry_eq bears.found) entered
    change ocspStatuses lower reads table [] [_] = _
    rw [ocspStatuses, requestedID_key, looked]
    simp [ocspStatuses, bind, Except.bind, pure, Except.pure]

theorem inspected_of_failure {ids : List RequestedID} {id} (inspected : reads.failure reads.issuers
      (requestAlgorithms lower ids) = none) (inside : id ∈ ids) :
    reads.Inspected id.hashAlgorithm := by
  intro issuer stored active
  exact failure_eq_none_iff.mp inspected issuer stored active _
    ((mem_ocspHashAlgorithms_iff (ne_nil_of_mem inside)).mpr ⟨id, inside, rfl⟩)

/-- A request is answered in the same way in whatever order the issuers are listed. -/
theorem OcspReads.Unambiguous.orderFree {listing : List Issuer} {ids : List RequestedID}
    (unambiguous : reads.Unambiguous lower) (listed : listing.Perm reads.issuers) :
    reads.answer lower listing ids = reads.answer lower reads.issuers ids := by
  have same := @failure_perm lower reads listing ids unambiguous listed
  cases failed : reads.failure reads.issuers (requestAlgorithms lower ids) with
  | some err =>
    rw [failed] at same
    have kind := failure_kind failed
    rw [(answer_error_iff kind).mpr same, (answer_error_iff kind).mpr failed]
  | none =>
    rw [failed] at same
    obtain ⟨table, entered⟩ := ocspIssuersByHash_ok failed
    obtain ⟨table', entered'⟩ := @ocspIssuersByHash_ok lower (reads.withIssuers listing) _ same
    rw [OcspReads.answer, ocspCertificateStatuses, entered', OcspReads.answer,
      ocspCertificateStatuses]
    change _ = ocspIssuersByHash lower reads _ >>= _
    rw [entered]
    change ocspStatuses lower _ table' [] _ = ocspStatuses lower reads table [] _
    rw [ocspStatuses_withIssuers]
    apply ocspStatuses_congr
    intro _ there
    obtain ⟨id, inside, rfl⟩ := mem_map.mp there
    have alone := unambiguous.unshared id.hashAlgorithm (inspected_of_failure failed inside)
      (id.issuerNameHash, id.issuerKeyHash)
    have bears : ∀ issuer, (reads.withIssuers listing).Carries id issuer ↔
        reads.Carries id issuer := by
      intro issuer
      exact ⟨fun ⟨stored, active, found⟩ => ⟨listed.mem_iff.mp stored, active, found⟩,
        fun ⟨stored, active, found⟩ => ⟨listed.mem_iff.mpr stored, active, found⟩⟩
    refine Option.ext fun issuer => ?_
    rw [lookup_eq_some_iff_bears entered inside alone,
      lookup_eq_some_iff_bears entered' inside (by simpa only [bears] using alone), bears]

/-- The answers do not depend on the order in which the issuers are listed, and no valid or revoked
certificate of an active issuer is unknown, exactly when for every request all issuers for which the
core finds no hashes lead to the same error, and where there are none of them no two active issuers
have the same hashes. -/
theorem ocspCertificateStatuses_answers_iff (regular : reads.Regular) :
    (∀ ids listing, listing.Perm reads.issuers → reads.Answers lower ids listing) ↔
      reads.Unambiguous lower := by
  constructor
  · intro answers
    constructor
    · intro ids issuer other err err' stored stored' failed failed'
      -- each of the two is the first to fail when it is listed first
      have first : ∀ issuer err, issuer ∈ reads.issuers →
          reads.failure [issuer] (requestAlgorithms lower ids) = some err →
          reads.answer lower reads.issuers ids = .error err := by
        intro issuer err stored failed
        rw [← (answers ids _ (perm_cons_erase stored).symm).orderFree,
          answer_error_iff (failure_kind failed),
          show issuer :: reads.issuers.erase issuer =
          [issuer] ++ reads.issuers.erase issuer from rfl, failure_append, failed]
        rfl
      exact Except.error.inj ((first issuer err stored failed).symm.trans
        (first other err' stored' failed'))
    · intro algorithm inspected hashes issuer other bears bears'
      -- each of the two is found when it is listed last
      have last : ∀ bearer, reads.Bears algorithm hashes bearer → ∃ statuses,
          reads.answer lower reads.issuers [requestedID algorithm hashes 0] =
            .ok (statuses, bearer.id) := by
        intro bearer here
        have listed : (reads.issuers.erase bearer ++ [bearer]).Perm reads.issuers :=
          perm_append_comm.trans (perm_cons_erase here.stored).symm
        obtain ⟨statuses, result⟩ := @ocspStatuses_last lower _ _ _ 0 _ _ inspected listed here
        have same := (answers [requestedID algorithm hashes 0] _ listed).orderFree
        exact ⟨statuses, same.symm.trans result⟩
      obtain ⟨statuses, result⟩ := last issuer bears
      obtain ⟨statuses', result'⟩ := last other bears'
      have ids := (Prod.mk.inj (Except.ok.inj (result.symm.trans result'))).2
      exact inj_on_of_nodup_map regular.distinct bears.stored bears'.stored ids
  · intro unambiguous ids listing listed
    refine ⟨unambiguous.orderFree listed, ?_⟩
    rw [unambiguous.orderFree listed]
    intro statuses issuerID answered
    obtain ⟨table, entered, found⟩ := Except.bind_eq_ok.mp answered
    have inspected : reads.failure reads.issuers (requestAlgorithms lower ids) = none := by
      rw [Option.eq_none_iff_forall_ne_some]
      intro err failed
      cases (enter_error_iff_failure.mpr failed).symm.trans entered
    have each := forall₂_map_left_iff.mp (ocspStatuses_forall₂ found)
    obtain ⟨lengths, pairs⟩ := forall₂_iff_zip.mp each
    refine forall₂_iff_zip.mpr ⟨lengths, ?_⟩
    intro id status pair issuer certificate bears stored issued numbered status'
    have inside := (of_mem_zip pair).1
    have looked := (lookup_eq_some_iff_bears entered inside (unambiguous.unshared id.hashAlgorithm
      (inspected_of_failure inspected inside) _)).mpr bears
    rw [pairs pair issuer looked]
    exact @ocspStatusOf_ne_unknown _ lower reads id.hashAlgorithm
      (id.issuerNameHash, id.issuerKeyHash) id.serial issuer regular stored bears.stored issued
      numbered status'

/-- Two issuers with different certificates. -/
theorem readsOfA_regular :
    ((readsOfA .revoked).withIssuers [issuerOf "a" "a", issuerOf "b" "b"]).Regular where
  distinct := by decide
  nonzero := by decide
  unique := by
    intro certificate stored other stored' _ _
    exact (mem_singleton.mp stored).trans (mem_singleton.mp stored').symm

/-- A request for a certificate of `a` that is stored and one that is not. -/
theorem ocspCertificateStatuses_answers_a :
    ((readsOfA .revoked).withIssuers [issuerOf "a" "a", issuerOf "b" "b"]).Answers id
      [⟨.sha256, utf8 "a", utf8 "a", 7⟩, ⟨.sha1, utf8 "a", utf8 "a", 8⟩]
      [issuerOf "b" "b", issuerOf "a" "a"] := by
  refine (@ocspCertificateStatuses_answers_iff id _ readsOfA_regular).mpr ⟨?_, ?_⟩ _ _ (.swap _ _ _)
  · intro ids issuer other err err' stored _ failed _
    have readable : ∀ issuer ∈ [issuerOf "a" "a", issuerOf "b" "b"],
        issuer.certificatePEM ≠ "junk".toList := by decide
    have absent := (@failure_eq_none_iff (requestAlgorithms id ids) ((readsOfA .revoked).withIssuers
      [issuerOf "a" "a", issuerOf "b" "b"]) [issuer]).mpr (by
        intro other inside _ algorithm _
        cases mem_singleton.mp inside
        exact ⟨_, if_neg (readable issuer stored)⟩)
    cases absent.symm.trans failed
  · intro algorithm _ hashes issuer other bears bears'
    have texts : ∀ issuer ∈ [issuerOf "a" "a", issuerOf "b" "b"],
        ∀ other ∈ [issuerOf "a" "a", issuerOf "b" "b"],
        textHashes issuer.certificatePEM [] = textHashes other.certificatePEM [] →
          issuer = other := by
      decide
    exact texts issuer bears.stored other bears'.stored (bears.found.trans bears'.found.symm)

/-- A renewed certificate of the issuer `a`, under an ID of its own: a revoked certificate of `a` is
unknown when the renewed issuer is listed last, and revoked when it is listed first. -/
theorem ocspCertificateStatuses_renewed :
    (readsOfA .revoked).answer id [issuerOf "a" "a", issuerOf "b" "a"] requestOfA =
      .ok ([unknownOCSPStatus id ⟨"7", "61", "61", "sha256"⟩], "b") ∧
    (readsOfA .revoked).answer id [issuerOf "b" "a", issuerOf "a" "a"] requestOfA =
      .ok ([ocspStatusForID id ⟨"7", "61", "61", "sha256"⟩ "revoked"], "a") := by
  refine ⟨?_, ?_⟩
  · decide
  · decide

end Listing

end AnoPki.Lifecycle
