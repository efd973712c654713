import AnoPki.Lifecycle.CertificateRuns
import AnoPki.Lifecycle.Ocsp

/-! # OCSP and the lists of revoked certificates

Over every run the two channels agree on the certificates of an issuer whose hashes no other active
issuer has, as long as the core can find the hashes of every active issuer. -/
namespace AnoPki.Lifecycle

open Foundation Domain Store List Table Text OcspReads

variable {entry : RevokedCertificateEntry} {certificate : Certificate} {revocation : Revocation}
  {entries : List RevokedCertificateEntry} {state : State}

/-- The lists are those of a store, each in some order. -/
structure OcspReads.Of (reads : OcspReads) (l : Ledger) : Prop where
  issuers : reads.issuers.Perm l.issuers.values
  certificates : reads.certificates.Perm l.certificates.values
  revocations : ∀ issuerID, (reads.revocationsByIssuer issuerID).Perm (l.revokedEntries issuerID)

/-- The request for one certificate is answered so. -/
def OcspReads.Reports (lower : Char → Char) (reads : OcspReads) (id : RequestedID)
    (answer : Corecli.OCSPCertificateStatus) : Prop :=
  ∃ issuerID, ocspCertificateStatuses lower reads [id.text] = .ok ([answer], issuerID)

/-- A stored certificate of an issuer with a serial number. -/
def Ledger.Numbered (l : Ledger) (issuerID serialNumber : Text)
    (certificate : Certificate) : Prop :=
  (∃ key, l.certificates.lookup key = some certificate) ∧ certificate.issuerID = issuerID ∧
    certificate.serialNumber = serialNumber

/-- The answer to a request and the entries of the issuer's list say the same. -/
structure OcspReads.Agrees (lower : Char → Char) (reads : OcspReads) (l : Ledger) (issuer : Issuer)
    (id : RequestedID) : Prop where
  revoked : ∀ revokedAt reason, (∃ answer, reads.Reports lower id answer ∧
      answer.status = "revoked".toList ∧ answer.revokedAt = revokedAt ∧
      answer.revocationReason = reason) ↔
    ∃ entry ∈ l.revokedEntries issuer.id, entry.serialNumber = id.text.serialNumber ∧
      entry.revokedAt = revokedAt ∧ entry.reason.text = reason
  once : (l.revokedEntries issuer.id).Pairwise fun entry other =>
    entry.serialNumber = id.text.serialNumber → other.serialNumber ≠ id.text.serialNumber
  good : (∃ answer, reads.Reports lower id answer ∧ answer.status = "good".toList) ↔
    ∃ certificate, l.Numbered issuer.id id.text.serialNumber certificate ∧
      certificate.status = .valid

section Entries

variable {s : Service} {state : State} {issuerID serialNumber : Text}

theorem revokedEntry_eq_some_iff {certificates} :
    revokedEntry certificates issuerID revocation = some entry ↔
      ∃ certificate, certificates.lookup revocation.certificateID = some certificate ∧
        certificate.issuerID = issuerID ∧ certificate.status = .revoked ∧
        entry = ⟨certificate.id, certificate.serialNumber, revocation.revokedAt,
          revocation.reason⟩ := by
  rw [revokedEntry]
  cases certificates.lookup revocation.certificateID with
  | none => simp
  | some certificate =>
    simp only [Option.some.injEq, exists_eq_left']
    split
    · next both => simp [both, eq_comm]
    · next neither =>
      constructor
      · rintro ⟨⟩
      · rintro ⟨issued, revoked, -⟩
        exact absurd ⟨issued, revoked⟩ neither

section

variable (consistent : Consistent s state)

include consistent

/-- No two certificates of an issuer have one serial number. -/
theorem Ledger.Numbered.unique (named : issuerID ≠ []) (numbered : serialNumber ≠ [])
    {other} (one : (ledger state).Numbered issuerID serialNumber certificate)
    (two : (ledger state).Numbered issuerID serialNumber other) : other = certificate := by
  obtain ⟨⟨key, found⟩, issued, serial⟩ := one
  obtain ⟨⟨key', found'⟩, issued', serial'⟩ := two
  cases consistent.issuance.serials key certificate key' other found found'
    (issued.trans issued'.symm) (issued ▸ named) (serial.trans serial'.symm) (serial ▸ numbered)
  exact Option.mem_unique found' found

/-- The entry of a revocation is about a revoked certificate that it names. -/
theorem revokedEntry_numbered {key}
    (found : (ledger state).revocations.lookup key = some revocation)
    (made : revokedEntry (ledger state).certificates issuerID revocation = some entry) :
    ∃ certificate, (ledger state).Numbered issuerID entry.serialNumber certificate ∧
      certificate.status = .revoked ∧ RevocationFor (ledger state) certificate.id key := by
  obtain ⟨certificate, stored, issued, revoked, rfl⟩ := revokedEntry_eq_some_iff.mp made
  have named := consistent.keyed.certificates _ certificate stored
  exact ⟨certificate, ⟨⟨_, stored⟩, issued, rfl⟩, revoked, revocation, found, named.symm⟩

/-- An issuer's list has one entry at most for a serial number. -/
theorem revokedEntries_once (revocations : Revocations (ledger state)) (named : issuerID ≠ [])
    (numbered : serialNumber ≠ []) :
    ((ledger state).revokedEntries issuerID).Pairwise fun entry other =>
      entry.serialNumber = serialNumber → other.serialNumber ≠ serialNumber := by
  rw [Ledger.revokedEntries, values, pairwise_filterMap, pairwise_map]
  refine List.Pairwise.imp_of_mem ?_ (ledger state).revocations.nodupKeys.pairwise_ne
  rintro ⟨key, revocation⟩ ⟨key', revocation'⟩ stored stored' apart entry made other
    made' here there
  obtain ⟨certificate, one, -, record⟩ := revokedEntry_numbered consistent
    (AList.mem_lookup_iff.mpr stored) made
  obtain ⟨certificate', two, -, record'⟩ := revokedEntry_numbered consistent
    (AList.mem_lookup_iff.mpr stored') made'
  rw [here] at one
  rw [there] at two
  cases one.unique consistent named numbered two
  exact apart (revocations.once _ key key' record record')

/-- The list has an entry for a serial number exactly when the certificate is revoked. -/
theorem exists_revokedEntry_iff (revocations : Revocations (ledger state)) (named : issuerID ≠ [])
    (serial : serialNumber ≠ [])
    (numbered : (ledger state).Numbered issuerID serialNumber certificate) :
    (∃ entry ∈ (ledger state).revokedEntries issuerID, entry.serialNumber = serialNumber) ↔
      certificate.status = .revoked := by
  constructor
  · rintro ⟨entry, inside, here⟩
    obtain ⟨revocation, stored, made⟩ := mem_filterMap.mp inside
    obtain ⟨key, found⟩ := mem_values_iff.mp stored
    obtain ⟨other, there, revoked, -⟩ := revokedEntry_numbered consistent found made
    rw [here] at there
    cases numbered.unique consistent named serial there
    exact revoked
  · intro revoked
    obtain ⟨⟨key, found⟩, issued, rfl⟩ := numbered
    obtain ⟨place, revocation, recorded, about⟩ :=
      revocations.recorded key certificate found revoked
    refine ⟨⟨certificate.id, certificate.serialNumber, revocation.revokedAt, revocation.reason⟩,
      mem_filterMap.mpr ⟨revocation, mem_values_iff.mpr ⟨place, recorded⟩, ?_⟩, rfl⟩
    exact revokedEntry_eq_some_iff.mpr ⟨certificate, about ▸ found, issued, revoked, rfl⟩

/-- There is no entry for a serial number that no certificate has. -/
theorem not_exists_revokedEntry
    (unrevoked : ∀ certificate, (ledger state).Numbered issuerID serialNumber certificate →
      certificate.status ≠ .revoked) (inside : entry ∈ (ledger state).revokedEntries issuerID) :
    entry.serialNumber ≠ serialNumber := by
  obtain ⟨revocation, stored, made⟩ := mem_filterMap.mp inside
  obtain ⟨key, found⟩ := mem_values_iff.mp stored
  obtain ⟨certificate, numbered, revoked, -⟩ := revokedEntry_numbered consistent found made
  rintro rfl
  exact unrevoked certificate numbered revoked

end

end Entries

section Agreement

variable {s : Service} {cfg : s.system.Config} {lower : Char → Char} {reads : OcspReads}
  {algorithm : Core.HashAlgorithm} {hashes : List UInt8 × List UInt8}
  {issuer : Issuer} {serial : Int}

/-- Two entries for one serial number are one. -/
theorem revokedEntry_unique {serialNumber} (once : entries.Pairwise fun entry other =>
      entry.serialNumber = serialNumber → other.serialNumber ≠ serialNumber)
    {other} (inside : entry ∈ entries) (inside' : other ∈ entries)
    (here : entry.serialNumber = serialNumber) (there : other.serialNumber = serialNumber) :
    entry = other := by
  by_contra apart
  have separate : Std.Symm fun entry other : RevokedCertificateEntry =>
      entry.serialNumber = serialNumber → other.serialNumber ≠ serialNumber :=
    ⟨fun _ _ apart second first => apart first second⟩
  exact once.forall inside inside' apart here there

/-- The certificate that is found in the lists of a store. -/
theorem OcspReads.Of.byIssuerSerial (of : reads.Of (ledger state)) (consistent : Consistent s state)
    (named : issuer.id ≠ []) (nonzero : Char.ofNat 0 ∉ issuer.id)
    (numbered : (ledger state).Numbered issuer.id (Core.serialToDecimal serial) certificate) :
    Lifecycle.byIssuerSerial reads.certificates
      (ocspIssuerSerialKey issuer.id (Core.serialToDecimal serial)) = some certificate := by
  have stored : ∀ other, other ∈ reads.certificates ↔
      ∃ key, (ledger state).certificates.lookup key = some other := by
    intro other
    rw [of.certificates.mem_iff, mem_values_iff]
  obtain ⟨found, issued, serials⟩ := numbered
  rw [← issued]
  refine byIssuerSerial_eq ?_ (issued ▸ nonzero) ((stored certificate).mpr found) serials
  intro other inside issued' serials'
  exact Ledger.Numbered.unique consistent named (decimalInt_ne_nil serial) ⟨found, issued, serials⟩
    ⟨(stored other).mp inside, issued'.trans issued, serials'.trans serials⟩

/-- A serial number that no certificate of the issuer has is unknown. -/
theorem OcspReads.Of.byIssuerSerial_none (of : reads.Of (ledger state))
    (nonzero : Char.ofNat 0 ∉ issuer.id) (unused : ∀ certificate,
      ¬ (ledger state).Numbered issuer.id (Core.serialToDecimal serial) certificate) :
    Lifecycle.byIssuerSerial reads.certificates
      (ocspIssuerSerialKey issuer.id (Core.serialToDecimal serial)) = none := by
  refine find?_eq_none.mpr ?_
  intro certificate inside here
  rw [decide_eq_true_eq] at here
  obtain ⟨issued, serials⟩ := ocspIssuerSerialKey_inj nonzero (zero_notMem_serial serial) here
  refine unused certificate ⟨?_, issued, serials⟩
  exact mem_values_iff.mp (of.certificates.mem_iff.mp inside)

/-- The status of a revoked certificate has the date and the reason of its entry. -/
theorem revokedOCSPStatus_of_entry {id} (once : entries.Pairwise fun entry other =>
      entry.serialNumber = certificate.serialNumber → other.serialNumber ≠ certificate.serialNumber)
    (inside : entry ∈ entries) (here : entry.serialNumber = certificate.serialNumber)
    {listed} (same : listed.Perm entries) :
    revokedOCSPStatus lower id certificate listed = {
      ocspStatusForID lower id "revoked" with
      revokedAt := entry.revokedAt, revocationReason := entry.reason.text } := by
  rw [revokedOCSPStatus]
  cases found : listed.find? fun revocation =>
      decide (revocation.serialNumber = certificate.serialNumber) with
  | none =>
    have missed := find?_eq_none.mp found entry (same.mem_iff.mpr inside)
    simp [here] at missed
  | some other =>
    have there := find?_some found
    rw [decide_eq_true_eq] at there
    rw [revokedEntry_unique once inside (same.mem_iff.mp (mem_of_find?_eq_some found)) here there]

/-- The status of the issuer's certificate with the serial number: good when it is valid, revoked
when it is revoked, and unknown when it is neither or there is none. -/
theorem OcspReads.Of.status_cases {state} (of : reads.Of (ledger state))
    (consistent : Consistent s state) (named : issuer.id ≠ [])
    (nonzero : Char.ofNat 0 ∉ issuer.id) :
    (∃ certificate, (ledger state).Numbered issuer.id (Core.serialToDecimal serial) certificate ∧
      certificate.status = .valid ∧
      ocspStatusOf lower reads issuer (requestedID algorithm hashes serial).text =
        ocspStatusForID lower (requestedID algorithm hashes serial).text "good") ∨
    (∃ certificate, (ledger state).Numbered issuer.id (Core.serialToDecimal serial) certificate ∧
      certificate.status = .revoked ∧
      ocspStatusOf lower reads issuer (requestedID algorithm hashes serial).text =
        revokedOCSPStatus lower (requestedID algorithm hashes serial).text certificate
          (reads.revocationsByIssuer issuer.id)) ∨
    ((∀ certificate, (ledger state).Numbered issuer.id (Core.serialToDecimal serial) certificate →
      certificate.status ≠ .valid ∧ certificate.status ≠ .revoked) ∧
      ocspStatusOf lower reads issuer (requestedID algorithm hashes serial).text =
        unknownOCSPStatus lower (requestedID algorithm hashes serial).text) := by
  have text : (requestedID algorithm hashes serial).text.serialNumber =
    Core.serialToDecimal serial := rfl
  by_cases used : ∃ certificate,
      (ledger state).Numbered issuer.id (Core.serialToDecimal serial) certificate
  · obtain ⟨certificate, numbered⟩ := used
    have alone : ∀ other, (ledger state).Numbered issuer.id (Core.serialToDecimal serial) other →
        other = certificate :=
      fun other there => numbered.unique consistent named (decimalInt_ne_nil serial) there
    rw [ocspStatusOf, text, of.byIssuerSerial consistent named nonzero numbered, ← numbered.2.1]
    rw [← numbered.2.1] at alone
    have here := (⟨numbered.1, rfl, numbered.2.2⟩ : (ledger state).Numbered certificate.issuerID
      (Core.serialToDecimal serial) certificate)
    cases status : certificate.status with
    | valid => exact .inl ⟨certificate, here, status, by simp only [status]⟩
    | revoked => exact .inr (.inl ⟨certificate, here, status, by simp only [status]⟩)
    | _ =>
      refine .inr (.inr ⟨?_, by simp only [status]⟩)
      intro other there
      rw [alone other there, status]
      simp
  · have unused : ∀ certificate,
        ¬ (ledger state).Numbered issuer.id (Core.serialToDecimal serial) certificate := by
      simpa using used
    refine .inr (.inr ⟨fun certificate numbered => absurd numbered (unused certificate), ?_⟩)
    rw [ocspStatusOf, text, of.byIssuerSerial_none nonzero unused]

/-- When the answer is the status of the issuer's certificate, the two channels agree. -/
theorem OcspReads.Of.agrees {state} (of : reads.Of (ledger state))
    (consistent : Consistent s state) (revocations : Revocations (ledger state))
    (named : issuer.id ≠ []) (nonzero : Char.ofNat 0 ∉ issuer.id)
    (reports : ∀ answer, reads.Reports lower (requestedID algorithm hashes serial) answer ↔
      answer = ocspStatusOf lower reads issuer (requestedID algorithm hashes serial).text) :
    reads.Agrees lower (ledger state) issuer (requestedID algorithm hashes serial) := by
  have serials : Core.serialToDecimal serial ≠ [] := decimalInt_ne_nil serial
  have once := revokedEntries_once consistent revocations named serials
  have unique : ∀ {certificate other},
      (ledger state).Numbered issuer.id (Core.serialToDecimal serial) certificate →
      (ledger state).Numbered issuer.id (Core.serialToDecimal serial) other → other = certificate :=
    fun one two => one.unique consistent named serials two
  rcases @OcspReads.Of.status_cases s lower reads algorithm hashes issuer serial state of consistent
    named nonzero with ⟨certificate, numbered, valid, status⟩ |
      ⟨certificate, numbered, revoked, status⟩ | ⟨neither, status⟩
  · constructor
    · intro revokedAt reason
      simp only [reports, status, exists_eq_left]
      refine iff_of_false (by simp [ocspStatusForID]) ?_
      rintro ⟨entry, inside, here, -⟩
      refine not_exists_revokedEntry consistent ?_ inside here
      intro other there
      rw [unique numbered there, valid]
      decide
    · exact once
    · simp only [reports, status, exists_eq_left]
      exact iff_of_true rfl ⟨certificate, numbered, valid⟩
  · obtain ⟨entry, inside, here⟩ := (exists_revokedEntry_iff consistent revocations named serials
      numbered).mpr revoked
    rw [revokedOCSPStatus_of_entry (numbered.2.2 ▸ once) inside (here.trans numbered.2.2.symm)
      (of.revocations issuer.id)] at status
    constructor
    · intro revokedAt reason
      simp only [reports, status, exists_eq_left]
      constructor
      · rintro ⟨-, rfl, rfl⟩
        exact ⟨entry, inside, here, rfl, rfl⟩
      · rintro ⟨other, inside', there, rfl, rfl⟩
        cases revokedEntry_unique once inside inside' here there
        exact ⟨rfl, rfl, rfl⟩
    · exact once
    · simp only [reports, status, exists_eq_left]
      refine iff_of_false (by simp [ocspStatusForID]) ?_
      rintro ⟨other, there, valid⟩
      rw [unique numbered there, revoked] at valid
      cases valid
  · constructor
    · intro revokedAt reason
      simp only [reports, status, exists_eq_left]
      refine iff_of_false (by simp [ocspStatusForID, unknownOCSPStatus]) ?_
      rintro ⟨entry, inside, here, -⟩
      exact not_exists_revokedEntry consistent (fun other there =>
        (neither other there).2) inside here
    · exact once
    · simp only [reports, status, exists_eq_left]
      refine iff_of_false (by simp [ocspStatusForID, unknownOCSPStatus]) ?_
      rintro ⟨other, there, valid⟩
      exact (neither other there).1 valid

/-- The ID of a stored issuer came from the generator. -/
theorem issuer_named (ids : s.FreshIDs) (reached : s.Reachable cfg)
    (of : reads.Of (ledger cfg.shared)) (stored : issuer ∈ reads.issuers) :
    ∃ number, issuer.id = s.idgen number := by
  have consistent := reaches_consistent ids reached
  obtain ⟨key, found⟩ := mem_values_iff.mp (of.issuers.mem_iff.mp stored)
  obtain ⟨number, -, named⟩ := consistent.given.issuers key issuer found
  exact ⟨number, (consistent.keyed.issuers key issuer found).trans named⟩

/-- OCSP and the issuer's list agree on a serial number exactly when the core can find the hashes of
every active issuer, or no certificate of the issuer that is valid or revoked has the number. -/
theorem ocsp_agrees_iff (ids : s.FreshIDs) (reached : s.Reachable cfg)
    (of : reads.Of (ledger cfg.shared)) (bears : reads.Bears algorithm hashes issuer)
    (unshared : ∀ other, reads.Bears algorithm hashes other → other = issuer) (serial : Int) :
    reads.Agrees lower (ledger cfg.shared) issuer (requestedID algorithm hashes serial) ↔
      reads.Inspected algorithm ∨ ∀ certificate,
        (ledger cfg.shared).Numbered issuer.id (Core.serialToDecimal serial) certificate →
        certificate.status ≠ .valid ∧ certificate.status ≠ .revoked := by
  have consistent := reaches_consistent ids reached
  have revocations := (reaches_recorded ids reached).revocations
  obtain ⟨number, known⟩ := issuer_named ids reached of bears.stored
  have named : issuer.id ≠ [] := known ▸ ids.ne_nil number
  have nonzero : Char.ofNat 0 ∉ issuer.id := known ▸ ids.nonzero number
  have once := revokedEntries_once consistent revocations named (decimalInt_ne_nil serial)
  by_cases inspected : reads.Inspected algorithm
  · refine iff_of_true ?_ (.inl inspected)
    obtain ⟨found, bears', answered⟩ := @ocspStatuses_single lower _ _ _ _ bears inspected
      serial
    cases unshared found bears'
    refine of.agrees consistent revocations named nonzero ?_
    intro answer
    simp [OcspReads.Reports, answered, eq_comm]
  · have silent : ∀ answer, ¬ reads.Reports lower (requestedID algorithm hashes serial) answer := by
      rintro answer ⟨issuerID, answered⟩
      obtain ⟨err, failed, -⟩ :=
        @ocspStatuses_uninspected lower _ _ inspected hashes serial
      cases failed.symm.trans answered
    constructor
    · intro agrees
      refine .inr fun certificate numbered => ⟨?_, ?_⟩
      · intro valid
        obtain ⟨answer, reported, -⟩ := agrees.good.mpr ⟨certificate, numbered, valid⟩
        exact silent answer reported
      · intro revoked
        obtain ⟨entry, inside, here⟩ := (exists_revokedEntry_iff consistent revocations named
          (decimalInt_ne_nil serial) numbered).mpr revoked
        obtain ⟨answer, reported, -⟩ :=
          (agrees.revoked entry.revokedAt entry.reason.text).mpr ⟨entry, inside, here, rfl, rfl⟩
        exact silent answer reported
    · rintro (all | unused)
      · exact absurd all inspected
      · refine ⟨?_, once, ?_⟩
        · intro revokedAt reason
          constructor
          · rintro ⟨answer, reported, -⟩
            exact absurd reported (silent answer)
          · rintro ⟨entry, inside, here, -⟩
            exact absurd here (not_exists_revokedEntry consistent
              (fun certificate numbered => (unused certificate numbered).2) inside)
        · constructor
          · rintro ⟨answer, reported, -⟩
            exact absurd reported (silent answer)
          · rintro ⟨certificate, numbered, valid⟩
            exact absurd valid (unused certificate numbered).1

end Agreement

/-- The lists of a store, with the hashes that a core finds. -/
def OcspReads.ofLedger (hashes : Text → Text → Except CoreError (List UInt8 × List UInt8))
    (l : Ledger) : OcspReads where
  hashes := hashes
  issuers := l.issuers.values
  certificates := l.certificates.values
  revocationsByIssuer := l.revokedEntries

theorem OcspReads.ofLedger_of (hashes : Text → Text → Except CoreError (List UInt8 × List UInt8))
    (l : Ledger) : (ofLedger hashes l).Of l :=
  ⟨.refl _, .refl _, fun _ => .refl _⟩

/-- The hashes of the certificate of the deployment's issuer. -/
def webHashes : List UInt8 × List UInt8 := (utf8 "root", utf8 "root")

/-- The revoked certificate of the deployment. -/
theorem ocsp_agrees_web : ∃ (cfg : SmallConfig),
    (ofLedger textHashes (ledger cfg.shared)).Agrees id (ledger cfg.shared) webIssuer
      (requestedID .sha256 webHashes 1) ∧
    (ledger cfg.shared).certificates.lookup webCertificate.id =
      some (revokedCopy webCertificate newYear) := by
  obtain ⟨cfg, reached, stored, revoked⟩ := small_revoked
  have issuers : (ofLedger textHashes (ledger cfg.shared)).issuers = [webIssuer] := stored
  have only : ∀ issuer ∈ (ofLedger textHashes (ledger cfg.shared)).issuers,
      issuer = webIssuer := by simp [issuers]
  refine ⟨cfg, (ocsp_agrees_iff small_freshIDs reached (ofLedger_of textHashes _)
    ⟨by simp [issuers], rfl, rfl⟩ (fun other bears => only other bears.stored) 1).mpr
      (.inl ?_), revoked⟩
  intro issuer inside _
  rw [only issuer inside]
  exact ⟨webHashes, rfl⟩

/-- An issuer with a certificate that the core cannot read. -/
def junkIssuer : CreateIssuerRequest := { rootIssuer with name := "junk", certificatePEM := "junk" }

/-- Once that issuer is registered, no answer is given for the valid certificate of the other
one. -/
theorem ocsp_disagrees_junk : ∃ (cfg : SmallConfig), smallService.Reachable cfg ∧
    (ofLedger textHashes (ledger cfg.shared)).Bears .sha256 webHashes webIssuer ∧
    (∀ other, (ofLedger textHashes (ledger cfg.shared)).Bears .sha256 webHashes other →
      other = webIssuer) ∧
    ¬ (ofLedger textHashes (ledger cfg.shared)).Agrees id (ledger cfg.shared) webIssuer
      (requestedID .sha256 webHashes 1) := by
  obtain ⟨⟨_, _, _⟩, plan, log, reached, -, rfl, issuers, issued⟩ :=
    rehearsed_reaches newWorld_initial (configuring ++ enrolling 2 4 ++ issuing 4 1 4 10 ++
        calling 5 1 (.createIssuer {} "admin" junkIssuer) 2) (fun plan =>
      plan.shared.world.db.issuers.values =
        [newIssuer (smallID 8) junkIssuer newYear, webIssuer] ∧
      plan.shared.world.db.certificates.lookup webCertificate.id = some webCertificate)
  have issuers : (ofLedger textHashes (ledger (withLog plan.shared log))).issuers =
      [newIssuer (smallID 8) junkIssuer newYear, webIssuer] := issuers
  refine ⟨_, reached, ⟨by simp [issuers], rfl, rfl⟩, ?_, ?_⟩
  · intro other bears
    have inside := bears.stored
    rw [issuers, mem_cons, mem_singleton] at inside
    rcases inside with rfl | rfl
    · cases bears.found
    · rfl
  · intro agrees
    obtain ⟨answer, ⟨issuerID, answered⟩, -⟩ := agrees.good.mpr ⟨webCertificate,
      ⟨⟨webCertificate.id, issued⟩, rfl, by decide +kernel⟩, rfl⟩
    have uninspected : ¬ (ofLedger textHashes (ledger (withLog plan.shared log))).Inspected
        .sha256 := by
      intro all
      obtain ⟨hashes, found⟩ := all (newIssuer (smallID 8) junkIssuer newYear)
        (by simp [issuers]) rfl
      cases found
    obtain ⟨err, failed, -⟩ :=
      @ocspStatuses_uninspected id _ _ uninspected webHashes 1
    cases failed.symm.trans answered

end AnoPki.Lifecycle
