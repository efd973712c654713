import AnoPki.Lifecycle.Ledger

/-! # Consistency of the ledger

What every step keeps: records are kept under their own keys, and enrollments, issuance attempts and
certificates move together. From a state on, the records that a call has seen keep what it relies
on. -/
namespace AnoPki.Lifecycle

open Foundation Domain Store List Table Ledger EnrollmentSame

/-- Records are kept under their own keys. -/
structure Keyed (l : Ledger) : Prop where
  enrollments : Table.KeyedBy Enrollment.id l.enrollments
  certificates : Table.KeyedBy Certificate.id l.certificates
  attempts : Table.KeyedBy IssuanceAttempt.enrollmentID l.attempts
  orders : Table.KeyedBy ACMEOrder.id l.orders
  authzs : Table.KeyedBy ACMEAuthorization.id l.authzs
  challenges : Table.KeyedBy ACMEChallenge.id l.challenges
  revocations : Table.KeyedBy Revocation.id l.revocations
  identities : Table.KeyedBy Identity.id l.identities
  issuers : Table.KeyedBy Issuer.id l.issuers
  profiles : Table.KeyedBy CertificateProfile.id l.profiles
  accounts : Table.KeyedBy ACMEAccount.id l.accounts
  crls : Table.KeyedBy CRLPublication.id l.crls
  crlClaims : Table.KeyedBy claimKey l.crlClaims

/-- The keys of a table were given out by the generator. -/
def GivenOut {α : Type} (s : Service) (drawn : Nat) (table : Table α) : Prop :=
  ∀ id value, table.lookup id = some value → ∃ number < drawn, id = s.idgen number

/-- The keys of the tables were given out by the generator. -/
structure Given (s : Service) (drawn : Nat) (l : Ledger) : Prop where
  enrollments : GivenOut s drawn l.enrollments
  orders : GivenOut s drawn l.orders
  authzs : GivenOut s drawn l.authzs
  challenges : GivenOut s drawn l.challenges
  revocations : GivenOut s drawn l.revocations
  identities : GivenOut s drawn l.identities
  issuers : GivenOut s drawn l.issuers
  profiles : GivenOut s drawn l.profiles
  accounts : GivenOut s drawn l.accounts
  crls : GivenOut s drawn l.crls

/-- A certificate is the one that the attempt's material and the enrollment make. -/
structure Certifies (enrollment : Enrollment) (attempt : IssuanceAttempt)
    (certificate : Certificate) : Prop where
  id : certificate.id = attempt.certificateID
  serialNumber : certificate.serialNumber = attempt.serialNumber
  certificatePEM : certificate.certificatePEM = attempt.certificatePEM
  notBefore : certificate.notBefore = attempt.notBefore
  notAfter : certificate.notAfter = attempt.notAfter
  enrollmentID : certificate.enrollmentID = enrollment.id
  identityID : certificate.identityID = enrollment.identityID
  issuerID : certificate.issuerID = enrollment.issuerID
  certificateProfileID : certificate.certificateProfileID = enrollment.certificateProfileID
  dnsNames : certificate.dnsNames = enrollment.requestedDNSNames
  ipAddresses : certificate.ipAddresses = enrollment.requestedIPAddresses

/-- An attempt with signed material. -/
def HasMaterial (attempt : IssuanceAttempt) : Prop :=
  attempt.status = .signed ∨ attempt.status = .finalized

/-- Enrollments, issuance attempts and certificates agree. -/
structure Issuance (s : Service) (drawn : Nat) (l : Ledger) : Prop where
  named : ∀ id attempt, l.attempts.lookup id = some attempt → HasMaterial attempt →
    ∃ number < drawn, attempt.certificateID = s.idgen number
  apart : ∀ id attempt id' attempt', l.attempts.lookup id = some attempt → HasMaterial attempt →
    l.attempts.lookup id' = some attempt' → HasMaterial attempt' →
    attempt.certificateID = attempt'.certificateID → id = id'
  issued : ∀ id enrollment, l.enrollments.lookup id = some enrollment →
    enrollment.status = .issued →
    ∃ attempt, l.attempts.lookup id = some attempt ∧ attempt.status = .finalized
  finalized : ∀ id attempt, l.attempts.lookup id = some attempt → attempt.status = .finalized →
    ∃ enrollment certificate, l.enrollments.lookup id = some enrollment ∧
      enrollment.status = .issued ∧
      l.certificates.lookup attempt.certificateID = some certificate ∧
      Certifies enrollment attempt certificate
  certified : ∀ id certificate, l.certificates.lookup id = some certificate →
    ∃ attempt, l.attempts.lookup certificate.enrollmentID = some attempt ∧
      attempt.status = .finalized ∧ attempt.certificateID = id
  serials : ∀ id certificate id' certificate', l.certificates.lookup id = some certificate →
    l.certificates.lookup id' = some certificate' →
    certificate.issuerID = certificate'.issuerID → certificate.issuerID ≠ [] →
    certificate.serialNumber = certificate'.serialNumber → certificate.serialNumber ≠ [] → id = id'

/-- What holds in every state. -/
structure Consistent (s : Service) (state : State) : Prop where
  keyed : Keyed (ledger state)
  given : Given s state.world.drawn (ledger state)
  issuance : Issuance s state.world.drawn (ledger state)
  calls : ∀ number call call', (number, Event.started call) ∈ state.history →
    (number, Event.started call') ∈ state.history → call = call'
  claims : ∀ key claim, (ledger state).crlClaims.lookup key = some claim →
    ∃ issuer, (ledger state).issuers.lookup claim.issuerID = some issuer

/-- The records that a call has seen keep what it relies on. -/
structure Grows (before after : Ledger) : Prop where
  enrollments : Table.Grows EnrollmentSame before.enrollments after.enrollments
  certificates : Table.Grows CertificateSame before.certificates after.certificates
  orders : Table.Grows OrderLater before.orders after.orders
  identities : Table.Grows Eq before.identities after.identities
  issuers : Table.Grows Eq before.issuers after.issuers
  profiles : Table.Grows ProfileSame before.profiles after.profiles
  accounts : Table.Grows AccountLater before.accounts after.accounts

theorem Grows.refl (l : Ledger) : Grows l l where
  enrollments := .refl EnrollmentSame.refl _
  certificates := .refl CertificateSame.refl _
  orders := .refl OrderLater.refl _
  identities := .refl (fun _ => rfl) _
  issuers := .refl (fun _ => rfl) _
  profiles := .refl ProfileSame.refl _
  accounts := .refl AccountLater.refl _

theorem Grows.trans {a b c} (first : Grows a b) (second : Grows b c) : Grows a c where
  enrollments := first.enrollments.trans EnrollmentSame.trans second.enrollments
  certificates := first.certificates.trans CertificateSame.trans second.certificates
  orders := first.orders.trans OrderLater.trans second.orders
  identities := first.identities.trans Eq.trans second.identities
  issuers := first.issuers.trans Eq.trans second.issuers
  profiles := first.profiles.trans ProfileSame.trans second.profiles
  accounts := first.accounts.trans AccountLater.trans second.accounts

/-- What stays true from a state on. -/
structure Later (state later : State) : Prop extends Grows (ledger state) (ledger later) where
  history : state.history <+: later.history
  clock : state.world.clock.nanos ≤ later.world.clock.nanos

theorem Later.refl (state : State) : Later state state :=
  ⟨.refl _, prefix_refl _, le_refl _⟩

theorem Later.trans {a b c} (first : Later a b) (second : Later b c) : Later a c :=
  ⟨first.toGrows.trans second.toGrows, first.history.trans second.history,
    first.clock.trans second.clock⟩

variable {s : Service} {drawn drawn' : Nat} {l : Ledger}

theorem GivenOut.mono {α : Type} {table : Table α} (given : GivenOut s drawn table)
    (more : drawn ≤ drawn') : GivenOut s drawn' table := by
  intro id value found
  obtain ⟨number, small, named⟩ := given id value found
  exact ⟨number, small.trans_le more, named⟩

theorem Given.mono (given : Given s drawn l) (more : drawn ≤ drawn') : Given s drawn' l where
  enrollments := given.enrollments.mono more
  orders := given.orders.mono more
  authzs := given.authzs.mono more
  challenges := given.challenges.mono more
  revocations := given.revocations.mono more
  identities := given.identities.mono more
  issuers := given.issuers.mono more
  profiles := given.profiles.mono more
  accounts := given.accounts.mono more
  crls := given.crls.mono more

theorem GivenOut.insert {α : Type} {table key} {value : α}
    (given : GivenOut s drawn table) (named : ∃ number < drawn, key = s.idgen number) :
    GivenOut s drawn (table.insert key value) := by
  intro id stored found
  rw [lookup_insert_eq] at found
  split at found
  · next same => exact same ▸ named
  · exact given id stored found

/-- An ID that is drawn now is not yet in use. -/
theorem GivenOut.fresh {α : Type} {table : Table α} {number : Nat} (ids : s.FreshIDs)
    (given : GivenOut s drawn table) (new : drawn ≤ number) :
    table.lookup (s.idgen number) = none := by
  rw [Option.eq_none_iff_forall_ne_some]
  intro value found
  obtain ⟨old, small, same⟩ := given _ value found
  have := ids.injective same
  omega

/-- Records that are entered under IDs drawn for them. -/
structure NewRecords {α : Type} (s : Service) (before after : Nat) (key : α → Text)
    (records : List α) : Prop where
  named : ∀ record ∈ records, ∃ number, Drawn before after number ∧ key record = s.idgen number
  distinct : (records.map key).Nodup

namespace NewRecords

variable {α : Type} {key : α → Text} {records : List α} {table : Table α} {id : Text} {record : α}

section

variable (ids : s.FreshIDs) (new : NewRecords s drawn drawn' key records)
  (given : GivenOut s drawn table)

include ids new given

theorem fresh (inside : record ∈ records) : table.lookup (key record) = none := by
  obtain ⟨number, unused, named⟩ := new.named record inside
  rw [named]
  exact given.fresh ids unused.1

/-- The records that were there stay. -/
theorem lookup_old (found : table.lookup id = some record) :
    (insertAll key records table).lookup id = some record := by
  rw [lookup_insertAll_of_notMem, found]
  rintro other inside rfl
  rw [new.fresh ids given inside] at found
  cases found

end

section

variable (new : NewRecords s drawn drawn' key records)

include new

theorem lookup_new (inside : record ∈ records) :
    (insertAll key records table).lookup (key record) = some record :=
  lookup_insertAll_of_mem new.distinct inside

/-- What is found is a new record or an old one. -/
theorem lookup_cases (found : (insertAll key records table).lookup id = some record) :
    (record ∈ records ∧ key record = id) ∨ table.lookup id = some record := by
  rcases lookup_insertAll_cases new.distinct found with inside | ⟨-, old⟩
  · exact .inl inside
  · exact .inr old

theorem givenOut (given : GivenOut s drawn table) (more : drawn ≤ drawn') :
    GivenOut s drawn' (insertAll key records table) := by
  intro id record found
  rcases new.lookup_cases found with ⟨inside, rfl⟩ | old
  · obtain ⟨number, unused, named⟩ := new.named record inside
    exact ⟨number, unused.2, named⟩
  · exact given.mono more id record old

end

/-- Records that were given numbered IDs. -/
theorem of_numbered (ids : s.FreshIDs) {entries : List (Nat × α)} (numbered : ∀ entry ∈ entries,
      Drawn drawn drawn' entry.1 ∧ key entry.2 = s.idgen entry.1)
    (distinct : (entries.map Prod.fst).Nodup) :
    NewRecords s drawn drawn' key (entries.map Prod.snd) where
  named := by
    intro record inside
    obtain ⟨entry, member, rfl⟩ := mem_map.mp inside
    exact ⟨entry.1, numbered entry member⟩
  distinct := by
    have keys : (entries.map Prod.snd).map key = (entries.map Prod.fst).map s.idgen := by
      rw [map_map, map_map]
      exact map_congr_left fun entry member => (numbered entry member).2
    rw [keys]
    exact distinct.map ids.injective

end NewRecords

/-- The messages a transaction posts are new. -/
theorem Told.newRecords (ids : s.FreshIDs) {before after report}
    (told : Told s before after report) :
    NewRecords s before.drawn after.drawn OutboxMessage.id (report.messages.map Prod.snd) :=
  .of_numbered ids told.numbered told.distinct

theorem Told.lookup_cases (ids : s.FreshIDs) {before after report id message}
    (told : Told s before after report) (found : after.db.outbox.lookup id = some message) :
    (∃ entry ∈ report.messages, entry.2 = message ∧ message.id = id) ∨
      before.db.outbox.lookup id = some message := by
  rw [told.outbox] at found
  rcases (told.newRecords ids).lookup_cases found with ⟨inside, named⟩ | old
  · obtain ⟨entry, member, rfl⟩ := mem_map.mp inside
    exact .inl ⟨entry, member, rfl, named⟩
  · exact .inr old

namespace Issuance

section

variable (issuance : Issuance s drawn l)

include issuance

theorem mono (more : drawn ≤ drawn') : Issuance s drawn' l where
  named id attempt found material := by
    obtain ⟨number, small, same⟩ := issuance.named id attempt found material
    exact ⟨number, small.trans_le more, same⟩
  apart := issuance.apart
  issued := issuance.issued
  finalized := issuance.finalized
  certified := issuance.certified
  serials := issuance.serials

/-- A new enrollment. -/
theorem enroll {enrollment} (fresh : l.enrollments.lookup enrollment.id = none)
    (pending : enrollment.status = .pending) : Issuance s drawn (l.putEnrollment enrollment) where
  named := issuance.named
  apart := issuance.apart
  issued id stored found isIssued := by
    rcases of_lookup_insert found with rfl | found
    · rw [pending] at isIssued
      cases isIssued
    · exact issuance.issued id stored found isIssued
  finalized id attempt found isFinalized := by
    obtain ⟨stored, certificate, there, rest⟩ := issuance.finalized id attempt found isFinalized
    refine ⟨stored, certificate, ?_, rest⟩
    rw [putEnrollment, lookup_insert_eq, if_neg, there]
    rintro rfl
    simp [fresh] at there
  certified := issuance.certified
  serials := issuance.serials

/-- A decision about an enrollment. -/
theorem decide {stored enrollment}
    (found : l.enrollments.lookup enrollment.id = some stored) (pending : stored.status = .pending)
    (undecided : enrollment.status ≠ .issued) : Issuance s drawn (l.putEnrollment enrollment) where
  named := issuance.named
  apart := issuance.apart
  issued id current there isIssued := by
    rcases of_lookup_insert there with rfl | there
    · exact absurd isIssued undecided
    · exact issuance.issued id current there isIssued
  finalized id attempt there isFinalized := by
    obtain ⟨current, certificate, here, isIssued, rest⟩ :=
      issuance.finalized id attempt there isFinalized
    refine ⟨current, certificate, ?_, isIssued, rest⟩
    rw [putEnrollment, lookup_insert_eq, if_neg, here]
    rintro rfl
    rw [found] at here
    cases here
    rw [pending] at isIssued
    cases isIssued
  certified := issuance.certified
  serials := issuance.serials

/-- An attempt that is not finalized takes the place of one that was not either; material it has got
is under a new ID. -/
theorem attempt (ids : s.FreshIDs) {attempt} (more : drawn ≤ drawn')
    (oldOpen : ∀ stored, l.attempts.lookup attempt.enrollmentID = some stored →
      stored.status ≠ .finalized) (newOpen : attempt.status ≠ .finalized)
    (fresh : attempt.status = .signed →
      ∃ number, Drawn drawn drawn' number ∧ attempt.certificateID = s.idgen number) :
    Issuance s drawn' (l.putAttempt attempt) where
  named id stored found material := by
    rcases of_lookup_insert found with rfl | found
    · obtain ⟨number, new, same⟩ := fresh (material.resolve_right newOpen)
      exact ⟨number, new.2, same⟩
    · exact (issuance.mono more).named id stored found material
  apart id stored id' stored' found material found' material' same := by
    simp only [putAttempt, lookup_insert_eq] at found found'
    -- New material has an ID that no earlier material has.
    have clash : ∀ id old, l.attempts.lookup id = some old → HasMaterial old →
        attempt.status = .signed → old.certificateID ≠ attempt.certificateID := by
      intro id old there oldMaterial signed again
      obtain ⟨number, small, name⟩ := issuance.named id old there oldMaterial
      obtain ⟨number', new, name'⟩ := fresh signed
      have := ids.injective (name.symm.trans (again.trans name'))
      have := new.1
      omega
    split at found <;> split at found'
    · next here here' => exact here.trans here'.symm
    · cases found
      exact absurd same.symm (clash _ _ found' material' (material.resolve_right newOpen))
    · cases found'
      exact absurd same (clash _ _ found material (material'.resolve_right newOpen))
    · exact issuance.apart id stored id' stored' found material found' material' same
  issued id enrollment found isIssued := by
    obtain ⟨stored, there, isFinalized⟩ := issuance.issued id enrollment found isIssued
    refine ⟨stored, ?_, isFinalized⟩
    rw [putAttempt, lookup_insert_eq, if_neg, there]
    rintro rfl
    exact oldOpen stored there isFinalized
  finalized id stored found isFinalized := by
    rcases of_lookup_insert found with rfl | found
    · exact absurd isFinalized newOpen
    · exact issuance.finalized id stored found isFinalized
  certified id certificate found := by
    obtain ⟨stored, there, isFinalized, same⟩ := issuance.certified id certificate found
    refine ⟨stored, ?_, isFinalized, same⟩
    rw [putAttempt, lookup_insert_eq, if_neg, there]
    intro here
    exact oldOpen stored (here ▸ there) isFinalized
  serials := issuance.serials

/-- The ID of signed material is not yet that of a certificate. -/
theorem unused {id attempt} (found : l.attempts.lookup id = some attempt)
    (signed : attempt.status = .signed) : l.certificates.lookup attempt.certificateID = none := by
  rw [Option.eq_none_iff_forall_ne_some]
  intro certificate there
  obtain ⟨owner, here, isFinalized, same⟩ := issuance.certified _ certificate there
  have same := issuance.apart _ owner id attempt here (.inr isFinalized) found (.inl signed) same
  rw [same, found] at here
  cases here
  rw [signed] at isFinalized
  cases isFinalized

/-- The transaction that stores the certificate. -/
theorem finalize (keyed : Keyed l) {enrollment attempt now}
    (there : l.attempts.lookup enrollment.id = some attempt)
    (owner : attempt.enrollmentID = enrollment.id) (signed : attempt.status = .signed)
    (free : ∀ id existing, l.certificates.lookup id = some existing →
      ¬ CertificateBlocks existing (issuedCertificate enrollment attempt now)) :
    Issuance s drawn (((l.putEnrollment { enrollment with status := .issued, updatedAt := now }
      ).putCertificate (issuedCertificate enrollment attempt now)
      ).putAttempt (finalizedAttempt attempt now)) := by
  -- An attempt with material had the same material before.
  have before : ∀ id stored, (l.attempts.insert enrollment.id (finalizedAttempt attempt now)).lookup
      id = some stored → HasMaterial stored → ∃ old, l.attempts.lookup id = some old ∧
      HasMaterial old ∧ old.certificateID = stored.certificateID := by
    intro id stored found material
    rw [lookup_insert_eq] at found
    split at found
    · next here =>
      cases found
      exact ⟨attempt, here ▸ there, .inl signed, rfl⟩
    · exact ⟨stored, found, material, rfl⟩
  have key : (finalizedAttempt attempt now).enrollmentID = enrollment.id := owner
  constructor
  case named =>
    intro id stored found material
    rw [putAttempt, key] at found
    obtain ⟨old, found, material, same⟩ := before id stored found material
    exact same ▸ issuance.named id old found material
  case apart =>
    intro id stored id' stored' found material found' material' same
    rw [putAttempt, key] at found found'
    obtain ⟨old, found, material, name⟩ := before id stored found material
    obtain ⟨old', found', material', name'⟩ := before id' stored' found' material'
    exact issuance.apart id old id' old' found material found' material' (by rw [name, name', same])
  case issued =>
    intro id stored found isIssued
    simp only [putAttempt, putCertificate, putEnrollment, key, lookup_insert_eq] at found ⊢
    split at found
    · next here => exact ⟨_, if_pos here, rfl⟩
    · next elsewhere =>
      obtain ⟨old, found, isFinalized⟩ := issuance.issued id stored found isIssued
      exact ⟨old, by rw [if_neg elsewhere, found], isFinalized⟩
  case finalized =>
    intro id stored found isFinalized
    simp only [putAttempt, putCertificate, putEnrollment, key, lookup_insert_eq] at found ⊢
    split at found
    · next here =>
      cases found
      refine ⟨_, _, if_pos here, rfl, if_pos rfl, ?_⟩
      exact ⟨rfl, rfl, rfl, rfl, rfl, rfl, rfl, rfl, rfl, rfl, rfl⟩
    · next elsewhere =>
      obtain ⟨owner, certificate, ownerFound, isIssued, certificateFound, certifies⟩ :=
        issuance.finalized id stored found isFinalized
      refine ⟨owner, certificate, by rw [if_neg elsewhere, ownerFound], isIssued, ?_, certifies⟩
      rw [if_neg, certificateFound]
      intro same
      exact elsewhere (issuance.apart id stored _ attempt found (.inr isFinalized) there
        (.inl signed) same)
  case certified =>
    intro id certificate found
    simp only [putAttempt, putCertificate, putEnrollment, key, lookup_insert_eq] at found ⊢
    split at found
    · next here =>
      cases found
      exact ⟨_, if_pos rfl, rfl, here.symm⟩
    · obtain ⟨old, oldFound, isFinalized, same⟩ := issuance.certified id certificate found
      refine ⟨old, ?_, isFinalized, same⟩
      rw [if_neg, oldFound]
      intro here
      rw [here, there] at oldFound
      cases oldFound
      rw [signed] at isFinalized
      cases isFinalized
  case serials =>
    -- A certificate with the issuer and serial number of the new one would have blocked it.
    have clash : ∀ id existing, l.certificates.lookup id = some existing →
        existing.issuerID = enrollment.issuerID → enrollment.issuerID ≠ [] →
        existing.serialNumber = attempt.serialNumber → attempt.serialNumber ≠ [] →
        id = attempt.certificateID := by
      intro id existing found issuer issuerNamed serial serialNamed
      by_contra other
      refine free id existing found ⟨?_, .inr ⟨issuerNamed, serialNamed, issuer, serial⟩⟩
      rw [keyed.certificates id existing found]
      exact other
    intro id certificate id' certificate' found found' issuer issuerNamed serial serialNamed
    simp only [putAttempt, putCertificate, putEnrollment, lookup_insert_eq] at found found'
    split at found <;> split at found'
    · next here here' => exact here.trans here'.symm
    · next here _ =>
      cases found
      exact here.trans (clash id' certificate' found' issuer.symm issuerNamed serial.symm
        serialNamed).symm
    · next _ here =>
      cases found'
      exact (clash id certificate found issuer (fun blank =>
        issuerNamed (issuer.trans blank)) serial fun blank =>
          serialNamed (serial.trans blank)).trans here.symm
    · exact issuance.serials id certificate id' certificate' found found' issuer issuerNamed serial
        serialNamed

/-- Other versions of the certificates. -/
theorem recertify {certificates revocations}
    (forth : Table.Grows CertificateSame l.certificates certificates)
    (back : ∀ id certificate, certificates.lookup id = some certificate →
      ∃ stored, l.certificates.lookup id = some stored ∧ CertificateSame stored certificate) :
    Issuance s drawn { l with certificates, revocations } where
  named := issuance.named
  apart := issuance.apart
  issued := issuance.issued
  finalized id attempt found isFinalized := by
    obtain ⟨enrollment, stored, there, isIssued, here, certifies⟩ :=
      issuance.finalized id attempt found isFinalized
    obtain ⟨certificate, new, same⟩ := forth _ stored here
    refine ⟨enrollment, certificate, there, isIssued, new, ?_⟩
    rw [same]
    exact ⟨certifies.id, certifies.serialNumber, certifies.certificatePEM, certifies.notBefore,
      certifies.notAfter, certifies.enrollmentID, certifies.identityID, certifies.issuerID,
      certifies.certificateProfileID, certifies.dnsNames, certifies.ipAddresses⟩
  certified id certificate found := by
    obtain ⟨stored, there, same⟩ := back id certificate found
    rw [same]
    exact issuance.certified id stored there
  serials id certificate id' certificate' found found' := by
    obtain ⟨stored, there, same⟩ := back id certificate found
    obtain ⟨stored', there', same'⟩ := back id' certificate' found'
    rw [same, same']
    exact issuance.serials id stored id' stored' there there'

end

end Issuance

section Recertify

variable {call : Nat} {before : State} {updates : List CertificateUpdate}

theorem CertificateSame.id_eq {old new} (same : CertificateSame old new) :
    new.id = old.id := by rw [same]

section

variable (legal : ∀ update ∈ updates, update.Legal s call before drawn)
  (distinct : (updates.map fun update => update.old.id).Nodup)

include legal distinct

theorem recertify_distinct : ((updates.map CertificateUpdate.new).map Certificate.id).Nodup := by
  rw [map_map]
  convert distinct using 1
  apply map_congr_left
  intro update inside
  exact (legal update inside).same.id_eq

/-- A certificate after updates: an updated one, or one that no update is about. -/
theorem recertify_cases {id certificate}
    (found : ((ledger before).recertify updates).certificates.lookup id = some certificate) :
    (∃ update ∈ updates, update.new = certificate ∧ update.old.id = id) ∨
      ((∀ update ∈ updates, update.old.id ≠ id) ∧
        (ledger before).certificates.lookup id = some certificate) := by
  rcases lookup_insertAll_cases (recertify_distinct legal distinct) found with
    ⟨inside, rfl⟩ | ⟨others, there⟩
  · obtain ⟨update, member, rfl⟩ := mem_map.mp inside
    exact .inl ⟨update, member, rfl, (legal update member).same.id_eq.symm⟩
  · refine .inr ⟨?_, there⟩
    intro update member same
    exact others update.new (mem_map_of_mem member) ((legal update member).same.id_eq.trans same)

/-- The certificate of an update after it. -/
theorem recertify_updated {update} (member : update ∈ updates) :
    ((ledger before).recertify updates).certificates.lookup update.old.id = some update.new := by
  rw [← (legal update member).same.id_eq]
  exact lookup_insertAll_of_mem (recertify_distinct legal distinct) (mem_map_of_mem member)

end

section

variable (legal : ∀ update ∈ updates, update.Legal s call before drawn)

include legal

/-- A certificate that no update is about. -/
theorem recertify_other {id} (other : ∀ update ∈ updates, update.old.id ≠ id) :
    ((ledger before).recertify updates).certificates.lookup id =
      (ledger before).certificates.lookup id := by
  apply lookup_insertAll_of_notMem
  intro certificate inside same
  obtain ⟨update, member, rfl⟩ := mem_map.mp inside
  exact other update member ((legal update member).same.id_eq.symm.trans same)

theorem recertify_forth (distinct : (updates.map fun update => update.old.id).Nodup) :
    Table.Grows CertificateSame (ledger before).certificates
      ((ledger before).recertify updates).certificates := by
  intro id certificate found
  by_cases touched : ∃ update ∈ updates, update.old.id = id
  · obtain ⟨update, member, rfl⟩ := touched
    have old := (legal update member).found
    rw [found] at old
    cases old
    exact ⟨update.new, recertify_updated legal distinct member, (legal update member).same⟩
  · have other : ∀ update ∈ updates, update.old.id ≠ id := by simpa using touched
    exact ⟨certificate, by rw [recertify_other legal other, found], .refl _⟩

theorem recertify_back (distinct : (updates.map fun update => update.old.id).Nodup) (id : Text)
    (certificate : Certificate)
    (found : ((ledger before).recertify updates).certificates.lookup id = some certificate) :
    ∃ stored, (ledger before).certificates.lookup id = some stored ∧
      CertificateSame stored certificate := by
  rcases recertify_cases legal distinct found with ⟨update, member, rfl, rfl⟩ | ⟨-, there⟩
  · exact ⟨update.old, (legal update member).found, (legal update member).same⟩
  · exact ⟨certificate, there, .refl _⟩

end

end Recertify

/-- The IDs of a new order, its authorizations and its challenges. -/
theorem OpenedOrder.Fresh.newRecords {opened : OpenedOrder} (ids : s.FreshIDs)
    (fresh : opened.Fresh s drawn drawn') :
    (∃ number, Drawn drawn drawn' number ∧ opened.order.id = s.idgen number) ∧
      NewRecords s drawn drawn' ACMEAuthorization.id (opened.parts.map Prod.fst) ∧
      NewRecords s drawn drawn' ACMEChallenge.id (opened.parts.map Prod.snd) := by
  obtain ⟨numbers, distinct, inside, same⟩ := fresh.numbered
  have named : ∀ id ∈ opened.ids, ∃ number, Drawn drawn drawn' number ∧ id = s.idgen number := by
    intro id member
    rw [same] at member
    obtain ⟨number, there, rfl⟩ := mem_map.mp member
    exact ⟨number, inside number there, rfl⟩
  have apart : opened.ids.Nodup := same ▸ distinct.map ids.injective
  rw [OpenedOrder.ids, nodup_cons] at apart
  have part : ∀ part ∈ opened.parts, part.1.id ∈ opened.ids ∧ part.2.id ∈ opened.ids := by
    intro part member
    constructor <;> exact mem_cons_of_mem _ (mem_flatMap.mpr ⟨part, member, by simp⟩)
  refine ⟨named _ mem_cons_self, ⟨?_, ?_⟩, ?_, ?_⟩
  · intro authorization member
    obtain ⟨pair, there, rfl⟩ := mem_map.mp member
    exact named _ (part pair there).1
  · exact (nodup_parts apart.2).1
  · intro challenge member
    obtain ⟨pair, there, rfl⟩ := mem_map.mp member
    exact named _ (part pair there).2
  · exact (nodup_parts apart.2).2
where
  nodup_parts {parts : List (ACMEAuthorization × ACMEChallenge)}
      (apart : (parts.flatMap fun part => [part.1.id, part.2.id]).Nodup) :
      ((parts.map Prod.fst).map ACMEAuthorization.id).Nodup ∧
        ((parts.map Prod.snd).map ACMEChallenge.id).Nodup := by
    induction parts with
    | nil => exact ⟨nodup_nil, nodup_nil⟩
    | cons part parts ih =>
      simp only [flatMap_cons, cons_append, nil_append, nodup_cons,
        mem_cons, mem_flatMap, not_or, not_exists, not_and] at apart
      obtain ⟨⟨-, first⟩, second, rest⟩ := apart
      obtain ⟨left, right⟩ := ih rest
      constructor
      · rw [map_cons, map_cons, nodup_cons]
        refine ⟨?_, left⟩
        rw [map_map, mem_map]
        rintro ⟨other, member, same⟩
        exact (first other member).1 same.symm
      · rw [map_cons, map_cons, nodup_cons]
        refine ⟨?_, right⟩
        rw [map_map, mem_map]
        rintro ⟨other, member, same⟩
        exact (second other member).2.1 same.symm

section Recorded

variable {call : Nat} {before : State} {updates : List CertificateUpdate}

/-- A revocation is recorded with the update that revokes its certificate. -/
theorem mem_recordedRevocations (legal : ∀ update ∈ updates, update.Legal s call before drawn)
    {entry} (inside : entry ∈ recordedRevocations updates) :
    ∃ update ∈ updates, update.revocation = some entry ∧ update.new.status = .revoked ∧
      Drawn before.world.drawn drawn entry.1 ∧ entry.2.id = s.idgen entry.1 ∧
      entry.2.certificateID = update.old.id := by
  obtain ⟨update, member, given⟩ := mem_filterMap.mp inside
  have revoked : update.new.status = .revoked := by
    by_contra kept
    rw [(legal update member).unrecorded kept] at given
    cases given
  obtain ⟨number, revocation, same, fresh, named, about⟩ := (legal update member).recorded revoked
  cases Option.mem_unique same given
  exact ⟨update, member, given, revoked, fresh, named, about⟩

/-- The revocations recorded with updates have new IDs. -/
theorem recordedRevocations_new (ids : s.FreshIDs)
    (legal : ∀ update ∈ updates, update.Legal s call before drawn)
    (apart : ((recordedRevocations updates).map Prod.fst).Nodup) :
    NewRecords s before.world.drawn drawn Revocation.id
      ((recordedRevocations updates).map Prod.snd) := by
  refine .of_numbered ids ?_ apart
  intro entry inside
  obtain ⟨update, -, -, -, fresh, named, -⟩ := mem_recordedRevocations legal inside
  exact ⟨fresh, named⟩

end Recorded

section Changes

variable {call : Nat} {before : State} {event : Option Event} {report : Report} {after : Ledger}

/-- An ACME change leaves the other tables alone. -/
theorem AcmeChange.frame (change : AcmeChange l after) : after = { l with
      orders := after.orders
      authzs := after.authzs
      challenges := after.challenges } := by
  cases change <;> rfl

/-- A change of the configuration leaves the other tables alone. -/
theorem ConfigChange.frame (change : ConfigChange s drawn drawn' l after) : after = { l with
      identities := after.identities
      issuers := after.issuers
      profiles := after.profiles
      accounts := after.accounts } := by
  cases change <;> rfl

/-- The publication of a list leaves the other tables alone. -/
theorem CrlChange.frame {event} (change : CrlChange s call before drawn event after) :
    after = { ledger before with
      crls := after.crls
      crlClaims := after.crlClaims } := by
  cases change <;> rfl

theorem AcmeChange.keyed (change : AcmeChange l after) (keyed : Keyed l) : Keyed after := by
  cases change with
  | processing | completed => exact { keyed with challenges := keyed.challenges.insert _ }
  | authorized =>
    exact { keyed with
      challenges := keyed.challenges.insert _
      authzs := keyed.authzs.insert _ }
  | readied =>
    exact { keyed with
      challenges := keyed.challenges.insert _
      authzs := keyed.authzs.insert _
      orders := keyed.orders.insert _ }
  | invalidated | finalized => exact { keyed with orders := keyed.orders.insert _ }

theorem ConfigChange.keyed (change : ConfigChange s drawn drawn' l after) (keyed : Keyed l) :
    Keyed after := by
  cases change with
  | identity => exact { keyed with identities := keyed.identities.insert _ }
  | issuer => exact { keyed with issuers := keyed.issuers.insert _ }
  | profile | profileIssuer => exact { keyed with profiles := keyed.profiles.insert _ }
  | account | accountUpdated => exact { keyed with accounts := keyed.accounts.insert _ }

theorem CrlChange.keyed {event} (change : CrlChange s call before drawn event after)
    (keyed : Keyed (ledger before)) : Keyed after := by
  cases change with
  | claimedFirst | claimedAgain => exact { keyed with crlClaims := keyed.crlClaims.insert _ }
  | listed | requested => exact keyed
  | published =>
    exact { keyed with
      crls := keyed.crls.insert _
      crlClaims := keyed.crlClaims.erase _ }
  | released => exact { keyed with crlClaims := keyed.crlClaims.erase _ }

theorem Change.keyed (change : Change s call before drawn event report after)
    (keyed : Keyed (ledger before)) : Keyed after := by
  cases change with
  | idle | requested => exact keyed
  | configured change | crl change | acme change => exact change.keyed keyed
  | enrolled | decided => exact { keyed with enrollments := keyed.enrollments.insert _ }
  | claimedFirst | claimedAgain | persisted | markedFailed =>
    exact { keyed with attempts := keyed.attempts.insert _ }
  | finalized =>
    exact { keyed with
      enrollments := keyed.enrollments.insert _
      certificates := keyed.certificates.insert _
      attempts := keyed.attempts.insert _ }
  | recertified =>
    exact { keyed with
      certificates := keyed.certificates.insertAll
      revocations := keyed.revocations.insertAll }
  | opened =>
    exact { keyed with
      orders := keyed.orders.insert _
      authzs := keyed.authzs.insertAll
      challenges := keyed.challenges.insertAll }

theorem AcmeChange.given (change : AcmeChange l after) (given : Given s drawn l) :
    Given s drawn after := by
  cases change with
  | processing opened | completed opened =>
    exact { given with challenges := given.challenges.insert (given.challenges _ _ opened.found) }
  | authorized opened =>
    exact { given with
      challenges := given.challenges.insert (given.challenges _ _ opened.found)
      authzs := given.authzs.insert (given.authzs _ _ opened.held) }
  | readied opened _ found =>
    exact { given with
      challenges := given.challenges.insert (given.challenges _ _ opened.found)
      authzs := given.authzs.insert (given.authzs _ _ opened.held)
      orders := given.orders.insert (given.orders _ _ found) }
  | invalidated found | finalized found =>
    exact { given with orders := given.orders.insert (given.orders _ _ found) }

theorem ConfigChange.given (change : ConfigChange s drawn drawn' l after)
    (given : Given s drawn' l) : Given s drawn' after := by
  cases change with
  | identity fresh named =>
    exact { given with identities := given.identities.insert ⟨_, fresh.2, named⟩ }
  | issuer fresh named => exact { given with issuers := given.issuers.insert ⟨_, fresh.2, named⟩ }
  | profile fresh named =>
    exact { given with profiles := given.profiles.insert ⟨_, fresh.2, named⟩ }
  | profileIssuer found =>
    exact { given with profiles := given.profiles.insert (given.profiles _ _ found) }
  | account fresh named =>
    exact { given with accounts := given.accounts.insert ⟨_, fresh.2, named⟩ }
  | accountUpdated found =>
    exact { given with accounts := given.accounts.insert (given.accounts _ _ found) }

theorem CrlChange.given {event} (change : CrlChange s call before drawn event after)
    (given : Given s drawn (ledger before)) : Given s drawn after := by
  cases change with
  | published _ fresh named =>
    exact { given with crls := given.crls.insert ⟨_, fresh.2, named⟩ }
  | _ => exact { given with }

theorem Change.given (ids : s.FreshIDs) (consistent : Consistent s before)
    (change : Change s call before drawn event report after)
    (more : before.world.drawn ≤ drawn) : Given s drawn after := by
  have given := consistent.given.mono more
  cases change with
  | configured change | crl change | acme change => exact change.given given
  | enrolled fresh named =>
    exact { given with enrollments := given.enrollments.insert ⟨_, fresh.2, named⟩ }
  | decided found | finalized found =>
    exact { given with enrollments := given.enrollments.insert (given.enrollments _ _ found) }
  | recertified legal _ apart =>
    exact { given with
      revocations := (recordedRevocations_new ids legal apart).givenOut consistent.given.revocations
        more }
  | opened fresh =>
    obtain ⟨⟨number, unused, named⟩, authzs, challenges⟩ := fresh.newRecords ids
    exact { given with
      orders := given.orders.insert ⟨number, unused.2, named⟩
      authzs := authzs.givenOut consistent.given.authzs more
      challenges := challenges.givenOut consistent.given.challenges more }
  | _ => exact { given with }

/-- The orders an ACME change leaves. -/
theorem AcmeChange.grows (change : AcmeChange l after) :
    Table.Grows OrderLater l.orders after.orders := by
  have put : ∀ {stored order : ACMEOrder}, l.orders.lookup order.id = some stored →
      OrderSame stored order → order.status ≠ .pending →
      Table.Grows OrderLater l.orders (l.orders.insert order.id order) := by
    intro stored order found same decided
    exact .replace OrderLater.refl found ⟨same, fun pending => absurd pending decided⟩
  cases change with
  | processing | completed | authorized => exact .refl OrderLater.refl _
  | readied _ _ found => exact put found rfl (by simp)
  | invalidated found _ same invalid => exact put found same (by simp [invalid])
  | finalized found _ same valid => exact put found same (by simp [valid])

theorem Issuance.of_eq {after} (issuance : Issuance s drawn l)
    (enrollments : after.enrollments = l.enrollments)
    (certificates : after.certificates = l.certificates) (attempts : after.attempts = l.attempts) :
    Issuance s drawn after := by
  constructor
  all_goals simp only [enrollments, certificates, attempts]
  · exact issuance.named
  · exact issuance.apart
  · exact issuance.issued
  · exact issuance.finalized
  · exact issuance.certified
  · exact issuance.serials

theorem Change.issuance (ids : s.FreshIDs) (consistent : Consistent s before)
    (change : Change s call before drawn event report after)
    (more : before.world.drawn ≤ drawn) : Issuance s drawn after := by
  have issuance := consistent.issuance
  have same := issuance.mono more
  cases change with
  | idle | requested => exact same
  | configured change | crl change | acme change =>
    have frame := change.frame
    exact same.of_eq (by rw [frame]) (by rw [frame]) (by rw [frame])
  | enrolled fresh named pending =>
    refine same.enroll ?_ pending
    rw [named]
    exact consistent.given.enrollments.fresh ids fresh.1
  | decided found pending _ decision =>
    refine same.decide found pending ?_
    rcases decision with ⟨approved, -⟩ | ⟨rejected, -⟩
    · simp [approved]
    · simp [rejected]
  | claimedFirst free =>
    refine issuance.attempt ids more ?_ (by simp [firstAttempt]) (by simp [firstAttempt])
    intro stored there
    simp [firstAttempt, free] at there
  | claimedAgain found free =>
    refine issuance.attempt ids more ?_ (by simp [reclaimed]) (by simp [reclaimed])
    intro stored there
    cases Option.mem_unique found there
    rcases free with failed | ⟨signing, -⟩
    · simp [failed]
    · simp [signing]
  | persisted _ signing found token fresh =>
    refine issuance.attempt ids more ?_ (by simp [signedAttempt]) fun _ => ⟨_, fresh, rfl⟩
    intro stored there
    cases Option.mem_unique found there
    simp [token.1, signing]
  | finalized _ _ there owner signed free =>
    exact same.finalize consistent.keyed there owner signed free
  | markedFailed found token signed =>
    refine issuance.attempt ids more ?_ (by simp [failedAttempt]) (by simp [failedAttempt])
    intro stored there
    cases Option.mem_unique found there
    simp [token.1, signed]
  | recertified legal distinct =>
    exact same.recertify (recertify_forth legal distinct) (recertify_back legal distinct)
  | opened => exact same.of_eq rfl rfl rfl

/-- Writing a record under an ID that was just drawn. -/
theorem GivenOut.grows {α : Type} {table} {number : Nat} {id} {value : α}
    {same} (ids : s.FreshIDs) (given : GivenOut s drawn table)
    (reflexive : ∀ value, same value value) (new : drawn ≤ number) (named : id = s.idgen number) :
    Table.Grows same table (table.insert id value) := by
  refine .insert reflexive ?_
  intro stored there
  rw [named, given.fresh ids new] at there
  cases there

theorem ConfigChange.grows (ids : s.FreshIDs) (given : Given s drawn l)
    (change : ConfigChange s drawn drawn' l after) : Grows l after := by
  have same := Grows.refl l
  cases change with
  | identity fresh named =>
    exact { same with identities := given.identities.grows ids (fun _ => rfl) fresh.1 named }
  | issuer fresh named =>
    exact { same with issuers := given.issuers.grows ids (fun _ => rfl) fresh.1 named }
  | profile fresh named =>
    exact { same with profiles := given.profiles.grows ids ProfileSame.refl fresh.1 named }
  | profileIssuer found agrees =>
    exact { same with profiles := .replace ProfileSame.refl found agrees }
  | account fresh named =>
    exact { same with accounts := given.accounts.grows ids AccountLater.refl fresh.1 named }
  | accountUpdated found valid named =>
    refine { same with accounts := .replace AccountLater.refl found ⟨named, ?_⟩ }
    intro inactive
    rw [valid] at inactive
    cases inactive

section

variable (ids : s.FreshIDs) (consistent : Consistent s before)

include ids consistent

/-- What a call has seen before a change is there after it. -/
theorem Change.grows (change : Change s call before drawn event report after) :
    Grows (ledger before) after := by
  have same := Grows.refl (ledger before)
  have given := consistent.given
  cases change with
  | configured change => exact change.grows ids given
  | crl change =>
    rw [change.frame]
    exact { same with }
  | enrolled fresh named =>
    exact { same with enrollments := given.enrollments.grows ids refl fresh.1 named }
  | decided found _ agrees =>
    exact { same with enrollments := .replace refl found agrees }
  | finalized found _ attempt _ signed =>
    refine { same with
      enrollments := .replace refl found rfl
      certificates := .insert CertificateSame.refl ?_ }
    intro stored there
    have unused := consistent.issuance.unused attempt signed
    simp [issuedCertificate, unused] at there
  | recertified legal distinct =>
    exact { same with certificates := recertify_forth legal distinct }
  | opened fresh =>
    obtain ⟨⟨number, unused, named⟩, -⟩ := fresh.newRecords ids
    exact { same with orders := given.orders.grows ids OrderLater.refl unused.1 named }
  | acme change =>
    have orders := change.grows
    rw [change.frame]
    exact { same with orders := orders }
  | _ => exact { same with }

/-- The issuers of claims stay known. -/
theorem Change.claims (change : Change s call before drawn event report after) (key : Text)
    (claim : CRLGenerationClaim) (found : after.crlClaims.lookup key = some claim) :
    ∃ issuer, after.issuers.lookup claim.issuerID = some issuer := by
  have later : ∀ issuerID issuer, (ledger before).issuers.lookup issuerID = some issuer →
      ∃ issuer, after.issuers.lookup issuerID = some issuer := by
    intro issuerID issuer known
    obtain ⟨stored, there, -⟩ := (change.grows ids consistent).issuers issuerID issuer known
    exact ⟨stored, there⟩
  have old : (ledger before).crlClaims.lookup key = some claim →
      ∃ issuer, after.issuers.lookup claim.issuerID = some issuer := by
    intro there
    obtain ⟨issuer, known⟩ := consistent.claims key claim there
    exact later _ issuer known
  have put : ∀ {new : CRLGenerationClaim} {issuer : Issuer},
      ((ledger before).crlClaims.insert (claimKey new) new).lookup key = some claim →
      (ledger before).issuers.lookup new.issuerID = some issuer →
      ∃ issuer, after.issuers.lookup claim.issuerID = some issuer := by
    intro new issuer there known
    rcases of_lookup_insert there with rfl | there
    · exact later _ issuer known
    · exact old there
  have drop : ∀ {key' : Text}, ((ledger before).crlClaims.erase key').lookup key = some claim →
      ∃ issuer, after.issuers.lookup claim.issuerID = some issuer := by
    intro key' there
    rw [lookup_erase_eq] at there
    split at there
    · cases there
    · exact old there
  cases change with
  | crl change =>
    cases change with
    | claimedFirst known | claimedAgain known => exact put found known
    | listed | requested => exact old found
    | published | released => exact drop found
  | configured change | acme change =>
    rw [change.frame] at found
    exact old found
  | _ => exact old found

/-- The issuer and distribution point of a stored claim are those it is looked up by. -/
theorem Consistent.claim_pair {issuerID distributionPoint issuer claim}
    (known : (ledger before).issuers.lookup issuerID = some issuer)
    (found : (ledger before).crlClaims.lookup (crlGenerationClaimKey issuerID distributionPoint) =
      some claim) : claim.issuerID = issuerID ∧ claim.distributionPoint = distributionPoint := by
  have nonzero : ∀ {id : Text} {issuer : Issuer},
      (ledger before).issuers.lookup id = some issuer → Char.ofNat 0 ∉ id := by
    intro id issuer there
    obtain ⟨number, -, rfl⟩ := consistent.given.issuers id issuer there
    exact ids.nonzero number
  obtain ⟨issuer', known'⟩ := consistent.claims _ claim found
  exact crlClaimKey_inj (nonzero known') (nonzero known)
    (consistent.keyed.crlClaims _ claim found)

end

/-- The lifecycle starts no call and leaves no event of the outbox, the keys or the responders. -/
theorem Change.leaves (change : Change s call before drawn event report after) :
    (∀ started, event ≠ some (.started started)) ∧ (∀ left, event ≠ some (.outbox left)) ∧
      (∀ left, event ≠ some (.apiKey left)) ∧ ∀ left, event ≠ some (.responder left) := by
  refine ⟨?_, ?_, ?_, ?_⟩ <;>
  · rintro left rfl
    cases change with
    | idle silent => exact silent _ rfl
    | crl change => cases change
    | decided _ _ _ decision => rcases decision with ⟨-, same⟩ | ⟨-, same⟩ <;> cases same

end Changes

/-- What happens between the steps of calls: the clock moves on, a node crashes, and calls are
started. -/
structure Outer (before after : State) : Prop where
  ledger : ledger after = ledger before
  audit : after.world.db.audit = before.world.db.audit
  outbox : after.world.db.outbox = before.world.db.outbox
  annex : after.world.db.annex = before.world.db.annex
  drawn : after.world.drawn = before.world.drawn
  clock : before.world.clock.nanos ≤ after.world.clock.nanos
  history : after.history = before.history ∨ ∃ number call,
    (∀ event, (number, event) ∉ before.history) ∧
      after.history = before.history ++ [(number, .started call)]

section

variable {before after} (outer : Outer before after)

include outer

theorem Outer.history_grows : before.history <+: after.history := by
  rcases outer.history with same | ⟨number, call, -, longer⟩
  · rw [same]
  · rw [longer]
    exact prefix_append _ _

/-- Between the steps of calls only starts are added to the history. -/
theorem Outer.mem_history_iff {number : Nat} {event} (other : ∀ call, event ≠ .started call) :
    (number, event) ∈ after.history ↔ (number, event) ∈ before.history := by
  rcases outer.history with same | ⟨fresh, call, -, longer⟩
  · rw [same]
  · simp [longer, other call]

theorem Outer.filterMap_history {β : Type} {pick : Nat × Event → Option β}
    (blind : ∀ number call, pick (number, .started call) = none) :
    after.history.filterMap pick = before.history.filterMap pick := by
  rcases outer.history with same | ⟨fresh, call, -, longer⟩
  · rw [same]
  · simp [longer, blind]

/-- A call that is started gets a number of its own. -/
theorem Outer.calls (calls : ∀ number call call', (number, Event.started call) ∈ before.history →
      (number, Event.started call') ∈ before.history → call = call') (number : Nat)
    (call call' : Call) (there : (number, Event.started call) ∈ after.history)
    (there' : (number, Event.started call') ∈ after.history) : call = call' := by
  rcases outer.history with same | ⟨fresh, new, unused, longer⟩
  · rw [same] at there there'
    exact calls number call call' there there'
  · rw [longer, mem_append, mem_singleton] at there there'
    rcases there with old | new <;> rcases there' with old' | new'
    · exact calls number call call' old old'
    · cases new'
      exact absurd old (unused _)
    · cases new
      exact absurd old' (unused _)
    · obtain ⟨-, one⟩ := Prod.mk.inj new
      obtain ⟨-, other⟩ := Prod.mk.inj new'
      exact Event.started.inj (one.trans other.symm)

end

/-- The discipline of the service's calls. -/
def discipline (s : Service) (ids : s.FreshIDs) : Discipline World Event where
  inv := Consistent s
  change call before event world :=
    world.clock = before.world.clock ∧ Performs s call before event ⟨world.db, world.drawn⟩
  outer := Outer
  later := Later
  later_refl := Later.refl
  later_trans := Later.trans
  change_keeps := by
    rintro call before event world consistent ⟨clock, report, told, change⟩
    have more : before.world.drawn ≤ world.drawn := told.forward
    refine ⟨⟨change.keyed consistent.keyed, change.given ids consistent more,
      change.issuance ids consistent more, ?_, change.claims ids consistent⟩,
      change.grows ids consistent, ⟨_, rfl⟩, (congrArg Time.nanos clock).ge⟩
    intro number started started' there there'
    have old : ∀ started,
        (number, Event.started started) ∈ (before.after call event world).history →
        (number, Event.started started) ∈ before.history := by
      intro started there
      rcases mem_append.mp there with old | new
      · exact old
      · obtain ⟨seen, left, same⟩ := Option.map_eq_some_iff.mp (Option.mem_toList.mp new)
        cases same
        exact absurd left (change.leaves.1 started)
    exact consistent.calls number started started' (old started there) (old started' there')
  outer_keeps := by
    intro before after consistent outer
    have same := outer.ledger
    constructor
    · refine ⟨?_, ?_, ?_, outer.calls consistent.calls, ?_⟩
      all_goals rw [same]
      · exact consistent.keyed
      · exact outer.drawn ▸ consistent.given
      · exact outer.drawn ▸ consistent.issuance
      · exact consistent.claims
    · exact ⟨same ▸ .refl _, outer.history_grows, outer.clock⟩

end AnoPki.Lifecycle
