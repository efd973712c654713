import AnoPki.Lifecycle.Deployment

/-! # Issuance over whole runs

What holds of enrollments, issuance attempts and certificates in every state that a run of the
service reaches, and which call may store signed material. -/
namespace AnoPki.Lifecycle

open Foundation Domain Store List Option

variable {id : Text} {attempt : IssuanceAttempt} {enrollmentID : Text} {enrollment : Enrollment}
  {world : World}

variable {s : Service} {cfg : s.system.Config}

/-- The certificate stored under an ID is one of the enrollment. -/
def CertificateFor (l : Ledger) (enrollmentID id : Text) : Prop :=
  ∃ certificate, l.certificates.lookup id = some certificate ∧
    certificate.enrollmentID = enrollmentID

/-- The attempt of an enrollment is finalized. -/
def AttemptFinalized (l : Ledger) (enrollmentID : Text) : Prop :=
  ∃ attempt, l.attempts.lookup enrollmentID = some attempt ∧ attempt.status = .finalized

namespace Issuance

variable {drawn : Nat} {l : Ledger}

section

variable (issuance : Issuance s drawn l)

include issuance

/-- The certificates of an enrollment are the one its finalized attempt names. -/
theorem certificateFor_iff :
    CertificateFor l enrollmentID id ↔ ∃ attempt, l.attempts.lookup enrollmentID = some attempt ∧
      attempt.status = .finalized ∧ attempt.certificateID = id := by
  constructor
  · rintro ⟨certificate, found, rfl⟩
    exact issuance.certified id certificate found
  · rintro ⟨attempt, found, isFinalized, rfl⟩
    obtain ⟨enrollment, certificate, -, -, there, certifies⟩ :=
      issuance.finalized _ attempt found isFinalized
    refine ⟨certificate, there, ?_⟩
    obtain ⟨attempt', found', isFinalized', same⟩ := issuance.certified _ certificate there
    exact issuance.apart _ attempt' _ attempt found' (.inr isFinalized')
      found (.inr isFinalized) same

theorem existsUnique_certificateFor_iff :
    (∃! id, CertificateFor l enrollmentID id) ↔ AttemptFinalized l enrollmentID := by
  simp only [issuance.certificateFor_iff]
  constructor
  · rintro ⟨id, ⟨attempt, found, isFinalized, -⟩, -⟩
    exact ⟨attempt, found, isFinalized⟩
  · rintro ⟨attempt, found, isFinalized⟩
    refine ⟨attempt.certificateID, ⟨attempt, found, isFinalized, rfl⟩, ?_⟩
    rintro id ⟨attempt', found', -, rfl⟩
    rw [mem_unique found' found]

theorem issued_iff (found : l.enrollments.lookup id = some enrollment) :
    enrollment.status = .issued ↔ AttemptFinalized l id := by
  constructor
  · exact issuance.issued id enrollment found
  · rintro ⟨attempt, there, isFinalized⟩
    obtain ⟨enrollment', -, found', isIssued, -⟩ := issuance.finalized id attempt there isFinalized
    rw [mem_unique found found']
    exact isIssued

theorem certifies {certificate} (found : l.enrollments.lookup enrollmentID = some enrollment)
    (there : l.attempts.lookup enrollmentID = some attempt)
    (here : l.certificates.lookup id = some certificate)
    (owner : certificate.enrollmentID = enrollmentID) :
    Certifies enrollment attempt certificate := by
  obtain ⟨attempt', there', isFinalized, rfl⟩ := issuance.certified id certificate here
  rw [owner, there] at there'
  cases there'
  obtain ⟨enrollment', certificate', found', -, here', certifies⟩ :=
    issuance.finalized enrollmentID attempt there isFinalized
  cases mem_unique found found'
  cases mem_unique here here'
  exact certifies

end

end Issuance

/-- In every state of every run, an enrollment is issued exactly when it has one certificate, and
exactly when its attempt is finalized; the certificate is then made of the attempt's material and
the enrollment, and no two certificates share an issuer and a serial number. -/
theorem issuance_consistent (ids : s.FreshIDs) (reached : s.Reachable cfg) :
    (∀ id enrollment, (ledger cfg.shared).enrollments.lookup id = some enrollment →
      enrollment.id = id ∧
      (enrollment.status = .issued ↔ ∃! certificateID,
        CertificateFor (ledger cfg.shared) id certificateID) ∧
      (enrollment.status = .issued ↔ AttemptFinalized (ledger cfg.shared) id) ∧
      ∀ certificateID certificate attempt,
        (ledger cfg.shared).certificates.lookup certificateID = some certificate →
        certificate.enrollmentID = id →
        (ledger cfg.shared).attempts.lookup id = some attempt →
        Certifies enrollment attempt certificate) ∧
      ∀ id certificate id' certificate',
        (ledger cfg.shared).certificates.lookup id = some certificate →
        (ledger cfg.shared).certificates.lookup id' = some certificate' →
        certificate.issuerID = certificate'.issuerID → certificate.issuerID ≠ [] →
        certificate.serialNumber = certificate'.serialNumber → certificate.serialNumber ≠ [] →
        id = id' := by
  have consistent := reaches_consistent ids reached
  have issuance := consistent.issuance
  refine ⟨?_, issuance.serials⟩
  intro id enrollment found
  refine ⟨consistent.keyed.enrollments id enrollment found, ?_, issuance.issued_iff found, ?_⟩
  · rw [issuance.existsUnique_certificateFor_iff]
    exact issuance.issued_iff found
  · intro certificateID certificate attempt here owner there
    exact issuance.certifies found there here owner

/-- The deployment issues its certificate. -/
theorem small_issued : ∃ cfg : SmallConfig, smallService.Reachable cfg ∧
    cfg.shared.world.db.enrollments.lookup (smallID 4) =
      some { webEnrollment 4 with status := .issued, updatedAt := newYear } ∧
    cfg.shared.world.db.certificates.lookup webCertificate.id = some webCertificate := by
  obtain ⟨⟨_, _, _⟩, plan, log, reached, -, rfl, issued⟩ := rehearsed_reaches newWorld_initial
    (configuring ++ enrolling 2 4 ++ issuing 4 1 4 10) (fun plan =>
      plan.shared.world.db.enrollments.lookup (smallID 4) =
        some { webEnrollment 4 with status := .issued, updatedAt := newYear } ∧
      plan.shared.world.db.certificates.lookup webCertificate.id = some webCertificate)
  exact ⟨_, reached, issued⟩

/-- The enrollment it issues has one certificate. -/
theorem issuance_consistent_issued : ∃ cfg : SmallConfig, smallService.Reachable cfg ∧
    (ledger cfg.shared).enrollments.lookup (smallID 4) =
      some { webEnrollment 4 with status := .issued, updatedAt := newYear } ∧
    ∃! certificateID, CertificateFor (ledger cfg.shared) (smallID 4) certificateID := by
  obtain ⟨cfg, reached, found, -⟩ := small_issued
  have consistent := issuance_consistent small_freshIDs reached
  exact ⟨cfg, reached, found, (consistent.1 _ _ found).2.1.mp rfl⟩

/-- The claim on an enrollment's attempt that an entry of the history is. -/
def claimOf (enrollmentID : Text) : Nat × Event → Option (Nat × IssuanceAttempt)
  | (call, .claimed attempt) =>
    if attempt.enrollmentID = enrollmentID then some (call, attempt) else none
  | _ => none

/-- The claims on an enrollment's attempt, the oldest first, each with the call that made it. -/
def claims (history : List (Nat × Event)) (enrollmentID : Text) : List (Nat × IssuanceAttempt) :=
  history.filterMap (claimOf enrollmentID)

/-- The claim of a call is the one that is stored. -/
def HoldsClaim (state : State) (call : Nat) (attempt : IssuanceAttempt) : Prop :=
  (claims state.history attempt.enrollmentID).getLast? = some (call, attempt) ∧
    (ledger state).attempts.lookup attempt.enrollmentID = some attempt

section Claims

variable {state before : State} {call drawn : Nat} {event : Option Event} {id : Text}

theorem mem_claims {history} (inside : (call, Event.claimed attempt) ∈ history) :
    (call, attempt) ∈ claims history attempt.enrollmentID :=
  mem_filterMap.mpr ⟨_, inside, if_pos rfl⟩

theorem claims_after_claimed :
    claims (state.after call (some (.claimed attempt)) world).history id =
      claims state.history id ++ if attempt.enrollmentID = id then [(call, attempt)] else [] := by
  by_cases same : attempt.enrollmentID = id <;> simp [claims, claimOf, Shared.after, same]

theorem claims_after_other (other : ∀ attempt, event ≠ some (.claimed attempt)) :
    claims (state.after call event world).history id = claims state.history id := by
  rcases event with _ | event
  · simp [Shared.after]
  · cases event with
    | claimed attempt => exact absurd rfl (other attempt)
    | _ => simp [claims, claimOf, Shared.after]

/-- What a change does to the attempts: nothing, or it stores one, which is the claim it leaves as
an event or is not being signed. -/
theorem Change.attempts {report after} (change : Change s call before drawn event report after) :
    (after.attempts = (ledger before).attempts ∧ ∀ attempt, event ≠ some (.claimed attempt)) ∨
      ∃ attempt, after.attempts = (ledger before).attempts.insert attempt.enrollmentID attempt ∧
        (event = some (.claimed attempt) ∨
          (attempt.status ≠ .signing ∧ ∀ attempt, event ≠ some (.claimed attempt))) := by
  cases change with
  | idle silent =>
    refine .inl ⟨rfl, ?_⟩
    rintro attempt rfl
    exact silent _ rfl
  | configured change | acme change => exact .inl ⟨by rw [change.frame], by simp⟩
  | crl change =>
    refine .inl ⟨by rw [change.frame], ?_⟩
    rintro attempt ⟨⟩
    cases change
  | decided _ _ _ decision =>
    refine .inl ⟨rfl, ?_⟩
    rintro attempt rfl
    rcases decision with ⟨-, other⟩ | ⟨-, other⟩ <;> cases other
  | claimedFirst | claimedAgain => exact .inr ⟨_, rfl, .inl rfl⟩
  | persisted => exact .inr ⟨_, rfl, .inr ⟨by simp [signedAttempt], by simp⟩⟩
  | finalized => exact .inr ⟨_, rfl, .inr ⟨by simp [finalizedAttempt], by simp⟩⟩
  | markedFailed => exact .inr ⟨_, rfl, .inr ⟨by simp [failedAttempt], by simp⟩⟩
  | _ => exact .inl ⟨rfl, by simp⟩

end Claims

/-- An attempt that is being signed is the one that was claimed last. -/
def ClaimStored (state : State) : Prop :=
  ∀ id stored, (ledger state).attempts.lookup id = some stored → stored.status = .signing →
    ∃ call, (claims state.history id).getLast? = some (call, stored)

theorem ClaimStored.step {before} {call : Nat} {event report after} (held : ClaimStored before)
    (change : Change s call before after.drawn event report (.of after.db)) :
    ClaimStored (before.after call event after) := by
  intro id stored found signing
  change (Ledger.of after.db).attempts.lookup id = some stored at found
  rcases change.attempts with ⟨same, other⟩ | ⟨attempt, same, moved⟩
  · rw [same] at found
    rw [claims_after_other other]
    exact held id stored found signing
  · rw [same, Table.lookup_insert_eq] at found
    split at found
    · next here =>
      cases found
      rcases moved with rfl | ⟨notSigning, -⟩
      · rw [claims_after_claimed, if_pos here.symm]
        exact ⟨call, by simp⟩
      · exact absurd signing notSigning
    · next elsewhere =>
      have unmoved : claims (before.after call event after).history id =
          claims before.history id := by
        rcases moved with rfl | ⟨-, other⟩
        · rw [claims_after_claimed, if_neg fun here => elsewhere here.symm, append_nil]
        · exact claims_after_other other
      rw [unmoved]
      exact held id stored found signing

theorem Outer.claims {before after} (outer : Outer before after) (id : Text) :
    claims after.history id = claims before.history id :=
  outer.filterMap_history fun _ _ => rfl

/-- A claim is made at a time at which none was made on the enrollment before. -/
def NewClaimTime (before : State) (_ : Nat) (event : Option Event) : Prop :=
  ∀ attempt, event = some (.claimed attempt) →
    ∀ earlier ∈ claims before.history attempt.enrollmentID,
      earlier.2.updatedAt.nanos ≠ attempt.updatedAt.nanos

/-- The claims on an enrollment were made at different times. -/
def ClaimsApart (state : State) : Prop :=
  ∀ id, (claims state.history id).Pairwise fun earlier later =>
    earlier.2.updatedAt.nanos ≠ later.2.updatedAt.nanos

theorem ClaimsApart.step {before} {call : Nat} {event after}
    (apart : ClaimsApart before) (new : NewClaimTime before call event) :
    ClaimsApart (before.after call event after) := by
  intro id
  by_cases claimed : ∃ attempt, event = some (.claimed attempt)
  · obtain ⟨attempt, rfl⟩ := claimed
    rw [claims_after_claimed]
    split
    · next here =>
      subst here
      rw [pairwise_append]
      refine ⟨apart _, by simp, ?_⟩
      intro earlier inside later last
      cases mem_singleton.mp last
      exact new attempt rfl earlier inside
    · rw [append_nil]
      exact apart id
  · rw [claims_after_other fun attempt same => claimed ⟨attempt, same⟩]
    exact apart id

theorem ClaimsApart.eq {state first second}
    (apart : ClaimsApart state) (inside : first ∈ claims state.history id)
    (inside' : second ∈ claims state.history id)
    (same : first.2.updatedAt.nanos = second.2.updatedAt.nanos) : first = second := by
  by_contra different
  have symmetric : Std.Symm fun earlier later : Nat × IssuanceAttempt =>
      earlier.2.updatedAt.nanos ≠ later.2.updatedAt.nanos := ⟨fun _ _ => Ne.symm⟩
  exact (apart id).forall inside inside' different same

section Inversion

variable {before : State} {call drawn : Nat} {report : Report} {after : Ledger}

/-- A claim takes the place of no attempt that is being signed and whose lease has not run out. -/
theorem Change.claimed_free {stored}
    (change : Change s call before drawn (some (.claimed attempt)) report after)
    (found : (ledger before).attempts.lookup attempt.enrollmentID = some stored)
    (signing : stored.status = .signing) : ¬ stored.leaseExpiresAt.after before.world.clock := by
  cases change with
  | idle silent => exact (silent _ rfl).elim
  | crl change => cases change
  | decided _ _ _ decision => rcases decision with ⟨-, other⟩ | ⟨-, other⟩ <;> cases other
  | claimedFirst free =>
    rw [firstAttempt, free] at found
    cases found
  | claimedAgain found' free past =>
    cases mem_unique found found'
    rcases free with failed | ⟨-, expired⟩
    · simp [failed] at signing
    · intro running
      exact expired (past.trans_lt running)

/-- Signed material takes the place of an attempt with the token of the call's claim. -/
theorem Change.persisted_token {current signed}
    (change : Change s call before drawn (some (.persisted current signed)) report after) :
    (call, Event.claimed current) ∈ before.history ∧ ∃ stored,
      (ledger before).attempts.lookup current.enrollmentID = some stored ∧
        stored.status = .signing ∧ SameIssuanceToken stored current := by
  cases change with
  | idle silent => exact (silent _ rfl).elim
  | crl change => cases change
  | decided _ _ _ decision => rcases decision with ⟨-, other⟩ | ⟨-, other⟩ <;> cases other
  | persisted claim signing found token => exact ⟨claim, _, found, token.1.trans signing, token⟩

end Inversion

theorem claims_sound (ids : s.FreshIDs)
    (reached : System.Reaches (System.Guarded NewClaimTime) Initial cfg) :
    ClaimStored cfg.shared ∧ ClaimsApart cfg.shared := by
  refine @guarded_induct s cfg ids NewClaimTime (fun state => ClaimStored state ∧ ClaimsApart state)
    ?_ ?_ ?_ reached
  · intro world initial
    refine ⟨?_, fun id => by simp [claims]⟩
    intro id stored found
    simp [ledger, initial.db, Ledger.of, Db.empty] at found
  · rintro before call event report after - ⟨held, apart⟩ new - change
    exact ⟨held.step change, apart.step new⟩
  · rintro before after ⟨held, apart⟩ outer
    constructor
    · intro id stored found signing
      rw [outer.ledger] at found
      rw [outer.claims]
      exact held id stored found signing
    · intro id
      rw [outer.claims]
      exact apart id

/-- In a run in which no two claims on an enrollment are made at one time, a claim whose lease has
not run out keeps everyone else from claiming, and a call stores signed material only while its own
claim is the one that is stored. -/
theorem claim_fences (ids : s.FreshIDs)
    (reached : System.Reaches (System.Guarded NewClaimTime) Initial cfg)
    (action : s.system.Action) :
      (∀ call attempt stored, action.event cfg = some (call, some (.claimed attempt)) →
        (ledger cfg.shared).attempts.lookup attempt.enrollmentID = some stored →
      stored.status = .signing → ¬ stored.leaseExpiresAt.after cfg.shared.world.clock) ∧
      ∀ call current signed, action.event cfg = some (call, some (.persisted current signed)) →
        HoldsClaim cfg.shared call current := by
  constructor
  · intro call attempt stored seen
    obtain ⟨drawn, report, after, change⟩ := reaches_seen ids reached seen
    exact change.claimed_free
  · intro call current signed seen
    obtain ⟨drawn, report, after, change⟩ := reaches_seen ids reached seen
    obtain ⟨held, apart⟩ := claims_sound ids reached
    obtain ⟨claim, stored, found, signing, token⟩ := change.persisted_token
    obtain ⟨owner, last⟩ := held _ stored found signing
    -- The stored attempt and the call's claim are claims of one time, so they are one claim.
    have same := apart.eq (mem_of_getLast? last) (mem_claims claim) token.2.2
    cases same
    exact ⟨last, found⟩

/-- `NewClaimTime` as a check. -/
def newClaimTime (before : State) (_ : Nat) : Option Event → Bool
  | some (.claimed attempt) => (claims before.history attempt.enrollmentID).all fun earlier =>
      earlier.2.updatedAt.nanos ≠ attempt.updatedAt.nanos
  | _ => true

theorem newClaimTime_strict (state : State) (log : AuditLog) (call : Nat) (event : Option Event)
    (passed : newClaimTime state call event = true) :
    NewClaimTime (withLog state log) call event := by
  rintro attempt rfl earlier inside
  exact of_decide_eq_true (all_eq_true.mp passed earlier inside)

/-- The claim under which the signature is stored. -/
theorem claim_fences_signed : ∃ (cfg : SmallConfig)
    (action : SmallAction) (current signed : IssuanceAttempt),
    action.event cfg = some (4, some (.persisted current signed)) ∧
      HoldsClaim cfg.shared 4 current := by
  obtain ⟨cfg, plan, log, reached, -, mirrors, -, shown⟩ := rehearsed_guarded newClaimTime
    newClaimTime_strict newWorld_initial
      (configuring ++ enrolling 2 4 ++ issuing 4 2 4 8) (fun plan =>
      (System.Action.run 4 .working : SmallAction).event plan =
        some (4, some (.persisted (firstAttempt (smallID 4) newYear)
          (signedAtOnce smallService (smallID 4) 7 webResult newYear))))
  have seen := mirrors.event shown
  exact ⟨cfg, _, _, _, seen, (claim_fences small_freshIDs reached _).2 _ _ _ seen⟩

/-- The end of the lease of a claim at the new year. -/
def leaseEnd : Time := newYear.add defaultIssuanceSigningLease

/-- The claim of the call that comes too late. -/
def staleClaim : IssuanceAttempt := firstAttempt (smallID 8) newYear

/-- The attempt as the call that takes it over signs it. -/
def takenOver : IssuanceAttempt :=
  signedAttempt (reclaimed staleClaim leaseEnd) (smallID 11) webResult leaseEnd

/-- The attempt after that call has failed. -/
def givenUp : IssuanceAttempt := failedAttempt takenOver (ErrKind.err .invalidTransition) leaseEnd

/-- The lease of a claim runs out before it is used; another call takes the attempt over and fails,
and a third claims it with an old reading of the clock. -/
def takeover : List SmallAction :=
  configuring ++ enrolling 2 4 ++ issuing 4 1 4 10 ++ enrolling 5 8 ++
    issuing 7 2 8 8 ++ issuing 8 3 8 5 ++ [.disturb (.tick leaseEnd)] ++ issuing 9 4 8 12 ++
    [.run 8 .working]

/-- Two calls that read the clock at the same time have claims with the same token. One claims, is
taken over, and the attempt fails; the other claims then, and the first stores its signature under
the other's claim. -/
theorem stale_claim_persists : ∃ (cfg : SmallConfig)
    (action : SmallAction) (call : Nat) (signed : IssuanceAttempt),
    smallService.Reachable cfg ∧
      action.event cfg = some (call, some (.persisted staleClaim signed)) ∧
      ¬ HoldsClaim cfg.shared call staleClaim := by
  obtain ⟨⟨_, _, _⟩, plan, log, reached, mirrors, rfl, shown, lost⟩ :=
    rehearsed_reaches newWorld_initial takeover (fun plan =>
      (System.Action.run 7 .working : SmallAction).event plan =
        some (7, some (.persisted staleClaim
          (signedAttempt (reclaimed givenUp newYear) (smallID 12) webResult newYear))) ∧
      (claims plan.shared.history staleClaim.enrollmentID).getLast? ≠ some (7, staleClaim))
  exact ⟨_, _, 7, _, reached, mirrors.event shown, fun held => lost held.1⟩

end AnoPki.Lifecycle
