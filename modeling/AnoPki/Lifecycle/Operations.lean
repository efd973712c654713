import AnoPki.Lifecycle.AcmeTransactions
import AnoPki.Lifecycle.ConfigTransactions
import AnoPki.Foundation.Fallible

/-! # The operations keep to the discipline

Every operation, whatever the other calls do between its steps, only makes changes of the ledger. -/
namespace AnoPki.Lifecycle

open Foundation Domain Store Except Shelf

variable {t : State} {enrollment : Enrollment} {enrollmentID certificateID : Text}
  {order : ACMEOrder} {profile : CertificateProfile} {certificate : Certificate}
  {req : FinalizeACMEOrderRequest} {dnsNames : List Text} {challengeID orderID : Text}
  {claim : CRLGenerationClaim} {id profileID issuerID csrPEM action : Text} {u : Unit} {err : Err}
  {holds : Prop} {accountID : Text}

variable {s : Service} {ids : s.FreshIDs} {call : Nat} {α β : Type}

/-- An operation keeps to the discipline from a state on, and what it returns satisfies the
postcondition. -/
def Op.Meets (ids : s.FreshIDs) (call : Nat) (op : Op α) (post : α → State → Prop) (state : State) :
    Prop :=
  Prog.MeetsOk (discipline s ids) call op post state

/-- An operation keeps to the discipline from a state on. -/
abbrev Op.Keeps (ids : s.FreshIDs) (call : Nat) (op : Op α) (state : State) : Prop :=
  op.Meets ids call (fun _ _ => True) state

theorem Performs.idle {state event} (silent : Silent event) :
    Performs s call state event (session state) :=
  ⟨{}, .refl _, .idle silent .nothing⟩

/-- A transaction fails and leaves only the IDs it drew, or it commits its body. -/
theorem runTx_cases {body : Repo α} {answer world after result}
    (run : runTx body answer world = (result, after)) :
    (∃ err drawn, result = .error err ∧ world.drawn ≤ drawn ∧
      after = { world with drawn := drawn } ∧
      (err.kind = .storageFailure ∨ ∃ done, body ⟨world.db, world.drawn⟩ = (.error err, done))) ∨
    ∃ value done, result = .ok value ∧ body ⟨world.db, world.drawn⟩ = (.ok value, done) ∧
      after = { world with db := done.db, drawn := done.drawn } := by
  rw [runTx] at run
  split at run
  · cases run
    exact .inl ⟨_, _, rfl, le_refl _, rfl, .inl rfl⟩
  · have forward := body.forward ⟨world.db, world.drawn⟩
    rcases outcome : body ⟨world.db, world.drawn⟩ with ⟨err | value, done⟩
    · rw [outcome] at run forward
      cases run
      exact .inl ⟨err, done.drawn, rfl, forward, rfl, .inr ⟨done, rfl⟩⟩
    · rw [outcome] at run
      cases run
      exact .inr ⟨value, done, rfl, rfl, rfl⟩

namespace Op.Meets

variable {op : Op α} {post post' : α → State → Prop} {state : State}

theorem pure {value : α} (holds : post value state) :
    Op.Meets ids call (Pure.pure value) post state :=
  Prog.MeetsOk.pure holds

theorem ofExcept {result : Except Err α} :
    Op.Meets ids call (Op.ofExcept result) (fun value _ => result = .ok value) state :=
  .result

theorem fail : Op.Meets ids call (Op.fail err) post state := by
  rintro _ ⟨⟩

theorem require [Decidable holds] {kind} :
    Op.Meets ids call (Op.require holds kind) (fun _ _ => holds) state := by
  refine .mono .result fun value t _ passed => ?_
  split at passed
  · assumption
  · cases passed

theorem mono (meets : Op.Meets ids call op post state)
    (weaker : ∀ value t, Later state t → post value t → post' value t) :
    Op.Meets ids call op post' state :=
  Prog.MeetsOk.mono meets weaker

theorem seq {rest} {after : β → State → Prop} (first : Op.Meets ids call op post state)
    (continues : ∀ value t, Later state t → post value t → Op.Meets ids call (rest value) after t) :
    Op.Meets ids call (op >>= rest) after state :=
  Prog.MeetsOk.seq first continues

theorem attempt (meets : Op.Meets ids call op post state) :
    Op.Meets ids call op.attempt (fun result t => ∀ value, result = .ok value → post value t)
      state :=
  Prog.MeetsOk.attempt meets

theorem ite [Decidable holds] {yes no} (left : holds → Op.Meets ids call yes post state)
    (right : ¬ holds → Op.Meets ids call no post state) :
    Op.Meets ids call (if holds then yes else no) post state :=
  Prog.MeetsOk.ite left right

/-- A step that leaves the world alone. -/
theorem still {act event} (unchanged : ∀ answer world, (act answer world).2.db = world.db ∧
      (act answer world).2.drawn = world.drawn ∧ (act answer world).2.clock = world.clock)
    (performs : ∀ now, Later state now → ∀ value, Performs s call now (event value) (session now))
    (holds : ∀ now, Later state now → ∀ answer value, (act answer now.world).1 = .ok value →
      post value (now.after call (event value) (act answer now.world).2)) :
    Op.Meets ids call (Op.atomic act event) post state := by
  intro now later _ consistent answer result world acts
  obtain ⟨rfl, rfl⟩ := Prod.mk.inj (Option.some.inj acts)
  obtain ⟨db, drawn, clock⟩ := unchanged answer now.world
  constructor
  · refine ⟨clock, ?_⟩
    rw [db, drawn]
    cases outcome : (act answer now.world).1 with
    | error err => exact .idle .none
    | ok value => exact performs now later value
  · intro value same
    have event_eq : (act answer now.world).1.toOption.bind event = event value := by
      rw [same]
      rfl
    have reached := holds now later answer value same
    rw [← event_eq] at reached
    exact reached

theorem now : Op.Meets ids call Op.now (fun time t => time.nanos ≤ t.world.clock.nanos) state := by
  refine .still (fun _ _ => ⟨rfl, rfl, rfl⟩) (fun _ _ _ => .idle .none) ?_
  rintro now later answer value ⟨⟩
  exact le_refl _

/-- A question to the outside; the event it leaves is kept. -/
theorem ask {answer} {event : α → Option Event}
    (performs : ∀ now, Later state now → ∀ value, Performs s call now (event value) (session now)) :
    Op.Meets ids call (Op.ask answer event)
      (fun value t => ∀ seen, event value = some seen → (call, seen) ∈ t.history) state := by
  refine .still (fun _ _ => ⟨rfl, rfl, rfl⟩) performs ?_
  intro now later answer value same seen left
  simp [Shared.after, left]

/-- A question that leaves no event. -/
theorem askQuietly {answer : Oracle → Except Err α} :
    Op.Keeps ids call (Op.ask answer fun _ => none) state :=
  .mono (.ask fun _ _ _ => .idle .none) fun _ _ _ _ => trivial

/-- A transaction, from what it does when it commits. -/
theorem withinTx {body : Repo α} {event}
    (spec : ∀ now, Later state now → Consistent s now → ∀ value after,
      body (session now) = (.ok value, after) → Performs s call now (event value) after ∧
        post value (now.after call (event value)
          { now.world with db := after.db, drawn := after.drawn })) :
    Op.Meets ids call (withinTx body event) post state := by
  intro now later _ consistent answer result world acts
  rcases runTx_cases (Option.some.inj acts) with ⟨err, drawn, rfl, forward, rfl, -⟩ |
    ⟨value, after, rfl, run, rfl⟩
  · exact ⟨⟨rfl, {}, .silent rfl rfl rfl forward, .idle .none .nothing⟩, by rintro _ ⟨⟩⟩
  · obtain ⟨performs, holds⟩ := spec now later consistent value after run
    refine ⟨⟨rfl, performs⟩, ?_⟩
    rintro _ ⟨⟩
    exact holds

/-- A transaction whose result does not matter. -/
theorem commits {body : Repo α} {event}
    (spec : ∀ now, Later state now → Consistent s now → ∀ value after,
      body (session now) = (.ok value, after) → Performs s call now (event value) after) :
    Op.Keeps ids call (Lifecycle.withinTx body event) state :=
  .withinTx fun now later consistent value after run =>
    ⟨spec now later consistent value after run, trivial⟩

/-- A repository call that only reads. -/
theorem read {body : Repo α} (reads : body.ReadOnly) :
    Op.Meets ids call (repo body) (fun value t => body (session t) = (.ok value, session t))
      state := by
  refine .withinTx ?_
  intro now later consistent value after run
  obtain rfl := reads.same run
  exact ⟨.idle .none, run⟩

/-- A lookup. -/
theorem get {shelf : Store.Shelf α} : Op.Meets ids call (repo (shelf.get id))
      (fun value t => (shelf.table t.world.db).lookup id = some value) state :=
  .mono (.read (.query _)) fun _ _ _ found => (get_ok_iff.mp found).1

theorem forEach {items : List α} {body}
    (each : ∀ item t, Op.Meets ids call (body item) (fun _ _ => True) t) :
    Op.Keeps ids call (Op.forEach items body) state := by
  induction items generalizing state with
  | nil => exact .pure trivial
  | cons item items ih => exact .seq (each item state) fun _ _ _ _ => ih

end Op.Meets

section Enrollments

variable {state : State} {ctx : Context} {actor : Text}

/-- An enrollment that is stored. -/
def EnrollmentStored (enrollment : Enrollment) (state : State) : Prop :=
  ∃ stored, (ledger state).enrollments.lookup enrollment.id = some stored ∧
    EnrollmentSame enrollment stored

/-- A certificate that is stored. -/
def CertificateStored (certificate : Certificate) (state : State) : Prop :=
  ∃ stored, (ledger state).certificates.lookup certificate.id = some stored ∧
    CertificateSame certificate stored

/-- An order that is stored. -/
def OrderStored (order : ACMEOrder) (state : State) : Prop :=
  ∃ stored, (ledger state).orders.lookup order.id = some stored ∧ OrderLater order stored

theorem EnrollmentStored.later (stored : EnrollmentStored enrollment state)
    (later : Later state t) : EnrollmentStored enrollment t :=
  later.enrollments.held .trans stored

theorem CertificateStored.later (stored : CertificateStored certificate state)
    (later : Later state t) : CertificateStored certificate t :=
  later.certificates.held .trans stored

theorem OrderStored.later (stored : OrderStored order state) (later : Later state t) :
    OrderStored order t :=
  later.orders.held .trans stored

theorem ProfileRead.mono (read : ProfileRead (ledger state) profileID profile)
    (grows : Grows (ledger state) (ledger t)) : ProfileRead (ledger t) profileID profile :=
  read.imp_right (grows.profiles.held .trans)

/-- Identities never change. -/
theorem Later.identity {identityID identity t} (later : Later state t)
    (found : (ledger state).identities.lookup identityID = some identity) :
    (ledger t).identities.lookup identityID = some identity := by
  obtain ⟨next, there, rfl⟩ := later.identities _ identity found
  exact there

/-- Issuers never change. -/
theorem Later.issuer {issuerID issuer t} (later : Later state t)
    (found : (ledger state).issuers.lookup issuerID = some issuer) :
    (ledger t).issuers.lookup issuerID = some issuer := by
  obtain ⟨next, there, rfl⟩ := later.issuers _ issuer found
  exact there

theorem requestedProfile_meets : (requestedProfile profileID issuerID).Meets ids call
      (fun profile t => ProfileRead (ledger t) profileID profile) state := by
  refine .ite (fun blank => .pure (.inl ⟨blank, rfl⟩)) fun _ => ?_
  refine .seq .get fun profile t _ found => ?_
  have read : ProfileRead (ledger t) profileID profile := .inr ⟨_, found, .refl _⟩
  exact .seq .require fun _ _ later _ => .pure (read.mono later.toGrows)

theorem inspectCSR_meets : (inspectCSR csrPEM).Meets ids call
    (fun info t => (call, .csrInspected csrPEM info) ∈ t.history) state := by
  refine .mono (.ask fun _ _ info => .idle ?_) fun _ _ _ left => left _ rfl
  rintro _ ⟨⟩
  trivial

/-- A call that does not finalize an order makes no request for one. -/
theorem RequestOfOrder.of_started {started req}
    (there : (call, .started started) ∈ state.history)
    (other : ∀ ctx actor orderID finalize, started ≠ .finalizeACMEOrder ctx actor orderID finalize)
    (later : Later state t) (consistent : Consistent s t) : RequestOfOrder call t req := by
  intro ctx actor orderID finalize there'
  exact absurd (consistent.calls _ _ _ (later.history.subset there) there') (other _ _ _ _)

theorem createEnrollment_meets {req : CreateEnrollmentRequest}
    (ordered : ∀ t, Later state t → Consistent s t → RequestOfOrder call t req)
    (source : ∀ t, Later state t → RequestOfCall call t req) :
    (s.createEnrollment ctx actor req).Meets ids call (fun enrollment t =>
      EnrollmentStored enrollment t ∧ enrollment.requestedDNSNames = req.requestedDNSNames ∧
        enrollment.requestedIPAddresses = req.requestedIPAddresses) state := by
  refine .seq .now fun now _ timed _ => ?_
  refine .seq .ofExcept fun _ _ validated _ => ?_
  refine .seq .get fun identity _ seen identified => ?_
  refine .seq .get fun issuer _ read _ => ?_
  refine .seq requestedProfile_meets fun profile _ looked profiled => ?_
  refine .seq inspectCSR_meets fun csrInfo _ asked inspected => ?_
  refine .seq .ofExcept fun _ _ checked passed => ?_
  refine .withinTx fun t later consistent enrollment after run => ?_
  have before := (timed.trans validated).trans seen
  have afterwards := (asked.trans checked).trans later
  have since := (read.trans looked).trans afterwards
  obtain ⟨performs, found, names⟩ := createEnrollmentTx_performs ⟨since.identity identified,
    profiled.mono afterwards.toGrows,
    ⟨call, (checked.trans later).history.subset inspected⟩, passed⟩
      (ordered t (before.trans since) consistent) (source t (before.trans since)) run
  exact ⟨performs, ⟨enrollment, found, .refl _⟩, names⟩

theorem replacementEnrollment_meets {requestedNotAfter}
    (requested : action ∈ requestActions)
    (ordered : ∀ req t, Later state t → Consistent s t → RequestOfOrder call t req) {begun : Call}
    (started : (call, .started begun) ∈ state.history) (replaces : begun.Replaces) :
    (s.createCertificateReplacementEnrollment ctx actor certificateID csrPEM requestedNotAfter
      action).Keeps ids call state := by
  refine .seq .require fun _ _ named _ => ?_
  refine .seq (.read (.query _)) fun certificate _ found _ => ?_
  refine .seq .require fun _ _ valid _ => ?_
  refine .seq .now fun now _ timed _ => ?_
  refine .seq .ofExcept fun _ _ validated _ => ?_
  refine .seq inspectCSR_meets fun csrInfo _ asked inspected => ?_
  refine .seq .require fun _ _ compared _ => ?_
  refine .seq requestedProfile_meets fun profile _ looked profiled => ?_
  refine .seq .get fun identity _ seen identified => ?_
  refine .seq .ofExcept fun _ _ checked passed => ?_
  refine .withinTx fun t later consistent enrollment after run => ?_
  have before := ((((named.trans found).trans valid).trans timed).trans validated).trans asked
  have afterwards := checked.trans later
  have since := seen.trans afterwards
  have since' := (compared.trans looked).trans since
  refine ⟨replacementEnrollmentTx_performs ⟨afterwards.identity identified,
    profiled.mono since.toGrows, ⟨call, since'.history.subset inspected⟩, passed⟩
    (ordered _ t (before.trans since') consistent) requested
    ((before.trans since').history.subset started) replaces run, trivial⟩

theorem renewCertificate_meets {req}
    (started : (call, .started (.renewCertificate ctx actor certificateID req)) ∈
      state.history) :
    (s.renewCertificate ctx actor certificateID req).Keeps ids call state :=
  replacementEnrollment_meets (by decide)
    (fun _ _ => .of_started started (by simp)) started trivial

theorem reissueCertificate_meets {req : ReissueCertificateRequest}
    (started : (call, .started (.reissueCertificate ctx actor certificateID req)) ∈
      state.history) :
    (s.reissueCertificate ctx actor certificateID req).Keeps ids call state := by
  refine .seq .require fun _ _ named _ => ?_
  refine .seq (.read (.query _)) fun certificate _ found _ => ?_
  have started := (named.trans found).history.subset started
  exact replacementEnrollment_meets (by decide)
    (fun _ _ => .of_started started (by simp)) started trivial

theorem approveWithReason_meets {reason : Text} :
    (s.approveEnrollmentWithReason ctx actor id reason).Keeps ids call state := by
  refine .seq .require fun _ _ _ _ => ?_
  refine .seq .now fun now _ _ _ => ?_
  exact .commits fun _ _ consistent _ _ run => approveEnrollmentTx_performs consistent.keyed run

theorem rejectEnrollment_meets : (s.rejectEnrollment ctx actor id).Keeps ids call state := by
  refine .seq .require fun _ _ _ _ => ?_
  refine .seq .now fun now _ _ _ => ?_
  exact .commits fun _ _ consistent _ _ run => rejectEnrollmentTx_performs consistent.keyed run

end Enrollments

section Issuing

variable {state : State} {ctx : Context} {actor : Text} {node : Node}

/-- What an operation that returns the certificate of an enrollment guarantees. -/
def IssuedFor (enrollmentID : Text) (certificate : Certificate) (state : State) : Prop :=
  CertificateStored certificate state ∧ certificate.enrollmentID = enrollmentID

theorem IssuedFor.later (issued : IssuedFor enrollmentID certificate state)
    (later : Later state t) : IssuedFor enrollmentID certificate t :=
  ⟨issued.1.later later, issued.2⟩

theorem getByEnrollment_meets :
    (repo (getCertificateByEnrollmentID enrollmentID)).Meets ids call (IssuedFor enrollmentID)
      state := by
  refine .withinTx fun now later consistent certificate after run => ?_
  obtain ⟨⟨id, there⟩, owner, rfl⟩ := getByEnrollment_ok run
  refine ⟨.idle .none, ⟨certificate, ?_, .refl _⟩, owner⟩
  rw [consistent.keyed.certificates id certificate there]
  exact there

theorem ensureIssuedEvent_meets {now : Time} :
    (s.ensureCertificateIssuedAuditEvent ctx actor certificate now).Keeps ids call state := by
  refine .seq (.read (.query _)) fun events _ _ _ => ?_
  refine .ite (fun _ => .pure trivial) fun _ => ?_
  exact .commits fun _ _ _ _ _ run => issuedAuditTx_performs run

theorem issuedAlready_meets :
    (s.issuedAlready ctx actor enrollmentID).Meets ids call (IssuedFor enrollmentID) state := by
  refine .seq getByEnrollment_meets.attempt fun outcome t _ found => ?_
  cases outcome with
  | ok certificate =>
    refine .seq .now fun now t later _ => ?_
    refine .seq ensureIssuedEvent_meets fun _ t later' _ => ?_
    exact .pure ((found certificate rfl).later (later.trans later'))
  | error err => exact .seq .ofExcept fun _ _ _ _ => .fail

theorem validatePublicTLSLint_meets : (s.validatePublicTLSLint profile).Keeps ids call state := by
  refine .ite (fun _ => .pure trivial) fun _ => ?_
  exact .seq .require fun _ _ _ _ => .askQuietly

theorem enrollmentProfile_meets : (enrollmentProfile enrollment).Meets ids call
      (fun profile t => ProfileRead (ledger t) enrollment.certificateProfileID profile) state :=
  .ite (fun blank => .pure (.inl ⟨blank, rfl⟩)) fun _ =>
    .mono .get fun _ _ _ found => .inr ⟨_, found, .refl _⟩

theorem inspectCSRFor_meets : (inspectCSRFor profile csrPEM).Keeps ids call state :=
  .ite (fun _ => .mono inspectCSR_meets fun _ _ _ _ => trivial) fun _ => .pure trivial

theorem mapError_ok_iff {f : Err → Err} {result : Except Err α} {value : α} :
    result.mapError f = .ok value ↔ result = .ok value := by
  cases result with
  | error err | ok value => simp [Except.mapError]

/-- What the checks before a claim establish. -/
def Checked (s : Service) (enrollment : Enrollment)
    (checked : Issuer × CertificateProfile × Time) (state : State) : Prop :=
  ∃ csrInfo, Requested s state enrollment checked.2.1 csrInfo checked.2.2

theorem Requested.later {csrInfo now}
    (requested : Requested s state enrollment profile csrInfo now) (later : Later state t) :
    Requested s t enrollment profile csrInfo now where
  enrolled := EnrollmentStored.later requested.enrolled later
  profiled := requested.profiled.mono later.toGrows
  passed := requested.passed
  past := requested.past.trans later.clock

theorem checkIssuance_meets (stored : EnrollmentStored enrollment state) :
    (s.checkIssuance enrollment).Meets ids call (Checked s enrollment) state := by
  refine .seq (.read (.query _)) fun issuer _ found _ => ?_
  refine .seq (.read (.query _)) fun identity _ found' _ => ?_
  refine .seq .require fun _ _ required _ => ?_
  refine .seq enrollmentProfile_meets fun profile _ read profiled => ?_
  refine .seq .now fun now _ timed past => ?_
  refine .seq inspectCSRFor_meets fun csrInfo _ inspected _ => ?_
  refine .seq .ofExcept fun _ _ allowed passed => ?_
  refine .seq .ofExcept fun _ _ allowed' _ => ?_
  refine .seq validatePublicTLSLint_meets fun _ _ linted _ => ?_
  have later := ((inspected.trans allowed).trans allowed').trans linted
  have before := ((found.trans found').trans required).trans read
  exact .pure ⟨csrInfo, stored.later (before.trans (timed.trans later)),
    profiled.mono (timed.trans later).toGrows, mapError_ok_iff.mp passed, past.trans later.clock⟩

theorem claimAttempt_meets {now} (past : now.nanos ≤ state.world.clock.nanos) :
    (claimIssuanceAttempt enrollmentID now).Meets ids call (fun claim t =>
      Claimed enrollmentID claim.1 claim.2 ∧
        (claim.2 = true → (call, .claimed claim.1) ∈ t.history)) state := by
  refine .withinTx ?_
  rintro state later consistent ⟨attempt, shouldSign⟩ after run
  obtain ⟨performs, claimed⟩ :=
    claimAttemptTx_performs consistent.keyed (past.trans later.clock) run
  refine ⟨performs, claimed, ?_⟩
  rintro rfl
  simp [Shared.after]

theorem sign_meets {issuer : Issuer} {now : Time}
    (checked : Checked s enrollment (issuer, profile, now) state) :
    (s.sign enrollment issuer profile now).Keeps ids call state := by
  obtain ⟨csrInfo, requested⟩ := checked
  refine .seq .askQuietly fun _ _ ready _ => ?_
  have performs : ∀ t, Later _ t → Performs s call t (some (.issueRequested enrollment.id
      (coreIssueRequest s.lowerRune enrollment issuer profile now))) (session t) :=
    fun t later => ⟨{}, .refl _, .requested (requested.later (ready.trans later))⟩
  refine .seq (.seq (.ask fun t later _ => performs t later) fun answer _ _ _ =>
    .mono .ofExcept fun _ _ _ _ => trivial) fun result _ _ _ => ?_
  exact .seq .ofExcept fun _ _ _ _ => .pure trivial

theorem persistSigned_meets {current result now}
    (claim : (call, .claimed current) ∈ state.history) (signing : current.status = .signing) :
    (s.persistSignedIssuanceAttempt current result now).Meets ids call (fun signed _ =>
      signed.enrollmentID = current.enrollmentID ∧ signed.status = .signed) state := by
  refine .withinTx fun now later consistent signed after run => ?_
  exact persistSignedTx_performs (later.history.subset claim) signing run

theorem finalize_meets {attempt now} :
    (withinTx (finalizeSignedIssuanceAttemptTx enrollmentID attempt now)
      fun (_, new) => if new then some (.finalized enrollmentID) else none).Meets ids call
      (fun outcome => IssuedFor enrollmentID outcome.1) state := by
  refine .withinTx ?_
  rintro state later consistent ⟨certificate, new⟩ after run
  obtain ⟨performs, there, owner⟩ := finalizeSignedTx_performs consistent.keyed run
  exact ⟨performs, ⟨certificate, there, .refl _⟩, owner⟩

theorem markFailed_meets {attempt now} (signed : attempt.status = .signed) :
    (withinTx (updateIssuanceAttemptIfCurrent (failedAttempt attempt err now) attempt)
      fun _ => some (.markedFailed attempt.enrollmentID)).Keeps ids call state :=
  .commits fun _ _ _ _ _ run => markFailed_performs signed run

theorem finalizeSigned_meets {attempt : IssuanceAttempt} {now : Time} :
    (finalizeSignedIssuanceAttempt attempt.enrollmentID attempt now).Meets ids call
      (IssuedFor attempt.enrollmentID) state := by
  refine .ite (fun _ => getByEnrollment_meets) fun _ => ?_
  refine .seq .require fun _ _ _ signed => ?_
  refine .seq finalize_meets.attempt fun outcome t _ found => ?_
  cases outcome with
  | ok outcome => exact .pure (found outcome rfl)
  | error err =>
    refine .ite (fun _ => ?_) fun _ => .fail
    refine .seq getByEnrollment_meets.attempt fun existing t _ found => ?_
    cases existing with
    | ok certificate => exact .pure (found certificate rfl)
    | error lookupErr =>
      refine .seq .ofExcept fun _ _ _ _ => ?_
      exact .seq (markFailed_meets signed) fun _ _ _ _ => .fail

theorem signClaimed_meets {issuer now attempt shouldSign}
    (checked : Checked s enrollment (issuer, profile, now) state)
    (claimed : Claimed enrollmentID attempt shouldSign)
    (claim : shouldSign = true → (call, .claimed attempt) ∈ state.history) :
    (s.signClaimed enrollment issuer profile now attempt shouldSign).Meets ids call
      (fun attempt _ => attempt.enrollmentID = enrollmentID) state := by
  refine .ite (fun signs => ?_) fun _ => .pure claimed.owner
  refine .seq (sign_meets checked) fun result _ later _ => ?_
  refine .mono (persistSigned_meets (later.history.subset (claim signs))
    (claimed.signing signs)) fun signed _ _ same => ?_
  exact same.1.trans claimed.owner

theorem issueApproved_meets (stored : EnrollmentStored enrollment state) :
    (s.issueApproved ctx actor enrollmentID enrollment).Meets ids call (IssuedFor enrollmentID)
      state := by
  refine .seq (checkIssuance_meets stored) fun checked t _ passed => ?_
  obtain ⟨csrInfo, requested⟩ := passed
  refine .seq (claimAttempt_meets requested.past) fun claim t later claimed => ?_
  refine .seq (signClaimed_meets ⟨csrInfo, requested.later later⟩ claimed.1 claimed.2)
    fun attempt t _ owner => ?_
  subst owner
  refine .seq finalizeSigned_meets fun certificate t _ issued => ?_
  refine .seq ensureIssuedEvent_meets fun _ t later _ => ?_
  exact .pure (issued.later later)

theorem lockIssueMu_meets : (lockIssueMu node).Keeps ids call state := by
  intro now later _ consistent answer result world acts
  dsimp only at acts
  split at acts
  · cases acts
  · cases Option.some.inj acts
    exact ⟨⟨rfl, .idle .none⟩, fun _ _ => trivial⟩

theorem unlockIssueMu_meets : (unlockIssueMu node).Keeps ids call state :=
  .still (fun _ _ => ⟨rfl, rfl, rfl⟩) (fun _ _ _ => .idle .none) fun _ _ _ _ _ => trivial

theorem withIssueMu_meets {op : Op α} {post} (meets : ∀ t, op.Meets ids call post t)
    (stable : ∀ value t t', Later t t' → post value t → post value t') :
    (withIssueMu node op).Meets ids call post state := by
  refine .seq lockIssueMu_meets fun _ t _ _ => ?_
  refine .seq (meets t).attempt fun result t _ holds => ?_
  refine .seq unlockIssueMu_meets fun _ t' later _ => ?_
  refine .mono .ofExcept fun value t'' later' same => ?_
  exact stable value t t'' (later.trans later') (holds value same)

theorem getEnrollment_meets :
    (repo (getEnrollment enrollmentID)).Meets ids call EnrollmentStored state := by
  refine .withinTx fun state later consistent enrollment after run => ?_
  obtain ⟨found, rfl⟩ := get_ok_iff.mp run
  refine ⟨.idle .none, enrollment, ?_, .refl _⟩
  rw [consistent.keyed.enrollments enrollmentID enrollment found]
  exact found

theorem issueCertificate_meets :
    (s.issueCertificate node ctx actor enrollmentID).Meets ids call (IssuedFor enrollmentID)
      state := by
  refine .seq .require fun _ _ _ _ => ?_
  refine withIssueMu_meets (fun t => ?_) fun certificate _ _ later issued => issued.later later
  refine .seq getEnrollment_meets fun enrollment _ _ stored => ?_
  refine .ite (fun _ => issuedAlready_meets) fun _ => ?_
  exact .seq .require fun _ _ later _ => issueApproved_meets (stored.later later)

end Issuing

section Certificates

variable {state : State} {ctx : Context} {actor : Text}

theorem transitionStatus_meets {current next}
    (change : StatusChange current action next) (live : next = .valid ∨ next = .suspended) :
    (s.transitionCertificateStatus ctx actor certificateID current next action).Keeps ids
      call state := by
  refine .seq .now fun now _ _ _ => ?_
  exact .commits fun _ _ consistent _ _ run =>
    transitionStatusTx_performs ids consistent change live run

theorem suspendCertificate_meets :
    (s.suspendCertificate ctx actor certificateID).Keeps ids call state :=
  .seq .require fun _ _ _ _ => transitionStatus_meets .suspend (.inr rfl)

theorem resumeCertificate_meets :
    (s.resumeCertificate ctx actor certificateID).Keeps ids call state :=
  .seq .require fun _ _ _ _ => transitionStatus_meets .resume (.inl rfl)

theorem revokeWith_meets {reason} {force : Bool} (started : force = true → (call, .started
      (.forceRevokeCertificate ctx actor certificateID reason)) ∈ state.history) :
    (s.revokeWith ctx actor certificateID reason force).Keeps ids call state := by
  refine .seq .require fun _ _ required _ => ?_
  refine .seq .now fun now _ read _ => ?_
  refine .withinTx fun now later consistent certificate after run => ?_
  have longer := ((required.trans read).trans later).history
  exact ⟨revokeCertificateTx_performs ids consistent
    (fun forced => longer.subset (started forced)) run, trivial⟩

theorem scanExpirations_meets {req} :
    (s.scanCertificateExpirations ctx actor req).Keeps ids call state := by
  refine .seq .require fun _ _ _ _ => ?_
  refine .seq .now fun now _ _ past => ?_
  exact .commits fun _ later consistent _ _ run =>
    scanTx_performs ids consistent (past.trans later.clock) run

end Certificates

section Acme

variable {state : State} {ctx : Context} {actor : Text} {node : Node}

theorem AllAllowed.mono (allowed : AllAllowed dnsNames state)
    (history : state.history <+: t.history) : AllAllowed dnsNames t := by
  intro name inside
  obtain ⟨call, there⟩ := allowed name inside
  exact ⟨call, history.subset there⟩

theorem NamesAllowed.mono (allowed : NamesAllowed state profileID dnsNames)
    (grows : Grows (ledger state) (ledger t)) (history : state.history <+: t.history) :
    NamesAllowed t profileID dnsNames := by
  refine allowed.imp_right ?_
  rintro ⟨profile, found, consent⟩
  obtain ⟨next, there, same⟩ := grows.profiles _ profile found
  refine ⟨next, there, ?_⟩
  intro isPublic
  rw [same] at isPublic
  exact (consent isPublic).mono history

theorem checkCAA_meets : (Op.forEach dnsNames fun dnsName => Op.ask (fun oracle => oracle.checkCAA)
      fun _ => some (.caaAllowed dnsName)).Meets ids call (fun _ => AllAllowed dnsNames) state := by
  induction dnsNames generalizing state with
  | nil => exact .pure (by simp [AllAllowed])
  | cons name names ih =>
    refine .seq (.ask fun _ _ _ => .idle ?_) fun _ t _ left => .mono ih fun _ t' later rest => ?_
    · rintro _ ⟨⟩
      trivial
    · intro other inside
      rcases List.mem_cons.mp inside with rfl | inside
      · exact ⟨call, later.history.subset (left _ rfl)⟩
      · exact rest other inside

theorem validatePublicTLSCAA_meets :
    (s.validatePublicTLSCAA dnsNames).Meets ids call (fun _ => AllAllowed dnsNames) state := by
  refine .ite (fun off => .pure (by simp [AllAllowed, off])) fun _ => ?_
  exact .seq .require fun _ _ _ _ => checkCAA_meets

theorem validateOrderRequest_ok {req now}
    (accepted : validateCreateACMEOrderRequest req now = .ok u) :
    ¬ (req.requestedDNSNames = [] ∧ req.requestedIPAddresses = []) := by
  simp only [validateCreateACMEOrderRequest, bind_eq_ok, demand_ok_iff] at accepted
  obtain ⟨-, -, -, inhabited, -⟩ := accepted
  exact inhabited

theorem checkOrderProfile_meets {req} : (s.checkOrderProfile req).Meets ids call
      (fun _ t => NamesAllowed t req.certificateProfileID req.requestedDNSNames) state := by
  refine .ite (fun blank => .pure (.inl blank)) fun _ => ?_
  refine .seq .get fun profile t _ found => ?_
  refine .ite (fun _ => ?_) fun isPrivate => ?_
  · refine .mono validatePublicTLSCAA_meets fun _ t' later allowed => .inr ?_
    obtain ⟨next, there, same⟩ := later.profiles _ profile found
    exact ⟨next, there, fun _ => allowed⟩
  · exact .pure (.inr ⟨profile, found, fun isPublic => absurd isPublic isPrivate⟩)

theorem createACMEOrder_meets {req} : (s.createACMEOrder ctx actor req).Keeps ids call state := by
  refine .seq .now fun now _ _ _ => ?_
  refine .seq .ofExcept fun _ _ _ accepted => ?_
  refine .seq checkOrderProfile_meets fun _ _ _ checked => ?_
  exact .commits fun _ later _ _ _ run =>
    createACMEOrderTx_performs (validateOrderRequest_ok accepted)
      (checked.mono later.toGrows later.history) run

theorem completeACMEChallenge_meets :
    (s.completeACMEChallenge ctx actor challengeID).Keeps ids call state := by
  refine .seq .require fun _ _ _ _ => ?_
  refine .seq .now fun now _ _ _ => ?_
  exact .commits fun _ _ consistent _ _ run => completeACMEChallengeTx_performs consistent.keyed run

theorem markProcessing_meets :
    (s.markACMEChallengeProcessing ctx actor challengeID).Keeps ids call state := by
  refine .seq .now fun now _ _ _ => ?_
  exact .commits fun _ _ consistent _ _ run =>
    markProcessingTx_performs consistent.keyed run

theorem validationContext_meets :
    (acmeHTTP01ValidationContext challengeID).Keeps ids call state := by
  refine .seq .require fun _ _ _ _ => ?_
  refine .seq (.read (.query _)) fun challenge _ _ _ => ?_
  refine .seq .require fun _ _ _ _ => ?_
  refine .seq (.read (.query _)) fun authorization _ _ _ => ?_
  refine .seq .require fun _ _ _ _ => ?_
  refine .seq (.read (.query _)) fun order _ _ _ => ?_
  refine .seq .require fun _ _ _ _ => ?_
  refine .seq .now fun now _ _ _ => ?_
  refine .seq .require fun _ _ _ _ => ?_
  refine .seq (.read (.query _)) fun account _ _ _ => ?_
  refine .seq .require fun _ _ _ _ => ?_
  exact .seq .require fun _ _ _ _ => .pure trivial

theorem validateHTTP01_meets :
    (s.validateACMEHTTP01Challenge ctx actor challengeID).Keeps ids call state := by
  refine .seq validationContext_meets fun validation _ _ _ => ?_
  refine .seq (.attempt .askQuietly) fun outcome _ _ _ => ?_
  cases outcome with
  | error err => exact markProcessing_meets
  | ok => exact completeACMEChallenge_meets

theorem pollACMEAuthorization_meets {authorizationID} :
    (s.pollACMEAuthorization ctx actor authorizationID).Keeps ids call state := by
  refine .seq .require fun _ _ _ _ => ?_
  refine .seq (.read (.query _)) fun authorization _ _ _ => ?_
  refine .ite (fun _ => .pure trivial) fun _ => ?_
  refine .seq (.read (.query _)) fun challenges _ _ _ => ?_
  refine .seq (.forEach fun challenge t => ?_) fun _ _ _ _ => ?_
  · refine .ite (fun _ => ?_) fun _ => .pure trivial
    exact .seq validateHTTP01_meets fun _ _ _ _ => .pure trivial
  · exact .mono (.read (.query _)) fun _ _ _ _ => trivial

theorem validateEvidence_meets {now} :
    (validateACMEPublicTLSValidationEvidence order now).Keeps ids call state := by
  refine .ite (fun _ => .pure trivial) fun _ => ?_
  refine .seq (.read (.query _)) fun profile _ _ _ => ?_
  refine .ite (fun _ => .pure trivial) fun _ => ?_
  refine .seq (.read (.query _)) fun authorizations _ _ _ => ?_
  exact .mono .require fun _ _ _ _ => trivial

theorem invalidateACMEOrder_meets (stored : OrderStored order state) :
    (s.invalidateACMEOrder ctx actor order).Keeps ids call state := by
  refine .seq .now fun now _ read _ => ?_
  refine .withinTx fun now later consistent _ after run => ?_
  obtain ⟨version, found, agrees⟩ := stored.later (read.trans later)
  exact ⟨invalidateACMEOrderTx_performs ⟨version, found, agrees.same⟩ run, trivial⟩

theorem getACMEOrder_meets : (repo (getACMEOrder orderID)).Meets ids call
      (fun order t => OrderStored order t ∧ order.id = orderID) state := by
  refine .withinTx fun state later consistent order after run => ?_
  obtain ⟨found, rfl⟩ := get_ok_iff.mp run
  have owner := consistent.keyed.orders orderID order found
  refine ⟨.idle .none, ⟨order, ?_, .refl _⟩, owner⟩
  rw [owner]
  exact found

/-- The names of a stored certificate are those of its enrollment. -/
theorem Consistent.names_eq (consistent : Consistent s state)
    (enrolled : EnrollmentStored enrollment state)
    (issued : IssuedFor enrollment.id certificate state) :
      ∃ stored, (ledger state).certificates.lookup certificate.id = some stored ∧
      stored.dnsNames = enrollment.requestedDNSNames ∧
      stored.ipAddresses = enrollment.requestedIPAddresses := by
  obtain ⟨⟨stored, found, same⟩, owner⟩ := issued
  obtain ⟨version, there, agrees⟩ := enrolled
  obtain ⟨attempt, attempted, isFinalized, named⟩ :=
    consistent.issuance.certified _ stored found
  obtain ⟨enrollment', certificate', here, -, found', certifies⟩ :=
    consistent.issuance.finalized _ attempt attempted isFinalized
  have key : stored.enrollmentID = enrollment.id := by
    rw [same]
    exact owner
  rw [named, found] at found'
  cases found'
  rw [key, there] at here
  cases here
  refine ⟨stored, found, ?_, ?_⟩
  · rw [certifies.dnsNames, agrees]
  · rw [certifies.ipAddresses, agrees]

theorem updateFinalizedOrder_meets {now} (stored : OrderStored order state)
    (enrolled : EnrollmentStored enrollment state)
    (issued : IssuedFor enrollment.id certificate state)
    (dnsNames : enrollment.requestedDNSNames = order.requestedDNSNames)
    (ipAddresses : enrollment.requestedIPAddresses = order.requestedIPAddresses) :
    (withinTx (updateACMEOrderIfStatus (finalizedOrder order req enrollment certificate now) .ready)
      fun _ => none).Keeps ids call state := by
  refine .withinTx fun state later consistent _ after run => ?_
  obtain ⟨version, found, same⟩ := stored.later later
  obtain ⟨certificate', there, names⟩ :=
    consistent.names_eq (enrolled.later later) (issued.later later)
  refine ⟨finalizeOrder_performs ?_ ⟨version, ?_, ?_⟩ ⟨certificate', ?_, ?_⟩ run, trivial⟩
  · rfl
  · exact found
  · rw [same.same]
    rfl
  · exact there
  · exact ⟨names.1.trans dnsNames, names.2.trans ipAddresses⟩

theorem auditEvent_meets {resourceType resourceID now fields} (other : action ∉ statusActions) :
    (withinTx (s.createAuditEvent ctx actor action resourceType resourceID now fields)
      fun _ => none).Keeps ids call state :=
  .commits fun _ _ _ _ _ run => auditEvent_performs other run

section

variable
  (started : (call, .started (.finalizeACMEOrder ctx actor orderID req)) ∈ state.history)

include started

/-- The request of a finalization is the one of its order. -/
theorem RequestOfOrder.of_finalize (stored : OrderStored order state) (owner : order.id = orderID)
    (decided : order.status ≠ .pending) (later : Later state t) (consistent : Consistent s t) :
    RequestOfOrder call t (orderEnrollmentRequest order req) := by
  intro ctx' actor' orderID' req' started'
  have same := consistent.calls _ _ _ (later.history.subset started) started'
  injection same with _ _ sameOrder sameRequest
  subst sameOrder sameRequest
  obtain ⟨version, found, agrees⟩ := stored.later later
  refine ⟨version, owner ▸ found, fun pending => decided (agrees.decided pending), ?_⟩
  rw [agrees.same]
  rfl

theorem finalizeReadyOrder_meets (stored : OrderStored order state) (owner : order.id = orderID)
    (ready : order.status = .ready) :
    (s.finalizeReadyOrder node ctx actor order req).Keeps ids call state := by
  refine .seq (createEnrollment_meets (fun _ => .of_finalize started stored owner (by simp [ready]))
    fun _ later => .ordered (later.history.subset started)) fun enrollment t created enrolled => ?_
  obtain ⟨enrolled, dnsNames, ipAddresses⟩ := enrolled
  refine .seq approveWithReason_meets fun _ t approved _ => ?_
  refine .seq issueCertificate_meets fun certificate t issuing issued => ?_
  refine .seq .now fun now t reading _ => ?_
  have enrolled := enrolled.later ((approved.trans issuing).trans reading)
  have stored := stored.later (((created.trans approved).trans issuing).trans reading)
  refine .seq (updateFinalizedOrder_meets stored enrolled (issued.later reading) dnsNames
    ipAddresses) fun _ _ _ _ => ?_
  exact .seq (auditEvent_meets (by decide)) fun _ _ _ _ => .pure trivial

theorem finalizeACMEOrder_meets :
    (s.finalizeACMEOrder node ctx actor orderID req).Keeps ids call state := by
  refine .seq .require fun _ _ named _ => ?_
  refine .seq getACMEOrder_meets fun order _ read found => ?_
  obtain ⟨stored, owner⟩ := found
  refine .ite (fun _ => .pure trivial) fun _ => ?_
  refine .seq .require fun _ _ required ready => ?_
  refine .seq .now fun now _ reading _ => ?_
  refine .ite (fun _ => ?_) fun _ => ?_
  · refine .seq (invalidateACMEOrder_meets (stored.later (required.trans reading))) fun _ _ _ _ =>
      ?_
    exact .fail
  · refine .seq .now fun now _ reading' _ => ?_
    refine .seq validateEvidence_meets fun _ _ validated _ => ?_
    have later := ((required.trans reading).trans reading').trans validated
    exact finalizeReadyOrder_meets (((named.trans read).trans later).history.subset started)
      (stored.later later) owner ready

end

end Acme

section Configuration

variable {state : State} {ctx : Context} {actor : Text}

theorem createIdentity_meets {req} : (s.createIdentity ctx actor req).Keeps ids call state := by
  refine .seq .ofExcept fun _ _ _ _ => ?_
  refine .seq .now fun now _ _ _ => ?_
  exact .commits fun _ _ _ _ _ run => createIdentityTx_performs run

theorem validateIssuerRequest_keyRef {req}
    (accepted : validateCreateIssuerRequest s.lowerRune req s.productionPolicy = .ok u) :
    s.AcceptsKeyRef req.keyRef := by
  simp only [validateCreateIssuerRequest, validateSupportedSigningKeyRef, bind_eq_ok,
    demand_ok_iff] at accepted
  obtain ⟨-, nonblank, -, production, -, supported, -⟩ := accepted
  exact ⟨fun blank => nonblank (.inr (.inr (.inr blank))), production, supported⟩

theorem createIssuer_meets {req} : (s.createIssuer ctx actor req).Keeps ids call state := by
  refine .seq .ofExcept fun _ _ _ accepted => ?_
  refine .seq .now fun now _ _ _ => ?_
  exact .commits fun _ _ _ _ _ run =>
    createIssuerTx_performs (validateIssuerRequest_keyRef accepted) run

theorem validateProfileRequest_ok {lower req now override}
    (accepted : validateCreateCertificateProfileRequest lower req now override = .ok u) :
    req.validityPeriodSeconds > 0 := by
  simp only [validateCreateCertificateProfileRequest, bind_eq_ok, demand_ok_iff] at accepted
  obtain ⟨-, named, -⟩ := accepted
  simp only [not_or, Int64.not_le] at named
  exact named.2.2

theorem createProfile_meets {req} :
    (s.createCertificateProfile ctx actor req).Keeps ids call state := by
  refine .seq .now fun now _ _ _ => ?_
  refine .seq .ofExcept fun _ _ _ accepted => ?_
  exact .commits fun _ _ _ _ _ run =>
    createProfileTx_performs (validateProfileRequest_ok accepted) run

theorem transitionIssuer_meets {req}
    (started : (call, .started (.transitionCertificateProfileIssuer ctx actor req)) ∈
      state.history) :
    (s.transitionCertificateProfileIssuer ctx actor req).Keeps ids call state := by
  refine .seq .ofExcept fun _ _ checked _ => ?_
  refine .seq .now fun now _ timed _ => ?_
  refine .withinTx fun now later consistent profile after run => ?_
  have since := (checked.trans timed).trans later
  exact ⟨transitionIssuerTx_performs consistent.keyed
    (since.history.subset started) run, trivial⟩

theorem storeACMEAccount_meets {req} : (s.storeACMEAccount ctx actor req).Keeps ids call state := by
  refine .seq .now fun now _ _ _ => ?_
  exact .commits fun _ _ _ _ _ run => createACMEAccountTx_performs run

theorem createACMEAccount_meets {req} : (s.createACMEAccount ctx actor req).Keeps ids call state :=
  .seq .ofExcept fun _ _ _ _ => storeACMEAccount_meets

theorem findACMEAccountByKey_meets {keyThumbprint} :
    (findACMEAccountByKey keyThumbprint).Keeps ids call state := by
  refine .ite (fun _ => .pure trivial) fun _ => ?_
  exact .seq (.read (.query _)) fun _ _ _ _ => .pure trivial

theorem createOrGetACMEAccount_meets {req} :
    (s.createOrGetACMEAccount ctx actor req).Keeps ids call state := by
  refine .seq .ofExcept fun _ _ _ _ => ?_
  refine .seq findACMEAccountByKey_meets fun found _ _ _ => ?_
  cases found with
  | some account => exact .pure trivial
  | none => exact .seq storeACMEAccount_meets fun _ _ _ _ => .pure trivial

theorem updateACMEAccount_meets {req} :
    (s.updateACMEAccount ctx actor accountID req).Keeps ids call state := by
  refine .seq .require fun _ _ _ _ => ?_
  refine .seq .now fun now _ _ _ => ?_
  exact .commits fun _ _ consistent _ _ run => updateACMEAccountTx_performs consistent.keyed run

theorem updateKey_meets {req} :
    (s.updateACMEAccountKey ctx actor accountID req).Keeps ids call state := by
  refine .seq .require fun _ _ _ _ => ?_
  refine .seq .now fun now _ _ _ => ?_
  exact .commits fun _ _ consistent _ _ run => updateKeyTx_performs consistent.keyed run

end Configuration

section Crl

variable {state : State} {ctx : Context} {actor : Text}

theorem claimCRLGeneration_meets {distributionPoint issuer now}
    (known : (ledger state).issuers.lookup issuerID = some issuer)
    (past : now.nanos ≤ state.world.clock.nanos) :
    (claimCRLGeneration issuerID distributionPoint now).Meets ids call (fun claim t =>
      (call, .crlClaimed claim) ∈ t.history ∧ claim.issuerID = issuerID ∧
        claim.distributionPoint = distributionPoint ∧ claim.updatedAt = now) state := by
  refine .withinTx fun t later consistent claim after run => ?_
  obtain ⟨performs, pair⟩ := claimCRLGenerationTx_performs ids consistent (later.issuer known)
    (past.trans later.clock) run
  exact ⟨performs, by simp [Shared.after], pair⟩

theorem generateCRL_meets {entries request}
    (listed : (call, .revocationsListed claim entries) ∈ state.history)
    (number : request.crlNumber = claim.crlNumber)
    (revoked : request.revokedCertificates = entries.map revokedCertificate) :
    (generateCRL claim request).Meets ids call
      (fun _ t => (call, .crlRequested claim request) ∈ t.history) state := by
  refine .seq .askQuietly fun _ _ ready _ => ?_
  refine .seq (.ask fun t later _ => ?_) fun answer _ _ left => ?_
  · exact ⟨{}, .refl _, .crl (.requested ((ready.trans later).history.subset listed) number revoked)
      .nothing (by simp)⟩
  · refine .seq .ofExcept fun result _ mapped _ => ?_
    refine .seq .ofExcept fun _ _ validated _ => ?_
    exact .pure ((mapped.trans validated).history.subset (left _ rfl))

theorem listRevocations_meets (claimed : (call, .crlClaimed claim) ∈ state.history)
    (owner : claim.issuerID = issuerID) : (withinTx (listRevocationsByIssuer issuerID)
      fun entries => some (.revocationsListed claim entries)).Meets ids call
      (fun entries t => (call, .revocationsListed claim entries) ∈ t.history) state := by
  subst owner
  refine .withinTx fun t later consistent entries after run => ?_
  exact ⟨listRevocations_performs (later.history.subset claimed) run, by simp [Shared.after]⟩

theorem publishClaimedCRL_meets {issuer req now}
    (claimed : (call, .crlClaimed claim) ∈ state.history)
    (pair : claim.issuerID = req.issuerID ∧ claim.distributionPoint = req.distributionPoint)
    (dated : claim.updatedAt = now) :
    (s.publishClaimedCRL ctx actor issuer claim req now).Keeps ids call state := by
  refine .seq (listRevocations_meets claimed pair.1) fun entries t _ listed => ?_
  refine .seq (generateCRL_meets listed rfl rfl) fun result t _ requested => ?_
  exact .commits fun _ later _ _ _ run =>
    publishCRLTx_performs (later.history.subset requested) pair dated run

theorem releaseCRLClaim_meets (claimed : (call, .crlClaimed claim) ∈ state.history) :
    (releaseCRLClaim claim).Keeps ids call state :=
  .commits fun _ later _ _ _ run => releaseCRLClaimTx_performs (later.history.subset claimed) run

theorem publishCRL_meets {req} : (s.publishCRL ctx actor req).Keeps ids call state := by
  refine .seq .now fun now _ _ past => ?_
  refine .seq .ofExcept fun _ _ validated _ => ?_
  refine .seq .get fun issuer _ read known => ?_
  refine .seq (claimCRLGeneration_meets known (past.trans (validated.trans read).clock))
    fun claim _ _ claimed => ?_
  obtain ⟨claimed, issuerID, distributionPoint, dated⟩ := claimed
  refine .seq (publishClaimedCRL_meets claimed ⟨issuerID, distributionPoint⟩ dated).attempt
    fun outcome _ later _ => ?_
  cases outcome with
  | ok publication => exact .pure trivial
  | error err =>
    exact .seq (releaseCRLClaim_meets (later.history.subset claimed)).attempt fun _ _ _ _ => .fail

end Crl

end AnoPki.Lifecycle
