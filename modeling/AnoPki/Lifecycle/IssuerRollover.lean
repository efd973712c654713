import AnoPki.Lifecycle.Deployment

/-! # Rollovers of a profile's issuer

Runs of `TransitionCertificateProfileIssuer`. A request names the issuer it expects and the next
one; a transition is told by one audit event and one message. -/
namespace AnoPki.Lifecycle

open Foundation Domain Store List Tx Shelf Option

variable {err : Err} {profile updated : CertificateProfile}
  {passes : State → Nat → Option Event → Prop} {number : Nat} {current next : Issuer}

/-- The tables after a transition. -/
def withTransition (db : Db) (profile : CertificateProfile) (message : OutboxMessage)
    (log : AuditLog) : Db :=
  { db with
    profiles := db.profiles.insert profile.id profile
    audit := log
    outbox := db.outbox.insert message.id message }

/-- The issuers and the profile that a transition names. -/
structure Transits (db : Db) (req : TransitionCertificateProfileIssuerRequest)
    (profile : CertificateProfile) (current next parent : Issuer) : Prop where
  valid : validateCertificateProfileIssuerTransitionRequest req = .ok ()
  foundProfile : db.profiles.lookup req.profileID = some profile
  foundCurrent : db.issuers.lookup req.currentIssuerID = some current
  foundNext : db.issuers.lookup req.nextIssuerID = some next
  foundParent : db.issuers.lookup current.parentIssuerID = some parent
  profileID : profile.id = req.profileID
  currentID : current.id = req.currentIssuerID
  nextID : next.id = req.nextIssuerID
  issuer : profile.issuerID = req.currentIssuerID
  fit : ¬ (current.id = next.id ∨ current.status ≠ .active ∨ next.status ≠ .active ∨
    current.kind ≠ .intermediateCA ∨ next.kind ≠ .intermediateCA ∨ isBlank current.parentIssuerID ∨
    current.parentIssuerID ≠ next.parentIssuerID)
  anchor : parent.status = .active ∧ parent.kind = .rootCA ∧ parent.trustAnchor

section Transaction

variable {s : Service} {ctx : Context} {actor : Text}
  {req : TransitionCertificateProfileIssuerRequest} {now : Time} {t t' : Session}
  {updated : CertificateProfile}

theorem issuerTransition_ok {parentID}
    (run : validateIntermediateIssuerTransition current next t = (.ok parentID, t')) :
    ∃ parent, t.db.issuers.lookup current.parentIssuerID = some parent ∧
      parentID = parent.id ∧ t' = t ∧
      (parent.status = .active ∧ parent.kind = .rootCA ∧ parent.trustAnchor) ∧
      ¬ (current.id = next.id ∨ current.status ≠ .active ∨ next.status ≠ .active ∨
        current.kind ≠ .intermediateCA ∨ next.kind ≠ .intermediateCA ∨
        isBlank current.parentIssuerID ∨ current.parentIssuerID ≠ next.parentIssuerID) := by
  simp only [validateIntermediateIssuerTransition, bind_ok_iff, getIssuer, get_ok_iff,
    require_ok_iff, pure_ok_iff] at run
  obtain ⟨⟨⟩, _, ⟨fit, rfl⟩, parent, _, ⟨found, rfl⟩, ⟨⟩, _, ⟨anchor, rfl⟩, rfl, rfl⟩ := run
  exact ⟨parent, found, rfl, rfl, anchor, fit⟩

theorem issuerTransition_error
    (run : validateIntermediateIssuerTransition current next t = (.error err, t')) :
    err.kind = .issuerNotFound ∨ err.kind = .invalidRequest := by
  rcases bind_error_iff.mp run with run | ⟨⟨⟩, _, -, run⟩
  · obtain ⟨-, rfl, -⟩ := require_error_iff.mp run
    exact .inr rfl
  rcases bind_error_iff.mp run with run | ⟨parent, _, -, run⟩
  · obtain ⟨-, rfl, -⟩ := get_error_iff.mp run
    exact .inl rfl
  rcases bind_error_iff.mp run with run | ⟨⟨⟩, _, -, run⟩
  · obtain ⟨-, rfl, -⟩ := require_error_iff.mp run
    exact .inr rfl
  · cases run

/-- What a transition that commits has found and done. -/
theorem transitionTx_ok (issuers : Table.KeyedBy Issuer.id t.db.issuers)
    (profiles : Table.KeyedBy CertificateProfile.id t.db.profiles)
    (valid : validateCertificateProfileIssuerTransitionRequest req = .ok ())
    (run : s.transitionCertificateProfileIssuerTx ctx actor req now t = (.ok updated, t')) :
    ∃ profile current next parent log event, Transits t.db req profile current next parent ∧
      updated = { profile with issuerID := next.id, updatedAt := now } ∧
      log.events = t.db.audit.events ++ [event] ∧
      event.action = issuerTransitionAction req.transition ∧ event.resourceID = req.profileID ∧
      t'.db = withTransition t.db updated
        (transitionMessage (s.idgen (t.drawn + 1)) req parent.id now) log := by
  simp only [Service.transitionCertificateProfileIssuerTx, bind_ok_iff, getCertificateProfile,
    getIssuer, get_ok_iff, require_ok_iff, pure_ok_iff] at run
  obtain ⟨profile, _, ⟨foundProfile, rfl⟩, ⟨⟩, _, ⟨issuer, rfl⟩, current, _,
    ⟨foundCurrent, rfl⟩, next, _, ⟨foundNext, rfl⟩, parentID, _, checked, ⟨⟩, _, written, ⟨⟩, _,
    audited, ⟨⟩, _, posted, rfl, rfl⟩ := run
  obtain ⟨parent, foundParent, rfl, rfl, anchor, fit⟩ := issuerTransition_ok checked
  cases updateProfileIssuer_ok written
  obtain ⟨log, event, events, action, resource, rfl⟩ := auditEvent_appended audited
  obtain ⟨id, mid, drawn, posted⟩ := bind_ok_iff.mp posted
  obtain ⟨rfl, rfl⟩ := newID_ok_iff.mp drawn
  cases modify_ok_iff.mp posted
  have profileID := profiles _ _ foundProfile
  have currentID := issuers _ _ foundCurrent
  have nextID := issuers _ _ foundNext
  refine ⟨profile, current, next, parent, log, event,
    ⟨valid, foundProfile, foundCurrent, foundNext, foundParent,
    profileID, currentID, nextID, issuer, fit, anchor⟩, rfl, events, action,
    resource.trans profileID, ?_⟩
  rw [withTransition, transitionMessage, ← profileID, ← currentID, ← nextID]

/-- An update that finds the issuer and the time it expects does not fail. -/
theorem updateProfileIssuer_current {stored issuerID updatedAt}
    (found : t.db.profiles.lookup profile.id = some stored)
    (current : stored.issuerID = issuerID) (unchanged : stored.updatedAt.equal updatedAt) :
    updateCertificateProfileIssuerIfCurrent profile issuerID updatedAt t ≠ (.error err, t') := by
  intro run
  rcases bind_error_iff.mp run with unread | ⟨read, _, got, afterRead⟩
  · obtain ⟨absent, -, -⟩ := get_error_iff.mp unread
    cases found.symm.trans absent
  obtain ⟨there, rfl⟩ := get_ok_iff.mp got
  cases mem_unique found there
  rcases bind_error_iff.mp afterRead with refused | ⟨⟨⟩, _, -, written⟩
  · exact (require_error_iff.mp refused).1 ⟨current, unchanged⟩
  · cases written

/-- The refusals of a transition that finds the issuer it expects. -/
theorem transitionTx_error (issuers : Table.KeyedBy Issuer.id t.db.issuers)
    (profiles : Table.KeyedBy CertificateProfile.id t.db.profiles)
    (found : t.db.profiles.lookup req.profileID = some profile)
    (expected : profile.issuerID = req.currentIssuerID)
    (run : s.transitionCertificateProfileIssuerTx ctx actor req now t = (.error err, t')) :
    err.kind = .issuerNotFound ∨ err.kind = .invalidRequest ∨ err.kind = .auditIntegrity ∨
    err.kind = .other := by
  have missing : ∀ {id t t'} {err : Err}, getIssuer id t = (.error err, t') →
      err.kind = .issuerNotFound := by
    intro id t t' err run
    obtain ⟨-, rfl, -⟩ := get_error_iff.mp run
    rfl
  rcases bind_error_iff.mp run with unread | ⟨stored, _, got, afterRead⟩
  · obtain ⟨absent, -, -⟩ := get_error_iff.mp unread
    cases found.symm.trans absent
  obtain ⟨there, rfl⟩ := get_ok_iff.mp got
  cases mem_unique found there
  rcases bind_error_iff.mp afterRead with moved | ⟨⟨⟩, _, required, afterCheck⟩
  · exact absurd expected (require_error_iff.mp moved).1
  obtain ⟨-, rfl⟩ := require_ok_iff.mp required
  rcases bind_error_iff.mp afterCheck with unknown | ⟨current, _, got, afterCurrent⟩
  · exact .inl (missing unknown)
  obtain ⟨foundCurrent, rfl⟩ := get_ok_iff.mp got
  rcases bind_error_iff.mp afterCurrent with unknown | ⟨next, _, got, afterNext⟩
  · exact .inl (missing unknown)
  obtain ⟨-, rfl⟩ := get_ok_iff.mp got
  rcases bind_error_iff.mp afterNext with unfit | ⟨parentID, _, checked, afterParent⟩
  · exact (issuerTransition_error unfit).imp id .inl
  obtain ⟨-, -, -, rfl, -⟩ := issuerTransition_ok checked
  rcases bind_error_iff.mp afterParent with unwritten | ⟨⟨⟩, _, -, afterWrite⟩
  · -- The profile is stored as it was read, so the update finds what it expects.
    have stored := found
    rw [← profiles _ _ found] at stored
    have current := expected.trans (issuers _ _ foundCurrent).symm
    exact absurd unwritten (updateProfileIssuer_current stored current rfl)
  rcases bind_error_iff.mp afterWrite with unaudited | ⟨⟨⟩, _, -, afterAudit⟩
  · exact .inr (.inr (auditEvent_refused unaudited))
  rcases bind_error_iff.mp afterAudit with unposted | ⟨⟨⟩, _, -, done⟩
  · cases unposted
  · cases done

/-- A transition that finds another issuer is refused. -/
theorem transitionTx_stale {profile} (found : t.db.profiles.lookup req.profileID = some profile)
    (moved : profile.issuerID ≠ req.currentIssuerID) :
    s.transitionCertificateProfileIssuerTx ctx actor req now t =
    (.error (ErrKind.err .invalidTransition), t) :=
  bind_error_iff.mpr (.inr ⟨profile, t, get_ok_iff.mpr ⟨found, rfl⟩,
    bind_error_iff.mpr (.inl (require_error_iff.mpr ⟨moved, rfl, rfl⟩))⟩)

end Transaction

/-- A call as it was made and answered, with the tables before and after it. -/
structure TransitionStep where
  req : TransitionCertificateProfileIssuerRequest
  outcome : Except Err CertificateProfile
  before : Db
  after : Db

/-- The runs of transitions, in which the clock may be set and other calls may change the tables as
`others` allows. A call reads the clock and does the rest in one transaction, so calls that overlap
are as good as calls one after the other. -/
inductive TransitionRun (s : Service) (others : Db → Db → Prop) (start : State) :
    List TransitionStep → State → Prop
  | start : TransitionRun s others start [] start
  | call {steps mid after outcome}
      (ctx : Context) (actor : Text) (req : TransitionCertificateProfileIssuerRequest) :
      TransitionRun s others start steps mid →
      (s.transitionCertificateProfileIssuer ctx actor req).Returns (fun _ _ _ => True)
      0 mid outcome after →
      TransitionRun s others start (steps ++ [⟨req, outcome, mid.world.db, after.world.db⟩]) after
  | tick {steps mid} (clock : Time) : TransitionRun s others start steps mid →
      TransitionRun s others start steps { mid with world := { mid.world with clock := clock } }
  | other {steps mid} (db : Db) (drawn : Nat) :
      TransitionRun s others start steps mid → others mid.world.db db →
      TransitionRun s others start steps (stored mid db drawn)

/-- The profile's issuer is an active intermediate under an active root that is a trust anchor. -/
def Anchored (db : Db) (profileID root : Text) : Prop :=
  ∃ profile issuer anchor, db.profiles.lookup profileID = some profile ∧
    db.issuers.lookup profile.issuerID = some issuer ∧
    (issuer.status = .active ∧ issuer.kind = .intermediateCA ∧ issuer.parentIssuerID = root) ∧
    db.issuers.lookup root = some anchor ∧
    (anchor.status = .active ∧ anchor.kind = .rootCA ∧ anchor.trustAnchor)

/-- A call has changed the issuer and the time of one profile, and has written one audit event and
one message. -/
def TransitionStep.Made (step : TransitionStep) (updated : CertificateProfile) : Prop :=
  ∃ profile log event message, step.before.profiles.lookup step.req.profileID = some profile ∧
    (∃ now, updated = { profile with issuerID := step.req.nextIssuerID, updatedAt := now }) ∧
    log.events = step.before.audit.events ++ [event] ∧
    event.action = issuerTransitionAction step.req.transition ∧
    event.resourceID = step.req.profileID ∧
    message.type = issuerTransitionAction step.req.transition ∧ step.after = { step.before with
      profiles := step.before.profiles.insert step.req.profileID updated
      audit := log
      outbox := step.before.outbox.insert message.id message }

/-- A call has made its transition or has changed nothing. -/
def TransitionStep.Kept (step : TransitionStep) : Prop :=
  match step.outcome with
  | .ok updated => step.Made updated
  | .error _ => step.after = step.before

theorem TransitionStep.Made.lookup {step : TransitionStep} (made : step.Made updated) :
    step.after.profiles.lookup step.req.profileID = some updated := by
  obtain ⟨profile, log, event, message, -, -, -, -, -, -, tables⟩ := made
  rw [tables]
  exact AList.lookup_insert _

section Runs

variable {s : Service} {ctx : Context} {actor : Text}
   {req : TransitionCertificateProfileIssuerRequest} {start mid after : State}
   {steps : List TransitionStep}

/-- A call that succeeds has made its transition at the time of the state. -/
theorem transition_ok
    (returned : (s.transitionCertificateProfileIssuer ctx actor req).Returns passes number mid
    (.ok updated) after) : validateCertificateProfileIssuerTransitionRequest req = .ok () ∧
      ∃ done, s.transitionCertificateProfileIssuerTx ctx actor req mid.world.clock (session mid) =
        (.ok updated, done) ∧ after = stored mid done.db done.drawn := by
  rcases returned.of_seq with ⟨_, ⟨⟩, -⟩ | ⟨⟨⟩, _, validated, reads⟩
  obtain ⟨valid, rfl⟩ := validated.of_ofExcept
  rcases Op.Returns.of_seq reads with ⟨_, ⟨⟩, -⟩ | ⟨now, _, read, writes⟩
  obtain ⟨same, rfl⟩ := read.of_now
  cases same
  obtain ⟨done, committed, rfl⟩ := Op.Returns.of_withinTx writes
  exact ⟨valid.symm, done, committed, after_none _ _ _⟩

section

variable
  (returned : (s.transitionCertificateProfileIssuer ctx actor req).Returns passes number mid
    (.error err) after)

include returned

/-- A call that fails leaves the tables as they are. -/
theorem transition_error : ∃ drawn, after = stored mid mid.world.db drawn := by
  rcases returned.of_seq with ⟨_, -, validated⟩ | ⟨⟨⟩, _, validated, reads⟩
  · obtain ⟨-, rfl⟩ := validated.of_ofExcept
    exact ⟨_, rfl⟩
  obtain ⟨-, rfl⟩ := validated.of_ofExcept
  rcases Op.Returns.of_seq reads with ⟨_, -, read⟩ | ⟨now, _, read, writes⟩
  · obtain ⟨-, rfl⟩ := read.of_now
    exact ⟨_, rfl⟩
  obtain ⟨-, rfl⟩ := read.of_now
  exact Op.Returns.of_withinTx_error writes

/-- Why a call fails. -/
theorem transition_refused :
    validateCertificateProfileIssuerTransitionRequest req = .error err ∨
      err.kind = .storageFailure ∨
        ∃ done, s.transitionCertificateProfileIssuerTx ctx actor req mid.world.clock (session mid) =
          (.error err, done) := by
  rcases returned.of_seq with ⟨_, same, validated⟩ | ⟨⟨⟩, _, validated, reads⟩
  · cases Except.error.inj same
    exact .inl validated.of_ofExcept.1.symm
  obtain ⟨-, rfl⟩ := validated.of_ofExcept
  rcases Op.Returns.of_seq reads with ⟨_, -, read⟩ | ⟨now, _, read, writes⟩
  · obtain ⟨impossible, -⟩ := read.of_now
    cases impossible
  obtain ⟨same, rfl⟩ := read.of_now
  cases same
  obtain ⟨answer, world, run, -⟩ := Op.Returns.of_atomic writes
  rcases runTx_cases run with ⟨_, _, ⟨⟩, -, -, why⟩ | ⟨_, _, ⟨⟩, -⟩
  exact .inr why

end

/-- The issuers and the profiles are stored under their IDs. -/
structure Filed (db : Db) : Prop where
  issuers : Table.KeyedBy Issuer.id db.issuers
  profiles : Table.KeyedBy CertificateProfile.id db.profiles

/-- What a call that succeeds has found and done. -/
theorem transition_made (filed : Filed mid.world.db)
    (returned : (s.transitionCertificateProfileIssuer ctx actor req).Returns passes number mid
    (.ok updated) after) :
    (∃ profile current next parent, Transits mid.world.db req profile current next parent ∧
      updated = { profile with issuerID := next.id, updatedAt := mid.world.clock }) ∧
    TransitionStep.Made ⟨req, .ok updated, mid.world.db, after.world.db⟩ updated ∧
    after.world.db.issuers = mid.world.db.issuers ∧ Filed after.world.db := by
  obtain ⟨valid, done, committed, rfl⟩ := transition_ok returned
  obtain ⟨profile, current, next, parent, log, event, transits, rfl, events, action,
      resource, tables⟩ :=
    transitionTx_ok filed.issuers filed.profiles valid committed
  have stored : (Lifecycle.stored mid done.db done.drawn).world.db = _ := tables
  rw [stored]
  refine ⟨⟨profile, current, next, parent, transits, rfl⟩, ?_, rfl,
    ⟨filed.issuers, filed.profiles.insert _⟩⟩
  refine ⟨profile, log, event, transitionMessage (s.idgen (mid.world.drawn + 1))
    req parent.id mid.world.clock, transits.foundProfile, ⟨mid.world.clock, ?_⟩, events, action,
    resource, rfl, ?_⟩
  · rw [transits.nextID]
  · rw [← transits.profileID]
    rfl

theorem Transits.anchored {db db' : Db} {parent}
    (transits : Transits db req profile current next parent)
    (moved : db'.profiles.lookup req.profileID = some updated) (issuer : updated.issuerID = next.id)
    (issuers : db'.issuers = db.issuers) : Anchored db' req.profileID current.parentIssuerID := by
  have fit := transits.fit
  simp only [not_or, not_not] at fit
  obtain ⟨-, -, active, -, intermediate, -, parents⟩ := fit
  refine ⟨updated, next, parent, moved, ?_, ⟨active, intermediate, parents.symm⟩, ?_,
    transits.anchor⟩
  · rw [issuers, issuer, transits.nextID]
    exact transits.foundNext
  · rw [issuers]
    exact transits.foundParent

/-- What holds along a run of transitions of one profile. -/
structure RunAnchored (steps : List TransitionStep) (db : Db) (profileID root : Text) : Prop where
  kept : ∀ step ∈ steps, step.Kept
  anchored : ∀ step ∈ steps, step.outcome.isOk → Anchored step.after profileID root
  latest : (∃ step ∈ steps, step.outcome.isOk) → Anchored db profileID root

theorem TransitionRun.anchored (run : TransitionRun s (fun _ _ => False) start steps after)
    (filed : Filed start.world.db) {profileID : Text}
    (own : ∀ step ∈ steps, step.req.profileID = profileID) :
    Filed after.world.db ∧ ∃ root, RunAnchored steps after.world.db profileID root := by
  induction run with
  | start => exact ⟨filed, [], by simp, by simp, by simp⟩
  | tick clock run ih => exact ih own
  | other db drawn run impossible => exact impossible.elim
  | @call steps mid after outcome ctx actor req run returned ih =>
    obtain ⟨filed, root, kept, anchored, latest⟩ :=
      ih fun step inside => own step (mem_append_left _ inside)
    have named : req.profileID = profileID := own _ mem_append_cons_self
    cases outcome with
    | error err =>
      obtain ⟨drawn, rfl⟩ := transition_error returned
      refine ⟨filed, root, forall_mem_append.mpr ⟨kept, forall_mem_singleton.mpr rfl⟩,
        forall_mem_append.mpr ⟨anchored, forall_mem_singleton.mpr nofun⟩, ?_⟩
      rintro ⟨step, inside, succeeded⟩
      rcases mem_append.mp inside with earlier | last
      · exact latest ⟨step, earlier, succeeded⟩
      · rw [mem_singleton.mp last] at succeeded
        cases succeeded
    | ok updated =>
      obtain ⟨⟨profile, current, next, parent, transits, result⟩, made, issuers, filed'⟩ :=
        transition_made filed returned
      have now := transits.anchored made.lookup (by rw [result]) issuers
      rw [named] at now
      -- The first transition chooses the root; the later ones start from an issuer under it.
      have goesOn : ∀ root, current.parentIssuerID = root →
          (∀ step ∈ steps, step.outcome.isOk → Anchored step.after profileID root) →
          RunAnchored (steps ++ [⟨req, .ok updated, mid.world.db, after.world.db⟩])
            after.world.db profileID root := by
        rintro root rfl anchored
        exact ⟨forall_mem_append.mpr ⟨kept, forall_mem_singleton.mpr made⟩,
          forall_mem_append.mpr ⟨anchored, forall_mem_singleton.mpr fun _ => now⟩, fun _ => now⟩
      refine ⟨filed', ?_⟩
      by_cases earlier : ∃ step ∈ steps, step.outcome.isOk
      · obtain ⟨stored, issuer, anchor, found, known, ⟨-, -, under⟩, -⟩ := latest earlier
        rw [← named, transits.foundProfile] at found
        cases found
        rw [transits.issuer, transits.foundCurrent] at known
        cases known
        exact ⟨root, goesOn root under anchored⟩
      · refine ⟨_, goesOn _ rfl fun step inside succeeded => ?_⟩
        exact absurd ⟨step, inside, succeeded⟩ earlier

/-- What other calls may do: they keep the records under their IDs and remove no profile. -/
structure Harmless (before after : Db) : Prop where
  filed : Filed after
  known : ∀ id profile, before.profiles.lookup id = some profile →
    ∃ profile, after.profiles.lookup id = some profile

/-- Whenever the request is delivered, it is refused as an invalid transition and nothing is
changed. The store may also fail on its own. -/
def RedeliveryRejected (s : Service) (req : TransitionCertificateProfileIssuerRequest)
    (state : State) : Prop :=
  ∀ ctx actor outcome after,
    (s.transitionCertificateProfileIssuer ctx actor req).Returns (fun _ _ _ => True)
    0 state outcome after →
      (∃ err, outcome = .error err ∧
        (err = ErrKind.err .invalidTransition ∨ err.kind = .storageFailure)) ∧
        after.world.db = state.world.db

/-- A request that was applied is well formed, and its profile is still there. -/
theorem TransitionRun.applied (run : TransitionRun s Harmless start steps after)
    (filed : Filed start.world.db) : Filed after.world.db ∧ ∀ step ∈ steps, step.outcome.isOk →
      validateCertificateProfileIssuerTransitionRequest step.req = .ok () ∧
      ∃ profile, after.world.db.profiles.lookup step.req.profileID = some profile := by
  induction run with
  | start => exact ⟨filed, by simp⟩
  | tick clock run ih => exact ih
  | other db drawn run harmless ih =>
    refine ⟨harmless.filed, fun step inside succeeded => ?_⟩
    obtain ⟨valid, profile, found⟩ := ih.2 step inside succeeded
    exact ⟨valid, harmless.known _ _ found⟩
  | @call steps mid after outcome ctx actor req run returned ih =>
    obtain ⟨filed, applied⟩ := ih
    cases outcome with
    | error err =>
      obtain ⟨drawn, rfl⟩ := transition_error returned
      exact ⟨filed, forall_mem_append.mpr ⟨applied, forall_mem_singleton.mpr nofun⟩⟩
    | ok updated =>
      obtain ⟨-, made, -, filed'⟩ := transition_made filed returned
      refine ⟨filed', forall_mem_append.mpr ⟨fun step inside succeeded => ?_,
        forall_mem_singleton.mpr fun _ => ⟨(transition_ok returned).1, updated, made.lookup⟩⟩⟩
      obtain ⟨valid, profile, found⟩ := applied step inside succeeded
      obtain ⟨-, log, event, message, -, -, -, -, -, -, tables⟩ := made
      have stored : after.world.db.profiles = _ := congrArg Db.profiles tables
      refine ⟨valid, ?_⟩
      rw [stored, Table.lookup_insert_eq]
      split
      · exact ⟨_, rfl⟩
      · exact ⟨_, found⟩

/-- A request whose profile has moved on is rejected. -/
theorem rejected_of_moved (valid : validateCertificateProfileIssuerTransitionRequest req = .ok ())
    (found : mid.world.db.profiles.lookup req.profileID = some profile)
    (moved : profile.issuerID ≠ req.currentIssuerID) : RedeliveryRejected s req mid := by
  intro ctx actor outcome after returned
  have stale := @transitionTx_stale s ctx actor req mid.world.clock (session mid) _ found moved
  cases outcome with
  | ok updated =>
    obtain ⟨-, done, committed, -⟩ := transition_ok returned
    cases stale.symm.trans committed
  | error err =>
    obtain ⟨drawn, rfl⟩ := transition_error returned
    refine ⟨⟨err, rfl, ?_⟩, rfl⟩
    rcases transition_refused returned with invalid | failure | ⟨done, refused⟩
    · cases valid.symm.trans invalid
    · exact .inr failure
    · obtain ⟨same, -⟩ := Prod.mk.inj (stale.symm.trans refused)
      exact .inl (Except.error.inj same).symm

/-- A request whose profile has the expected issuer again is not rejected. -/
theorem not_rejected_of_returned (filed : Filed mid.world.db)
    (valid : validateCertificateProfileIssuerTransitionRequest req = .ok ())
    (found : mid.world.db.profiles.lookup req.profileID = some profile)
    (expected : profile.issuerID = req.currentIssuerID) : ¬ RedeliveryRejected s req mid := by
  intro rejected
  have lenient : Lenient fun _ _ _ => True := fun _ _ _ _ => trivial
  rcases run : s.transitionCertificateProfileIssuerTx {} [] req mid.world.clock (session mid) with
    ⟨err | updated, done⟩
  · have returned : (s.transitionCertificateProfileIssuer {} [] req).Returns
        (fun _ _ _ => True) 0 mid (.error err) _ :=
          .seq (.ofExcept valid) (.seq (.now lenient) (.withinTx_error lenient run))
    obtain ⟨⟨_, same, kind⟩, -⟩ := rejected _ _ _ _ returned
    cases Except.error.inj same
    have other := transitionTx_error filed.issuers filed.profiles found expected run
    rcases kind with rfl | kind
    · exact absurd other (by decide)
    · rw [kind] at other
      exact absurd other (by decide)
  · have returned : (s.transitionCertificateProfileIssuer {} [] req).Returns
        (fun _ _ _ => True) 0 mid (.ok updated) _ :=
          .seq (.ofExcept valid) (.seq (.now lenient) (.withinTx lenient run rfl))
    obtain ⟨⟨_, same, -⟩, -⟩ := rejected _ _ _ _ returned
    cases same

end Runs

/-- The first issuer is put back. -/
def rollback : TransitionCertificateProfileIssuerRequest where
  profileID := smallID 8
  currentIssuerID := smallID 6
  nextIssuerID := smallID 4
  transition := .rollback
  reason := "undo"

def oldIntermediate : Issuer := newIssuer (smallID 4) (intermediateIssuer "old") newYear

def newIntermediate : Issuer := newIssuer (smallID 6) (intermediateIssuer "new") newYear

def rollingState : State := ⟨{ newWorld with db := rollingDb .empty, drawn := 10 }, []⟩

theorem rollingState_filed : Filed rollingState.world.db where
  issuers := ((Table.KeyedBy.empty.insert webIssuer).insert oldIntermediate).insert newIntermediate
  profiles := Table.KeyedBy.empty.insert rolledRecord

theorem rollingState_stands : StandsFor rollingState rollingState :=
  ⟨alike_self AuditLog.sound_empty, rfl⟩

/-- The profile as a transition leaves it. -/
def rolledTo (issuer : Issuer) : CertificateProfile :=
  { rolledRecord with issuerID := issuer.id, updatedAt := newYear }

/-- A transition of the deployment's profile. -/
abbrev profileTransition (req : TransitionCertificateProfileIssuerRequest) :
    Op CertificateProfile :=
  smallService.transitionCertificateProfileIssuer {} "admin" req

/-- What a rehearsal of it comes to. -/
def rehearsedTransition (req : TransitionCertificateProfileIssuerRequest) (plan : State) :
    Option (Except Err CertificateProfile × State) :=
  (Prog.Rehearsed.plain (profileTransition req).run).play 0 [.calm, .calm] plan

/-- The rollover is made. -/
theorem rolled_over (others : Db → Db → Prop) :
    ∃ step after, TransitionRun smallService others rollingState [step] after ∧
    step.req = rollover ∧ step.outcome.isOk ∧
    after.world.db.profiles.lookup (smallID 8) = some (rolledTo newIntermediate) := by
  obtain ⟨_, after, plan, returned, ⟨⟨_, ⟨log, -, rfl⟩, same⟩, -⟩, rfl, stored⟩ := returns_of_played
    (profileTransition rollover) rollingState_stands [.calm, .calm] (fun result plan =>
      result = .ok (rolledTo newIntermediate) ∧
      plan.world.db.profiles.lookup (smallID 8) = some (rolledTo newIntermediate))
    (by decide +kernel)
  refine ⟨_, after, .call {} "admin" rollover .start returned, rfl, rfl, ?_⟩
  rw [same]
  exact stored

/-- The rollover can be made in this state. -/
abbrev RollsOver (result : Except Err CertificateProfile) (plan : State) : Prop :=
  result = .ok (rolledTo oldIntermediate) ∧
    (rehearsedTransition rollover plan).any (fun outcome =>
      decide (outcome.1 = .ok (rolledTo newIntermediate))) = true

/-- The rollover is made and undone, and can be made again. -/
theorem rolled_back (others : Db → Db → Prop) :
    ∃ one two mid after, TransitionRun smallService others
    rollingState [one, two] mid ∧ one.req = rollover ∧ one.outcome.isOk ∧ two.req = rollback ∧
    two.outcome.isOk ∧
    (profileTransition rollover).Returns (fun _ _ _ => True)
      0 mid (.ok (rolledTo newIntermediate)) after := by
  obtain ⟨_, one, plan, first, stands, rfl, further⟩ :=
    returns_of_played (profileTransition rollover) rollingState_stands [.calm, .calm]
      (fun result plan => result = .ok (rolledTo newIntermediate) ∧
      (rehearsedTransition rollback plan).any (fun outcome =>
        decide (RollsOver outcome.1 outcome.2)) = true)
    (by decide +kernel)
  obtain ⟨_, two, plan, second, stands, rfl, further⟩ :=
    returns_of_played (profileTransition rollback) stands [.calm, .calm] RollsOver further
  obtain ⟨_, three, -, third, -, rfl⟩ := returns_of_played (profileTransition rollover) stands
    [.calm, .calm] (fun result _ => result = .ok (rolledTo newIntermediate)) further
  exact ⟨_, _, two, three,
    .call {} "admin" rollback (.call {} "admin" rollover .start first) second, rfl, rfl,
    rfl, rfl, third⟩

section Results

variable {s : Service} {start mid after : State} {steps : List TransitionStep}

/-- Along every run of transitions of one profile, the successful ones leave an issuer under one and
the same root, write one audit event and one message and change nothing but the profile's issuer and
time; the failed ones change nothing. -/
theorem transitions_anchored (filed : Filed start.world.db) {profileID : Text}
    (run : TransitionRun s (fun _ _ => False) start steps after)
    (own : ∀ step ∈ steps, step.req.profileID = profileID) :
    ∃ root, ∀ step ∈ steps,
      (∀ updated, step.outcome = .ok updated → Anchored step.after profileID root ∧
      step.Made updated) ∧ (∀ err, step.outcome = .error err → step.after = step.before) := by
  obtain ⟨-, root, kept, anchored, -⟩ := run.anchored filed own
  refine ⟨root, fun step inside => ⟨fun updated succeeded => ?_, fun err failed => ?_⟩⟩
  · have made := kept step inside
    rw [TransitionStep.Kept, succeeded] at made
    exact ⟨anchored step inside (by rw [succeeded]; rfl), made⟩
  · have same := kept step inside
    rw [TransitionStep.Kept, failed] at same
    exact same

/-- The rollover and the rollback of the deployment. -/
theorem rollback_anchored :
      ∃ one two after, TransitionRun smallService (fun _ _ => False) rollingState [one, two] after ∧
    one.outcome.isOk ∧ two.outcome.isOk ∧ ∃ root, ∀ step ∈ [one, two],
      (∀ updated, step.outcome = .ok updated → Anchored step.after (smallID 8) root ∧
        step.Made updated) ∧
      (∀ err, step.outcome = .error err → step.after = step.before) := by
  obtain ⟨one, two, after, -, run, first, made, second, made', -⟩ := rolled_back fun _ _ => False
  refine ⟨one, two, after, run, made, made', transitions_anchored rollingState_filed run ?_⟩
  intro step inside
  rcases mem_pair.mp inside with rfl | rfl
  · rw [first]
    rfl
  · rw [second]
    rfl

/-- A request that was applied in a run and is delivered again is rejected exactly if its profile
does not have the issuer it expects. -/
theorem redelivery_rejected_iff (filed : Filed start.world.db)
    (run : TransitionRun s Harmless start steps mid) {step : TransitionStep} (inside : step ∈ steps)
    (applied : step.outcome.isOk) : RedeliveryRejected s step.req mid ↔
      ∀ profile, mid.world.db.profiles.lookup step.req.profileID = some profile →
      profile.issuerID ≠ step.req.currentIssuerID := by
  obtain ⟨filed, known⟩ := run.applied filed
  obtain ⟨valid, profile, found⟩ := known step inside applied
  constructor
  · intro rejected stored there expected
    exact not_rejected_of_returned filed valid there expected rejected
  · intro moved
    exact rejected_of_moved valid found (moved profile found)

/-- The rollover of the deployment is rejected when it is delivered again at once. -/
theorem rollover_rejected_again :
    ∃ step mid, TransitionRun smallService Harmless rollingState [step] mid ∧
    step.req = rollover ∧ step.outcome.isOk ∧ RedeliveryRejected smallService step.req mid := by
  obtain ⟨step, mid, run, same, made, there⟩ := rolled_over Harmless
  refine ⟨step, mid, run, same, made, ?_⟩
  refine (redelivery_rejected_iff rollingState_filed run mem_cons_self made).mpr ?_
  rw [same]
  intro profile found
  cases mem_unique there found
  decide +kernel

/-- It is applied again when it is delivered again after the rollback. -/
theorem rollover_applied_again :
    ∃ one two mid, TransitionRun smallService Harmless rollingState [one, two] mid ∧
    one.req = rollover ∧ one.outcome.isOk ∧ ¬ RedeliveryRejected smallService rollover mid ∧
    ∃ updated after, (smallService.transitionCertificateProfileIssuer {} "admin" rollover).Returns
      (fun _ _ _ => True) 0 mid (.ok updated) after ∧ updated.issuerID = rollover.nextIssuerID := by
  obtain ⟨one, two, mid, after, run, same, made, -, -, returned⟩ := rolled_back Harmless
  refine ⟨one, two, mid, run, same, made, fun rejected => ?_, _, after, returned, rfl⟩
  obtain ⟨⟨err, impossible, -⟩, -⟩ := rejected _ _ _ _ returned
  cases impossible

end Results

end AnoPki.Lifecycle
