import AnoPki.Lifecycle.Deployment

/-! # Lists of revoked certificates over whole runs

The number of a list is chosen with the claim and stored with the publication, while other nodes
claim, take over and publish. A stored claim is one ahead of everything published for its pair,
which is what keeps the numbers in order; the times are in order only as far as the claims are. -/
namespace AnoPki.Lifecycle

open Foundation Domain Store Int64 Table List Ledger

/-- The claim an event of `PublishCRL` is about. -/
def Event.crlClaim : Event → Option CRLGenerationClaim
  | .crlClaimed claim => some claim
  | .revocationsListed claim _ => some claim
  | .crlRequested claim _ => some claim
  | .crlPublished claim _ _ => some claim
  | .crlReleased claim => some claim
  | _ => none

/-- The publication is of the pair the claim is on. -/
def ClaimCovers (claim : CRLGenerationClaim) (publication : CRLPublication) : Prop :=
  publication.issuerID = claim.issuerID ∧ publication.distributionPoint = claim.distributionPoint

section Numbers

variable {publications : List CRLPublication} {distributionPoint : Text}

/-- The largest number published at a distribution point. -/
def maxCRLNumber (publications : List CRLPublication) (distributionPoint : Text)
    (start : Int64) : Int64 :=
  publications.foldl (fun maxNumber publication =>
    if publication.distributionPoint = distributionPoint ∧ publication.crlNumber > maxNumber then
      publication.crlNumber
    else maxNumber) start

theorem nextCRLNumber_eq : nextCRLNumber publications distributionPoint =
    maxCRLNumber publications distributionPoint 0 + 1 := rfl

theorem le_maxCRLNumber (start : Int64) :
    start ≤ maxCRLNumber publications distributionPoint start ∧
    ∀ publication ∈ publications, publication.distributionPoint = distributionPoint →
      publication.crlNumber ≤ maxCRLNumber publications distributionPoint start := by
  induction publications generalizing start with
  | nil => exact ⟨Int64.le_refl start, by simp⟩
  | cons first rest ih =>
    rw [maxCRLNumber, List.foldl_cons]
    split_ifs with larger
    · obtain ⟨above, others⟩ := ih first.crlNumber
      refine ⟨Int64.le_trans (Int64.le_of_lt larger.2) above, ?_⟩
      intro publication member here
      rcases List.mem_cons.mp member with rfl | later
      · exact above
      · exact others publication later here
    · obtain ⟨above, others⟩ := ih start
      refine ⟨above, ?_⟩
      intro publication member here
      rcases List.mem_cons.mp member with rfl | later
      · exact Int64.le_trans (Int64.not_lt.mp fun small => larger ⟨here, small⟩) above
      · exact others publication later here

/-- The next number is above all numbers of the pair, unless it has wrapped around. -/
theorem lt_nextCRLNumber {publication} (member : publication ∈ publications)
    (here : publication.distributionPoint = distributionPoint)
    (positive : 0 < nextCRLNumber publications distributionPoint) :
    publication.crlNumber < nextCRLNumber publications distributionPoint := by
  obtain ⟨nonnegative, above⟩ := @le_maxCRLNumber publications distributionPoint 0
  have bounded := above publication member here
  rw [nextCRLNumber_eq] at positive ⊢
  have next := toInt_succ (le_iff_toInt_le.mp nonnegative) positive
  rw [le_iff_toInt_le] at bounded
  rw [lt_iff_toInt_lt, next]
  omega

theorem Ledger.lt_nextCRLNumber {l : Ledger} {issuerID id publication}
    (found : l.crls.lookup id = some publication) (issuer : publication.issuerID = issuerID)
    (here : publication.distributionPoint = distributionPoint)
    (positive : 0 < l.nextCRLNumber issuerID distributionPoint) :
    publication.crlNumber < l.nextCRLNumber issuerID distributionPoint := by
  refine Lifecycle.lt_nextCRLNumber (mem_filter.mpr ⟨?_, decide_eq_true issuer⟩) here positive
  exact mem_values_iff.mpr ⟨id, found⟩

end Numbers

variable {s : Service} {call : Nat} {before : State} {drawn : Nat} {event : Option Event}
  {report : Report} {after : Ledger}

/-- Only the steps of a publication change the lists and the claims on them. -/
theorem Change.crl_cases (change : Change s call before drawn event report after) :
    (after.crls = (ledger before).crls ∧ after.crlClaims = (ledger before).crlClaims ∧
      ∀ seen, event = some seen → seen.crlClaim = none) ∨
    ∃ seen, event = some seen ∧ CrlChange s call before drawn seen after := by
  cases change with
  | idle silent =>
    refine .inl ⟨rfl, rfl, fun seen here => ?_⟩
    have observes := silent seen here
    cases seen <;> first | rfl | exact observes.elim
  | crl change => exact .inr ⟨_, rfl, change⟩
  | configured change | acme change =>
    rw [change.frame]
    exact .inl ⟨rfl, rfl, by rintro _ ⟨⟩⟩
  | decided _ _ _ decision =>
    refine .inl ⟨rfl, rfl, fun seen here => ?_⟩
    rcases decision with ⟨-, rfl⟩ | ⟨-, rfl⟩
    · cases here
      rfl
    · cases here
  | _ => exact .inl ⟨rfl, rfl, by rintro _ ⟨⟩ <;> rfl⟩

/-- Whoever goes on with a claim has taken it, for an issuer that is known. -/
structure ClaimsKnown (state : State) : Prop where
  claimed : ∀ number seen claim, (number, seen) ∈ state.history → seen.crlClaim = some claim →
    (number, Event.crlClaimed claim) ∈ state.history
  issuer : ∀ number claim, (number, Event.crlClaimed claim) ∈ state.history →
    ∃ issuer, (ledger state).issuers.lookup claim.issuerID = some issuer

/-- The step of a publication takes a claim, or goes on with one that was taken. -/
theorem CrlChange.claim {seen claim} (known : ClaimsKnown before)
    (change : CrlChange s call before drawn seen after) (about : seen.crlClaim = some claim) :
    (seen = .crlClaimed claim ∧
      ∃ issuer, (ledger before).issuers.lookup claim.issuerID = some issuer) ∨
    (call, Event.crlClaimed claim) ∈ before.history := by
  cases change with
  | @claimedFirst issuer _ _ _ there | @claimedAgain issuer _ _ there =>
    cases about
    exact .inl ⟨rfl, issuer, there⟩
  | listed claimed | released claimed =>
    cases about
    exact .inr claimed
  | requested listed =>
    cases about
    exact .inr (known.claimed _ _ _ listed rfl)
  | published requested =>
    cases about
    exact .inr (known.claimed _ _ _ requested rfl)

theorem ClaimsKnown.step (ids : s.FreshIDs) (consistent : Consistent s before)
    (known : ClaimsKnown before) {world}
    (change : Change s call before world.drawn event report (.of world.db)) :
    ClaimsKnown (before.after call event world) := by
  have grown : ∀ {entry : Nat × Event}, entry ∈ before.history →
      entry ∈ (before.after call event world).history :=
        fun old => Shared.mem_after_iff.mpr (.inl old)
  have later : ∀ {issuerID : Text},
      (∃ issuer, (ledger before).issuers.lookup issuerID = some issuer) →
      ∃ issuer, (of world.db).issuers.lookup issuerID = some issuer := by
    rintro issuerID ⟨issuer, there⟩
    obtain ⟨stored, found, -⟩ := (change.grows ids consistent).issuers issuerID issuer there
    exact ⟨stored, found⟩
  -- What the step leaves is about no claim, or about one that is taken with it or before.
  have new : ∀ seen claim, event = some seen → seen.crlClaim = some claim →
      (call, Event.crlClaimed claim) ∈ (before.after call event world).history ∧
        ∃ issuer, (of world.db).issuers.lookup claim.issuerID = some issuer := by
    intro seen claim left about
    rcases change.crl_cases with ⟨-, -, other⟩ | ⟨seen', left', crl⟩
    · rw [other seen left] at about
      cases about
    · obtain rfl := Option.mem_unique left left'
      rcases crl.claim known about with ⟨rfl, there⟩ | old
      · exact ⟨Shared.mem_after_iff.mpr (.inr ⟨rfl, left⟩), later there⟩
      · exact ⟨grown old, later (known.issuer _ _ old)⟩
  refine ⟨?_, ?_⟩
  · intro number seen claim there about
    rcases Shared.mem_after_iff.mp there with old | ⟨rfl, left⟩
    · exact grown (known.claimed _ _ _ old about)
    · exact (new _ _ left about).1
  · intro number claim there
    rcases Shared.mem_after_iff.mp there with old | ⟨rfl, left⟩
    · exact later (known.issuer _ _ old)
    · exact (new _ _ left rfl).2

theorem ClaimsKnown.outer {state} (known : ClaimsKnown before) (outer : Outer before state) :
    ClaimsKnown state := by
  have old : ∀ {number seen claim}, (number, seen) ∈ state.history → seen.crlClaim = some claim →
      (number, seen) ∈ before.history := by
    intro number seen claim there about
    refine (outer.mem_history_iff ?_).mp there
    rintro call rfl
    cases about
  refine ⟨?_, ?_⟩
  · intro number seen claim there about
    exact outer.history_grows.subset (known.claimed _ _ _ (old there about) about)
  · intro number claim there
    rw [outer.ledger]
    exact known.issuer _ _ (old there rfl)

section Times

/-- The lists of a pair are in the order of their times, and a claim is ahead of them. -/
structure CrlsInOrder (l : Ledger) : Prop where
  ordered : ∀ id id' earlier later, l.crls.lookup id = some earlier →
    l.crls.lookup id' = some later → earlier.issuerID = later.issuerID →
    earlier.distributionPoint = later.distributionPoint → earlier.crlNumber < later.crlNumber →
    earlier.thisUpdate.nanos ≤ later.thisUpdate.nanos
  ahead : ∀ key claim id publication, l.crlClaims.lookup key = some claim →
    l.crls.lookup id = some publication → ClaimCovers claim publication →
    publication.crlNumber < claim.crlNumber ∧ publication.thisUpdate.nanos ≤ claim.updatedAt.nanos

/-- A claim is taken with a number, and with a time no earlier than those of the pair's lists. -/
def ClaimInOrder (state : State) (_call : Nat) (event : Option Event) : Prop :=
  ∀ claim, event = some (.crlClaimed claim) → 0 < claim.crlNumber ∧
    ∀ id publication, (ledger state).crls.lookup id = some publication →
      ClaimCovers claim publication → publication.thisUpdate.nanos ≤ claim.updatedAt.nanos

variable {l : Ledger} {claim : CRLGenerationClaim}

theorem CrlsInOrder.putClaim (inOrder : CrlsInOrder l)
    (number : claim.crlNumber = l.nextCRLNumber claim.issuerID claim.distributionPoint)
    (positive : 0 < claim.crlNumber)
    (times : ∀ id publication, l.crls.lookup id = some publication → ClaimCovers claim publication →
      publication.thisUpdate.nanos ≤ claim.updatedAt.nanos) : CrlsInOrder (l.putClaim claim) := by
  refine ⟨inOrder.ordered, ?_⟩
  intro key other id publication held found covers
  rcases of_lookup_insert held with rfl | held
  · refine ⟨?_, times id publication found covers⟩
    rw [number] at positive ⊢
    exact Ledger.lt_nextCRLNumber found covers.1 covers.2 positive
  · exact inOrder.ahead key other id publication held found covers

theorem CrlsInOrder.dropClaim (inOrder : CrlsInOrder l) : CrlsInOrder (l.dropClaim claim) := by
  refine ⟨inOrder.ordered, ?_⟩
  intro key other id publication held found covers
  change (l.crlClaims.erase (claimKey claim)).lookup key = some other at held
  rw [lookup_erase_eq] at held
  split at held
  · cases held
  · exact inOrder.ahead key other id publication held found covers

/-- The list that is published under the stored claim comes last, and the claim goes. -/
theorem CrlsInOrder.publish (inOrder : CrlsInOrder l) (keyed : Table.KeyedBy claimKey l.crlClaims)
    {stored publication}
    (held : l.crlClaims.lookup (claimKey claim) = some stored) (same : SameCRLClaim stored claim)
    (pair : stored.issuerID = claim.issuerID ∧ stored.distributionPoint = claim.distributionPoint)
    (covers : ClaimCovers claim publication) (numbered : publication.crlNumber = claim.crlNumber)
    (dated : publication.thisUpdate = claim.updatedAt) :
    CrlsInOrder ((l.putCRL publication).dropClaim claim) := by
  have last : ∀ id other, l.crls.lookup id = some other → ClaimCovers claim other →
      other.crlNumber < publication.crlNumber ∧
        other.thisUpdate.nanos ≤ publication.thisUpdate.nanos := by
    intro id other found covered
    obtain ⟨number, time⟩ := inOrder.ahead _ _ id other held found
      ⟨covered.1.trans pair.1.symm, covered.2.trans pair.2.symm⟩
    rw [numbered, dated]
    exact ⟨same.1 ▸ number, same.2.2 ▸ time⟩
  refine ⟨?_, ?_⟩
  · intro id id' earlier later found found' issuer point smaller
    change (l.crls.insert publication.id publication).lookup id = some earlier at found
    change (l.crls.insert publication.id publication).lookup id' = some later at found'
    rw [Table.lookup_insert_eq] at found found'
    split at found
    · cases found
      split at found'
      · cases found'
        exact le_refl _
      · have below := (last id' later found' ⟨issuer.symm.trans covers.1,
          point.symm.trans covers.2⟩).1
        exact absurd smaller (Int64.lt_asymm below)
    · split at found'
      · cases found'
        exact (last id earlier found ⟨issuer.trans covers.1, point.trans covers.2⟩).2
      · exact inOrder.ordered id id' earlier later found found' issuer point smaller
  · intro key other id found there stands covered
    change (l.crlClaims.erase (claimKey claim)).lookup key = some other at there
    change (l.crls.insert publication.id publication).lookup id = some found at stands
    rw [Table.lookup_erase_eq] at there
    rw [Table.lookup_insert_eq] at stands
    split at there
    · cases there
    · next apart =>
      split at stands
      · cases stands
        refine absurd ?_ apart
        rw [← keyed key other there, claimKey, claimKey, ← covered.1, ← covered.2,
          covers.1, covers.2]
      · exact inOrder.ahead key other id found there stands covered

theorem CrlsInOrder.step (ids : s.FreshIDs) (consistent : Consistent s before)
    (known : ClaimsKnown before) (inOrder : CrlsInOrder (ledger before))
    (condition : ClaimInOrder before call event)
    (change : Change s call before drawn event report after) : CrlsInOrder after := by
  rcases change.crl_cases with ⟨crls, claims, -⟩ | ⟨seen, rfl, crl⟩
  · refine ⟨?_, ?_⟩
    · rw [crls]
      exact inOrder.ordered
    · rw [crls, claims]
      exact inOrder.ahead
  cases crl with
  | claimedFirst | claimedAgain =>
    obtain ⟨positive, times⟩ := condition _ rfl
    exact inOrder.putClaim rfl positive times
  | listed | requested => exact inOrder
  | @published claim request publication _ requested _ _ pair numbered dated _ current =>
    obtain ⟨stored, held, same⟩ := current
    obtain ⟨issuer, there⟩ := known.issuer _ _ (known.claimed _ _ _ requested rfl)
    exact inOrder.publish consistent.keyed.crlClaims held same
      (consistent.claim_pair ids there held) pair numbered dated
  | released => exact inOrder.dropClaim

def crlRequest : PublishCRLRequest where
  issuerID := smallID 2
  distributionPoint := "crl"
  nextUpdate := newYear.add 604800000000000

def crlResult : GenerateCRLResult where
  crlPEM := "crl"
  signingEvidence := { signature with
    operation := "crl_generate_sign"
    requestedSignatureAlgorithm := "sha256" }

def crlClaimAt (number : Int64) (now : Time) : CRLGenerationClaim :=
  firstCRLClaim crlRequest.issuerID crlRequest.distributionPoint number now

/-- A list of the deployment, by the number of its ID. -/
def crlAt (drawn : Nat) (number : Int64) (now : Time) : CRLPublication :=
  newCRLPublication (smallID drawn) (crlClaimAt number now) crlRequest crlResult now

def crlNextDay : Time := newYear.add 86400000000000

/-- A call of `PublishCRL`. Its first two steps read the clock and the issuer, the third takes the
claim, and the seventh is the last. -/
def publishing (number steps : Nat) : List SmallAction :=
  answered { Oracle.working with generateCRL := .ok crlResult } number 0
    (.publishCRL {} "admin" crlRequest) steps

/-- The rest of such a call. -/
def publishingOn (number steps : Nat) : List SmallAction :=
  System.Action.runs number steps { Oracle.working with generateCRL := .ok crlResult }

/-- In every run whose claims are taken in order, the times of a pair's lists are in the order of
their numbers. -/
theorem crls_inOrder (ids : s.FreshIDs) {cfg : s.system.Config}
    (reached : System.Reaches (System.Guarded ClaimInOrder) Initial cfg) (id id' : Text)
    (earlier later : CRLPublication) (found : cfg.shared.world.db.crls.lookup id = some earlier)
    (found' : cfg.shared.world.db.crls.lookup id' = some later)
    (issuer : earlier.issuerID = later.issuerID)
    (point : earlier.distributionPoint = later.distributionPoint)
    (smaller : earlier.crlNumber < later.crlNumber) :
    ¬ later.thisUpdate.before earlier.thisUpdate := by
  have holds : ClaimsKnown cfg.shared ∧ CrlsInOrder (ledger cfg.shared) := by
    refine @guarded_induct s cfg ids ClaimInOrder
      (fun state => ClaimsKnown state ∧ CrlsInOrder (ledger state)) ?_ ?_ ?_ reached
    · intro world initial
      refine ⟨⟨by simp, by simp⟩, ?_, ?_⟩
      all_goals
        simp only [ledger, of, initial.db]
        rintro _ _ _ _ ⟨⟩
    · rintro before call event report after consistent ⟨known, inOrder⟩ condition - change
      exact ⟨known.step ids consistent change, inOrder.step ids consistent known condition change⟩
    · rintro before after ⟨known, inOrder⟩ outer
      exact ⟨known.outer outer, outer.ledger ▸ inOrder⟩
  exact not_lt.mpr (holds.2.ordered id id' earlier later found found' issuer point smaller)

/-- The lists of two calls, a day apart. -/
def twoLists (first second : Time) : Table CRLPublication :=
  ((∅ : Table CRLPublication).insert (smallID 4) (crlAt 4 1 first)).insert
    (smallID 6) (crlAt 6 2 second)

theorem twoLists_lookup (first second : Time) :
    (twoLists first second).lookup (smallID 4) = some (crlAt 4 1 first) ∧
      (twoLists first second).lookup (smallID 6) = some (crlAt 6 2 second) := by
  have apart : smallID 4 ≠ smallID 6 := by decide +kernel
  refine ⟨?_, AList.lookup_insert _⟩
  rw [twoLists, lookup_insert_eq, if_neg apart]
  exact AList.lookup_insert _

/-- A check for claims in order. -/
def claimInOrder (state : State) (_ : Nat) : Option Event → Bool
  | some (.crlClaimed claim) => decide (0 < claim.crlNumber) &&
      state.world.db.crls.values.all fun publication =>
        decide (publication.thisUpdate.nanos ≤ claim.updatedAt.nanos)
  | _ => true

theorem claimInOrder_strict (state : State) (log : AuditLog) (call : Nat) (event : Option Event)
    (passed : claimInOrder state call event = true) :
    ClaimInOrder (withLog state log) call event := by
  rintro claim rfl
  obtain ⟨positive, times⟩ := (Bool.and_eq_true _ _).mp passed
  refine ⟨of_decide_eq_true positive, ?_⟩
  rintro id publication found -
  exact of_decide_eq_true (all_eq_true.mp times publication (mem_values_iff.mpr ⟨id, found⟩))

/-- One call after the other. -/
theorem small_inOrder : ∃ cfg : SmallConfig,
    System.Reaches (System.Guarded ClaimInOrder) Initial cfg ∧
      cfg.shared.world.db.crls = twoLists newYear crlNextDay ∧
      ¬ (crlAt 6 2 crlNextDay).thisUpdate.before (crlAt 4 1 newYear).thisUpdate := by
  obtain ⟨⟨_, _, _⟩, plan, log, reached, -, -, rfl, published⟩ := rehearsed_guarded claimInOrder
    claimInOrder_strict newWorld_initial
      (configuring ++ publishing 2 7 ++ [.disturb (.tick crlNextDay)] ++
        publishing 3 7) (fun plan =>
      plan.shared.world.db.crls.entries = (twoLists newYear crlNextDay).entries)
  have lists := AList.ext published
  obtain ⟨first, second⟩ := twoLists_lookup newYear crlNextDay
  exact ⟨_, reached, lists, crls_inOrder small_freshIDs reached _ _ _ _
    (lists ▸ first) (lists ▸ second) rfl rfl (by decide +kernel)⟩

/-- A call that read the clock a day before takes its claim after another has published. -/
theorem small_outOfOrder : ∃ cfg : SmallConfig, smallService.Reachable cfg ∧
    ∃ id id' earlier later, cfg.shared.world.db.crls.lookup id = some earlier ∧
      cfg.shared.world.db.crls.lookup id' = some later ∧ earlier.issuerID = later.issuerID ∧
      earlier.distributionPoint = later.distributionPoint ∧ earlier.crlNumber < later.crlNumber ∧
      later.thisUpdate.before earlier.thisUpdate := by
  obtain ⟨⟨_, _, _⟩, plan, log, reached, -, rfl, published⟩ := rehearsed_reaches newWorld_initial
    (configuring ++ publishing 2 2 ++ [.disturb (.tick crlNextDay)] ++
      publishing 3 7 ++ publishingOn 2 5) (fun plan =>
      plan.shared.world.db.crls.entries = (twoLists crlNextDay newYear).entries)
  have lists := AList.ext published
  obtain ⟨first, second⟩ := twoLists_lookup crlNextDay newYear
  exact ⟨_, reached, smallID 4, smallID 6,
    crlAt 4 1 crlNextDay, crlAt 6 2 newYear, lists ▸ first, lists ▸ second, rfl, rfl,
    by decide +kernel, by decide +kernel⟩

end Times

end AnoPki.Lifecycle
