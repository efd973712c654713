import AnoPki.Lifecycle.AcmeRuns
import AnoPki.Lifecycle.PolicyRuns

/-! # Public TLS over whole runs

What is known of a request to the signer under a public profile. The validity ceiling is checked
when the profile is created, CAA when an order is opened, and validation evidence when an order is
finalized; a request to the signer keeps within them when the profile's period still fits the era
and the enrollment comes from an order whose evidence has not run out. -/
namespace AnoPki.Lifecycle

open Foundation Domain Store Option Table List

variable {s : Service} {cfg : s.system.Config} {before : State} {call drawn : Nat}
  {event : Option Event} {report : Report} {after : Ledger}

/-- What a request to the signer was made from, and what was checked for it. -/
theorem Change.issueRequested {id request}
    (change : Change s call before drawn (some (.issueRequested id request)) report after) :
    ∃ enrollment issuer profile csrInfo now, Requested s before enrollment profile csrInfo now ∧
      id = enrollment.id ∧
      request = coreIssueRequest s.lowerRune enrollment issuer profile now := by
  cases change with
  | idle silent => exact (silent _ rfl).elim
  | crl change => cases change
  | decided _ _ _ decision => rcases decision with ⟨-, other⟩ | ⟨-, other⟩ <;> cases other
  | requested checked => exact ⟨_, _, _, _, _, checked, rfl, rfl⟩

/-- The validity periods of the profiles are positive. -/
def PeriodsPositive (l : Ledger) : Prop :=
  ∀ id profile, l.profiles.lookup id = some profile → profile.validityPeriodSeconds > 0

theorem PeriodsPositive.put {l} (positive : PeriodsPositive l) {profile}
    (new : profile.validityPeriodSeconds > 0) : PeriodsPositive (l.putProfile profile) := by
  intro id stored found
  rcases of_lookup_insert found with rfl | found
  · exact new
  · exact positive id stored found

theorem Change.periodsPositive (change : Change s call before drawn event report after)
    (positive : PeriodsPositive (ledger before)) : PeriodsPositive after := by
  cases change with
  | configured change =>
    cases change with
    | profile _ _ new => exact positive.put new
    | profileIssuer found same =>
      have old := positive _ _ found
      refine positive.put ?_
      rw [same]
      exact old
    | _ => exact positive
  | crl change | acme change =>
    rw [change.frame]
    exact positive
  | _ => exact positive

theorem reaches_periodsPositive (ids : s.FreshIDs) (reached : s.Reachable cfg) :
    PeriodsPositive (ledger cfg.shared) := by
  refine @reachable_induct s cfg ids (fun state => PeriodsPositive (ledger state)) ?_ ?_ ?_ reached
  · intro world initial id profile found
    simp [ledger, initial.db, Ledger.of, Db.empty] at found
  · intro before call event report after _ positive _ change
    exact change.periodsPositive positive
  · intro before after positive outer
    rw [outer.ledger]
    exact positive

/-- A request that passed ends within the profile's period. -/
theorem profilePolicy_period {lower req profile csrInfo now u}
    (named : profile.id ≠ []) (positive : profile.validityPeriodSeconds > 0)
    (passed : validateEnrollmentProfilePolicy lower req profile csrInfo now = .ok u) :
    req.requestedNotAfter.nanos - now.nanos ≤ validityPeriod profile.validityPeriodSeconds := by
  simp only [validateEnrollmentProfilePolicy, if_neg named, Except.bind_eq_ok,
    demand_ok_iff] at passed
  obtain ⟨-, -, -, within, -⟩ := passed
  have within := not_lt.mp fun later => within ⟨positive, later⟩
  simp only [maxNotAfter, Time.add] at within
  rw [validityPeriod]
  omega

/-- A public profile of the deployment, for 200 days. -/
def publicProfile : CreateCertificateProfileRequest where
  name := "public"
  issuerID := smallID 2
  validityPeriodSeconds := 17280000
  publicTLS := true

def publicRecord : CertificateProfile :=
  newCertificateProfile smallService.lowerRune (smallID 4) publicProfile newYear

def publicRequest (notAfter : Time) : CreateEnrollmentRequest :=
  { webRequest with certificateProfileID := publicRecord.id, requestedNotAfter := notAfter }

/-- An approved enrollment under the public profile. -/
def publicEnrollment (now notAfter : Time) : Enrollment :=
  approved (newEnrollment (smallID 6) (publicRequest notAfter) webInfo now) "admin" now

/-- The profile is stored. -/
def profiling : List SmallAction :=
  configuring ++ calling 2 1 (.createCertificateProfile {} "admin" publicProfile) 2

/-- An enrollment under the profile comes to the request to the signer. -/
def publicAsking (now notAfter : Time) : List SmallAction :=
  profiling ++ [.disturb (.tick now)] ++
    calling 3 1 (.createEnrollment {} "admin" (publicRequest notAfter)) 6 ++
    calling 4 1 (.approveEnrollment {} "admin" (smallID 6) []) 2 ++ issuing 5 1 6 10

/-- The request to the signer is the next step. -/
abbrev PublicAsked (now notAfter : Time) (plan : SmallConfig) : Prop :=
  (System.Action.run 5 .working : SmallAction).event plan =
      some (5, some (.issueRequested (smallID 6) (coreIssueRequest smallService.lowerRune
        (publicEnrollment now notAfter) webIssuer publicRecord now))) ∧
    plan.shared.world.db.enrollments.lookup (smallID 6) =
      some (publicEnrollment now notAfter) ∧
    plan.shared.world.db.profiles.lookup publicRecord.id = some publicRecord ∧
    (∀ entry ∈ plan.shared.history, entry.2 ≠ .caaAllowed "web") ∧
    plan.shared.world.db.acmeAuthzs.values = []

theorem public_asks {now notAfter}
    (shown : ((System.idle newWorld : SmallConfig).play (fun _ _ => true)
      (publicAsking now notAfter)).any (fun plan => decide
    (PublicAsked now notAfter plan)) = true) :
    ∃ cfg, smallService.Reachable cfg ∧ PublicAsked now notAfter cfg := by
  obtain ⟨⟨_, _, _⟩, plan, log, reached, mirrors, rfl, asked, found⟩ :=
    rehearsed_reaches newWorld_initial (publicAsking now notAfter)
      (PublicAsked now notAfter) shown
  exact ⟨_, reached, mirrors.event asked, found⟩

/-- Spring 2027: the first day of the era of 100 days. -/
def laterEra : Time := ⟨63940665600000000000, 0⟩

example : laterEra.rfc3339 = "2027-03-15T00:00:00Z".toList := by decide +kernel

/-- In every run, a request to the signer under a public profile whose period fits the ceiling of
the era keeps within that ceiling. -/
theorem issueRequest_withinCeiling (ids : s.FreshIDs) (reached : s.Reachable cfg)
    {action : s.system.Action} {id : Text} {request : Corecli.IssueRequest}
    {enrollment : Enrollment} {profile : CertificateProfile}
    (sent : action.event cfg = some (call, some (.issueRequested id request)))
    (enrolled : (ledger cfg.shared).enrollments.lookup id = some enrollment)
    (profiled : (ledger cfg.shared).profiles.lookup enrollment.certificateProfileID = some profile)
    (fits : validityPeriod profile.validityPeriodSeconds ≤
      publicTLSValidityCeiling request.notBefore s.publicTLSMaxValidityOverride) :
    request.notAfter.nanos - request.notBefore.nanos ≤
      publicTLSValidityCeiling request.notBefore s.publicTLSMaxValidityOverride := by
  obtain ⟨drawn, report, after, change⟩ := reaches_seen ids reached sent
  have consistent := reaches_consistent ids reached
  obtain ⟨asked, issuer, read, csrInfo, now, checked, rfl, rfl⟩ := change.issueRequested
  obtain ⟨stored, found, same⟩ := checked.enrolled
  cases mem_unique enrolled found
  have owner : enrollment.certificateProfileID = asked.certificateProfileID := by rw [same]
  obtain ⟨number, -, drawn⟩ := consistent.given.profiles _ profile profiled
  rcases checked.profiled with ⟨unnamed, -⟩ | ⟨current, there, version⟩
  · exact absurd (drawn.symm.trans (owner.trans unnamed)) (ids.ne_nil number)
  rw [owner] at profiled
  cases mem_unique profiled there
  have period : profile.validityPeriodSeconds = read.validityPeriodSeconds := by rw [version]
  have named : read.id ≠ [] := by
    have kept : profile.id = read.id := by rw [version]
    rw [← kept, consistent.keyed.profiles _ profile profiled, ← owner, drawn]
    exact ids.ne_nil number
  have within := profilePolicy_period named
    (period ▸ reaches_periodsPositive ids reached _ profile profiled) checked.passed
  exact within.trans (period ▸ fits)

/-- A public certificate is asked for a day. -/
theorem issueRequest_withinCeiling_day : ∃ (cfg : SmallConfig)
    (action : SmallAction) (id : Text) (request : Corecli.IssueRequest),
    smallService.Reachable cfg ∧
    action.event cfg = some (5, some (.issueRequested id request)) ∧
    request.notAfter.nanos - request.notBefore.nanos ≤
      publicTLSValidityCeiling request.notBefore smallService.publicTLSMaxValidityOverride := by
  obtain ⟨cfg, reached, sent, enrolled, profiled, -⟩ :=
    @public_asks newYear (newYear.add 86400000000000) (by decide +kernel)
  exact ⟨cfg, _, _, _, reached, sent, issueRequest_withinCeiling small_freshIDs
    reached sent enrolled profiled (by decide +kernel)⟩

/-- A profile that was created for 200 days is used in an era of 100 days. -/
theorem issueRequest_beyondCeiling : ∃ (cfg : SmallConfig)
    (action : SmallAction) (id : Text) (request : Corecli.IssueRequest)
    (enrollment : Enrollment) (profile : CertificateProfile), smallService.Reachable cfg ∧
    action.event cfg = some (5, some (.issueRequested id request)) ∧
    (ledger cfg.shared).enrollments.lookup id = some enrollment ∧
    (ledger cfg.shared).profiles.lookup enrollment.certificateProfileID = some profile ∧
    profile.publicTLS = true ∧
    publicTLSValidityCeiling request.notBefore smallService.publicTLSMaxValidityOverride <
      request.notAfter.nanos - request.notBefore.nanos := by
  obtain ⟨cfg, reached, sent, enrolled, profiled, -⟩ :=
    @public_asks laterEra (laterEra.add 17280000000000000) (by decide +kernel)
  exact ⟨cfg, _, _, _, _, _, reached, sent, enrolled, profiled, rfl, by decide +kernel⟩

/-- An enrollment that a call stored for an order asks for the names of the order under its
profile. -/
def EnrolledForOrder (state : State) (orderID enrollmentID : Text) : Prop :=
  ∃ order enrollment, (ledger state).orders.lookup orderID = some order ∧ order.status ≠ .pending ∧
    (ledger state).enrollments.lookup enrollmentID = some enrollment ∧
    enrollment.requestedDNSNames = order.requestedDNSNames ∧
    enrollment.certificateProfileID = order.certificateProfileID

theorem EnrolledForOrder.mono {state later orderID id}
    (enrolled : EnrolledForOrder state orderID id) (grows : Grows (ledger state) (ledger later)) :
    EnrolledForOrder later orderID id := by
  obtain ⟨order, enrollment, found, decided, there, names, profile⟩ := enrolled
  obtain ⟨order', found', kept⟩ := grows.orders _ order found
  obtain ⟨enrollment', there', same⟩ := grows.enrollments _ enrollment there
  have sameOrder := kept.same
  refine ⟨order', enrollment', found', fun pending =>
    decided (kept.decided pending), there', ?_, ?_⟩
  · rw [same, sameOrder]
    exact names
  · rw [same, sameOrder]
    exact profile

/-- An enrollment that is stored for an order now. -/
theorem Change.enrolledForOrder {orderID id world ctx actor req}
    (change : Change s call before drawn (some (.enrollmentCreated id)) report (.of world.db))
    (started : (call, Event.started (.finalizeACMEOrder ctx actor orderID req)) ∈ before.history) :
    EnrolledForOrder (before.after call (some (.enrollmentCreated id)) world) orderID id := by
  obtain ⟨enrollment, whole, rfl, ordered, -⟩ := change.enrollmentStored
  have here : ledger (before.after call (some (.enrollmentCreated enrollment.id)) world) = _ :=
    whole
  rw [EnrolledForOrder, here]
  obtain ⟨order, found, decided, request⟩ := ordered ctx actor orderID req started
  refine ⟨order, _, found, decided, AList.lookup_insert _, ?_, ?_⟩
  · exact congrArg CreateEnrollmentRequest.requestedDNSNames request
  · exact congrArg CreateEnrollmentRequest.certificateProfileID request

theorem reachable_enrolledForOrder (ids : s.FreshIDs) (reached : s.Reachable cfg) {orderID id}
    (enrolled : OrderEnrollment cfg.shared orderID id) :
    EnrolledForOrder cfg.shared orderID id := by
  suffices every : ∀ orderID id, OrderEnrollment cfg.shared orderID id →
      EnrolledForOrder cfg.shared orderID id from every orderID id enrolled
  refine @reachable_induct s cfg ids (fun state => ∀ orderID id, OrderEnrollment state orderID id →
    EnrolledForOrder state orderID id) ?_ ?_ ?_ reached
  · rintro world - orderID id ⟨_, _, _, _, started, -⟩
    cases started
  · intro before call event report after consistent held _ change orderID id enrolled
    rcases change.orderEnrollment enrolled with old | ⟨rfl, ctx, actor, req, started⟩
    · exact (held orderID id old).mono (change.grows ids consistent)
    · exact change.enrolledForOrder started
  · intro before after held outer orderID id enrolled
    exact (held orderID id (outer.orderEnrollment enrolled)).mono (outer.ledger ▸ .refl _)

/-- What a change does to the orders: nothing, or it stores one that is new or a later version. -/
theorem Change.orderCases (change : Change s call before drawn event report after) :
    after.orders = (ledger before).orders ∨ ∃ order : ACMEOrder,
      after.orders = (ledger before).orders.insert order.id order ∧
      (NamesAllowed before order.certificateProfileID order.requestedDNSNames ∨
        ∃ stored, (ledger before).orders.lookup order.id = some stored ∧
        OrderSame stored order) := by
  cases change with
  | configured change | crl change => exact .inl (by rw [change.frame])
  | opened _ allowed => exact .inr ⟨_, rfl, .inl allowed⟩
  | acme change =>
    cases change with
    | readied _ _ found => exact .inr ⟨_, rfl, .inr ⟨_, found, rfl⟩⟩
    | invalidated found _ same | finalized found _ same =>
      exact .inr ⟨_, rfl, .inr ⟨_, found, same⟩⟩
    | _ => exact .inl rfl
  | _ => exact .inl rfl

theorem reachable_ordersAllowed (ids : s.FreshIDs) (reached : s.Reachable cfg) :
    ∀ id order, (ledger cfg.shared).orders.lookup id = some order →
      NamesAllowed cfg.shared order.certificateProfileID order.requestedDNSNames := by
  refine @reachable_induct s cfg ids (fun state => ∀ id order,
    (ledger state).orders.lookup id = some order →
      NamesAllowed state order.certificateProfileID order.requestedDNSNames) ?_ ?_ ?_ reached
  · intro world initial id order found
    simp [ledger, initial.db, Ledger.of, Db.empty] at found
  · intro before call event report after consistent held _ change id order found
    have grows : Grows (ledger before) (ledger (before.after call event after)) :=
      change.grows ids consistent
    have history : before.history <+: (before.after call event after).history :=
      List.prefix_append _ _
    change (Ledger.of after.db).orders.lookup id = some order at found
    rcases change.orderCases with same | ⟨written, same, origin⟩
    · rw [same] at found
      exact (held id order found).mono grows history
    · rw [same, lookup_insert_eq] at found
      split at found
      · cases found
        rcases origin with allowed | ⟨stored, there, version⟩
        · exact allowed.mono grows history
        · rw [version]
          exact (held _ stored there).mono grows history
      · exact (held id order found).mono grows history
  · intro before after held outer id order found
    rw [outer.ledger] at found
    exact (held id order found).mono (outer.ledger ▸ .refl _) outer.history_grows

/-- Validation evidence for a name: a valid authorization whose reuse has not run out. -/
def ValidatedName (l : Ledger) (name : Text) (now : Time) : Prop :=
  ∃ key authorization, l.authzs.lookup key = some authorization ∧
    identifierOf authorization = ("dns".toList, name) ∧ authorization.status = .valid ∧
    authorization.validationReuseExpiresAt.after now

/-- The authorizations of an order that is not pending are evidence for its names as long as their
reuse has not run out. -/
theorem Orders.validatedName {l} (orders : Orders l) {orderID name order now}
    (found : l.orders.lookup orderID = some order) (decided : order.status ≠ .pending)
    (unexpired : ∀ key authorization, l.authzs.lookup key = some authorization →
      authorization.orderID = orderID → authorization.validationReuseExpiresAt.after now)
    (inside : name ∈ order.requestedDNSNames) : ValidatedName l name now := by
  have valid : l.AuthorizationsValid orderID := by
    by_contra unanswered
    exact decided ((orders.waits orderID order found).mpr unanswered)
  have asked : ("dns".toList, name) ∈ orderIdentifiers order :=
    mem_append_left _ (mem_map_of_mem inside)
  obtain ⟨authorization, member, identifier⟩ :=
    mem_map.mp ((orders.identifiers orderID order found).mem_iff.mpr asked)
  obtain ⟨stored, owner⟩ := mem_filter.mp member
  obtain ⟨key, there⟩ := mem_values_iff.mp stored
  have owner := of_decide_eq_true owner
  exact ⟨key, authorization, there, identifier, valid key authorization there owner,
    unexpired key authorization there owner⟩

/-- In every run, a request to the signer under a public profile is preceded by a CAA check and by
validation evidence for each of its DNS names, if its enrollment was stored by a call that finalizes
an order and the reuse of the order's validations has not run out. -/
theorem issueRequest_validated (ids : s.FreshIDs) (reached : s.Reachable cfg)
    {action : s.system.Action} {id orderID : Text} {request : Corecli.IssueRequest}
    {enrollment : Enrollment} {profile : CertificateProfile}
    (sent : action.event cfg = some (call, some (.issueRequested id request)))
    (enrolled : (ledger cfg.shared).enrollments.lookup id = some enrollment)
    (profiled : (ledger cfg.shared).profiles.lookup enrollment.certificateProfileID = some profile)
    (isPublic : profile.publicTLS = true) (ordered : OrderEnrollment cfg.shared orderID id)
    (unexpired : ∀ key authorization, (ledger cfg.shared).authzs.lookup key = some authorization →
      authorization.orderID = orderID →
      authorization.validationReuseExpiresAt.after request.notBefore) :
    ∀ name ∈ request.dnsNames.getD [],
      (∃ number, (number, Event.caaAllowed name) ∈ cfg.shared.history) ∧
        ValidatedName (ledger cfg.shared) name request.notBefore := by
  obtain ⟨drawn, report, after, change⟩ := reaches_seen ids reached sent
  obtain ⟨asked, issuer, read, csrInfo, now, checked, rfl, rfl⟩ := change.issueRequested
  obtain ⟨stored, found, same⟩ := checked.enrolled
  cases mem_unique enrolled found
  obtain ⟨order, enrollment', there, decided, enrolled', names, owner⟩ :=
    reachable_enrolledForOrder ids reached ordered
  cases mem_unique enrolled enrolled'
  intro name inside
  have requested : name ∈ order.requestedDNSNames := by
    rw [← names, same]
    exact inside
  refine ⟨?_, (reachable_orders ids reached).validatedName there decided unexpired requested⟩
  rcases reachable_ordersAllowed ids reached orderID order there with
    unnamed | ⟨current, read, consent⟩
  · obtain ⟨number, -, drawn⟩ :=
      (reaches_consistent ids reached).given.profiles _ profile profiled
    exact absurd (drawn.symm.trans (owner.trans unnamed)) (ids.ne_nil number)
  · rw [owner] at profiled
    cases mem_unique profiled read
    exact consent isPublic name requested

/-- The client's order under the public profile when it is ready. -/
def publicReady : ACMEOrder := readyOrder (smallOrder publicRecord.id 6) newYear

/-- The enrollment the order is finalized with. -/
def publicOrderEnrollment : Enrollment :=
  orderEnrollment smallService publicReady clientFinalize webInfo 14 newYear

/-- The certificate of a public order is asked for. -/
theorem issueRequest_validated_order : ∃ (cfg : SmallConfig)
    (action : SmallAction) (request : Corecli.IssueRequest),
    smallService.Reachable cfg ∧
    action.event cfg = some (6, some (.issueRequested publicOrderEnrollment.id request)) ∧
    request.dnsNames = some ["web".toList] ∧
    ∀ name ∈ request.dnsNames.getD [],
      (∃ number, (number, Event.caaAllowed name) ∈ cfg.shared.history) ∧
        ValidatedName (ledger cfg.shared) name request.notBefore := by
  obtain ⟨⟨_, _, _⟩, plan, log, reached, mirrors, rfl, asked, enrolled, profiled, started,
      created, valid⟩ :=
    rehearsed_reaches newWorld_initial (profiling ++ ordering 3 6 2 publicRecord.id ++
        calling 6 1 (.finalizeACMEOrder {} "client" publicReady.id clientFinalize) 23) (fun plan =>
      (System.Action.run 6 .working : SmallAction).event plan =
        some (6, some (.issueRequested publicOrderEnrollment.id (coreIssueRequest
          smallService.lowerRune (approved publicOrderEnrollment "client" newYear) webIssuer
          publicRecord newYear))) ∧
      plan.shared.world.db.enrollments.lookup publicOrderEnrollment.id =
        some (approved publicOrderEnrollment "client" newYear) ∧
      plan.shared.world.db.profiles.lookup publicRecord.id = some publicRecord ∧
      (6, .started (.finalizeACMEOrder {} "client" publicReady.id clientFinalize)) ∈
        plan.shared.history ∧
      (6, .enrollmentCreated publicOrderEnrollment.id) ∈ plan.shared.history ∧
      ∀ authorization ∈ plan.shared.world.db.acmeAuthzs.values,
        authorization.validationReuseExpiresAt.after newYear)
  have sent := mirrors.event asked
  refine ⟨_, _, _, reached, sent, rfl, issueRequest_validated small_freshIDs reached sent
    enrolled profiled rfl ⟨6, {}, "client", clientFinalize, started, created⟩ ?_⟩
  rintro key authorization found -
  exact valid authorization (mem_values_iff.mpr ⟨key, found⟩)

/-- An enrollment that did not come from an order is signed under a public profile without a CAA
check and without validation evidence. -/
theorem issueRequest_unvalidated : ∃ (cfg : SmallConfig)
    (action : SmallAction) (id : Text) (request : Corecli.IssueRequest)
    (enrollment : Enrollment) (profile : CertificateProfile) (name : Text),
    smallService.Reachable cfg ∧
    action.event cfg = some (5, some (.issueRequested id request)) ∧
    (ledger cfg.shared).enrollments.lookup id = some enrollment ∧
    (ledger cfg.shared).profiles.lookup enrollment.certificateProfileID = some profile ∧
    profile.publicTLS = true ∧ name ∈ request.dnsNames.getD [] ∧
    (∀ number, (number, Event.caaAllowed name) ∉ cfg.shared.history) ∧
    ∀ now, ¬ ValidatedName (ledger cfg.shared) name now := by
  obtain ⟨cfg, reached, sent, enrolled, profiled, unchecked, unvalidated⟩ :=
    @public_asks newYear (newYear.add 86400000000000) (by decide +kernel)
  refine ⟨cfg, _, _, _, _, _, "web", reached, sent, enrolled, profiled, rfl,
    mem_singleton.mpr rfl, fun _ told => unchecked _ told rfl, ?_⟩
  rintro now ⟨key, authorization, found, -⟩
  have inside := mem_values_iff.mpr ⟨key, found⟩
  rw [show Table.values (ledger cfg.shared).authzs = [] from unvalidated] at inside
  cases inside

end AnoPki.Lifecycle
