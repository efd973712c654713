import AnoPki.Core.SubjectAltName
import AnoPki.Lifecycle.IssuanceRuns

/-! # Policy over whole runs

Every certificate that a run stores was asked for by an enrollment that passed the checks and was
approved. Identities never change and profiles keep their lists, so what was checked then holds of
the lists as they are stored now. -/
namespace AnoPki.Lifecycle

open Foundation Domain Store List Except

variable {identity : Identity} {profile : CertificateProfile} {state later : State}
  {old new : Enrollment}

section Names

variable (lower : Char → Char)

/-- A name or a pattern as it is compared. -/
def compared (text : Text) : Text := text.trimSpace.toLower lower

/-- A pattern covers a name: it is the name, or its `*` stands for some characters of it. -/
def PatternCovers (pattern name : Text) : Prop :=
  compared lower pattern = compared lower name ∨ ∃ front suffix, front ≠ [] ∧
    compared lower pattern = '*' :: '.' :: suffix ∧ compared lower name = front ++ '.' :: suffix

/-- A list has the value. -/
def Lists (allowed : List Text) (value : Text) : Prop :=
  ∃ candidate ∈ allowed, candidate.trimSpace = value.trimSpace

/-- An address is in a range. -/
def InRange (range address : Text) : Prop :=
  ∃ addr network, Netip.parseAddr address.trimSpace = some addr ∧
    Netip.parsePrefix range.trimSpace = some network ∧ network.contains addr

/-- A wildcard name. -/
def IsWildcard (name : Text) : Prop := ['*', '.'] <+: name.trimSpace

variable {lower} {name : Text} {patterns : List Text}

theorem compared_compared (cases : Text.LowerCase lower) (text : Text) :
    compared lower (compared lower text) = compared lower text := by
  rw [compared, compared, Text.trimSpace_toLower cases, Text.toLower_toLower cases, Text.trimSpace,
    Text.trimSpace, Text.trim_trim]

theorem covers_of_dnsAllowedByPatterns
    (allowed : dnsAllowedByPatterns lower (compared lower name) patterns) :
    ∃ pattern ∈ patterns, PatternCovers lower pattern name := by
  induction patterns with
  | nil => cases allowed
  | cons pattern rest ih =>
    simp only [dnsAllowedByPatterns] at allowed
    split at allowed
    · cases allowed
    split at allowed
    · next same => exact ⟨pattern, mem_cons_self, .inl same⟩
    split at allowed
    · next wildcard =>
      obtain ⟨⟨suffix, starts⟩, ⟨front, ends⟩, longer⟩ := wildcard
      rw [← starts] at ends longer
      refine ⟨pattern, mem_cons_self, .inr ⟨front, suffix, ?_, starts.symm, ends.symm⟩⟩
      rintro rfl
      rw [← ends] at longer
      exact lt_irrefl _ longer
    · obtain ⟨pattern, inside, covers⟩ := ih allowed
      exact ⟨pattern, mem_cons_of_mem _ inside, covers⟩

theorem covers_of_dnsAllowedByProfile (allowed : dnsAllowedByProfile lower name patterns)
    (given : patterns ≠ []) : ∃ pattern ∈ patterns, PatternCovers lower pattern name := by
  simp only [dnsAllowedByProfile, if_neg given] at allowed
  split at allowed
  · cases allowed
  · exact covers_of_dnsAllowedByPatterns allowed

theorem covers_of_wildcardAllowedByProfile (cases : Text.LowerCase lower)
    (allowed : wildcardAllowedByProfile lower name patterns) :
    ∃ pattern ∈ patterns, ['*', '.'] <+: compared lower pattern ∧
    PatternCovers lower pattern name := by
  simp only [wildcardAllowedByProfile, any_eq_true, Bool.and_eq_true, decide_eq_true_eq] at allowed
  obtain ⟨pattern, inside, wildcard, covers⟩ := allowed
  refine ⟨pattern, inside, wildcard, ?_⟩
  obtain ⟨only, same, covers⟩ := covers_of_dnsAllowedByProfile covers (cons_ne_nil _ _)
  obtain rfl := mem_singleton.mp same
  -- The loop lowers and trims what is lowered and trimmed already.
  change PatternCovers lower (compared lower pattern) (compared lower name) at covers
  rwa [PatternCovers, compared_compared cases, compared_compared cases] at covers

theorem lists_of_valueAllowedByList {value allowed}
    (passed : valueAllowedByList value allowed) (given : allowed ≠ []) : Lists allowed value := by
  simp only [valueAllowedByList, if_neg given] at passed
  split at passed
  · cases passed
  · simpa [Lists] using passed

theorem inRange_of_ipAllowedByProfile {address ranges}
    (allowed : ipAllowedByProfile address ranges) (given : ranges ≠ []) :
    ∃ range ∈ ranges, InRange range address := by
  simp only [ipAllowedByProfile, if_neg given] at allowed
  cases parsed : Netip.parseAddr address.trimSpace with
  | none => simp [parsed] at allowed
  | some addr =>
    simp only [parsed] at allowed
    clear given
    induction ranges with
    | nil => cases allowed
    | cons range rest ih =>
      simp only [ipAllowedByRanges] at allowed
      cases read : Netip.parsePrefix range.trimSpace with
      | none => simp [read] at allowed
      | some network =>
        simp only [read, Bool.or_eq_true] at allowed
        rcases allowed with contains | later
        · exact ⟨range, mem_cons_self, addr, network, parsed, read, contains⟩
        · obtain ⟨range, inside, within⟩ := ih later
          exact ⟨range, mem_cons_of_mem _ inside, within⟩

end Names

/-- The lists of an identity allow the names. -/
structure IdentityAllows (identity : Identity) (dnsNames ipAddresses : List Text) : Prop where
  dns : identity.allowedDNSNames ≠ [] → ∀ name ∈ dnsNames, Lists identity.allowedDNSNames name
  ip : identity.allowedIPAddresses ≠ [] →
    ∀ address ∈ ipAddresses, Lists identity.allowedIPAddresses address

/-- The lists of a profile allow the names. -/
structure ProfileAllows (lower : Char → Char) (profile : CertificateProfile)
    (dnsNames ipAddresses : List Text) : Prop where
  dns : profile.allowedDNSPatterns ≠ [] → ∀ name ∈ dnsNames,
    ∃ pattern ∈ profile.allowedDNSPatterns, PatternCovers lower pattern name
  ip : profile.allowedIPRanges ≠ [] → ∀ address ∈ ipAddresses,
    ∃ range ∈ profile.allowedIPRanges, InRange range address
  wildcard : ∀ name ∈ dnsNames, IsWildcard name → ∃ pattern ∈ profile.allowedDNSPatterns,
    ['*', '.'] <+: compared lower pattern ∧ PatternCovers lower pattern name

section Checks

variable {lower : Char → Char} {req : CreateEnrollmentRequest} {profile : CertificateProfile}
  {csrInfo : CSRInfo} {now : Time} {u : Unit}

theorem validateCSRPolicy_ok (cases : Text.LowerCase lower)
    (passed : validateCSRPolicy lower req profile csrInfo = .ok u) :
    (1 ≤ req.requestedDNSNames.length + req.requestedIPAddresses.length ∧
      req.requestedDNSNames.length + req.requestedIPAddresses.length ≤ maxCSRSANs) ∧
      ∀ name ∈ req.requestedDNSNames, IsWildcard name → ∃ pattern ∈ profile.allowedDNSPatterns,
        ['*', '.'] <+: compared lower pattern ∧ PatternCovers lower pattern name := by
  simp only [validateCSRPolicy, bind_eq_ok, demand_ok_iff, all_eq_true, Bool.or_eq_true,
    Bool.not_eq_true', decide_eq_false_iff_not] at passed
  obtain ⟨-, counted, -, -, -, wildcards, -⟩ := passed
  refine ⟨⟨Nat.pos_of_ne_zero counted.1, counted.2⟩, ?_⟩
  intro name inside wildcard
  exact covers_of_wildcardAllowedByProfile cases
    ((wildcards name inside).resolve_left fun plain => plain wildcard)

theorem profilePolicy_ok (cases : Text.LowerCase lower)
    (named : profile.id ≠ [] ∨ profile = {})
    (passed : validateEnrollmentProfilePolicy lower req profile csrInfo now = .ok u) :
    (1 ≤ req.requestedDNSNames.length + req.requestedIPAddresses.length ∧
      req.requestedDNSNames.length + req.requestedIPAddresses.length ≤ maxCSRSANs) ∧
      ProfileAllows lower profile req.requestedDNSNames req.requestedIPAddresses := by
  rw [validateEnrollmentProfilePolicy, bind_eq_ok] at passed
  obtain ⟨mid, policy, passed⟩ := passed
  obtain ⟨counted, wildcards⟩ := validateCSRPolicy_ok cases policy
  refine ⟨counted, ?_⟩
  rcases named with named | rfl
  · simp only [if_neg named, bind_eq_ok, demand_ok_iff, all_eq_true] at passed
    obtain ⟨-, -, -, dns, -, ip, -⟩ := passed
    exact ⟨fun given name inside => covers_of_dnsAllowedByProfile (dns name inside) given,
      fun given address inside => inRange_of_ipAllowedByProfile (ip address inside)
        given, wildcards⟩
  · exact ⟨fun given => absurd rfl given, fun given => absurd rfl given, wildcards⟩

theorem identityPolicy_ok (named : identity.id ≠ [])
    (passed : validateEnrollmentIdentityPolicy req identity = .ok u) :
    IdentityAllows identity req.requestedDNSNames req.requestedIPAddresses := by
  simp only [validateEnrollmentIdentityPolicy, if_neg named, bind_eq_ok, demand_ok_iff,
    all_eq_true] at passed
  obtain ⟨-, dns, ip⟩ := passed
  exact ⟨fun given name inside => lists_of_valueAllowedByList (dns name inside) given,
    fun given address inside => lists_of_valueAllowedByList (ip address inside) given⟩

theorem checkEnrollment_ok {s : Service}
    (passed : s.checkEnrollment req profile identity csrInfo now = .ok u) :
    req.requestedDNSNames.Perm csrInfo.dnsNames ∧
      req.requestedIPAddresses.Perm csrInfo.ipAddresses ∧
      validateEnrollmentProfilePolicy s.lowerRune req profile csrInfo now = .ok () ∧
      validateEnrollmentIdentityPolicy req identity = .ok () := by
  simp only [Service.checkEnrollment, bind_eq_ok, demand_ok_iff, mapError_ok_iff] at passed
  obtain ⟨_, ⟨dns, ip⟩, _, profilePassed, identityPassed⟩ := passed
  exact ⟨perm_of_sameStringSet dns, perm_of_sameStringSet ip, profilePassed, identityPassed⟩

end Checks

variable {s : Service} {cfg : s.system.Config} {before : State} {call drawn : Nat}
  {event : Option Event} {report : Report} {after : Ledger}

/-- A stored identity has an ID. -/
theorem Consistent.identity_named (ids : s.FreshIDs) (consistent : Consistent s before) {id}
    (found : (ledger before).identities.lookup id = some identity) : identity.id ≠ [] := by
  obtain ⟨number, -, named⟩ := consistent.given.identities id identity found
  rw [consistent.keyed.identities id identity found, named]
  exact ids.ne_nil number

/-- A profile that was read has an ID, or none was asked for. -/
theorem Consistent.profile_named (ids : s.FreshIDs) (consistent : Consistent s before)
    {profileID} (read : ProfileRead (ledger before) profileID profile) :
    profile.id ≠ [] ∨ profile = {} := by
  rcases read with ⟨-, unnamed⟩ | ⟨stored, found, same⟩
  · exact .inr unnamed
  · obtain ⟨number, -, named⟩ := consistent.given.profiles profileID stored found
    have kept : stored.id = profile.id := by rw [same]
    rw [← kept, consistent.keyed.profiles profileID stored found, named]
    exact .inl (ids.ne_nil number)

theorem Permitted.mono {req csrInfo now}
    (permitted : Permitted s state req identity profile csrInfo now)
    (grows : Grows (ledger state) (ledger later)) (history : state.history <+: later.history) :
    Permitted s later req identity profile csrInfo now where
  identified := by
    obtain ⟨same, found, rfl⟩ := grows.identities _ identity permitted.identified
    exact found
  profiled := permitted.profiled.mono grows
  inspected := by
    obtain ⟨call, inspected⟩ := permitted.inspected
    exact ⟨call, history.subset inspected⟩
  passed := permitted.passed

/-- A stored enrollment passed the checks, and was approved if it is issued or about to be. -/
structure EnrollmentSound (s : Service) (state : State) (enrollment : Enrollment) : Prop where
  permitted : ∃ identity profile csrInfo now,
    Permitted s state (enrollmentProfilePolicyRequest enrollment) identity profile csrInfo now
  approved : enrollment.status = .approved ∨ enrollment.status = .issued →
    ∃ call, (call, Event.enrollmentApproved enrollment.id) ∈ state.history

theorem EnrollmentSound.mono {enrollment} (sound : EnrollmentSound s state enrollment)
    (grows : Grows (ledger state) (ledger later)) (history : state.history <+: later.history) :
    EnrollmentSound s later enrollment where
  permitted := by
    obtain ⟨identity, profile, csrInfo, now, permitted⟩ := sound.permitted
    exact ⟨identity, profile, csrInfo, now, permitted.mono grows history⟩
  approved active := by
    obtain ⟨call, approved⟩ := sound.approved active
    exact ⟨call, history.subset approved⟩

theorem EnrollmentSame.request (same : EnrollmentSame old new) :
    enrollmentProfilePolicyRequest new = enrollmentProfilePolicyRequest old := by
  rw [same]
  rfl

theorem EnrollmentSame.id_eq (same : EnrollmentSame old new) : new.id = old.id := by
  rw [same]

/-- What a change does to the enrollments: nothing, or it stores one that is new, decided or
issued. -/
theorem Change.enrollments (change : Change s call before drawn event report after) :
    after.enrollments = (ledger before).enrollments ∨ ∃ enrollment : Enrollment,
      after.enrollments = (ledger before).enrollments.insert enrollment.id enrollment ∧
      ((enrollment.status = .pending ∧ ∃ identity profile csrInfo now,
          Permitted s before (enrollmentProfilePolicyRequest enrollment)
        identity profile csrInfo now) ∨
          ∃ stored, (ledger before).enrollments.lookup enrollment.id = some stored ∧
          EnrollmentSame stored enrollment ∧
            (event = some (.enrollmentApproved enrollment.id) ∨ enrollment.status = .rejected ∨
              stored.status = .approved)) := by
  cases change with
  | configured change | crl change | acme change => exact .inl (by rw [change.frame])
  | enrolled fresh named pending permitted =>
    exact .inr ⟨_, rfl, .inl ⟨pending, _, _, _, _, permitted⟩⟩
  | decided found pending same decision =>
    refine .inr ⟨_, rfl, .inr ⟨_, found, same, ?_⟩⟩
    rcases decision with ⟨-, noted⟩ | ⟨rejected, -⟩
    · exact .inl noted
    · exact .inr (.inl rejected)
  | finalized found approved => exact .inr ⟨_, rfl, .inr ⟨_, found, rfl, .inr (.inr approved)⟩⟩
  | _ => exact .inl rfl

theorem enrollments_sound (ids : s.FreshIDs) (reached : s.Reachable cfg) :
    ∀ id enrollment, (ledger cfg.shared).enrollments.lookup id = some enrollment →
      EnrollmentSound s cfg.shared enrollment := by
  refine @reachable_induct s cfg ids (fun state => ∀ id enrollment,
    (ledger state).enrollments.lookup id = some enrollment → EnrollmentSound s state enrollment)
    ?_ ?_ ?_ reached
  · intro world initial id enrollment found
    simp [ledger, initial.db, Ledger.of, Db.empty] at found
  · intro before call event report after consistent sound _ change id enrollment found
    have grows : Grows (ledger before) (ledger (before.after call event after)) :=
      change.grows ids consistent
    have history : before.history <+: (before.after call event after).history :=
      List.prefix_append _ _
    change (Ledger.of after.db).enrollments.lookup id = some enrollment at found
    rcases change.enrollments with same | ⟨written, same, moved⟩
    · rw [same] at found
      exact (sound id enrollment found).mono grows history
    · rw [same, Table.lookup_insert_eq] at found
      split at found
      · cases found
        rcases moved with ⟨pending, identity, profile, csrInfo, now, permitted⟩ |
          ⟨stored, there, version, moved⟩
        · refine ⟨⟨identity, profile, csrInfo, now, permitted.mono grows history⟩, ?_⟩
          rintro (active | active) <;> simp [pending] at active
        · have old := (sound _ stored there).mono grows history
          refine ⟨version.request ▸ old.permitted, ?_⟩
          rintro active
          rcases moved with rfl | rejected | approved
          · exact ⟨call, Shared.mem_after_iff.mpr (.inr ⟨rfl, rfl⟩)⟩
          · rcases active with active | active <;> simp [rejected] at active
          · exact version.id_eq ▸ old.approved (.inl approved)
      · exact (sound id enrollment found).mono grows history
  · intro before after sound outer id enrollment found
    rw [outer.ledger] at found
    exact (sound id enrollment found).mono (outer.ledger ▸ .refl _) outer.history_grows

/-- In every state of every run, a stored certificate belongs to an approved enrollment, has between
one and a hundred names, which are those the core reported of the enrollment's request, and they are
allowed by the lists of its identity and of its profile; without a profile it has no wildcard
name. -/
theorem certificates_permitted (ids : s.FreshIDs) (cases : Text.LowerCase s.lowerRune)
    (reached : s.Reachable cfg) {id : Text} {certificate : Certificate}
    (found : (ledger cfg.shared).certificates.lookup id = some certificate) :
    (∃ call, (call, Event.enrollmentApproved certificate.enrollmentID) ∈ cfg.shared.history) ∧
      (1 ≤ certificate.dnsNames.length + certificate.ipAddresses.length ∧
        certificate.dnsNames.length + certificate.ipAddresses.length ≤ 100) ∧
      (∃ enrollment call csrInfo,
        (ledger cfg.shared).enrollments.lookup certificate.enrollmentID = some enrollment ∧
        (call, Event.csrInspected enrollment.csrPEM csrInfo) ∈ cfg.shared.history ∧
        certificate.dnsNames.Perm csrInfo.dnsNames ∧
        certificate.ipAddresses.Perm csrInfo.ipAddresses) ∧
      (∃ identity, (ledger cfg.shared).identities.lookup certificate.identityID = some identity ∧
        IdentityAllows identity certificate.dnsNames certificate.ipAddresses) ∧
      ((certificate.certificateProfileID = [] ∧ ∀ name ∈ certificate.dnsNames, ¬ IsWildcard name) ∨
        ∃ profile,
          (ledger cfg.shared).profiles.lookup certificate.certificateProfileID = some profile ∧
          ProfileAllows s.lowerRune profile certificate.dnsNames certificate.ipAddresses) := by
  have consistent := reaches_consistent ids reached
  obtain ⟨attempt, there, finalized, -⟩ := consistent.issuance.certified id certificate found
  obtain ⟨enrollment, -, enrolled, issued, -⟩ :=
    consistent.issuance.finalized _ attempt there finalized
  have certifies := consistent.issuance.certifies enrolled there found rfl
  have sound := enrollments_sound ids reached _ enrollment enrolled
  obtain ⟨call, approved⟩ := sound.approved (.inr issued)
  obtain ⟨identity, profile, csrInfo, now, permitted⟩ := sound.permitted
  obtain ⟨call', inspected⟩ := permitted.inspected
  obtain ⟨dns, ip, profilePassed, identityPassed⟩ := checkEnrollment_ok permitted.passed
  obtain ⟨counted, allows⟩ := profilePolicy_ok cases
    (consistent.profile_named ids permitted.profiled) profilePassed
  have identified := identityPolicy_ok
    (consistent.identity_named ids permitted.identified) identityPassed
  rw [certifies.dnsNames, certifies.ipAddresses, certifies.identityID,
    certifies.certificateProfileID]
  refine ⟨⟨call, certifies.enrollmentID ▸ approved⟩, counted,
    ⟨enrollment, call', csrInfo, enrolled, inspected, dns, ip⟩,
    ⟨identity, permitted.identified, identified⟩, ?_⟩
  rcases permitted.profiled with ⟨unnamed, rfl⟩ | ⟨stored, read, same⟩
  · refine .inl ⟨unnamed, ?_⟩
    intro name inside wildcard
    obtain ⟨pattern, absent, -⟩ := allows.wildcard name inside wildcard
    cases absent
  · refine .inr ⟨stored, read, ?_⟩
    rw [same]
    exact ⟨allows.dns, allows.ip, allows.wildcard⟩

/-- The certificate of the deployment. -/
theorem certificates_permitted_web : ∃ cfg : SmallConfig, smallService.Reachable cfg ∧
    (ledger cfg.shared).certificates.lookup webCertificate.id = some webCertificate ∧
    ∃ call, (call, Event.enrollmentApproved webCertificate.enrollmentID) ∈ cfg.shared.history := by
  obtain ⟨cfg, reached, -, found⟩ := small_issued
  have cases : Text.LowerCase smallService.lowerRune :=
    ⟨fun c outside => by simp [Text.toLower, smallService, outside.not_gt], fun _ _ => rfl⟩
  exact ⟨cfg, reached, found, (certificates_permitted small_freshIDs cases reached found).1⟩

/-- What is known of an enrollment that is stored. -/
theorem Change.enrollmentStored {s call before drawn id report after}
    (change : Change s call before drawn (some (.enrollmentCreated id)) report after) :
    ∃ enrollment, after = (ledger before).putEnrollment enrollment ∧ enrollment.id = id ∧
      RequestOfOrder call before (enrollmentProfilePolicyRequest enrollment) ∧
      RequestOfCall call before (enrollmentProfilePolicyRequest enrollment) := by
  cases change with
  | idle silent => exact (silent _ rfl).elim
  | crl change => cases change
  | decided _ _ _ decision => rcases decision with ⟨-, other⟩ | ⟨-, other⟩ <;> cases other
  | enrolled _ _ _ _ _ ordered _ source => exact ⟨_, rfl, rfl, ordered, source⟩

/-- The names that OpenSSL finds when the core signs for an enrollment are the requested ones. -/
def AltNamesRequested (lower : Char → Char) (enrollment : Enrollment) (issuer : Issuer)
    (profile : CertificateProfile) (now : Time) : Prop :=
  Core.subjectAltNames (coreIssueRequest lower enrollment issuer profile now).core =
    (Core.requestedAltNames enrollment.requestedDNSNames enrollment.requestedIPAddresses).map
      fun entry => (entry.1.text, some entry.2)
deriving Decidable

/-- A stored enrollment has the names that the core reported of its request, and they get into the
certificate unchanged exactly when each of them is plain. -/
theorem altNames_requested_iff (ids : s.FreshIDs) (reached : s.Reachable cfg) {id : Text}
    {enrollment : Enrollment}
    (found : (ledger cfg.shared).enrollments.lookup id = some enrollment) :
    (∃ call csrInfo, (call, Event.csrInspected enrollment.csrPEM csrInfo) ∈ cfg.shared.history ∧
      enrollment.requestedDNSNames.Perm csrInfo.dnsNames ∧
      enrollment.requestedIPAddresses.Perm csrInfo.ipAddresses) ∧
    ∀ issuer profile now, AltNamesRequested s.lowerRune enrollment issuer profile now ↔
      ∀ name ∈ enrollment.requestedDNSNames ++ enrollment.requestedIPAddresses,
      Core.Plain name := by
  obtain ⟨identity, profile, csrInfo, now, permitted⟩ :=
    (enrollments_sound ids reached id enrollment found).permitted
  obtain ⟨call, inspected⟩ := permitted.inspected
  obtain ⟨dns, ip, -⟩ := checkEnrollment_ok permitted.passed
  refine ⟨⟨call, csrInfo, inspected, dns, ip⟩, ?_⟩
  intro issuer profile now
  exact Core.subjectAltNames_eq_iff
    (coreIssueRequest s.lowerRune enrollment issuer profile now).core

/-- The enrollment of the deployment. -/
theorem altNames_requested_web : ∃ cfg : SmallConfig,
    (ledger cfg.shared).enrollments.lookup webCertificate.enrollmentID =
      some { webEnrollment 4 with status := .issued } ∧
    AltNamesRequested smallService.lowerRune { webEnrollment 4 with status := .issued }
      webIssuer {} newYear := by
  obtain ⟨cfg, reached, found, -⟩ := small_issued
  exact ⟨cfg, found, ((altNames_requested_iff small_freshIDs reached found).2 webIssuer {}
      newYear).mpr (by decide +kernel)⟩

/-- A profile for the names under one domain. -/
def domainProfile : CreateCertificateProfileRequest where
  name := "domain"
  issuerID := smallID 2
  validityPeriodSeconds := 17280000
  allowedDNSPatterns := ["*.example.com".toList]

def domainRecord : CertificateProfile :=
  newCertificateProfile smallService.lowerRune (smallID 4) domainProfile newYear

/-- A name that ends in the domain and holds another entry before it. -/
def injectedRequest : CreateEnrollmentRequest :=
  { webRequest with
    certificateProfileID := domainRecord.id
    requestedDNSNames := ["evil.test,DNS:a.example.com".toList] }

def injectedInfo : CSRInfo where
  dnsNames := ["evil.test,DNS:a.example.com".toList]

def injectedEnrollment : Enrollment :=
  newEnrollment (smallID 6) injectedRequest injectedInfo newYear

/-- The enrollment is accepted, and the certificate is signed for a name outside the domain. -/
theorem altNames_injected : ∃ cfg : SmallConfig, smallService.Reachable cfg ∧
    (ledger cfg.shared).enrollments.lookup injectedEnrollment.id = some injectedEnrollment ∧
    Core.subjectAltNames
        (coreIssueRequest smallService.lowerRune injectedEnrollment webIssuer
      domainRecord newYear).core =
        [("DNS".toList, some "evil.test".toList), ("DNS".toList, some "a.example.com".toList)] ∧
    ¬ AltNamesRequested smallService.lowerRune injectedEnrollment webIssuer
      domainRecord newYear := by
  obtain ⟨⟨_, _, _⟩, plan, log, reached, -, rfl, enrolled⟩ := rehearsed_reaches newWorld_initial
    (configuring ++
      calling 2 1 (.createCertificateProfile {} "admin" domainProfile) 2 ++
      answered { Oracle.working with inspectCSR := .ok injectedInfo } 3 1
        (.createEnrollment {} "admin" injectedRequest) 6) (fun plan =>
      plan.shared.world.db.enrollments.lookup injectedEnrollment.id = some injectedEnrollment)
  exact ⟨_, reached, enrolled, by decide +kernel, by decide +kernel⟩

end AnoPki.Lifecycle
