import AnoPki.Corecli.Times
import AnoPki.Lifecycle.PublicTlsRuns

/-! # Validity intervals over whole runs

The end of a certificate is asked for when its enrollment is created, and it is compared with the
clock only then. The start is the clock of the call that issues. The core cuts both to whole seconds
and does not compare them; a request to the signer has an interval that is not empty if the clock
has not come to the second of the end when it is sent. -/
namespace AnoPki.Lifecycle

open Foundation Domain Store Corecli

variable {s : Service} {cfg : s.system.Config} {call : Nat}

section Interval

variable {request : Corecli.IssueRequest} {now : Int}

theorem rfc3339Nano_ne_nil (t : Time) : t.rfc3339Nano ≠ [] := by
  simp [Time.rfc3339Nano]

/-- The core reads both times before it signs. -/
theorem reads_of_validityInterval {interval}
    (signed : Core.validityInterval now request.core = .ok interval) :
    Core.reads request.notBefore ∧ Core.reads request.notAfter := by
  obtain ⟨times, resolved, -⟩ := Except.bind_eq_ok.mp signed
  obtain ⟨first, normalized, resolved⟩ := Except.bind_eq_ok.mp resolved
  obtain ⟨second, normalized', -⟩ := Except.bind_eq_ok.mp resolved
  rw [Core.resolveTime, IssueRequest.core, if_neg (rfc3339Nano_ne_nil _)] at normalized normalized'
  obtain ⟨start, started, -⟩ := Except.bind_eq_ok.mp normalized
  obtain ⟨stop, stopped, -⟩ := Except.bind_eq_ok.mp normalized'
  rw [Core.reads, Core.reads, started, stopped]
  exact ⟨rfl, rfl⟩

/-- What the core reads in a text on the wire, it reads again in the text it normalizes it to. -/
theorem normalize_wire {t} (strict : HasStrictText t) (readable : Core.reads t) :
    Core.normalizeRfc3339Utc t.rfc3339Nano =
        .ok (Core.formatRfc3339Utc (.ofSeconds (Core.wireSeconds t))) ∧
      Core.parseRfc3339ToUtc (Core.formatRfc3339Utc (.ofSeconds (Core.wireSeconds t))) =
        .ok (.ofSeconds (Core.wireSeconds t)) ∧ 0 ≤ Core.wireSeconds t := by
  obtain ⟨positive, high, offset⟩ := strict
  obtain ⟨parsed, late, low, high⟩ := Core.parse_of_reads positive high offset readable
  have early : 0 ≤ Core.wireSeconds t := by
    rw [Time.localDays] at late
    rw [Core.wireSeconds]
    omega
  refine ⟨?_, Core.parse_format early low high, early⟩
  rw [Core.normalizeRfc3339Utc, parsed]
  rfl

/-- The interval of a certificate: the seconds that the two texts tell. -/
theorem validityInterval_wire (strict : HasStrictText request.notBefore ∧
    HasStrictText request.notAfter) (readable : Core.reads request.notBefore ∧
    Core.reads request.notAfter) :
      Core.validityInterval now request.core = .ok (.ofSeconds (Core.wireSeconds request.notBefore),
        .ofSeconds (Core.wireSeconds request.notAfter)) := by
  obtain ⟨start, started, -⟩ := normalize_wire strict.1 readable.1
  obtain ⟨stop, stopped, -⟩ := normalize_wire strict.2 readable.2
  have resolved : Core.resolveTimes now request.core =
      .ok ⟨Core.formatRfc3339Utc (.ofSeconds (Core.wireSeconds request.notBefore)),
        Core.formatRfc3339Utc (.ofSeconds (Core.wireSeconds request.notAfter))⟩ := by
    rw [Core.resolveTimes, Core.resolveTime, Core.resolveTime, IssueRequest.core,
      if_neg (rfc3339Nano_ne_nil _), if_neg (rfc3339Nano_ne_nil _), start, stop]
    rfl
  rw [Core.validityInterval, resolved]
  simp only [bind, Except.bind, started, stopped, pure, Except.pure]

/-- The request has an interval that is not empty, as it is sent and, if it reaches the core and the
core reads its times, as it is signed. -/
structure Proper (request : Corecli.IssueRequest) : Prop where
  sent : request.notBefore.before request.notAfter
  signed : ∀ file now start stop, issueRequestFile request = some file →
    Core.validityInterval now request.core = .ok (start, stop) → start.seconds < stop.seconds

/-- The clock has not come to the second of the end. The text of a time has no seconds of its zone,
and where they are not zero they move it by less than a minute. -/
def InTime (clock : Time) (zone : Int) (notAfter : Time) : Prop :=
  (clock.nanos / 1000000000 < notAfter.nanos / 1000000000 ∧ zone % 60 = 0 ∧
      notAfter.offset % 60 = 0) ∨ clock.nanos + 120000000000 ≤ notAfter.nanos

theorem before_of_inTime {start clock notAfter : Time} (past : start.nanos ≤ clock.nanos)
    (inTime : InTime clock start.offset notAfter) :
    start.before notAfter ∧ Core.wireSeconds start < Core.wireSeconds notAfter := by
  have zones : ∀ offset : Int, 60 * offset.tdiv 60 = offset - offset.tmod 60 ∧
      -60 < offset.tmod 60 ∧ offset.tmod 60 < 60 ∧ (offset % 60 = 0 → offset.tmod 60 = 0) := by
    intro offset
    have whole := Int.tmod_add_mul_tdiv offset 60
    exact ⟨by omega, Int.lt_tmod_of_pos _ (by decide), Int.tmod_lt_of_pos _ (by decide),
      fun zero => Int.tmod_eq_zero_of_dvd (Int.dvd_of_emod_eq_zero zero)⟩
  obtain ⟨startZone, startLow, startHigh, startWhole⟩ := zones start.offset
  obtain ⟨stopZone, stopLow, stopHigh, stopWhole⟩ := zones notAfter.offset
  rw [InTime] at inTime
  rw [Core.wireSeconds, Core.wireSeconds, startZone, stopZone, Time.localNanos, Time.localNanos,
    Time.before]
  omega

theorem hasStrictText_of_file {file} (written : issueRequestFile request = some file) :
    HasStrictText request.notBefore ∧ HasStrictText request.notAfter := by
  by_cases start : HasStrictText request.notBefore <;>
    by_cases stop : HasStrictText request.notAfter <;>
    simp [issueRequestFile, marshalTime, start, stop] at written ⊢

theorem proper_of_inTime {clock : Time} (past : request.notBefore.nanos ≤ clock.nanos)
    (inTime : InTime clock request.notBefore.offset request.notAfter) : Proper request := by
  obtain ⟨sent, whole⟩ := before_of_inTime past inTime
  refine ⟨sent, fun file now start stop written interval => ?_⟩
  have strict := hasStrictText_of_file written
  have readable := reads_of_validityInterval interval
  rw [validityInterval_wire strict readable] at interval
  cases Except.ok.inj interval
  rw [Core.seconds_ofSeconds (normalize_wire strict.1 readable.1).2.2,
    Core.seconds_ofSeconds (normalize_wire strict.2 readable.2).2.2]
  omega

end Interval

/-- In every run, a request to the signer ends where the stored enrollment asked for. It has an
interval that is not empty if the clock, at the step that sends it, has not come to the second of
that end. -/
theorem issueRequest_proper (ids : s.FreshIDs) (reached : s.Reachable cfg)
    {action : s.system.Action} {id : Text} {request : Corecli.IssueRequest}
    (sent : action.event cfg = some (call, some (.issueRequested id request))) :
    ∃ enrollment, (ledger cfg.shared).enrollments.lookup id = some enrollment ∧
      request.notBefore.nanos ≤ cfg.shared.world.clock.nanos ∧
      request.notAfter = enrollment.requestedNotAfter ∧
      (InTime cfg.shared.world.clock request.notBefore.offset enrollment.requestedNotAfter →
        Proper request) := by
  obtain ⟨drawn, report, after, change⟩ := reaches_seen ids reached sent
  obtain ⟨asked, issuer, profile, csrInfo, now, checked, rfl, rfl⟩ := change.issueRequested
  obtain ⟨stored, found, same⟩ := checked.enrolled
  have ends : asked.requestedNotAfter = stored.requestedNotAfter := by rw [same]
  refine ⟨stored, found, checked.past, ends, ?_⟩
  rw [← ends]
  exact proper_of_inTime checked.past

/-- The deployment asks the core for the certificate of an enrollment, at a time from the new year
on. -/
def asking (now : Time) : List SmallAction :=
  configuring ++ enrolling 2 4 ++ [.disturb (.tick now)] ++ issuing 4 1 4 7

abbrev Asked (now : Time) (plan : SmallConfig) : Prop :=
  plan.shared.world.clock = now ∧ (System.Action.run 4 .working : SmallAction).event plan =
    some (4, some (.issueRequested (webEnrollment 4).id
      (coreIssueRequest smallService.lowerRune (webEnrollment 4) webIssuer {} now)))

theorem small_asks {now}
    (shown : ((System.idle newWorld : SmallConfig).play (fun _ _ => true)
      (asking now)).any (fun plan => decide (Asked now plan)) = true) :
    ∃ cfg, smallService.Reachable cfg ∧ Asked now cfg := by
  obtain ⟨cfg, plan, log, reached, mirrors, same, asked⟩ := rehearsed_reaches newWorld_initial
    (asking now) (Asked now) shown
  refine ⟨cfg, reached, ?_, mirrors.event asked.2⟩
  rw [same]
  exact asked.1

/-- An enrollment that is issued an hour later. -/
theorem small_proper : ∃ (cfg : SmallConfig) (action : SmallAction)
    (request : Corecli.IssueRequest), smallService.Reachable cfg ∧
    action.event cfg = some (4, some (.issueRequested (webEnrollment 4).id request)) ∧
    Proper request := by
  obtain ⟨cfg, reached, shown, sent⟩ := @small_asks (newYear.add 3600000000000) (by decide +kernel)
  obtain ⟨enrollment, -, -, stop, proper⟩ := issueRequest_proper small_freshIDs reached sent
  refine ⟨cfg, _, _, reached, sent, proper ?_⟩
  rw [← stop, shown]
  exact .inl (by decide)

/-- The enrollment asks for a day and is issued after two: the core gives the certificate an
interval that ends before it starts. -/
theorem small_inverted : ∃ (cfg : SmallConfig) (action : SmallAction)
    (request : Corecli.IssueRequest), smallService.Reachable cfg ∧
    action.event cfg = some (4, some (.issueRequested (webEnrollment 4).id request)) ∧
    request.notAfter.before request.notBefore ∧ (issueRequestFile request).isSome ∧
    ∃ start stop, Core.validityInterval 0 request.core = .ok (start, stop) ∧
      stop.seconds < start.seconds := by
  obtain ⟨cfg, reached, -, sent⟩ := @small_asks (newYear.add 172800000000000) (by decide +kernel)
  exact ⟨cfg, _, _, reached, sent, by decide, by decide +kernel,
    ⟨2026, 1, 3, 0, 0, 0⟩, ⟨2026, 1, 2, 0, 0, 0⟩, by decide +kernel, by decide +kernel⟩

end AnoPki.Lifecycle
