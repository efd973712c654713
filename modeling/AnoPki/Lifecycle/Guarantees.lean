import AnoPki.Lifecycle.Retention

/-! # What runs keep

Actions are steps of the ledger; no record is lost. -/
namespace AnoPki.Lifecycle

open Foundation Store List

variable {s : Service} {cfg : s.system.Config}

/-- Every action is one call's step of the ledger, or leaves the ledger and the log alone. -/
theorem actions_refine (ids : s.FreshIDs) (reached : s.Reachable cfg) {action next}
    (performed : cfg.perform action = some next) :
    (∃ call event, action.event cfg = some (call, event) ∧
      next.shared = cfg.shared.after call event next.shared.world ∧
      Performs s call cfg.shared event (session next.shared)) ∨
    (action.event cfg = none ∧ Outer cfg.shared next.shared) := by
  have moves := ((reaches_sound ids reached).perform (s.system_keeps ids) performed).1
  generalize next.shared = shared at moves
  cases moves with
  | call seen change => exact .inl ⟨_, _, seen, rfl, change.2⟩
  | outer unseen between => exact .inr ⟨unseen, between⟩

/-- The signature of the deployment's certificate is about to be stored. -/
theorem small_signing : ∃ cfg next : SmallConfig, smallService.Reachable cfg ∧
    cfg.perform (.run 4 .working) = some next ∧ ∃ current signed,
      (System.Action.run 4 .working : SmallAction).event cfg =
        some (4, some (.persisted current signed)) := by
  obtain ⟨cfg, plan, log, reached, mirrors, -, shown, goesOn⟩ := rehearsed_reaches newWorld_initial
    (configuring ++ enrolling 2 4 ++ issuing 4 1 4 8) (fun plan =>
      (System.Action.run 4 .working : SmallAction).event plan =
        some (4, some (.persisted (firstAttempt (smallID 4) newYear)
          (signedAtOnce smallService (smallID 4) 7 webResult newYear))) ∧
      (plan.rehearse (.run 4 .working)).any (fun _ => decide True) = true)
  obtain ⟨next, -, -, performed, -⟩ := performs_of_mirrors mirrors goesOn
  exact ⟨cfg, next, reached, performed, _, _, mirrors.event shown⟩

/-- To store it is a step of the ledger. -/
theorem signing_refines : ∃ (cfg next : SmallConfig) (current signed : _),
    smallService.Reachable cfg ∧ cfg.perform (.run 4 .working) = some next ∧
      Performs smallService 4 cfg.shared (some (.persisted current signed))
      (session next.shared) := by
  obtain ⟨cfg, next, reached, performed, current, signed, seen⟩ := small_signing
  rcases actions_refine small_freshIDs reached performed with
    ⟨_, _, same, -, performs⟩ | ⟨unseen, -⟩
  · cases seen.symm.trans same
    exact ⟨cfg, next, current, signed, reached, performed, performs⟩
  · cases seen.symm.trans unseen

/-- No record is lost, what it was made with stays, and audit events are only added. -/
structure Forward (before after : State) : Prop extends Later before after where
  audit : before.world.db.audit.events <+: after.world.db.audit.events

/-- A run from a reachable state keeps every record and only adds to the audit log. -/
theorem records_forward (ids : s.FreshIDs) (reached : s.Reachable cfg) {actions final}
    (performed : cfg.performAll actions = some final) : Forward cfg.shared final.shared := by
  refine System.Reaches.along (s.system_keeps ids) (fun _ initial => initial.consistent) ?_ ?_ ?_
    reached performed
  · exact fun state => ⟨.refl state, prefix_rfl⟩
  · exact fun first second => ⟨first.toLater.trans second.toLater, first.audit.trans second.audit⟩
  · intro cfg action next consistent moves
    cases moves with
    | call _ change =>
      have later := ((discipline s ids).change_keeps consistent change).2
      obtain ⟨-, report, told, -⟩ := change
      exact ⟨later, report.events, told.audit.symm⟩
    | outer _ between =>
      refine ⟨((discipline s ids).outer_keeps consistent between).2, ?_⟩
      rw [between.audit]

/-- What was stored when the signature comes is kept. -/
theorem signing_forward : ∃ cfg final, smallService.Reachable cfg ∧
    cfg.performAll [.run 4 .working] = some final ∧ Forward cfg.shared final.shared := by
  obtain ⟨cfg, next, reached, performed, -⟩ := small_signing
  have all : cfg.performAll [.run 4 .working] = some next := by
    rw [System.Config.performAll, performed]
    rfl
  exact ⟨cfg, next, reached, all, records_forward small_freshIDs reached all⟩

end AnoPki.Lifecycle
