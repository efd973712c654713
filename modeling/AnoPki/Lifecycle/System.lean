import AnoPki.Lifecycle.Operations
import AnoPki.Foundation.Progress

/-! # The service as a system

Any number of nodes run the service's calls on one store. Every run keeps the ledger consistent. -/
namespace AnoPki.Lifecycle

open Foundation Domain Store

/-- What happens outside the calls: time passes. -/
inductive Outside where
  | tick (time : Time)

def Outside.disturb (world : World) : Outside → Option World
  | .tick time => if world.clock.nanos ≤ time.nanos then some { world with clock := time } else none

/-- Run an operation and forget what it returns. -/
def Op.forget {α : Type} (op : Op α) : Prog World Oracle Event Unit :=
  Prog.bind op.run fun _ => .ret ()

def Service.start (s : Service) (node : Node) : Call → Prog World Oracle Event Unit
  | .createIdentity ctx actor req => (s.createIdentity ctx actor req).forget
  | .createIssuer ctx actor req => (s.createIssuer ctx actor req).forget
  | .createCertificateProfile ctx actor req => (s.createCertificateProfile ctx actor req).forget
  | .transitionCertificateProfileIssuer ctx actor req =>
    (s.transitionCertificateProfileIssuer ctx actor req).forget
  | .createACMEAccount ctx actor req => (s.createACMEAccount ctx actor req).forget
  | .createOrGetACMEAccount ctx actor req => (s.createOrGetACMEAccount ctx actor req).forget
  | .updateACMEAccount ctx actor id req => (s.updateACMEAccount ctx actor id req).forget
  | .updateACMEAccountKey ctx actor id req => (s.updateACMEAccountKey ctx actor id req).forget
  | .publishCRL ctx actor req => (s.publishCRL ctx actor req).forget
  | .createEnrollment ctx actor req => (s.createEnrollment ctx actor req).forget
  | .approveEnrollment ctx actor id reason =>
    (s.approveEnrollmentWithReason ctx actor id reason).forget
  | .rejectEnrollment ctx actor id => (s.rejectEnrollment ctx actor id).forget
  | .renewCertificate ctx actor id req => (s.renewCertificate ctx actor id req).forget
  | .reissueCertificate ctx actor id req => (s.reissueCertificate ctx actor id req).forget
  | .issueCertificate ctx actor enrollmentID =>
    (s.issueCertificate node ctx actor enrollmentID).forget
  | .suspendCertificate ctx actor id => (s.suspendCertificate ctx actor id).forget
  | .resumeCertificate ctx actor id => (s.resumeCertificate ctx actor id).forget
  | .revokeCertificate ctx actor id reason => (s.revokeCertificate ctx actor id reason).forget
  | .forceRevokeCertificate ctx actor id reason =>
    (s.forceRevokeCertificate ctx actor id reason).forget
  | .scanCertificateExpirations ctx actor req => (s.scanCertificateExpirations ctx actor req).forget
  | .createACMEOrder ctx actor req => (s.createACMEOrder ctx actor req).forget
  | .completeACMEChallenge ctx actor id => (s.completeACMEChallenge ctx actor id).forget
  | .validateACMEHTTP01Challenge ctx actor id =>
    (s.validateACMEHTTP01Challenge ctx actor id).forget
  | .pollACMEAuthorization ctx actor id => (s.pollACMEAuthorization ctx actor id).forget
  | .finalizeACMEOrder ctx actor orderID req =>
    (s.finalizeACMEOrder node ctx actor orderID req).forget

/-- A crashed node forgets its mutex. -/
@[reducible] def Service.system (s : Service) : System World Oracle Event where
  Call := Call
  Node := Node
  Outside := Outside
  start := s.start
  started := Event.started
  reset node world := { world with issueMu := world.issueMu.erase node }
  disturb outside world := outside.disturb world

/-- A new store. -/
structure Initial (world : World) : Prop where
  db : world.db = .empty

section Keeps

variable {s : Service} (ids : s.FreshIDs)

theorem Op.Meets.forget {α : Type} {op : Op α} {call : Nat} {state post ids}
    (meets : op.Meets ids call post state) :
    op.forget.Meets (discipline s ids) call (fun _ _ => True) state :=
  Prog.Meets.bind (Prog.Meets.mono meets fun _ _ _ _ => trivial)

theorem Service.start_meets (node : Node) (call : Call) (number : Nat) (state : State)
    (started : (number, Event.started call) ∈ state.history) :
    (s.start node call).Meets (discipline s ids) number (fun _ _ => True) state := by
  cases call with
  | createIdentity => exact createIdentity_meets.forget
  | createIssuer => exact createIssuer_meets.forget
  | createCertificateProfile => exact createProfile_meets.forget
  | transitionCertificateProfileIssuer =>
    exact (transitionIssuer_meets started).forget
  | createACMEAccount => exact createACMEAccount_meets.forget
  | createOrGetACMEAccount => exact createOrGetACMEAccount_meets.forget
  | updateACMEAccount => exact updateACMEAccount_meets.forget
  | updateACMEAccountKey => exact updateKey_meets.forget
  | publishCRL => exact publishCRL_meets.forget
  | createEnrollment =>
    exact (createEnrollment_meets (fun _ => .of_started started (by simp))
      fun _ later => .created (later.history.subset started)).forget
  | approveEnrollment => exact approveWithReason_meets.forget
  | rejectEnrollment => exact rejectEnrollment_meets.forget
  | renewCertificate => exact (renewCertificate_meets started).forget
  | reissueCertificate => exact (reissueCertificate_meets started).forget
  | issueCertificate => exact issueCertificate_meets.forget
  | suspendCertificate => exact suspendCertificate_meets.forget
  | resumeCertificate => exact resumeCertificate_meets.forget
  | revokeCertificate => exact (revokeWith_meets (by simp)).forget
  | forceRevokeCertificate => exact (revokeWith_meets fun _ => started).forget
  | scanCertificateExpirations => exact scanExpirations_meets.forget
  | createACMEOrder => exact createACMEOrder_meets.forget
  | completeACMEChallenge => exact completeACMEChallenge_meets.forget
  | validateACMEHTTP01Challenge => exact validateHTTP01_meets.forget
  | pollACMEAuthorization => exact pollACMEAuthorization_meets.forget
  | finalizeACMEOrder => exact (finalizeACMEOrder_meets started).forget

theorem Service.system_keeps : s.system.Keeps (discipline s ids) where
  start node call number state _ started := s.start_meets ids node call number state started
  spawn call number state _ fresh := {
    ledger := rfl
    audit := rfl
    outbox := rfl
    annex := rfl
    drawn := rfl
    clock := le_refl _
    history := .inr ⟨number, call, fresh, rfl⟩ }
  reset node state _ := ⟨rfl, rfl, rfl, rfl, rfl, le_refl _, .inl rfl⟩
  disturb outside state world _ moved := by
    cases outside with
    | tick time =>
      simp only [Outside.disturb] at moved
      split at moved
      · next forward =>
        cases moved
        exact ⟨rfl, rfl, rfl, rfl, rfl, forward, .inl rfl⟩
      · cases moved

theorem GivenOut.empty {α : Type} {drawn : Nat} : GivenOut s drawn (∅ : Table α) := by
  intro id value found
  simp at found

/-- An empty ledger is consistent. -/
theorem Consistent.of_empty {world} (empty : Ledger.of world.db = .of .empty) :
    Consistent s ⟨world, []⟩ := by
  have empty : ledger ⟨world, []⟩ = .of .empty := empty
  refine ⟨?_, ?_, ?_, by simp, ?_⟩
  all_goals rw [empty]
  · exact ⟨.empty, .empty, .empty, .empty, .empty, .empty, .empty, .empty, .empty, .empty, .empty,
      .empty, .empty⟩
  · exact ⟨.empty, .empty, .empty, .empty, .empty, .empty, .empty, .empty, .empty, .empty⟩
  · constructor <;> simp [Ledger.of, Db.empty]
  · simp [Ledger.of, Db.empty]

theorem Initial.consistent {world} (initial : Initial world) : Consistent s ⟨world, []⟩ :=
  .of_empty (by rw [initial.db])

end Keeps

section Runs

variable {s : Service}

/-- The configurations that runs from a new store reach. -/
abbrev Service.Reachable (s : Service) (cfg : s.system.Config) : Prop :=
  System.Reaches (fun _ _ => True) Initial cfg

variable {guard : s.system.Config → s.system.Action → Prop} {cfg : s.system.Config}

section

variable (ids : s.FreshIDs) (reached : System.Reaches guard Initial cfg)

include ids reached

theorem reaches_sound : cfg.Sound (discipline s ids) :=
  reached.sound (s.system_keeps ids) fun _ initial => initial.consistent

theorem reaches_consistent : Consistent s cfg.shared :=
  (reaches_sound ids reached).inv

/-- The step of a call that left an event. -/
theorem reaches_seen {action : s.system.Action} {call : Nat} {event}
    (seen : action.event cfg = some (call, event)) :
    ∃ drawn report after, Change s call cfg.shared drawn event report after := by
  obtain ⟨world, -, report, -, change⟩ := (reaches_sound ids reached).seen (s.system_keeps ids) seen
  exact ⟨world.drawn, report, _, change⟩

end

/-- What holds in new stores, and is kept by the steps of calls that meet the condition and by what
happens between them, holds in every run of such steps. -/
theorem guarded_induct (ids : s.FreshIDs) {condition}
    {holds : State → Prop} (begins : ∀ world, Initial world → holds ⟨world, []⟩)
    (step : ∀ {before call event report after}, Consistent s before → holds before →
      condition before call event →
      Told s (session before) ⟨after.db, after.drawn⟩ report →
      Change s call before after.drawn event report (.of after.db) →
      holds (before.after call event after))
    (outer : ∀ {before after}, holds before → Outer before after → holds after)
    (reached : System.Reaches (System.Guarded condition) Initial cfg) : holds cfg.shared := by
  refine System.Reaches.induct (s.system_keeps ids) (fun _ initial => initial.consistent) begins ?_
    reached
  intro cfg action next consistent before allowed moves
  cases moves with
  | call seen change =>
    obtain ⟨-, report, told, change⟩ := change
    exact step consistent before (allowed _ _ seen) told change
  | outer _ between => exact outer before between

/-- The same for every run. -/
theorem reachable_induct (ids : s.FreshIDs) {holds : State → Prop}
    (begins : ∀ world, Initial world → holds ⟨world, []⟩)
    (step : ∀ {before call event report after}, Consistent s before → holds before →
      Told s (session before) ⟨after.db, after.drawn⟩ report →
      Change s call before after.drawn event report (.of after.db) →
      holds (before.after call event after))
    (outer : ∀ {before after}, holds before → Outer before after → holds after)
    (reached : s.Reachable cfg) : holds cfg.shared := by
  refine @guarded_induct s cfg ids (fun _ _ _ => True) holds begins ?_ outer
    (reached.mono fun _ _ _ _ _ _ => trivial)
  intro before call event report after consistent inv _
  exact step consistent inv

/-- A relation between a state and a later one that the steps of calls and what happens between them
keep to holds along every schedule. -/
theorem reachable_along (ids : s.FreshIDs) {rel : State → State → Prop}
    (refl : ∀ state, rel state state) (trans : ∀ {a b c}, rel a b → rel b c → rel a c)
    (step : ∀ {before call event report after}, Consistent s before →
      Told s (session before) ⟨after.db, after.drawn⟩ report →
      Change s call before after.drawn event report (.of after.db) →
      rel before (before.after call event after))
    (outer : ∀ {before after}, Outer before after → rel before after) (reached : s.Reachable cfg)
    {actions final} (performed : cfg.performAll actions = some final) :
    rel cfg.shared final.shared := by
  refine System.Reaches.along (s.system_keeps ids) (fun _ initial =>
    initial.consistent) refl trans ?_ reached performed
  intro cfg action next consistent moves
  cases moves with
  | call _ change =>
    obtain ⟨-, report, told, change⟩ := change
    exact step consistent told change
  | outer _ between => exact outer between

end Runs

end AnoPki.Lifecycle
