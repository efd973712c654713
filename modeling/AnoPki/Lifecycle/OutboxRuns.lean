import AnoPki.Lifecycle.CertificateRuns
import AnoPki.Lifecycle.OutboxOperations

/-! # Runs of the outbox

Any number of dispatchers work on one outbox beside the lifecycle calls that fill it and beside
those who have messages sent again. -/
namespace AnoPki.Lifecycle

open Foundation Domain Store List Option

variable {message : OutboxMessage} {left : OutboxEvent} {claimed : OutboxMessage} {world : World}
  {number : Nat} {id : Text} {history : History} {stored : OutboxMessage}

variable {s : Service}

/-- Every step passes. -/
abbrev anyStep : State → Nat → Option Event → Prop := fun _ _ _ => True

/-- Any consistent store, whatever its outbox holds. -/
structure Stocked (s : Service) (world : World) : Prop where
  consistent : Consistent s ⟨world, []⟩
  keyed : Table.KeyedBy OutboxMessage.id world.db.outbox
  given : GivenOut s world.drawn world.db.outbox
  attemptsGiven : GivenOut s world.drawn world.db.annex.jobAttempts

section Starts

variable {world : World}

theorem Stocked.sound (stocked : Stocked s world) : OutboxSound s .any ⟨world, []⟩ where
  keyed := stocked.keyed
  given := stocked.given
  attemptsGiven := stocked.attemptsGiven
  kin _ inside := by cases inside
  current _ _ last := by cases last
  origin _ _ _ := .inl trivial
  witnessed _ _ inside := by cases inside
  processing _ inside := by cases inside

theorem Initial.outboxSound (initial : Initial world) : OutboxSound s .new ⟨world, []⟩ where
  keyed := by
    change Table.KeyedBy _ world.db.outbox
    rw [initial.db]
    exact .empty
  given := by
    change GivenOut s _ world.db.outbox
    rw [initial.db]
    exact .empty
  attemptsGiven := by
    change GivenOut s _ world.db.annex.jobAttempts
    rw [initial.db]
    exact .empty
  kin _ inside := by cases inside
  current _ _ last := by cases last
  origin id message found := by
    change world.db.outbox.lookup id = some message at found
    rw [initial.db] at found
    cases found
  witnessed _ _ inside := by cases inside
  processing _ inside := by cases inside

theorem Stocked.start (ids : s.FreshIDs) (stocked : Stocked s world) :
    ((outboxRegime s .any ids).discipline ids).inv ⟨world, []⟩ :=
  ⟨stocked.consistent, stocked.sound⟩

theorem Initial.start (ids : s.FreshIDs) (initial : Initial world) :
    ((outboxRegime s .new ids).discipline ids).inv ⟨world, []⟩ :=
  ⟨initial.consistent, initial.outboxSound⟩

end Starts

section Registry

/-- The registry has a handler for messages of a type. -/
def OutboxHandlerRegistry.Registers (registry : OutboxHandlerRegistry)
    (messageType : Text) : Prop :=
  ∃ handler, registry.handlers.lookup messageType = some handler

/-- Both registries have a handler for a message. -/
def Registered (message : OutboxMessage) : Prop :=
  newLifecycleOutboxHandler.Registers message.type ∧
    ∀ webhook, (newLifecycleOutboxHandlerWithWebhook (some webhook)).Registers message.type

theorem lookup_map_const {α : Type} {β : Type 1} [BEq α] [LawfulBEq α] {keys : List α} {key : α}
    (value : β) (inside : key ∈ keys) :
    (keys.map fun key => (key, value)).lookup key = some value := by
  induction keys with
  | nil => cases inside
  | cons first keys ih =>
    by_cases same : key = first
    · subst same
      simp
    · rw [map_cons, lookup_cons, beq_false_of_ne same]
      exact ih ((mem_cons.mp inside).resolve_left same)

theorem registered_of_mem (inside : message.type ∈ lifecycleMessageTypes) : Registered message :=
  ⟨⟨_, lookup_map_const noopOutboxHandler inside⟩, fun webhook =>
    ⟨_, lookup_map_const webhook inside⟩⟩

theorem StatusChange.mem_types {before after action}
    (change : StatusChange before action after) : action ∈ lifecycleMessageTypes := by
  cases change <;> simp [lifecycleMessageTypes]

/-- The step is not one of a transition of a profile's issuer. -/
def NotTransition (before : State) (call : Nat) (_ : Option Event) : Prop :=
  ∀ ctx actor req,
    (call, .started (.transitionCertificateProfileIssuer ctx actor req)) ∉ before.history

variable {before : State} {call drawn : Nat} {event : Option Event} {report : Report}
  {after : Ledger}

theorem Report.Quiet.types_registered (quiet : report.Quiet call before)
    (other : NotTransition before call event) :
    ∀ message ∈ report.messages, message.2.type ∈ lifecycleMessageTypes := by
  intro message inside
  rcases quiet.types message inside with request | ⟨ctx, actor, req, started⟩
  · simp only [requestActions, mem_cons, not_mem_nil, or_false] at request
    rcases request with same | same <;> simp [same, lifecycleMessageTypes]
  · exact absurd started (other ctx actor req)

/-- What a step of the lifecycle posts has a handler. -/
theorem Change.types_registered (consistent : Consistent s before)
    (other : NotTransition before call event)
    (change : Change s call before drawn event report after) :
    ∀ message ∈ report.messages, message.2.type ∈ lifecycleMessageTypes := by
  cases change.certificates consistent with
  | unchanged _ _ quiet | issued _ _ _ _ quiet => exact quiet.types_registered other
  | updated legal =>
    intro message inside
    obtain ⟨update, member, rfl⟩ := mem_map.mp inside
    have lawful := legal update member
    rw [lawful.message.1]
    rcases lawful.change with change | ⟨-, -, warning⟩
    · exact change.mem_types
    · simp [warning, lifecycleMessageTypes]

/-- The messages in the store have handlers. -/
def TypesRegistered (state : State) : Prop :=
  ∀ id message, state.world.db.outbox.lookup id = some message →
    message.type ∈ lifecycleMessageTypes

theorem TypesRegistered.performs (ids : s.FreshIDs) (consistent : Consistent s before)
    (types : TypesRegistered before) (other : NotTransition before call event)
    (performs : Performs s call before event ⟨world.db, world.drawn⟩) :
    TypesRegistered (before.after call event world) := by
  obtain ⟨report, told, change⟩ := performs
  intro id message found
  rcases told.lookup_cases ids found with ⟨entry, member, rfl, -⟩ | old
  · exact change.types_registered consistent other entry member
  · exact types id message old

theorem TypesRegistered.change {stock : Stock} (types : TypesRegistered before)
    (change : OutboxChange s stock call before event world) :
    TypesRegistered (before.after call event world) := by
  intro id message found
  have replaced := change.replaced
  rcases replaced.lookup_cases found with ⟨inside, rfl⟩ | old
  · obtain ⟨stored, held⟩ := replaced.replaces message inside
    rw [← held.kin.type]
    exact types _ stored held.found
  · exact types id message old

theorem reaches_types_registered (ids : s.FreshIDs) {cfg : s.outboxSystem.Config}
    (reached : System.Reaches (System.Guarded NotTransition) Initial cfg) :
    TypesRegistered cfg.shared := by
  refine Regime.guarded_induct _ ids (s.outboxSystem_keeps .new ids)
    (fun _ initial => initial.start ids) ?_ ?_ ?_ ?_ ?_ ?_ reached
  · intro world initial id message found
    change world.db.outbox.lookup id = some message at found
    rw [initial.db] at found
    cases found
  · intro before call event world consistent _ types other performs _
    exact types.performs ids consistent other performs
  · intro before call event world _ _ types _ change
    exact types.change change
  · intro before after types outer id message found
    rw [outer.outbox] at found
    exact types id message found
  · rintro before after types ⟨number, -, rfl⟩
    exact types
  · rintro before world types ⟨endpoints, rfl⟩
    exact types

/-- In every run in which no step is made by `TransitionCertificateProfileIssuer`, every stored
message and every message a dispatcher has claimed has a handler in both registries, and handling it
is what that handler does. -/
theorem messages_registered (s : Service) (ids : s.FreshIDs) {cfg : s.outboxSystem.Config}
    (reached : System.Reaches (System.Guarded NotTransition) Initial cfg) :
    (∀ id message, cfg.shared.world.db.outbox.lookup id = some message → Registered message) ∧
      ∀ call message, (call, .outbox (.claimed message)) ∈ cfg.shared.history →
        Registered message ∧
        newLifecycleOutboxHandler.handleOutboxMessage message = noopOutboxHandler message ∧
        ∀ webhook, (newLifecycleOutboxHandlerWithWebhook (some webhook)).handleOutboxMessage
          message = webhook message := by
  have types := reaches_types_registered ids reached
  have sound := (reached.sound (s.outboxSystem_keeps .new ids) fun _ initial =>
    initial.start ids).inv.2
  constructor
  · intro id message found
    exact registered_of_mem (types id message found)
  · intro call message claimed
    have inside : message ∈ written cfg.shared.history :=
      mem_flatMap.mpr ⟨_, claimed, mem_singleton_self _⟩
    obtain ⟨stored, held⟩ := sound.kin message inside
    have member : message.type ∈ lifecycleMessageTypes :=
      held.kin.type ▸ types _ stored held.found
    refine ⟨registered_of_mem member, ?_, ?_⟩
    · rw [OutboxHandlerRegistry.handleOutboxMessage, newLifecycleOutboxHandler,
        lookup_map_const noopOutboxHandler member]
    · intro webhook
      rw [OutboxHandlerRegistry.handleOutboxMessage, newLifecycleOutboxHandlerWithWebhook,
        lookup_map_const webhook member]

end Registry

section Exclusivity

variable {stock : Stock} {before : State} {call drawn : Nat} {event : Option Event} {world : World}

/-- A claim is made at another reading of the clock than the claims of the message before it. -/
def FreshClaim (before : State) (_ : Nat) (event : Option Event) : Prop :=
  ∀ message, event = some (.outbox (.claimed message)) → ∀ other earlier,
    (other, .outbox (.claimed earlier)) ∈ before.history → earlier.id = message.id →
      earlier.updatedAt.nanos ≠ message.updatedAt.nanos

/-- The dispatcher that claimed a message has finished it. -/
def FinishedBy (history : History) (call : Nat) (claimed : OutboxMessage) : Prop :=
  ∃ outcome finishedAt attempt,
    (call, .outbox (.finished (finishedMessage claimed outcome finishedAt) attempt)) ∈ history

/-- No other dispatcher and nobody else has stored the message since the call claimed it. -/
def HeldSince (history : History) (call : Nat) (claimed : OutboxMessage) : Prop :=
  ∃ front back, history = front ++ (call, .outbox (.claimed claimed)) :: back ∧
    ∀ entry ∈ back, ∀ later ∈ entry.2.writes, later.id ≠ claimed.id

/-- What the leases of messages are worth in runs in which claims are made at different readings of
the clock. -/
structure Leases (state : State) : Prop where
  unique : ∀ call message other message',
    (call, .outbox (.claimed message)) ∈ state.history →
    (other, .outbox (.claimed message')) ∈ state.history → message.id = message'.id →
    message.updatedAt.nanos = message'.updatedAt.nanos → call = other ∧ message = message'
  lease : ∀ call message, (call, .outbox (.claimed message)) ∈ state.history →
    FinishedBy state.history call message ∨
      message.processingDeadlineAt.nanos ≤ state.world.clock.nanos ∨
      state.world.db.outbox.lookup message.id = some message

/-- A step that leaves no event of the outbox. -/
theorem Leases.quiet (leases : Leases before) {after}
    (claims : ∀ number left, (number, .outbox left) ∈ after.history ↔
      (number, .outbox left) ∈ before.history)
    (kept : ∀ id message, before.world.db.outbox.lookup id = some message →
      after.world.db.outbox.lookup id = some message)
    (clock : before.world.clock.nanos ≤ after.world.clock.nanos) : Leases after where
  unique number message other message' there there' :=
    leases.unique number message other message' ((claims _ _).mp there) ((claims _ _).mp there')
  lease number message there := by
    rcases leases.lease number message ((claims _ _).mp there) with
      ⟨outcome, time, attempt, done⟩ | rest
    · exact .inl ⟨outcome, time, attempt, (claims _ _).mpr done⟩
    · rcases rest with expired | held
      · exact .inr (.inl (expired.trans clock))
      · exact .inr (.inr (kept _ _ held))

/-- A claimed message is being processed. -/
theorem OutboxSound.status (sound : OutboxSound s stock before)
    (claimed : (number, .outbox (.claimed message)) ∈ before.history) :
    message.status = .processing :=
  (sound.processing _ claimed message (mem_singleton_self _)).mpr rfl

/-- What becomes of a lease when someone stores the message anew. -/
theorem Leases.overtaken (leases : Leases before) (sound : OutboxSound s stock before)
    (step : OutboxStep s stock call before drawn left)
    (there : (number, .outbox (.claimed claimed)) ∈ before.history)
    (held : before.world.db.outbox.lookup claimed.id = some claimed)
    (inside : message ∈ left.writes) (same : message.id = claimed.id) :
    claimed.processingDeadlineAt.nanos ≤ before.world.clock.nanos ∨
      ∃ outcome finishedAt attempt, number = call ∧
        left = .finished (finishedMessage claimed outcome finishedAt) attempt := by
  have processing := sound.status there
  have sole {id stored} (named : id = claimed.id)
      (found : before.world.db.outbox.lookup id = some stored) : stored = claimed :=
        mem_unique found (named ▸ held)
  cases step with
  | clockRead => cases inside
  | @recovered snapshot stored now front reading known busy expired kept token =>
    cases mem_singleton.mp inside
    cases sole same kept.found
    exact .inl (token.processingDeadlineAt.le.trans expired)
  | @claimed snapshot stored now front reading known pending kept token =>
    cases mem_singleton.mp inside
    cases sole same kept.found
    rw [token.status, pending] at processing
    cases processing
  | @finished mine stored outcome startedAt finishedAt front fresh claim reading known kept token =>
    cases mem_singleton.mp inside
    have named : mine.id = claimed.id := (Kin.finished mine finishedAt outcome).id.symm.trans same
    cases sole named kept.found
    obtain ⟨rfl, rfl⟩ := leases.unique _ _ _ _ there (reading.front_subset claim) named.symm
      token.updatedAt
    exact .inr ⟨outcome, finishedAt, _, rfl, rfl⟩
  | @replayed messages now front reading each =>
    obtain ⟨old, stored, rfl, kept, failed⟩ := each message inside
    cases sole same kept.found
    rw [processing] at failed
    exact absurd failed (by decide)

theorem Leases.change (leases : Leases before) (sound : OutboxSound s stock before)
    (fresh : FreshClaim before call event) (change : OutboxChange s stock call before event world) :
    Leases (before.after call event world) := by
  have clock : world.clock = before.world.clock := change.clock
  have replaced := change.replaced
  cases event with
  | none =>
    refine leases.quiet (fun number left => ?_) ?_ (congrArg Time.nanos clock).ge
    · simp [Shared.after]
    · intro id message found
      exact (replaced.lookup_other fun _ inside => absurd inside not_mem_nil).trans found
  | some left =>
    obtain ⟨left, rfl, step⟩ := change.legal left rfl
    have longer : before.history ⊆ (before.after call (some (.outbox left)) world).history :=
      subset_append_left _ _
    refine ⟨?_, ?_⟩
    · intro number message other message' there there' named sameTime
      rcases Shared.mem_after_iff.mp there with old | ⟨rfl, new⟩ <;>
        rcases Shared.mem_after_iff.mp there' with old' | ⟨rfl, new'⟩
      · exact leases.unique _ _ _ _ old old' named sameTime
      · exact absurd sameTime (fresh message' new' number message old named)
      · exact absurd sameTime.symm (fresh message new other message' old' named.symm)
      · obtain rfl : message = message' := by
          have same := mem_unique new new'
          cases same
          rfl
        exact ⟨rfl, rfl⟩
    · intro number message there
      rcases Shared.mem_after_iff.mp there with old | ⟨rfl, new⟩
      · rcases leases.lease number message old with ⟨outcome, time, attempt, done⟩ | expired | held
        · exact .inl ⟨outcome, time, attempt, longer done⟩
        · exact .inr (.inl (expired.trans (congrArg Time.nanos clock).ge))
        · by_cases overtaken : ∃ later ∈ left.writes, later.id = message.id
          · obtain ⟨later, inside, same⟩ := overtaken
            rcases leases.overtaken sound step old held inside same with
              expired | ⟨outcome, finishedAt, attempt, rfl, rfl⟩
            · exact .inr (.inl (expired.trans (congrArg Time.nanos clock).ge))
            · exact .inl ⟨outcome, finishedAt, attempt, Shared.mem_after_iff.mpr (.inr ⟨rfl, rfl⟩)⟩
          · refine .inr (.inr ((replaced.lookup_other ?_).trans held))
            intro later inside same
            exact overtaken ⟨later, inside, same⟩
      · obtain rfl : left = .claimed message := Event.outbox.inj (some.inj new)
        exact .inr (.inr (replaced.lookup_new (mem_singleton_self _)))

/-- The lifecycle leaves the messages that are there. -/
theorem OutboxSound.performs_kept (ids : s.FreshIDs) (sound : OutboxSound s stock before)
    (performs : Performs s call before event ⟨world.db, world.drawn⟩)
    (found : before.world.db.outbox.lookup id = some message) :
    world.db.outbox.lookup id = some message := by
  obtain ⟨report, told, -⟩ := performs
  have whole : world.db.outbox = Table.insertAll OutboxMessage.id (report.messages.map Prod.snd)
    before.world.db.outbox := told.outbox
  rw [whole]
  exact (told.newRecords ids).lookup_old ids sound.given found

theorem reaches_leases (ids : s.FreshIDs) {cfg : s.outboxSystem.Config}
    (reached : System.Reaches (System.Guarded FreshClaim) (Stocked s) cfg) : Leases cfg.shared := by
  refine Regime.guarded_induct _ ids (s.outboxSystem_keeps .any ids)
    (fun _ stocked => stocked.start ids) ?_ ?_ ?_ ?_ ?_ ?_ reached
  · intro world _
    exact ⟨by simp, by simp⟩
  · intro before call event world _ sound leases _ performs clock
    exact leases.quiet performs.outbox_iff (fun _ _ found => sound.performs_kept ids performs found)
      (congrArg Time.nanos clock).ge
  · intro before call event world _ sound leases fresh change
    exact leases.change sound fresh change
  · intro before after leases outer
    exact leases.quiet outer.outbox_iff (fun _ _ found => by rw [outer.outbox, found]) outer.clock
  · intro before after leases started
    refine leases.quiet started.outbox_iff ?_ ?_
    all_goals obtain ⟨number, -, rfl⟩ := started
    · exact fun _ _ found => found
    · exact le_refl _
  · rintro before world leases ⟨endpoints, rfl⟩
    exact leases.quiet (fun _ _ => Iff.rfl) (fun _ _ found => found) le_rfl

/-- The last version of a message was stored by an event after which no other was. -/
theorem getLast_versions (last : (versions history id).getLast? = some message) :
    ∃ front entry back, history = front ++ entry :: back ∧ message ∈ entry.2.writes ∧
      ∀ later ∈ back, ∀ other ∈ later.2.writes, other.id ≠ id := by
  induction history using reverseRecOn with
  | nil => cases last
  | append_singleton history entry ih =>
    rw [versions_append, getLast?_append] at last
    cases latest : (versions [entry] id).getLast? with
    | some new =>
      rw [latest] at last
      cases last
      obtain ⟨inside, -⟩ := mem_filter.mp (mem_of_getLast? latest)
      refine ⟨history, entry, [], rfl, by simpa [written] using inside, ?_⟩
      intro later there
      cases there
    | none =>
      rw [latest, none_or] at last
      obtain ⟨front, writer, back, rfl, inside, after⟩ := ih last
      refine ⟨front, writer, back ++ [entry], by simp, inside, ?_⟩
      intro later there other stored
      rcases mem_append.mp there with old | new
      · exact after later old other stored
      · cases mem_singleton.mp new
        have empty := filter_eq_nil_iff.mp (getLast?_eq_none_iff.mp latest)
        intro same
        exact empty other (by simpa [written] using stored) (decide_eq_true same)

/-- An accepted finish is one of the message's present claim. -/
theorem Leases.finish_held (leases : Leases before) (sound : OutboxSound s stock before)
    (claim : (call, .outbox (.claimed claimed)) ∈ before.history)
    (held : Stored before claimed stored) (token : SameOutboxMessage stored claimed) :
    stored = claimed ∧ HeldSince before.history call claimed := by
  have inside : claimed ∈ versions before.history claimed.id := by
    refine mem_filter.mpr ⟨?_, decide_eq_true rfl⟩
    exact mem_flatMap.mpr ⟨_, claim, mem_singleton_self _⟩
  obtain ⟨last, latest⟩ : ∃ last, (versions before.history claimed.id).getLast? = some last :=
    ne_none_iff_exists'.mp fun empty => by
      rw [getLast?_eq_none_iff.mp empty] at inside
      cases inside
  obtain rfl := some.inj ((sound.current _ last latest).symm.trans held.found)
  obtain ⟨front, ⟨number, left⟩, back, whole, writes, after⟩ := getLast_versions latest
  have there : (number, left) ∈ before.history := by simp [whole]
  have processing : last.status = .processing := token.status.trans (sound.status claim)
  obtain rfl := (sound.processing _ there last writes).mp processing
  obtain ⟨rfl, rfl⟩ := leases.unique _ _ _ _ there claim held.kin.id token.updatedAt
  exact ⟨rfl, front, back, whole, after⟩

/-- The attempts that an action records. -/
def attemptsOf (cfg : s.outboxSystem.Config) (action : s.outboxSystem.Action) : List JobAttempt :=
  ((action.event cfg).bind Prod.snd).elim [] Event.attempts

/-- A configuration in which the messages are delivered by one dispatcher at a time. -/
structure Exclusive (cfg : s.outboxSystem.Config) : Prop where
  /-- Until the deadline of a claim nobody else claims the message, unless the holder has finished
  it. -/
  lease : ∀ (action : s.outboxSystem.Action) other message,
    action.event cfg = some (other, some (.outbox (.claimed message))) →
    ∀ call claimed, (call, .outbox (.claimed claimed)) ∈ cfg.shared.history →
      claimed.id = message.id → FinishedBy cfg.shared.history call claimed ∨
        claimed.processingDeadlineAt.nanos ≤ cfg.shared.world.clock.nanos
  completed : ∀ action next, cfg.perform action = some next → ∀ id message,
    cfg.shared.world.db.outbox.lookup id = some message → message.status = .completed →
    next.shared.world.db.outbox.lookup id = some message
  /-- Only the holder of the present claim finishes a message. -/
  finish : ∀ (action : s.outboxSystem.Action) call message attempt,
    action.event cfg = some (call, some (.outbox (.finished message attempt))) →
    ∃ claimed outcome finishedAt, message = finishedMessage claimed outcome finishedAt ∧
      attempt.outboxMessageID = claimed.id ∧ HeldSince cfg.shared.history call claimed
  /-- An accepted finish records one attempt, and nothing else records any. -/
  recorded : ∀ action next, cfg.perform action = some next →
    next.shared.world.db.annex.jobAttempts = Table.insertAll JobAttempt.id (attemptsOf cfg action)
      cfg.shared.world.db.annex.jobAttempts ∧
    ∀ attempt ∈ attemptsOf cfg action,
      cfg.shared.world.db.annex.jobAttempts.lookup attempt.id = none

/-- A completed message is not replaced. -/
theorem OutboxStep.not_completed (step : OutboxStep s stock call before drawn left)
    (sound : OutboxSound s stock before) (inside : message ∈ left.writes)
    (found : before.world.db.outbox.lookup message.id = some stored) :
    stored.status ≠ .completed := by
  cases step with
  | clockRead => cases inside
  | recovered _ _ processing _ held token =>
    cases mem_singleton.mp inside
    cases mem_unique held.found found
    rw [token.status, processing]
    decide
  | claimed _ _ pending held token =>
    cases mem_singleton.mp inside
    cases mem_unique held.found found
    rw [token.status, pending]
    decide
  | @finished mine _ outcome _ finishedAt _ _ claim reading _ held token =>
    cases mem_singleton.mp inside
    rw [(Kin.finished mine finishedAt outcome).id] at found
    cases mem_unique held.found found
    rw [token.status, sound.status (reading.front_subset claim)]
    decide
  | replayed _ each =>
    obtain ⟨old, stored, rfl, held, failed⟩ := each message inside
    cases mem_unique held.found found
    rcases failed with same | same
    · rw [same]
      decide
    · rw [same]
      decide

/-- The step of the outbox that an event tells of. -/
theorem OutboxSound.seen (ids : s.FreshIDs) {cfg}
    (sound : cfg.Sound ((outboxRegime s stock ids).discipline ids)) {action : s.outboxSystem.Action}
    (seen : action.event cfg = some (call, some (.outbox left))) :
    ∃ drawn, OutboxStep s stock call cfg.shared drawn left := by
  obtain ⟨world, ⟨-, report, -, change⟩ | change⟩ :=
    sound.seen (s.outboxSystem_keeps stock ids) seen
  · exact absurd rfl (change.leaves.2.1 left)
  · obtain ⟨step, same, legal⟩ := change.legal _ rfl
    cases Event.outbox.inj same
    exact ⟨_, legal⟩

/-- In every run in which a message is claimed at different readings of the clock, from any store,
the messages are delivered by one dispatcher at a time. -/
theorem outbox_exclusive (s : Service) (ids : s.FreshIDs) {cfg : s.outboxSystem.Config}
    (reached : System.Reaches (System.Guarded FreshClaim) (Stocked s) cfg) : Exclusive cfg := by
  have keeps := s.outboxSystem_keeps .any ids
  have sound := reached.sound keeps fun _ stocked => stocked.start ids
  have leases := reaches_leases ids reached
  refine ⟨?_, ?_, ?_, ?_⟩
  · intro action other message seen call claimed there named
    obtain ⟨drawn, step⟩ := OutboxSound.seen ids sound seen
    cases step with
    | @claimed snapshot stored now front reading known pending held token =>
      rcases leases.lease call claimed there with finished | expired | kept
      · exact .inl finished
      · exact .inr expired
      · have found := held.found
        rw [show snapshot.id = claimed.id from named.symm, kept] at found
        cases found
        have processing := sound.inv.2.status there
        rw [token.status, pending] at processing
        cases processing
  · intro action next performed id message found completed
    have moves := (sound.perform keeps performed).1
    generalize next.shared = shared at moves
    cases moves with
    | @call number event world _ change =>
      rcases change with ⟨-, performs⟩ | change
      · exact sound.inv.2.performs_kept ids performs found
      · have replaced := change.replaced
        refine (replaced.lookup_other ?_).trans found
        intro later inside same
        cases event with
        | none => cases inside
        | some left =>
          obtain ⟨step, rfl, legal⟩ := change.legal left rfl
          exact legal.not_completed sound.inv.2 inside (same ▸ found) completed
    | outer _ outer =>
      rcases outer with outer | ⟨number, -, rfl⟩ | ⟨world, ⟨endpoints, rfl⟩, rfl⟩
      · rw [outer.outbox, found]
      · exact found
      · exact found
  · intro action call message attempt seen
    obtain ⟨drawn, step⟩ := OutboxSound.seen ids sound seen
    cases step with
    | finished claim reading known held token =>
      have present := leases.finish_held sound.inv.2 (reading.front_subset claim) held token
      exact ⟨_, _, _, rfl, rfl, present.2⟩
  · intro action next performed
    have moves := (sound.perform keeps performed).1
    generalize next.shared = shared at moves
    cases moves with
    | @call number event world seen change =>
      rw [attemptsOf, seen]
      rcases change with ⟨-, report, told, change⟩ | change
      · have annex : world.db.annex = cfg.shared.world.db.annex := told.annex
        change world.db.annex.jobAttempts = Table.insertAll _ (event.elim [] Event.attempts) _ ∧
          ∀ attempt ∈ event.elim [] Event.attempts, _
        rw [change.writes_nil.2, annex]
        exact ⟨rfl, nofun⟩
      · refine ⟨change.attempts, ?_⟩
        intro attempt inside
        cases event with
        | none => cases inside
        | some left =>
          obtain ⟨step, rfl, legal⟩ := change.legal left rfl
          exact legal.newAttempts.fresh ids sound.inv.2.attemptsGiven inside
    | outer unseen outer =>
      rw [attemptsOf, unseen]
      refine ⟨?_, nofun⟩
      rcases outer with outer | ⟨number, -, rfl⟩ | ⟨world, ⟨endpoints, rfl⟩, rfl⟩
      · rw [outer.annex]
        rfl
      · rfl
      · rfl

end Exclusivity

section Rehearsal

set_option synthInstance.maxSize 1000000

instance : Prog.Rehearsed readClock.run := rehearsedClock _

instance : Apart outboxMessages := ⟨fun _ _ => rfl, fun _ _ _ => rfl, fun _ _ => rfl⟩

instance : Apart jobAttempts := ⟨fun _ _ => rfl, fun _ _ _ => rfl, fun _ _ => rfl⟩

instance (now : Time) (limit : Int64) : Tx.Rehearsed (listDueOutboxMessages now limit) :=
  rehearsedQuery fun _ _ _ => rfl

instance (message current : OutboxMessage) :
    Tx.Rehearsed (updateOutboxMessageIfCurrent message current) := by
  delta updateOutboxMessageIfCurrent
  infer_instance

instance (message current : OutboxMessage) (event : OutboxEvent) :
    Prog.Rehearsed (takeOutboxMessage message current event).run := by
  delta takeOutboxMessage
  exact .seq inferInstance (.result (fun _ => inferInstance) fun _ => inferInstance)

instance (message : OutboxMessage) : Prog.Rehearsed (claim message).run := by
  delta claim claimPending
  infer_instance

instance (claimed : OutboxMessage) (outcome : Except Err Unit) (startedAt finishedAt : Time) :
    Tx.Rehearsed (s.finishTx claimed outcome startedAt finishedAt) := by
  delta Service.finishTx createJobAttempt
  infer_instance

/-- Without webhooks, handlers do nothing. -/
instance (message : OutboxMessage) :
    Prog.Rehearsed ((lifecycleRegistry false).handleOutboxMessage message).run where
  plain := ((lifecycleRegistry false).handleOutboxMessage message).run
  mirrors := by
    rw [OutboxHandlerRegistry.handleOutboxMessage]
    split
    · exact .ret _
    · next handler found =>
      obtain ⟨front, back, whole, -⟩ := lookup_eq_some_iff.mp found
      have inside : (message.type, handler) ∈ (lifecycleRegistry false).handlers := by simp [whole]
      obtain ⟨messageType, -, same⟩ := mem_map.mp inside
      cases (Prod.mk.inj same).2
      exact .ret _

variable (handler : OutboxHandler) [∀ message, Prog.Rehearsed (handler message).run]

instance (claimed : OutboxMessage) : Prog.Rehearsed (s.deliver handler claimed).run := by
  delta Service.deliver
  infer_instance

instance (messages : List OutboxMessage) (processed : Nat) :
    Prog.Rehearsed (s.processMessages handler messages processed).run := by
  induction messages generalizing processed with
  | nil => exact inferInstanceAs (Prog.Rehearsed (pure (processed, none) : Op _).run)
  | cons message messages ih =>
    refine .seq inferInstance (.result (fun _ => inferInstance) (.optional (ih processed) ?_))
    exact fun claimed =>
      .seq inferInstance (.result (fun _ => inferInstance) fun _ => ih (processed + 1))

instance (limit : Int64) : Prog.Rehearsed (s.runOnce handler limit).run := by
  delta Service.runOnce
  exact .seq inferInstance fun _ =>
    .seq inferInstance (.result (fun _ => inferInstance) fun _ => inferInstance)

instance (ctx : Context) (actor id : Text) :
    Prog.Rehearsed (s.retryOutboxMessage ctx actor id).run := by
  delta Service.retryOutboxMessage Service.retryOutboxMessageTx getOutboxMessage
    updateOutboxMessageStatusIfStatus
  infer_instance

instance : s.outboxSystem.Rehearsed := Extension.rehearsed s _ fun _ task =>
  match task with
  | .runOnce false limit => some (Prog.Rehearsed.standIn
      (s.runOnce (lifecycleRegistry false).handleOutboxMessage limit).forget)
  | .retryOutboxMessage ctx actor id =>
    some (Prog.Rehearsed.standIn (s.retryOutboxMessage ctx actor id).forget)
  | _ => none

end Rehearsal

/-- When the message was stored last. -/
def lastFailure : Time := newYear.add 1800000000000

/-- An hour later it is tried again. -/
def nextTry : Time := lastFailure.add 3600000000000

/-- A message that has failed four times. -/
def rolloverMessage : OutboxMessage where
  id := smallID 0
  type := "certificate_profile.issuer_rolled_over"
  payloadJSON := "\x7b\x7d"
  status := .pending
  availableAt := nextTry
  attemptCount := 4
  maxAttempts := 5
  lastError := "outbox handler not found"
  createdAt := newYear
  updatedAt := lastFailure

def rolloverWorld : World where
  db := { Db.empty with outbox := AList.singleton rolloverMessage.id rolloverMessage }
  drawn := 1
  clock := lastFailure
  issueMu := []

/-- The message as it is claimed at the next try. -/
def claimedRollover : OutboxMessage := claimedMessage rolloverMessage nextTry

/-- When the lease of the claim ends. -/
def deadlineEnd : Time := claimedRollover.processingDeadlineAt

/-- No handler is registered for the message. -/
def unhandled : Except Err Unit :=
  .error { kind := .outboxHandlerNotFound, detail := rolloverMessage.type }

theorem rolloverWorld_stocked : Stocked smallService rolloverWorld where
  consistent := .of_empty rfl
  keyed := @Table.KeyedBy.empty _ OutboxMessage.id |>.insert rolloverMessage
  given := .insert .empty ⟨0, Nat.one_pos, rfl⟩
  attemptsGiven := .empty

/-- A claim is lost when another call claims the message. -/
theorem not_heldSince_claimed {call other : Nat} (different : other ≠ call)
    (same : message.id = claimed.id) :
    ¬ HeldSince (history ++ [(other, .outbox (.claimed message))]) call claimed := by
  rintro ⟨front, back, whole, kept⟩
  rcases eq_nil_or_concat back with rfl | ⟨between, last, rfl⟩
  · have ends := (append_inj' whole rfl).2
    exact different (congrArg Prod.fst (cons.inj ends).1)
  · rw [concat_eq_append, ← cons_append, ← append_assoc] at whole
    cases (cons.inj (append_inj' whole rfl).2).1
    exact kept (other, .outbox (.claimed message)) (by simp) message (mem_singleton_self _) same

/-- A call of a dispatcher without webhooks. Its third step reads the clock for the claim, and the
fourth takes the claim; two more come before the outcome is stored. -/
def dispatching (number steps : Nat) : List smallService.outboxSystem.Action :=
  tasked smallService smallService.outboxExtension .calm number 0 (.runOnce false 10) steps

/-- Someone asks for the message and reads the clock; an hour later one dispatcher lists it and
another claims it. -/
def holding : List smallService.outboxSystem.Action :=
  tasked smallService smallService.outboxExtension .calm 0 0
      (.retryOutboxMessage {} "admin" rolloverMessage.id) 1 ++
    [.disturb (.inl (.tick nextTry))] ++ dispatching 1 3 ++ dispatching 2 6

/-- The lease runs out, and a third dispatcher fails for the last time. The message is sent again as
of the old reading of the clock, and the first dispatcher, which still finds it as it was listed,
claims it. -/
def superseding : List smallService.outboxSystem.Action :=
  holding ++ [.disturb (.inl (.tick deadlineEnd))] ++ dispatching 3 8 ++
    System.Action.runs 0 2 .calm ++ System.Action.runs 1 1 .calm

/-- The version a dispatcher claims has the token of an earlier claim when both have read the clock
at the same time and the message has been sent again in between. The holder of the earlier claim
finishes the message under the other's claim. -/
theorem superseded_claim_finishes : ∃ (cfg : smallService.outboxSystem.Config)
    (action : smallService.outboxSystem.Action) (attempt : JobAttempt),
    System.Reaches (System.Guarded anyStep) (Stocked smallService) cfg ∧
      action.event cfg = some (2, some (.outbox
        (.finished (finishedMessage claimedRollover unhandled nextTry) attempt))) ∧
      ¬ HeldSince cfg.shared.history 2 claimedRollover ∧ ¬ Exclusive cfg := by
  obtain ⟨⟨_, _, _⟩, plan, log, reached, mirrors, rfl, shown, claims⟩ := rehearsed_reaches
    rolloverWorld_stocked superseding (fun plan =>
      (System.Action.run 2 .calm : smallService.outboxSystem.Action).event plan =
        some (2, some (.outbox (.finished (finishedMessage claimedRollover unhandled nextTry)
          (jobAttempt (smallID 3) claimedRollover unhandled nextTry nextTry)))) ∧
      plan.shared.history.getLast? = some (1, .outbox (.claimed claimedRollover)))
  have seen := mirrors.event shown
  obtain ⟨history, last⟩ := getLast?_eq_some_iff.mp claims
  have last : (withLog plan.shared log).history =
    history ++ [(1, .outbox (.claimed claimedRollover))] := last
  refine ⟨_, _, _, reached.mono fun _ _ _ _ _ _ => trivial, seen, ?_, ?_⟩
  · rw [last]
    exact not_heldSince_claimed (by decide) rfl
  · intro exclusive
    obtain ⟨claimed, outcome, finishedAt, -, named, held⟩ := exclusive.finish _ _ _ _ seen
    rw [last] at held
    exact not_heldSince_claimed (by decide) named held

def isClaim : Event → Bool
  | .outbox (.claimed _) => true
  | _ => false

/-- A check that passes only the first claim. -/
def freshClaim (before : State) (_ : Nat) (event : Option Event) : Bool :=
  !event.any isClaim || before.history.all fun entry => !isClaim entry.2

theorem freshClaim_strict (state : State) (log : AuditLog) (call : Nat) (event : Option Event)
    (passed : freshClaim state call event = true) : FreshClaim (withLog state log) call event := by
  rintro message rfl other earlier there
  cases all_eq_true.mp passed _ there

/-- While the first dispatcher holds the message, its claim is the only one. -/
theorem rollover_exclusive : ∃ cfg : smallService.outboxSystem.Config,
    System.Reaches (System.Guarded FreshClaim) (Stocked smallService) cfg ∧
      (2, .outbox (.claimed claimedRollover)) ∈ cfg.shared.history ∧ Exclusive cfg := by
  obtain ⟨⟨_, _, _⟩, plan, log, reached, -, -, rfl, claims⟩ :=
    rehearsed_guarded freshClaim freshClaim_strict rolloverWorld_stocked holding (fun plan =>
      (2, .outbox (.claimed claimedRollover)) ∈ plan.shared.history)
  exact ⟨_, reached, claims, outbox_exclusive smallService small_freshIDs reached⟩

/-- The message that tells of the rollover of the profile. -/
def rolledMessage : OutboxMessage :=
  transitionMessage (smallID 11) rollover webIssuer.id newYear

/-- The issuer of the profile is replaced. -/
def rollingOver : List smallService.outboxSystem.Action :=
  (rolling ++ calling 5 1 (.transitionCertificateProfileIssuer {} "admin" rollover) 2).map widened

def claimedRolled : OutboxMessage := claimedMessage rolledMessage newYear

theorem rolled_unregistered : ¬ newLifecycleOutboxHandler.Registers claimedRolled.type := by
  have missing : newLifecycleOutboxHandler.handlers.lookup claimedRolled.type = none := rfl
  rw [OutboxHandlerRegistry.Registers, missing]
  simp

/-- The attempt that a dispatcher records for the message. -/
def rolledAttempt : JobAttempt :=
  jobAttempt (smallID 12) claimedRolled unhandled newYear newYear

/-- The rollover of a profile's issuer is told by a message that no handler is registered for. A
dispatcher claims it and records the failure. -/
theorem rollover_unhandled : ∃ (cfg : smallService.outboxSystem.Config) (call : Nat)
    (message : OutboxMessage) (attempt : JobAttempt),
    System.Reaches (System.Guarded anyStep) Initial cfg ∧
      (call, .outbox (.claimed message)) ∈ cfg.shared.history ∧ ¬ Registered message ∧
      (call, .outbox (.finished (finishedMessage message unhandled newYear) attempt)) ∈
        cfg.shared.history ∧
      attempt.error = "outbox handler not found: certificate_profile.issuer_rolled_over" := by
  obtain ⟨⟨_, _, _⟩, plan, log, reached, -, rfl, claims, fails⟩ :=
    rehearsed_reaches newWorld_initial (rollingOver ++ dispatching 6 7) (fun plan =>
      (6, .outbox (.claimed claimedRolled)) ∈ plan.shared.history ∧
      (6, .outbox (.finished (finishedMessage claimedRolled unhandled newYear) rolledAttempt)) ∈
        plan.shared.history)
  exact ⟨_, 6, claimedRolled, rolledAttempt, reached.mono fun _ _ _ _ _ _ => trivial, claims,
    fun registered => rolled_unregistered registered.1, fails, by decide +kernel⟩

/-- A check that passes no transition. -/
def notTransition (before : State) (_ : Nat) (_ : Option Event) : Bool :=
  before.history.all fun
    | (_, .started (.transitionCertificateProfileIssuer _ _ _)) => false
    | _ => true

theorem notTransition_strict (state : State) (log : AuditLog) (call : Nat) (event : Option Event)
    (passed : notTransition state call event = true) :
    NotTransition (withLog state log) call event := by
  intro ctx actor req there
  cases all_eq_true.mp passed _ there

/-- The claim of a message that tells of a revocation. -/
def claimsRevocation : Nat × Event → Bool
  | (_, .outbox (.claimed message)) => decide (message.type = "certificate.revoked".toList)
  | _ => false

/-- The message of a revocation is claimed, and it has a handler. -/
theorem revocation_registered : ∃ (cfg : smallService.outboxSystem.Config) (call : Nat)
    (message : OutboxMessage), System.Reaches (System.Guarded NotTransition) Initial cfg ∧
      (call, .outbox (.claimed message)) ∈ cfg.shared.history ∧
      message.type = "certificate.revoked".toList ∧ Registered message ∧
      newLifecycleOutboxHandler.handleOutboxMessage message = noopOutboxHandler message := by
  obtain ⟨⟨_, _, _⟩, plan, log, reached, -, -, rfl, shown⟩ := rehearsed_guarded notTransition
    notTransition_strict newWorld_initial (revoking.map widened ++ dispatching 6 7) (fun plan =>
      plan.shared.history.any claimsRevocation)
  obtain ⟨⟨call, event⟩, claimed, revokes⟩ := any_eq_true.mp shown
  unfold claimsRevocation at revokes
  split at revokes
  · next message same =>
    cases same
    have handled := (messages_registered smallService small_freshIDs reached).2 _ message claimed
    exact ⟨_, _, message, reached, claimed, of_decide_eq_true revokes, handled.1, handled.2.1⟩
  · cases revokes

end AnoPki.Lifecycle
