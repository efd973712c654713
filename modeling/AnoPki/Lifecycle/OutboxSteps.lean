import AnoPki.Lifecycle.Outbox
import AnoPki.Lifecycle.Extension

/-! # What the dispatchers do to the outbox

Dispatchers and those who replay messages run beside the lifecycle calls. A message they store was
made of one that was read earlier, and its update time is a reading of the clock that the call made
after it had seen that message. Everything about runs of the outbox is derived from these steps. -/
namespace AnoPki.Lifecycle

open Foundation Domain Store List Table

variable {after : State} {left : OutboxEvent} {id : Text} {message other a b stored : OutboxMessage}
  {report : Report}

abbrev History : Type := List (Nat × Event)

/-- The messages that an event stores. -/
def OutboxEvent.writes : OutboxEvent → List OutboxMessage
  | .clockRead _ => []
  | .recovered message => [message]
  | .claimed message => [message]
  | .finished message _ => [message]
  | .replayed messages => messages

/-- The attempts that an event records. -/
def OutboxEvent.attempts : OutboxEvent → List JobAttempt
  | .finished _ attempt => [attempt]
  | _ => []

def Event.writes : Event → List OutboxMessage
  | .outbox event => event.writes
  | _ => []

def Event.attempts : Event → List JobAttempt
  | .outbox event => event.attempts
  | _ => []

/-- The messages that were stored, in order. -/
def written (history : History) : List OutboxMessage := history.flatMap fun entry => entry.2.writes

/-- The attempts that were recorded, in order. -/
def recordedAttempts (history : History) : List JobAttempt :=
  history.flatMap fun entry => entry.2.attempts

/-- The versions of a message that were stored, in order. -/
def versions (history : History) (id : Text) : List OutboxMessage :=
  (written history).filter fun message => decide (message.id = id)

/-- Two versions of a message: what it was created with stays. -/
structure Kin (earlier later : OutboxMessage) : Prop where
  id : later.id = earlier.id
  type : later.type = earlier.type
  payloadJSON : later.payloadJSON = earlier.payloadJSON
  createdAt : later.createdAt = earlier.createdAt
  maxAttempts : effectiveOutboxMaxAttempts later = effectiveOutboxMaxAttempts earlier

theorem Kin.refl (message : OutboxMessage) : Kin message message := ⟨rfl, rfl, rfl, rfl, rfl⟩

theorem Kin.trans {c} (first : Kin a b) (second : Kin b c) : Kin a c where
  id := second.id.trans first.id
  type := second.type.trans first.type
  payloadJSON := second.payloadJSON.trans first.payloadJSON
  createdAt := second.createdAt.trans first.createdAt
  maxAttempts := second.maxAttempts.trans first.maxAttempts

theorem Kin.symm (kin : Kin a b) : Kin b a where
  id := kin.id.symm
  type := kin.type.symm
  payloadJSON := kin.payloadJSON.symm
  createdAt := kin.createdAt.symm
  maxAttempts := kin.maxAttempts.symm

section Versions

variable (message : OutboxMessage) (now : Time)

theorem Kin.recovered : Kin message (recoveredMessage message now) := ⟨rfl, rfl, rfl, rfl, rfl⟩

theorem Kin.claimed : Kin message (claimedMessage message now) := ⟨rfl, rfl, rfl, rfl, rfl⟩

theorem effectiveAttempts_pos : effectiveOutboxMaxAttempts message > 0 := by
  rw [effectiveOutboxMaxAttempts]
  split
  · assumption
  · decide

/-- A message that was given its effective limit keeps it. -/
theorem effectiveAttempts_of_eq (same : other.maxAttempts = effectiveOutboxMaxAttempts message) :
    effectiveOutboxMaxAttempts other = effectiveOutboxMaxAttempts message := by
  rw [effectiveOutboxMaxAttempts, same, if_pos (effectiveAttempts_pos message)]

theorem Kin.finished (outcome : Except Err Unit) :
    Kin message (finishedMessage message outcome now) := by
  cases outcome with
  | ok => exact ⟨rfl, rfl, rfl, rfl, rfl⟩
  | error err =>
    rw [finishedMessage]
    split <;> exact ⟨rfl, rfl, rfl, rfl, effectiveAttempts_of_eq message rfl⟩

theorem messageForReplay_maxAttempts :
    (outboxMessageForReplay message now).maxAttempts = effectiveOutboxMaxAttempts message := by
  change (if message.maxAttempts ≤ 0 then _ else _) = if message.maxAttempts > 0 then _ else _
  by_cases positive : message.maxAttempts > 0
  · rw [if_pos positive, if_neg (Int64.not_le.mpr positive)]
  · rw [if_neg positive, if_pos (Int64.not_lt.mp positive)]

theorem Kin.replay : Kin message (outboxMessageForReplay message now) :=
  ⟨rfl, rfl, rfl, rfl, effectiveAttempts_of_eq message
    (messageForReplay_maxAttempts message now)⟩

end Versions

/-- Which messages may be in the store before any dispatcher has touched them: those that the
lifecycle posts, and others that may have been there from the beginning. -/
structure Stock where
  original : OutboxMessage → Prop
  posted : ∀ message, Posted message → original message

/-- Any message may be there at first. -/
def Stock.any : Stock := ⟨fun _ => True, fun _ _ => trivial⟩

/-- No message is there at first. -/
def Stock.new : Stock := ⟨Posted, fun _ posted => posted⟩

/-- Some reading of the clock was not before the message was created. -/
def Witnessed (history : History) (message : OutboxMessage) : Prop :=
  ∃ call time, (call, .outbox (.clockRead time)) ∈ history ∧
    message.createdAt.nanos ≤ time.nanos

/-- A call has read the clock, and these at most are the events it has left since. -/
def Readout (history : History) (call : Nat) (now : Time) (front : History) (since : List Event) :
    Prop :=
  ∃ back, history = front ++ (call, .outbox (.clockRead now)) :: back ∧
    ∀ event, (call, event) ∈ back → event ∈ since

/-- The stored message under the ID of a message that was read. -/
structure Stored (state : State) (message stored : OutboxMessage) : Prop where
  found : state.world.db.outbox.lookup message.id = some stored
  kin : Kin message stored

/-- How a message that is stored anew came to be known. -/
structure Known (stock : Stock) (history front : History) (message : OutboxMessage) : Prop where
  origin : stock.original message ∨ message ∈ written history
  witnessed : (∀ message, stock.original message → Posted message) → Witnessed front message

/-- What stands behind an event of the outbox. `drawn` counts the IDs given out after it. -/
inductive OutboxStep (s : Service) (stock : Stock) (call : Nat) (before : State) (drawn : Nat) :
    OutboxEvent → Prop
  | clockRead : OutboxStep s stock call before drawn (.clockRead before.world.clock)
  | recovered {message stored now front} (reading : Readout before.history call now front [])
      (known : Known stock before.history front message) (processing : message.status = .processing)
      (expired : message.processingDeadlineAt.nanos ≤ before.world.clock.nanos)
      (held : Stored before message stored) (same : SameOutboxMessage stored message) :
      OutboxStep s stock call before drawn (.recovered (recoveredMessage message now))
  | claimed {message stored now front}
      (reading : Readout before.history call now front [.outbox (.recovered message)])
      (known : Known stock before.history front message) (pending : message.status = .pending)
      (held : Stored before message stored) (same : SameOutboxMessage stored message) :
      OutboxStep s stock call before drawn (.claimed (claimedMessage message now))
  | finished {claimed stored outcome startedAt finishedAt front number}
      (claim : (call, .outbox (.claimed claimed)) ∈ front)
      (reading : Readout before.history call finishedAt front [])
      (known : Known stock before.history front claimed)
      (held : Stored before claimed stored) (same : SameOutboxMessage stored claimed)
      (fresh : Drawn before.world.drawn drawn number) :
      OutboxStep s stock call before drawn (.finished (finishedMessage claimed outcome finishedAt)
        (jobAttempt (s.idgen number) claimed outcome startedAt finishedAt))
  | replayed {messages now front} (reading : Readout before.history call now front [])
      (each : ∀ message ∈ messages, ∃ old stored, message = outboxMessageForReplay old now ∧
        Stored before old stored ∧ (stored.status = .deadLetter ∨ stored.status = .failed))
      (distinct : (messages.map OutboxMessage.id).Nodup) :
      OutboxStep s stock call before drawn (.replayed messages)

/-- What a step of the work on the outbox does. -/
structure OutboxChange (s : Service) (stock : Stock) (call : Nat) (before : State)
    (event : Option Event) (world : World) : Prop extends Framed before world where
  outbox : world.db.outbox =
    insertAll OutboxMessage.id (event.elim [] Event.writes) before.world.db.outbox
  attempts : world.db.annex.jobAttempts =
    insertAll JobAttempt.id (event.elim [] Event.attempts) before.world.db.annex.jobAttempts
  legal : ∀ left, event = some left → ∃ step, left = .outbox step ∧
    OutboxStep s stock call before world.drawn step

/-- What holds of the outbox all along. -/
structure OutboxSound (s : Service) (stock : Stock) (state : State) : Prop where
  keyed : Table.KeyedBy OutboxMessage.id state.world.db.outbox
  given : GivenOut s state.world.drawn state.world.db.outbox
  attemptsGiven : GivenOut s state.world.drawn state.world.db.annex.jobAttempts
  kin : ∀ message ∈ written state.history, ∃ stored, Stored state message stored
  current : ∀ id message, (versions state.history id).getLast? = some message →
    state.world.db.outbox.lookup id = some message
  origin : ∀ id message, state.world.db.outbox.lookup id = some message →
    stock.original message ∨ message ∈ written state.history
  witnessed : (∀ message, stock.original message → Posted message) →
    ∀ message ∈ written state.history, Witnessed state.history message
  processing : ∀ entry ∈ state.history, ∀ message ∈ entry.2.writes,
    message.status = .processing ↔ entry.2 = .outbox (.claimed message)

section Histories

variable {history more front : History} {message : OutboxMessage} {call : Nat} {now : Time}
  {since : List Event}

theorem written_append : written (history ++ more) = written history ++ written more :=
  flatMap_append

theorem versions_append :
    versions (history ++ more) id = versions history id ++ versions more id := by
  rw [versions, written_append, filter_append]
  rfl

theorem written_mono (grows : history <+: more) (inside : message ∈ written history) :
    message ∈ written more := by
  obtain ⟨rest, rfl⟩ := grows
  rw [written_append]
  exact mem_append_left _ inside

theorem Witnessed.mono (grows : history ⊆ more) (witnessed : Witnessed history message) :
    Witnessed more message := by
  obtain ⟨call, time, inside, after⟩ := witnessed
  exact ⟨call, time, grows inside, after⟩

theorem Witnessed.kin (kin : Kin message other) (witnessed : Witnessed history message) :
    Witnessed history other := by
  obtain ⟨call, time, inside, after⟩ := witnessed
  exact ⟨call, time, inside, kin.createdAt ▸ after⟩

theorem Readout.front_subset (reading : Readout history call now front since) :
    front ⊆ history := by
  obtain ⟨back, rfl, -⟩ := reading
  exact subset_append_left _ _

theorem Readout.weaken {since'} (reading : Readout history call now front since)
    (more : since ⊆ since') : Readout history call now front since' := by
  obtain ⟨back, whole, only⟩ := reading
  exact ⟨back, whole, fun event inside => more (only event inside)⟩

theorem Readout.leaves (reading : Readout history call now front since) (event : Event) :
    Readout (history ++ [(call, event)]) call now front (event :: since) := by
  obtain ⟨back, rfl, only⟩ := reading
  refine ⟨back ++ [(call, event)], by simp, ?_⟩
  intro seen inside
  rcases mem_append.mp inside with old | new
  · exact mem_cons_of_mem _ (only seen old)
  · cases mem_singleton.mp new
    exact mem_cons_self

/-- The others leave no event of the call. -/
theorem Readout.later {state found : State} (reading : Readout state.history call now front since)
    (grows : state.history <+: found.history) (own : found.own call = state.own call) :
    Readout found.history call now front since := by
  obtain ⟨back, whole, only⟩ := reading
  obtain ⟨rest, longer⟩ := grows
  refine ⟨back ++ rest, by rw [← longer, whole]; simp, ?_⟩
  intro event inside
  rcases mem_append.mp inside with old | new
  · exact only event old
  · have nothing : rest.filterMap (fun entry => if entry.1 = call then some entry.2 else
        none) = [] := by
      rw [Shared.own, Shared.own, ← longer, filterMap_append] at own
      exact append_right_eq_self.mp own
    have absent := filterMap_eq_nil_iff.mp nothing (call, event) new
    rw [if_pos rfl] at absent
    cases absent

end Histories

section Keeping

variable {s : Service} {stock : Stock} {call : Nat} {before : State} {event : Option Event}
  {world : World} {drawn : Nat}

theorem written_after : written (before.after call event world).history =
    written before.history ++ event.elim [] Event.writes := by
  cases event with
  | none => simp [Shared.after]
  | some left => simp [Shared.after, written]

theorem versions_after : versions (before.after call event world).history id =
    versions before.history id ++
      (event.elim [] Event.writes).filter fun message => decide (message.id = id) := by
  rw [versions, written_after, filter_append]
  rfl

theorem Stored.of_kin (held : Stored before message stored) (kin : Kin message other) :
    Stored before other stored :=
  ⟨kin.id ▸ held.found, kin.symm.trans held.kin⟩

/-- Every message that is stored replaces a version of it. -/
theorem OutboxStep.replaces (step : OutboxStep s stock call before drawn left) :
    ∀ message ∈ left.writes, ∃ stored, Stored before message stored := by
  intro message inside
  cases step with
  | clockRead => cases inside
  | recovered _ _ _ _ held =>
    cases mem_singleton.mp inside
    exact ⟨_, held.of_kin (.recovered _ _)⟩
  | claimed _ _ _ held =>
    cases mem_singleton.mp inside
    exact ⟨_, held.of_kin (.claimed _ _)⟩
  | finished _ _ _ held =>
    cases mem_singleton.mp inside
    exact ⟨_, held.of_kin (.finished _ _ _)⟩
  | replayed _ each =>
    obtain ⟨old, stored, rfl, held, -⟩ := each message inside
    exact ⟨stored, held.of_kin (.replay _ _)⟩

theorem OutboxStep.distinct (step : OutboxStep s stock call before drawn left) :
    (left.writes.map OutboxMessage.id).Nodup := by
  cases step with
  | clockRead => exact nodup_nil
  | replayed _ _ distinct => exact distinct
  | _ => exact nodup_singleton _

theorem finishedMessage_status (claimed : OutboxMessage) (outcome : Except Err Unit)
    (finishedAt : Time) : (finishedMessage claimed outcome finishedAt).status ≠ .processing := by
  cases outcome with
  | ok => exact (by decide : OutboxMessageStatus.completed ≠ .processing)
  | error err =>
    rw [finishedMessage]
    split
    · exact (by decide : OutboxMessageStatus.deadLetter ≠ .processing)
    · exact (by decide : OutboxMessageStatus.pending ≠ .processing)

section

variable (step : OutboxStep s stock call before drawn left)

include step

/-- Only claims store messages as being processed. -/
theorem OutboxStep.processing_iff :
    ∀ message ∈ left.writes, message.status = .processing ↔ left = .claimed message := by
  intro message inside
  cases step with
  | clockRead => cases inside
  | recovered =>
    cases mem_singleton.mp inside
    exact ⟨nofun, nofun⟩
  | claimed =>
    cases mem_singleton.mp inside
    exact ⟨fun _ => rfl, fun _ => rfl⟩
  | finished =>
    cases mem_singleton.mp inside
    exact ⟨fun same => absurd same (finishedMessage_status _ _ _), nofun⟩
  | replayed _ each =>
    obtain ⟨old, stored, rfl, -⟩ := each message inside
    exact ⟨nofun, nofun⟩

/-- The attempts are recorded under IDs drawn for them. -/
theorem OutboxStep.newAttempts :
    NewRecords s before.world.drawn drawn JobAttempt.id left.attempts := by
  cases step with
  | finished _ _ _ _ _ fresh =>
    refine ⟨?_, nodup_singleton _⟩
    intro record inside
    cases mem_singleton.mp inside
    exact ⟨_, fresh, rfl⟩
  | _ => exact ⟨nofun, nodup_nil⟩

/-- In a store that was new, a stored message was created before some reading of the clock. -/
theorem OutboxStep.witnessed (sound : OutboxSound s stock before)
    (new : ∀ message, stock.original message → Posted message) :
    ∀ message ∈ left.writes, Witnessed before.history message := by
  intro message inside
  cases step with
  | clockRead => cases inside
  | recovered reading known =>
    cases mem_singleton.mp inside
    exact ((known.witnessed new).mono reading.front_subset).kin (.recovered _ _)
  | claimed reading known =>
    cases mem_singleton.mp inside
    exact ((known.witnessed new).mono reading.front_subset).kin (.claimed _ _)
  | finished _ reading known =>
    cases mem_singleton.mp inside
    exact ((known.witnessed new).mono reading.front_subset).kin (.finished _ _ _)
  | replayed _ each =>
    obtain ⟨old, stored, rfl, held, failed⟩ := each message inside
    rcases sound.origin _ stored held.found with original | inside
    · have pending := (new stored original).status
      rw [pending] at failed
      exact absurd failed (by decide)
    · exact (sound.witnessed new stored inside).kin (held.kin.symm.trans (.replay _ _))

end

/-- The tables after messages were stored in the place of others. -/
structure Replaced (before : State) (messages : List OutboxMessage) (after : Table OutboxMessage) :
    Prop where
  outbox : after = insertAll OutboxMessage.id messages before.world.db.outbox
  distinct : (messages.map OutboxMessage.id).Nodup
  replaces : ∀ message ∈ messages, ∃ stored, Stored before message stored

theorem OutboxChange.replaced (change : OutboxChange s stock call before event world) :
    Replaced before (event.elim [] Event.writes) world.db.outbox := by
  cases event with
  | none => exact ⟨change.outbox, nodup_nil, nofun⟩
  | some left =>
    obtain ⟨step, rfl, legal⟩ := change.legal left rfl
    exact ⟨change.outbox, legal.distinct, legal.replaces⟩

section Replaced

variable {messages : List OutboxMessage} {after : Table OutboxMessage}
  (replaced : Replaced before messages after)

include replaced

theorem Replaced.lookup_cases (found : after.lookup id = some message) :
    (message ∈ messages ∧ message.id = id) ∨ before.world.db.outbox.lookup id = some message := by
  rw [replaced.outbox] at found
  rcases lookup_insertAll_cases replaced.distinct found with new | ⟨-, old⟩
  · exact .inl new
  · exact .inr old

theorem Replaced.lookup_new (inside : message ∈ messages) :
    after.lookup message.id = some message := by
  rw [replaced.outbox]
  exact lookup_insertAll_of_mem replaced.distinct inside

theorem Replaced.lookup_other (other : ∀ message ∈ messages, message.id ≠ id) :
    after.lookup id = before.world.db.outbox.lookup id := by
  rw [replaced.outbox]
  exact lookup_insertAll_of_notMem other

theorem Replaced.grows : Table.Grows Kin before.world.db.outbox after := by
  intro id message found
  by_cases there : ∃ new ∈ messages, new.id = id
  · obtain ⟨new, inside, rfl⟩ := there
    obtain ⟨stored, held⟩ := replaced.replaces new inside
    cases Option.mem_unique held.found found
    exact ⟨new, replaced.lookup_new inside, held.kin.symm⟩
  · have other : ∀ new ∈ messages, new.id ≠ id := by simpa using there
    exact ⟨message, (replaced.lookup_other other).trans found, .refl _⟩

end Replaced

/-- What was read is still there in some version. -/
theorem Stored.later (held : Stored before message stored)
    (grows : Table.Grows Kin before.world.db.outbox after.world.db.outbox) :
    ∃ stored, Stored after message stored := by
  obtain ⟨now, found, kin⟩ := grows _ _ held.found
  exact ⟨now, found, held.kin.trans kin⟩

/-- The steps of the work on the outbox keep it sound. -/
theorem OutboxSound.change (sound : OutboxSound s stock before)
    (change : OutboxChange s stock call before event world) :
    OutboxSound s stock (before.after call event world) ∧
      Table.Grows Kin before.world.db.outbox world.db.outbox := by
  have replaced := change.replaced
  have grows := replaced.grows
  refine ⟨?_, grows⟩
  have forward : before.world.drawn ≤ world.drawn := change.forward
  refine ⟨?_, ?_, ?_, ?_, ?_, ?_, ?_, ?_⟩
  · change Table.KeyedBy _ world.db.outbox
    rw [change.outbox]
    exact sound.keyed.insertAll
  · intro id message found
    rcases replaced.lookup_cases found with ⟨inside, rfl⟩ | old
    · obtain ⟨stored, held⟩ := replaced.replaces message inside
      exact sound.given.mono forward _ _ held.found
    · exact sound.given.mono forward _ _ old
  · change GivenOut s world.drawn world.db.annex.jobAttempts
    rw [change.attempts]
    cases event with
    | none => exact sound.attemptsGiven.mono forward
    | some left =>
      obtain ⟨step, rfl, legal⟩ := change.legal left rfl
      exact legal.newAttempts.givenOut sound.attemptsGiven forward
  · intro message inside
    rw [written_after, mem_append] at inside
    have held : ∃ stored, Stored before message stored := by
      rcases inside with old | new
      · exact sound.kin message old
      · exact replaced.replaces message new
    obtain ⟨stored, held⟩ := held
    exact held.later grows
  · intro id message last
    rw [versions_after] at last
    rw [getLast?_append] at last
    cases latest : ((event.elim [] Event.writes).filter fun message =>
        decide (message.id = id)).getLast? with
    | some new =>
      rw [latest] at last
      cases last
      obtain ⟨inside, named⟩ := mem_filter.mp (mem_of_getLast? latest)
      cases of_decide_eq_true named
      exact replaced.lookup_new inside
    | none =>
      rw [latest, Option.none_or] at last
      have other := filter_eq_nil_iff.mp (getLast?_eq_none_iff.mp latest)
      refine (replaced.lookup_other ?_).trans (sound.current id message last)
      intro new inside named
      exact other new inside (decide_eq_true named)
  · intro id message found
    rw [written_after, mem_append]
    rcases replaced.lookup_cases found with ⟨inside, -⟩ | old
    · exact .inr (.inr inside)
    · rcases sound.origin id message old with original | inside
      · exact .inl original
      · exact .inr (.inl inside)
  · intro new message inside
    have longer : before.history ⊆ (before.after call event world).history :=
      subset_append_left _ _
    rw [written_after, mem_append] at inside
    rcases inside with old | inside
    · exact (sound.witnessed new message old).mono longer
    · cases event with
      | none => cases inside
      | some left =>
        obtain ⟨step, rfl, legal⟩ := change.legal left rfl
        exact (legal.witnessed sound new message inside).mono longer
  · rintro ⟨number, seen⟩ inside message written
    rcases Shared.mem_after_iff.mp inside with old | ⟨-, left⟩
    · exact sound.processing _ old message written
    · obtain ⟨step, same, legal⟩ := change.legal seen left
      obtain rfl : seen = .outbox step := same
      rw [legal.processing_iff message written]
      exact ⟨fun same => by rw [same], fun same => Event.outbox.inj same⟩

/-- Nothing happens to the outbox. -/
theorem OutboxSound.frame (sound : OutboxSound s stock before)
    (outbox : after.world.db.outbox = before.world.db.outbox)
    (attempts : after.world.db.annex.jobAttempts = before.world.db.annex.jobAttempts)
    (forward : before.world.drawn ≤ after.world.drawn)
    (same : written after.history = written before.history)
    (events : ∀ number left, (number, Event.outbox left) ∈ after.history ↔
      (number, Event.outbox left) ∈ before.history) (grows : before.history ⊆ after.history) :
    OutboxSound s stock after where
  keyed := outbox ▸ sound.keyed
  given := outbox ▸ sound.given.mono forward
  attemptsGiven := attempts ▸ sound.attemptsGiven.mono forward
  kin message inside := by
    obtain ⟨stored, held⟩ := sound.kin message (same ▸ inside)
    exact ⟨stored, outbox ▸ held.found, held.kin⟩
  current id message last := by
    rw [versions, same] at last
    rw [outbox]
    exact sound.current id message last
  origin id message found := by
    rw [outbox] at found
    rw [same]
    exact sound.origin id message found
  witnessed new message inside := (sound.witnessed new message (same ▸ inside)).mono grows
  processing := by
    rintro ⟨number, event⟩ inside message written
    cases event with
    | outbox left => exact sound.processing _ ((events number left).mp inside) message written
    | _ => cases written

/-- The lifecycle writes no message in place of another and records no attempt. -/
theorem Change.writes_nil {after} (change : Change s call before drawn event report after) :
    event.elim [] Event.writes = [] ∧ event.elim [] Event.attempts = [] := by
  cases event with
  | none => exact ⟨rfl, rfl⟩
  | some left =>
    cases left with
    | outbox left => exact absurd rfl (change.leaves.2.1 left)
    | _ => exact ⟨rfl, rfl⟩

/-- The events of the outbox that the lifecycle leaves: none. -/
theorem Performs.outbox_iff (performs : Performs s call before event ⟨world.db, world.drawn⟩)
    (number : Nat) (left : OutboxEvent) :
    (number, .outbox left) ∈ (before.after call event world).history ↔
      (number, .outbox left) ∈ before.history := by
  obtain ⟨report, -, change⟩ := performs
  rw [Shared.mem_after_iff]
  exact ⟨fun there => there.resolve_right fun new => change.leaves.2.1 left new.2, .inl⟩

theorem Outer.outbox_iff (outer : Outer before after) (number : Nat) (left : OutboxEvent) :
    (number, .outbox left) ∈ after.history ↔ (number, .outbox left) ∈ before.history :=
  outer.mem_history_iff fun _ => nofun

theorem TaskStarted.outbox_iff (started : TaskStarted before after) (number : Nat)
    (left : OutboxEvent) : (number, .outbox left) ∈ after.history ↔
    (number, .outbox left) ∈ before.history := by
  obtain ⟨fresh, -, rfl⟩ := started
  simp

/-- The lifecycle posts new messages and leaves the others alone. -/
theorem OutboxSound.performs (ids : s.FreshIDs) (sound : OutboxSound s stock before)
    (performs : Performs s call before event ⟨world.db, world.drawn⟩) :
    OutboxSound s stock (before.after call event world) ∧
      Table.Grows Kin before.world.db.outbox world.db.outbox := by
  have outbox_iff := performs.outbox_iff
  obtain ⟨report, told, change⟩ := performs
  have whole : world.db.outbox = insertAll OutboxMessage.id (report.messages.map Prod.snd)
    before.world.db.outbox := told.outbox
  have annex : world.db.annex = before.world.db.annex := told.annex
  have new := told.newRecords ids
  have kept : ∀ id message, before.world.db.outbox.lookup id = some message →
      world.db.outbox.lookup id = some message := by
    intro id message found
    rw [whole]
    exact new.lookup_old ids sound.given found
  have same : written (before.after call event world).history = written before.history := by
    rw [written_after, change.writes_nil.1, append_nil]
  have grows : Table.Grows Kin before.world.db.outbox world.db.outbox :=
    fun id message found => ⟨message, kept id message found, .refl _⟩
  refine ⟨⟨?_, ?_, ?_, ?_, ?_, ?_, ?_, ?_⟩, grows⟩
  · change Table.KeyedBy _ world.db.outbox
    rw [whole]
    exact sound.keyed.insertAll
  · change GivenOut s world.drawn world.db.outbox
    rw [whole]
    exact new.givenOut sound.given told.forward
  · change GivenOut s world.drawn world.db.annex.jobAttempts
    rw [annex]
    exact sound.attemptsGiven.mono told.forward
  · intro message inside
    obtain ⟨stored, held⟩ := sound.kin message (same ▸ inside)
    exact held.later grows
  · intro id message last
    rw [versions, same] at last
    exact kept id message (sound.current id message last)
  · intro id message found
    change world.db.outbox.lookup id = some message at found
    rw [whole] at found
    rw [same]
    rcases new.lookup_cases found with ⟨inside, -⟩ | old
    · obtain ⟨entry, member, rfl⟩ := mem_map.mp inside
      exact .inl (stock.posted _ (told.posted entry member))
    · exact sound.origin id message old
  · intro original message inside
    exact (sound.witnessed original message (same ▸ inside)).mono (subset_append_left _ _)
  · rintro ⟨number, seen⟩ inside message written
    cases seen with
    | outbox left => exact sound.processing _ ((outbox_iff number left).mp inside) message written
    | _ => cases written

/-- Someone else changes the endpoints of the webhooks. -/
def EndpointsChanged (before : State) (world : World) : Prop :=
  ∃ endpoints, world = { before.world with
    db := { before.world.db with
      annex := { before.world.db.annex with notifications := endpoints } } }

/-- A call that is started has stored no message yet. -/
theorem Outer.written_eq (outer : Outer before after) :
    written after.history = written before.history := by
  rcases outer.history with same | ⟨number, call, -, longer⟩
  · rw [same]
  · rw [longer, written_append]
    exact append_nil _

theorem TaskStarted.written_eq (started : TaskStarted before after) :
    written after.history = written before.history := by
  obtain ⟨number, -, rfl⟩ := started
  exact written_append.trans (append_nil _)

variable (s stock) in
/-- The work on the outbox. -/
def outboxRegime (ids : s.FreshIDs) : Regime s where
  inv := OutboxSound s stock
  step := OutboxChange s stock
  aside := EndpointsChanged
  later before after := Table.Grows Kin before.world.db.outbox after.world.db.outbox
  later_refl state := .refl Kin.refl _
  later_trans one two := one.trans Kin.trans two
  idle more _ := ⟨⟨rfl, rfl, more⟩, rfl, rfl, by rintro _ ⟨⟩⟩
  step_framed change := change.toFramed
  step_event change started same := by
    obtain ⟨step, other, -⟩ := change.legal _ same
    cases other
  aside_framed := by
    rintro before world ⟨endpoints, rfl⟩
    exact ⟨rfl, rfl, le_refl _⟩
  lifecycle_keeps _ sound _ performs := sound.performs ids performs
  step_keeps _ sound change := sound.change change
  outer_keeps := by
    intro before after sound outer
    refine ⟨sound.frame outer.outbox (by rw [outer.annex]) outer.drawn.ge outer.written_eq
      outer.outbox_iff outer.history_grows.subset, ?_⟩
    rw [outer.outbox]
    exact .refl Kin.refl _
  started_keeps := by
    intro before after sound started
    have same := started.written_eq
    have events := started.outbox_iff
    have grows := started.grows.2.subset
    obtain ⟨number, -, rfl⟩ := started
    exact ⟨sound.frame rfl rfl le_rfl same events grows, .refl Kin.refl _⟩
  aside_keeps := by
    rintro before world - sound ⟨endpoints, rfl⟩
    exact ⟨sound.frame rfl rfl le_rfl rfl (fun _ _ => Iff.rfl) (List.Subset.refl _),
      .refl Kin.refl _⟩

end Keeping

end AnoPki.Lifecycle
