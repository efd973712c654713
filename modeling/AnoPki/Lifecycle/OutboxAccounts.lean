import AnoPki.Lifecycle.OutboxRuns

/-! # The attempts of a message

The count of attempts is written back with a copy of the message that may be old. When the readings
of the clock increase, a message that is stored differs from all its versions before, so a write
that is accepted replaces what it was made of, and no failure is lost or counted twice. -/
namespace AnoPki.Lifecycle

open Foundation Domain Store List

variable {message : OutboxMessage} {left : OutboxEvent} {number : Nat} {claimed : OutboxMessage}
  {history : History} {entry : Nat × Event} {attempt : JobAttempt} {stock : Stock}
  {history' : History} {err : Err} {finishedAt : Time} {id : Text}

variable {s : Service} {before : State} {call drawn : Nat} {event : Option Event} {world : World}

/-- The clock has moved on since it was read last. -/
def LaterReading (before : State) (_ : Nat) (event : Option Event) : Prop :=
  ∀ time, event = some (.outbox (.clockRead time)) → ∀ other earlier,
    (other, .outbox (.clockRead earlier)) ∈ before.history → earlier.nanos < time.nanos

/-- Readings of the clock, one after the other. -/
def ReadAfter (first second : Nat × Event) : Prop :=
  ∀ earlier later, first.2 = .outbox (.clockRead earlier) → second.2 = .outbox (.clockRead later) →
    earlier.nanos < later.nanos

/-- The attempts recorded for a message since it was created or last replayed, after one more
event. -/
def Event.account (id : Text) (attempts : List JobAttempt) : Event → List JobAttempt
  | .outbox (.replayed messages) =>
    if messages.any fun message => decide (message.id = id) then [] else attempts
  | event => attempts ++ event.attempts.filter fun attempt => decide (attempt.outboxMessageID = id)

/-- The attempts recorded for a message since it was created or last replayed. -/
def attemptsSince (history : History) (id : Text) : List JobAttempt :=
  history.foldl (fun attempts entry => entry.2.account id attempts) []

/-- How many of them failed. -/
def failuresSince (history : History) (id : Text) : Nat :=
  (attemptsSince history id).countP fun attempt => decide (attempt.status = .failed)

/-- Versions of messages are told apart by their status and the time of their update. -/
structure Tokens (state : State) : Prop where
  readings : state.history.Pairwise ReadAfter
  stamped : ∀ front entry back, state.history = front ++ entry :: back →
    ∀ message ∈ entry.2.writes, (entry.1, .outbox (.clockRead message.updatedAt)) ∈ front
  apart : ∀ message ∈ written state.history, ∀ other ∈ written state.history,
    message.id = other.id → message.status = other.status →
    message.updatedAt.nanos = other.updatedAt.nanos → message.attemptCount = other.attemptCount
  first : ∀ message ∈ written state.history, message.status = .pending →
    message.updatedAt.nanos = message.createdAt.nanos → message.attemptCount = 0
  limits : ∀ message ∈ written state.history, message.maxAttempts = defaultOutboxMaxAttempts
  attempts : ∀ attempt ∈ recordedAttempts state.history, ∃ version ∈ written state.history,
    version.id = attempt.outboxMessageID

/-- What is known of the attempts of a message that is stored. -/
structure Counted (history : History) (message : OutboxMessage) : Prop where
  limit : message.maxAttempts = defaultOutboxMaxAttempts
  count : message.attemptCount = Int64.ofNat (failuresSince history message.id)
  within : failuresSince history message.id ≤ 5
  dead : message.status = .deadLetter ↔ failuresSince history message.id = 5
  known : message.status ≠ .failed

section Readings

variable {history front back : History} {now : Time} {since : List Event}

/-- Two readings of the same time are one. -/
theorem readings_unique {front' back'} {number' : Nat} {time time'}
    (readings : history.Pairwise ReadAfter)
    (one : history = front ++ (number, .outbox (.clockRead time)) :: back)
    (other : history = front' ++ (number', .outbox (.clockRead time')) :: back')
    (same : time.nanos = time'.nanos) : front = front' ∧ number = number' ∧ back = back' := by
  rw [one] at other readings
  rcases append_eq_append_iff.mp other with ⟨more, rfl, rest⟩ | ⟨more, rfl, rest⟩
  · cases more with
    | nil =>
      obtain ⟨head, rfl⟩ := cons.inj rest
      exact ⟨(append_nil _).symm, (Prod.mk.inj head).1, rfl⟩
    | cons entry more =>
      obtain ⟨rfl, rfl⟩ := cons.inj rest
      have later := (pairwise_cons.mp (pairwise_append.mp readings).2.1).1 _
        mem_append_cons_self time time' rfl rfl
      omega
  · cases more with
    | nil =>
      obtain ⟨head, rfl⟩ := cons.inj rest
      exact ⟨append_nil _, (Prod.mk.inj head).1.symm, rfl⟩
    | cons entry more =>
      obtain ⟨rfl, rfl⟩ := cons.inj rest
      have later := (pairwise_append.mp readings).2.2 _
        mem_append_cons_self _ mem_cons_self time' time rfl rfl
      omega

section

variable (tokens : Tokens before) (reading : Readout before.history call now front since)

include tokens reading

/-- A reading that the call has not used yet is the update time of no version. -/
theorem Tokens.unused {left} (inside : (number, left) ∈ before.history)
    (writes : message ∈ left.writes) (same : message.updatedAt.nanos = now.nanos) :
    left ∈ since := by
  obtain ⟨back, whole, only⟩ := reading
  obtain ⟨earlier, later, split⟩ := append_of_mem inside
  obtain ⟨first, second, stamp⟩ :=
    append_of_mem (tokens.stamped earlier _ later split message writes)
  have long : before.history = first ++ (number, .outbox (.clockRead message.updatedAt)) ::
      (second ++ (number, left) :: later) := by
    rw [split, stamp]
    simp
  obtain ⟨-, rfl, rfl⟩ := readings_unique tokens.readings long whole same
  exact only left (by simp)

/-- The clock was read after the message was created. -/
theorem Tokens.created_before (witnessed : Witnessed front message) :
    message.createdAt.nanos < now.nanos := by
  obtain ⟨back, whole, -⟩ := reading
  obtain ⟨number, time, inside, after⟩ := witnessed
  have readings := tokens.readings
  rw [whole] at readings
  have later := (pairwise_append.mp readings).2.2 _ inside _ mem_cons_self time now rfl rfl
  omega

end

end Readings

/-- The update time of a message that is stored is an unused reading of the clock, and it is later
than the time of its creation unless its attempts start anew. -/
theorem OutboxStep.stamp (step : OutboxStep s .new call before drawn left) :
    ∀ message ∈ left.writes, ∃ front since,
      Readout before.history call message.updatedAt front since ∧
      (∀ other ∈ since, ∀ version ∈ other.writes, version.status ≠ message.status) ∧
      (message.status = .pending → message.attemptCount = 0 ∨ Witnessed front message) := by
  intro message inside
  cases step with
  | clockRead => cases inside
  | recovered reading known =>
    cases mem_singleton.mp inside
    refine ⟨_, [], reading, fun _ there => absurd there not_mem_nil, fun _ => .inr ?_⟩
    exact (known.witnessed fun _ posted => posted).kin (.recovered _ _)
  | @claimed snapshot stored now front reading known pending =>
    cases mem_singleton.mp inside
    refine ⟨front, _, reading, ?_, fun same => by cases same⟩
    intro other there version writes
    cases mem_singleton.mp there
    cases mem_singleton.mp writes
    rw [pending]
    exact (by decide : OutboxMessageStatus.pending ≠ .processing)
  | @finished mine _ outcome _ finishedAt _ _ claim reading known =>
    cases mem_singleton.mp inside
    have stamped : (finishedMessage mine outcome finishedAt).updatedAt = finishedAt := by
      cases outcome with
      | ok => rfl
      | error err =>
        rw [finishedMessage]
        split <;> rfl
    refine ⟨_, [], stamped ▸ reading, fun _ there => absurd there not_mem_nil, fun _ => .inr ?_⟩
    exact (known.witnessed fun _ posted => posted).kin (.finished _ _ _)
  | replayed reading each =>
    obtain ⟨old, stored, rfl, -⟩ := each message inside
    exact ⟨_, [], reading, fun _ there => absurd there not_mem_nil, fun _ => .inl rfl⟩

theorem effective_default (limit : message.maxAttempts = defaultOutboxMaxAttempts) :
    effectiveOutboxMaxAttempts message = defaultOutboxMaxAttempts := by
  rw [effectiveOutboxMaxAttempts, limit]
  rfl

theorem finishedMessage_limit (outcome : Except Err Unit) (finishedAt : Time)
    (limit : claimed.maxAttempts = defaultOutboxMaxAttempts) :
    (finishedMessage claimed outcome finishedAt).maxAttempts = defaultOutboxMaxAttempts := by
  cases outcome with
  | ok => exact limit
  | error err =>
    rw [finishedMessage]
    split
    · exact effective_default limit
    · exact effective_default limit

/-- The limit of every message that was ever in the store is the default one. -/
theorem Tokens.limit (tokens : Tokens before)
    (origin : Stock.new.original message ∨ message ∈ written before.history) :
    message.maxAttempts = defaultOutboxMaxAttempts := by
  rcases origin with posted | inside
  · exact Posted.maxAttempts posted
  · exact tokens.limits message inside

theorem Tokens.step_limit (tokens : Tokens before) (sound : OutboxSound s .new before)
    (step : OutboxStep s .new call before drawn left) :
    ∀ message ∈ left.writes, message.maxAttempts = defaultOutboxMaxAttempts := by
  intro message inside
  cases step with
  | clockRead => cases inside
  | recovered _ known | claimed _ known =>
    cases mem_singleton.mp inside
    have limit := tokens.limit known.origin
    exact limit
  | finished _ _ known =>
    cases mem_singleton.mp inside
    exact finishedMessage_limit _ _ (tokens.limit known.origin)
  | replayed _ each =>
    obtain ⟨old, stored, rfl, held, -⟩ := each message inside
    rw [messageForReplay_maxAttempts, ← held.kin.maxAttempts]
    exact effective_default (tokens.limit (sound.origin _ stored held.found))

/-- The attempt of an event is one of the message it stores. -/
theorem OutboxStep.attempts_id (step : OutboxStep s stock call before drawn left) :
    ∀ attempt ∈ left.attempts, ∃ version ∈ left.writes, version.id = attempt.outboxMessageID := by
  intro attempt inside
  cases step with
  | finished =>
    cases mem_singleton.mp inside
    exact ⟨_, mem_singleton_self _, (Kin.finished _ _ _).id⟩
  | _ => cases inside

/-- A new entry at the end of the history. -/
theorem split_concat {front back new} (whole : history ++ [new] = front ++ entry :: back) :
    (front = history ∧ entry = new) ∨ ∃ rest, history = front ++ entry :: rest := by
  rcases eq_nil_or_concat back with rfl | ⟨rest, last, rfl⟩
  · obtain ⟨rfl, same⟩ := append_inj' whole rfl
    exact .inl ⟨rfl, (singleton_inj.mp same).symm⟩
  · rw [concat_eq_append, ← cons_append, ← append_assoc] at whole
    exact .inr ⟨rest, (append_inj' whole rfl).1⟩

theorem Tokens.change (tokens : Tokens before) (sound : OutboxSound s .new before)
    (later : LaterReading before call event)
    (change : OutboxChange s .new call before event world) :
    Tokens (before.after call event world) := by
  cases event with
  | none =>
    have same : (before.after call none world).history = before.history := by simp [Shared.after]
    exact ⟨same ▸ tokens.readings, same ▸ tokens.stamped, same ▸ tokens.apart, same ▸ tokens.first,
      same ▸ tokens.limits, same ▸ tokens.attempts⟩
  | some left =>
    obtain ⟨left, rfl, step⟩ := change.legal left rfl
    have grown : (before.after call (some (.outbox left)) world).history =
        before.history ++ [(call, .outbox left)] := rfl
    have all : written (before.history ++ [(call, Event.outbox left)]) =
        written before.history ++ left.writes := by
      simp [written, Event.writes]
    -- a new version and an old one have different tokens
    have differ : ∀ message ∈ left.writes, ∀ other ∈ written before.history,
        message.status = other.status →
        message.updatedAt.nanos = other.updatedAt.nanos → False := by
      intro message inside other old sameStatus sameTime
      obtain ⟨front, since, reading, statuses, -⟩ := step.stamp message inside
      obtain ⟨⟨number, writer⟩, there, writes⟩ := mem_flatMap.mp old
      exact statuses writer (tokens.unused reading there writes sameTime.symm) other writes
        sameStatus.symm
    refine ⟨?_, ?_, ?_, ?_, ?_, ?_⟩
    all_goals rw [grown]
    · rw [pairwise_append]
      refine ⟨tokens.readings, pairwise_singleton _ _, ?_⟩
      intro entry inside new single earlier time noted noted'
      cases mem_singleton.mp single
      have same : Event.outbox left = .outbox (.clockRead time) := noted'
      refine later time (by rw [same]) entry.1 earlier ?_
      rw [← noted]
      exact inside
    · intro front entry back whole message writes
      rcases split_concat whole with ⟨rfl, rfl⟩ | ⟨rest, old⟩
      · obtain ⟨front, since, ⟨back, split, -⟩, -⟩ := step.stamp message writes
        rw [split]
        simp
      · exact tokens.stamped front entry rest old message writes
    · rw [all]
      intro message inside other inside' named sameStatus sameTime
      rcases mem_append.mp inside with old | new <;>
        rcases mem_append.mp inside' with old' | new'
      · exact tokens.apart message old other old' named sameStatus sameTime
      · exact (differ other new' message old sameStatus.symm sameTime.symm).elim
      · exact (differ message new other old' sameStatus sameTime).elim
      · rw [inj_on_of_nodup_map step.distinct new new' named]
    · rw [all]
      intro message inside pending sameTime
      rcases mem_append.mp inside with old | new
      · exact tokens.first message old pending sameTime
      · obtain ⟨front, since, reading, -, created⟩ := step.stamp message new
        rcases created pending with anew | witnessed
        · exact anew
        · have := tokens.created_before reading witnessed
          omega
    · rw [all]
      intro message inside
      rcases mem_append.mp inside with old | new
      · exact tokens.limits message old
      · exact tokens.step_limit sound step message new
    · rw [all]
      intro attempt inside
      rw [recordedAttempts, flatMap_append] at inside
      rcases mem_append.mp inside with old | new
      · obtain ⟨version, there, named⟩ := tokens.attempts attempt old
        exact ⟨version, mem_append_left _ there, named⟩
      · obtain ⟨version, there, named⟩ := step.attempts_id attempt
          (by simpa [Event.attempts] using new)
        exact ⟨version, mem_append_right _ there, named⟩

/-- A write that is accepted replaces a version with the same count. -/
theorem Tokens.agree (tokens : Tokens before) (sound : OutboxSound s .new before)
    {stored} (origin : Stock.new.original message ∨ message ∈ written before.history)
    (held : Stored before message stored) (token : SameOutboxMessage stored message) :
    stored.attemptCount = message.attemptCount := by
  rcases origin with posted | inside <;> rcases sound.origin _ stored held.found with
    posted' | inside'
  · exact (Posted.attemptCount posted').trans (Posted.attemptCount posted).symm
  · have pending : stored.status = .pending := token.status.trans (Posted.status posted)
    have unchanged : stored.updatedAt.nanos = stored.createdAt.nanos := by
      have same : stored.updatedAt.nanos = message.updatedAt.nanos := token.updatedAt
      rw [same, Posted.updatedAt posted, held.kin.createdAt]
    rw [tokens.first stored inside' pending unchanged, Posted.attemptCount posted]
  · have pending : message.status = .pending := token.status.symm.trans (Posted.status posted')
    have unchanged : message.updatedAt.nanos = message.createdAt.nanos := by
      have same : stored.updatedAt.nanos = message.updatedAt.nanos := token.updatedAt
      rw [← same, Posted.updatedAt posted', held.kin.createdAt]
    rw [tokens.first message inside pending unchanged, Posted.attemptCount posted']
  · exact tokens.apart stored inside' message inside held.kin.id token.status token.updatedAt

section Counts

variable {history : History} {id : Text} {message : OutboxMessage}

theorem attemptsSince_concat :
    attemptsSince (history ++ [entry]) id = entry.2.account id (attemptsSince history id) := by
  rw [attemptsSince, foldl_append]
  rfl

/-- An event that is not about the message. -/
theorem failuresSince_other (writes : ∀ version ∈ left.writes, version.id ≠ id)
    (attempts : ∀ attempt ∈ left.attempts, attempt.outboxMessageID ≠ id) :
    failuresSince (history ++ [(number, .outbox left)]) id = failuresSince history id := by
  rw [failuresSince, attemptsSince_concat, failuresSince]
  cases left with
  | replayed messages =>
    have unheld : (messages.any fun message => decide (message.id = id)) = false := by
      rw [any_eq_false]
      intro version inside same
      exact writes version inside (of_decide_eq_true same)
    simp only [Event.account, unheld]
    rfl
  | finished version attempt =>
    have other : attempt.outboxMessageID ≠ id := attempts attempt (mem_singleton_self _)
    simp [Event.account, Event.attempts, OutboxEvent.attempts, other]
  | _ => simp [Event.account, Event.attempts, OutboxEvent.attempts]

/-- An event that is neither a finish nor a replay. -/
theorem failuresSince_same {event} (attempts : event.attempts = [])
    (silent : ∀ messages, event ≠ .outbox (.replayed messages)) :
    failuresSince (history ++ [(number, event)]) id = failuresSince history id := by
  rw [failuresSince, attemptsSince_concat, failuresSince]
  have same : event.account id (attemptsSince history id) = attemptsSince history id := by
    cases event with
    | outbox left =>
      cases left with
      | replayed messages => exact absurd rfl (silent messages)
      | finished => cases attempts
      | _ => exact append_nil _
    | _ => exact append_nil _
  rw [same]

theorem failuresSince_finished (named : attempt.outboxMessageID = id) :
    failuresSince (history ++ [(number, .outbox (.finished message attempt))]) id =
      failuresSince history id + if attempt.status = .failed then 1 else 0 := by
  rw [failuresSince, attemptsSince_concat, failuresSince]
  have account : (Event.outbox (.finished message attempt)).account id (attemptsSince history id) =
      attemptsSince history id ++ [attempt] := by
    simp [Event.account, Event.attempts, OutboxEvent.attempts, named]
  rw [account, countP_append, countP_singleton]
  simp

theorem failuresSince_replayed {number : Nat} {messages} (inside : message ∈ messages) :
    failuresSince (history ++ [(number, .outbox (.replayed messages))]) message.id = 0 := by
  rw [failuresSince, attemptsSince_concat]
  have there : (messages.any fun version => decide (version.id = message.id)) = true :=
    any_eq_true.mpr ⟨message, inside, decide_eq_true rfl⟩
  simp only [Event.account, there]
  rfl

/-- A message that is neither dead nor new may be tried again. -/
theorem Counted.below (counted : Counted history message) (alive : message.status ≠ .deadLetter) :
    failuresSince history message.id < 5 := by
  have within := counted.within
  have other : failuresSince history message.id ≠ 5 := fun same => alive (counted.dead.mpr same)
  omega

/-- Another version of the message with the same count. -/
theorem Counted.of_same {version} (counted : Counted history message)
    (alive : message.status ≠ .deadLetter) (limit : version.maxAttempts = defaultOutboxMaxAttempts)
    (named : version.id = message.id) (count : version.attemptCount = message.attemptCount)
    (failures : failuresSince history' message.id = failuresSince history message.id)
    (status : version.status = .pending ∨ version.status = .processing ∨
      version.status = .completed) : Counted history' version := by
  have below := counted.below alive
  rw [← failures] at below
  refine ⟨limit, ?_, ?_, ?_, ?_⟩
  all_goals first | rw [named] | skip
  · rw [count, counted.count, failures]
  · exact below.le
  · refine ⟨fun dead => ?_, fun full => absurd full below.ne⟩
    rw [dead] at status
    exact absurd status (by decide)
  · intro failed
    rw [failed] at status
    exact absurd status (by decide)

theorem ofNat_succ {count : Nat} (below : count < 5) :
    Int64.ofNat count + 1 = Int64.ofNat (count + 1) ∧
      (Int64.ofNat (count + 1) ≥ defaultOutboxMaxAttempts ↔ count + 1 = 5) := by
  interval_cases count <;> decide

/-- A failed attempt. -/
theorem Counted.failed (counted : Counted history message) (alive : message.status ≠ .deadLetter)
    (limit : claimed.maxAttempts = defaultOutboxMaxAttempts) (named : claimed.id = message.id)
    (count : claimed.attemptCount = message.attemptCount)
    (failures : failuresSince history' message.id = failuresSince history message.id + 1) :
    Counted history' (finishedMessage claimed (.error err) finishedAt) := by
  have below := counted.below alive
  obtain ⟨succ, full⟩ := ofNat_succ below
  have total : claimed.attemptCount + 1 = Int64.ofNat (failuresSince history' claimed.id) := by
    rw [count, counted.count, succ, named, failures]
  rw [← failures, ← named] at full
  have within : failuresSince history' claimed.id ≤ 5 := by
    rw [named, failures]
    omega
  rw [finishedMessage]
  rw [total, effective_default limit]
  split
  · next reached =>
    exact ⟨rfl, rfl, within, ⟨fun _ => full.mp reached, fun _ => rfl⟩, fun same => by cases same⟩
  · next waits =>
    refine ⟨rfl, rfl, within, ⟨fun same => (by cases same), fun same => ?_⟩,
      fun same => by cases same⟩
    exact absurd (full.mpr same) waits

/-- The messages in the store are counted. -/
def Accounts (state : State) : Prop :=
  ∀ id message, state.world.db.outbox.lookup id = some message → Counted state.history message

section

variable (accounts : Accounts before) (tokens : Tokens before) (sound : OutboxSound s .new before)

include accounts tokens sound

/-- A message that is replaced. -/
theorem Accounts.step_new (step : OutboxStep s .new call before drawn left) :
    ∀ message ∈ left.writes, Counted (before.history ++ [(call, .outbox left)]) message := by
  intro message inside
  have limit := tokens.step_limit sound step message inside
  cases step with
  | clockRead => cases inside
  | recovered _ known processing _ held token =>
    cases mem_singleton.mp inside
    have counted := accounts _ _ held.found
    refine counted.of_same ?_ limit held.kin.id.symm
      (tokens.agree sound known.origin held token).symm (failuresSince_same rfl nofun) (.inl rfl)
    rw [token.status, processing]
    decide
  | claimed _ known pending held token =>
    cases mem_singleton.mp inside
    have counted := accounts _ _ held.found
    refine counted.of_same ?_ limit held.kin.id.symm
      (tokens.agree sound known.origin held token).symm (failuresSince_same rfl nofun)
        (.inr (.inl rfl))
    rw [token.status, pending]
    decide
  | @finished mine stored outcome startedAt finishedAt front number claim reading
    known held token =>
    cases mem_singleton.mp inside
    have counted := accounts _ _ held.found
    have alive : stored.status ≠ .deadLetter := by
      rw [token.status, sound.status (reading.front_subset claim)]
      decide
    have agree := (tokens.agree sound known.origin held token).symm
    have named : mine.id = stored.id := held.kin.id.symm
    cases outcome with
    | ok =>
      refine counted.of_same alive limit named agree ?_ (.inr (.inr rfl))
      rw [failuresSince_finished named]
      rfl
    | error err =>
      refine counted.failed alive (tokens.limit known.origin) named agree ?_
      rw [failuresSince_finished named]
      rfl
  | @replayed messages now front _ each =>
    have zero := @failuresSince_replayed before.history message call messages inside
    obtain ⟨old, stored, rfl, held, -⟩ := each message inside
    refine ⟨limit, ?_, ?_, ?_, nofun⟩
    · rw [zero]
      rfl
    · rw [zero]
      exact Nat.zero_le _
    · rw [zero]
      exact ⟨nofun, nofun⟩

theorem Accounts.change (change : OutboxChange s .new call before event world) :
    Accounts (before.after call event world) := by
  have replaced := change.replaced
  intro id message found
  cases event with
  | none =>
    have same : (before.after call none world).history = before.history := by simp [Shared.after]
    rw [same]
    refine accounts id message ?_
    exact (replaced.lookup_other fun _ inside => absurd inside not_mem_nil).symm.trans found
  | some left =>
    obtain ⟨left, rfl, step⟩ := change.legal left rfl
    by_cases there : ∃ version ∈ left.writes, version.id = id
    · obtain ⟨version, inside, rfl⟩ := there
      obtain rfl := Option.some.inj ((replaced.lookup_new inside).symm.trans found)
      exact accounts.step_new tokens sound step version inside
    · have other : ∀ version ∈ left.writes, version.id ≠ id := by simpa using there
      have old : before.world.db.outbox.lookup id = some message :=
        (replaced.lookup_other other).symm.trans found
      obtain rfl := sound.keyed id message old
      have counted := accounts _ message old
      have same : failuresSince (before.history ++ [(call, .outbox left)]) message.id =
          failuresSince before.history message.id := by
        refine failuresSince_other other ?_
        intro attempt inside same
        obtain ⟨version, writes, named⟩ := step.attempts_id attempt inside
        exact other version writes (named.trans same)
      change Counted (before.history ++ [(call, .outbox left)]) message
      exact ⟨counted.limit, same ▸ counted.count, same ▸ counted.within, same ▸ counted.dead,
        counted.known⟩

end

end Counts

section Others

variable {history more : History} {after : State}

/-- Events that are not of the outbox. -/
def Unrelated (more : History) : Prop := ∀ entry ∈ more, ∀ left, entry.2 ≠ .outbox left

/-- The history goes on without events of the outbox. -/
def Continues (before after : State) : Prop :=
  ∃ more, after.history = before.history ++ more ∧ Unrelated more

theorem Performs.continues (performs : Performs s call before event ⟨world.db, world.drawn⟩) :
    Continues before (before.after call event world) := by
  obtain ⟨report, -, change⟩ := performs
  refine ⟨_, rfl, ?_⟩
  intro entry inside left same
  obtain ⟨seen, rfl, rfl⟩ := Option.map_eq_some_iff.mp (Option.mem_toList.mp inside)
  exact change.leaves.2.1 left (congrArg some same)

theorem Outer.continues (outer : Outer before after) : Continues before after := by
  rcases outer.history with same | ⟨number, started, -, longer⟩
  · exact ⟨[], by rw [same, append_nil], fun _ inside => absurd inside not_mem_nil⟩
  · refine ⟨_, longer, ?_⟩
    intro entry inside left same
    cases mem_singleton.mp inside
    cases same

theorem TaskStarted.continues (started : TaskStarted before after) : Continues before after := by
  obtain ⟨number, -, rfl⟩ := started
  refine ⟨_, rfl, ?_⟩
  intro entry inside left same
  cases mem_singleton.mp inside
  cases same

theorem Unrelated.nothing {more} (unrelated : Unrelated more) (inside : entry ∈ more) :
    entry.2.writes = [] ∧ entry.2.attempts = [] ∧
      ∀ id attempts, entry.2.account id attempts = attempts := by
  obtain ⟨number, seen⟩ := entry
  cases seen with
  | outbox left => exact absurd rfl (unrelated _ inside left)
  | _ => exact ⟨rfl, rfl, fun _ attempts => append_nil attempts⟩

theorem Unrelated.attemptsSince (unrelated : Unrelated more) (id : Text) :
    attemptsSince (history ++ more) id = attemptsSince history id := by
  induction more using reverseRecOn with
  | nil => rw [append_nil]
  | append_singleton more entry ih =>
    have last := (unrelated.nothing (mem_append_right _ (mem_singleton_self entry))).2.2
    rw [← append_assoc, attemptsSince_concat, last]
    exact ih fun other inside => unrelated other (mem_append_left _ inside)

theorem Unrelated.flatMap_nil {β : Type} {f : Event → List β} {more : History}
    (empty : ∀ entry ∈ more, f entry.2 = []) : more.flatMap (fun entry => f entry.2) = [] := by
  rw [flatMap_eq_nil_iff]
  exact empty

theorem Unrelated.written (unrelated : Unrelated more) :
    written (history ++ more) = written history := by
  rw [written_append]
  have empty : Lifecycle.written more = [] :=
    Unrelated.flatMap_nil fun _ inside => (unrelated.nothing inside).1
  rw [empty, append_nil]

theorem Unrelated.recordedAttempts (unrelated : Unrelated more) :
    recordedAttempts (history ++ more) = recordedAttempts history := by
  rw [Lifecycle.recordedAttempts, flatMap_append]
  have empty : more.flatMap (fun entry => entry.2.attempts) = [] :=
    Unrelated.flatMap_nil fun _ inside => (unrelated.nothing inside).2.1
  rw [empty, append_nil]
  rfl

theorem Tokens.continues (tokens : Tokens before) (continues : Continues before after) :
    Tokens after := by
  obtain ⟨more, longer, unrelated⟩ := continues
  refine ⟨?_, ?_, ?_, ?_, ?_, ?_⟩
  all_goals rw [longer]
  · rw [pairwise_append]
    refine ⟨tokens.readings, ?_, ?_⟩
    · refine pairwise_of_forall_mem_list ?_
      intro entry inside other _ earlier later noted
      exact absurd noted (unrelated entry inside _)
    · intro entry _ other inside earlier later _ noted
      exact absurd noted (unrelated other inside _)
  · intro front entry back whole message writes
    have related : entry ∉ more := fun inside => by
      rw [(unrelated.nothing inside).1] at writes
      cases writes
    rcases append_eq_append_iff.mp whole with ⟨rest, rfl, split⟩ | ⟨rest, split, tail⟩
    · exact absurd (split ▸ mem_append_cons_self) related
    · cases rest with
      | nil =>
        have head : entry :: back = more := tail
        exact absurd (head ▸ mem_cons_self) related
      | cons first rest =>
        obtain ⟨rfl, -⟩ := cons.inj tail
        exact tokens.stamped front _ rest split message writes
  · rw [unrelated.written]
    exact tokens.apart
  · rw [unrelated.written]
    exact tokens.first
  · rw [unrelated.written]
    exact tokens.limits
  · rw [unrelated.written, unrelated.recordedAttempts]
    exact tokens.attempts

/-- The attempts of a message are recorded ones. -/
theorem mem_attemptsSince (inside : attempt ∈ attemptsSince history id) :
    attempt ∈ recordedAttempts history ∧ attempt.outboxMessageID = id := by
  induction history using reverseRecOn with
  | nil => cases inside
  | append_singleton history entry ih =>
    have recorded : recordedAttempts (history ++ [entry]) =
        recordedAttempts history ++ entry.2.attempts := by
      simp [recordedAttempts]
    have cases : attempt ∈ attemptsSince history id ∨
        attempt ∈ entry.2.attempts ∧ attempt.outboxMessageID = id := by
      have added : ∀ attempts, attempt ∈ attempts ++ entry.2.attempts.filter
          (fun attempt => decide (attempt.outboxMessageID = id)) → attempt ∈ attempts ∨
          attempt ∈ entry.2.attempts ∧ attempt.outboxMessageID = id := by
        intro attempts inside
        rcases mem_append.mp inside with old | new
        · exact .inl old
        · obtain ⟨there, named⟩ := mem_filter.mp new
          exact .inr ⟨there, of_decide_eq_true named⟩
      rw [attemptsSince_concat] at inside
      obtain ⟨number, seen⟩ := entry
      cases seen with
      | outbox left =>
        cases left with
        | replayed messages =>
          simp only [Event.account] at inside
          split at inside
          · cases inside
          · exact .inl inside
        | _ => exact added _ inside
      | _ => exact added _ inside
    rw [recorded, mem_append]
    rcases cases with old | ⟨new, named⟩
    · obtain ⟨there, named⟩ := ih old
      exact ⟨.inl there, named⟩
    · exact ⟨.inr new, named⟩

/-- A message that was not in the store has no attempts. -/
theorem Tokens.failures_none (tokens : Tokens before) (sound : OutboxSound s stock before)
    (absent : before.world.db.outbox.lookup id = none) : failuresSince before.history id = 0 := by
  have empty : attemptsSince before.history id = [] := by
    rw [eq_nil_iff_forall_not_mem]
    intro attempt inside
    obtain ⟨recorded, rfl⟩ := mem_attemptsSince inside
    obtain ⟨version, there, named⟩ := tokens.attempts attempt recorded
    obtain ⟨stored, held⟩ := sound.kin version there
    rw [← named, held.found] at absent
    cases absent
  rw [failuresSince, empty]
  rfl

theorem Continues.failuresSince (continues : Continues before after) (id : Text) :
    failuresSince after.history id = failuresSince before.history id := by
  obtain ⟨more, longer, unrelated⟩ := continues
  rw [Lifecycle.failuresSince, longer, unrelated.attemptsSince]
  rfl

theorem Counted.continues (counted : Counted before.history message)
    (continues : Continues before after) : Counted after.history message := by
  have same := continues.failuresSince message.id
  exact ⟨counted.limit, same ▸ counted.count, same ▸ counted.within, same ▸ counted.dead,
    counted.known⟩

theorem Accounts.performs (ids : s.FreshIDs) (accounts : Accounts before) (tokens : Tokens before)
    (sound : OutboxSound s .new before)
    (performs : Performs s call before event ⟨world.db, world.drawn⟩) :
    Accounts (before.after call event world) := by
  have continues := performs.continues
  obtain ⟨report, told, change⟩ := performs
  intro id message found
  rcases told.lookup_cases ids found with ⟨entry, member, rfl, rfl⟩ | old
  · have absent := (told.newRecords ids).fresh ids sound.given (mem_map_of_mem member)
    have posted := told.posted entry member
    have zero := (continues.failuresSince entry.2.id).trans (tokens.failures_none sound absent)
    refine ⟨posted.maxAttempts, ?_, ?_, ?_, ?_⟩
    · rw [zero, posted.attemptCount]
      rfl
    · rw [zero]
      exact Nat.zero_le _
    · rw [zero, posted.status]
      decide
    · rw [posted.status]
      decide
  · exact (accounts id message old).continues continues

end Others

section Runs

variable {after : State}

/-- What holds of the attempts in runs in which the readings of the clock increase. -/
structure Balanced (state : State) : Prop where
  tokens : Tokens state
  accounts : Accounts state
  recorded : (Table.values state.world.db.annex.jobAttempts).Perm (recordedAttempts state.history)

theorem Balanced.start {world} (initial : Initial world) : Balanced ⟨world, []⟩ where
  tokens := ⟨List.Pairwise.nil, by simp, by simp [written], by simp [written], by simp [written],
    by simp [recordedAttempts]⟩
  accounts id message found := by
    change world.db.outbox.lookup id = some message at found
    rw [initial.db] at found
    cases found
  recorded := by
    change (Table.values world.db.annex.jobAttempts).Perm []
    rw [initial.db]
    exact .refl _

/-- Steps that leave the messages and the attempts alone. -/
theorem Balanced.quiet (balanced : Balanced before) (continues : Continues before after)
    (outbox : after.world.db.outbox = before.world.db.outbox)
    (annex : after.world.db.annex.jobAttempts = before.world.db.annex.jobAttempts) :
    Balanced after where
  tokens := balanced.tokens.continues continues
  accounts id message found := by
    rw [outbox] at found
    exact (balanced.accounts id message found).continues continues
  recorded := by
    obtain ⟨more, longer, unrelated⟩ := continues
    rw [annex, longer, unrelated.recordedAttempts]
    exact balanced.recorded

theorem Balanced.performs (ids : s.FreshIDs) (balanced : Balanced before)
    (sound : OutboxSound s .new before)
    (performs : Performs s call before event ⟨world.db, world.drawn⟩) :
    Balanced (before.after call event world) where
  tokens := balanced.tokens.continues performs.continues
  accounts := balanced.accounts.performs ids balanced.tokens sound performs
  recorded := by
    obtain ⟨more, longer, unrelated⟩ := performs.continues
    obtain ⟨report, told, -⟩ := performs
    have annex : world.db.annex = before.world.db.annex := told.annex
    rw [longer, unrelated.recordedAttempts]
    change (Table.values world.db.annex.jobAttempts).Perm _
    rw [annex]
    exact balanced.recorded

theorem recordedAttempts_after : recordedAttempts (before.after call event world).history =
    recordedAttempts before.history ++ event.elim [] Event.attempts := by
  cases event with
  | none => simp [Shared.after]
  | some left => simp [Shared.after, recordedAttempts]

theorem Balanced.change (ids : s.FreshIDs) (balanced : Balanced before)
    (sound : OutboxSound s .new before) (later : LaterReading before call event)
    (change : OutboxChange s .new call before event world) :
    Balanced (before.after call event world) where
  tokens := balanced.tokens.change sound later change
  accounts := balanced.accounts.change balanced.tokens sound change
  recorded := by
    have new : NewRecords s before.world.drawn world.drawn JobAttempt.id
        (event.elim [] Event.attempts) := by
      cases event with
      | none => exact ⟨nofun, nodup_nil⟩
      | some left =>
        obtain ⟨step, rfl, legal⟩ := change.legal left rfl
        exact legal.newAttempts
    change (Table.values world.db.annex.jobAttempts).Perm _
    rw [change.attempts, recordedAttempts_after]
    refine (Table.values_insertAll_perm new.distinct ?_).trans ?_
    · intro attempt inside
      exact new.fresh ids sound.attemptsGiven inside
    · exact (balanced.recorded.append_left _).trans perm_append_comm

theorem reaches_balanced (ids : s.FreshIDs) {cfg : s.outboxSystem.Config}
    (reached : System.Reaches (System.Guarded LaterReading) Initial cfg) : Balanced cfg.shared := by
  refine Regime.guarded_induct _ ids (s.outboxSystem_keeps .new ids)
    (fun _ initial => initial.start ids) ?_ ?_ ?_ ?_ ?_ ?_ reached
  · intro world initial
    exact .start initial
  · intro before call event world _ sound balanced _ performs _
    exact balanced.performs ids sound performs
  · intro before call event world _ sound balanced later change
    exact balanced.change ids sound later change
  · intro before after balanced outer
    exact balanced.quiet outer.continues outer.outbox (by rw [outer.annex])
  · intro before after balanced started
    refine balanced.quiet started.continues ?_ ?_
    all_goals obtain ⟨number, -, rfl⟩ := started
    · rfl
    · rfl
  · rintro before world balanced ⟨endpoints, rfl⟩
    exact balanced.quiet ⟨[], (append_nil _).symm, fun _ inside => absurd inside not_mem_nil⟩
      rfl rfl

/-- A message that no attempt will be made of any more. -/
def DeadLettered (state : State) (id : Text) : Prop :=
  ∃ message, state.world.db.outbox.lookup id = some message ∧ message.status = .deadLetter

/-- A configuration in which every failure is counted once. -/
structure Accounted (cfg : s.outboxSystem.Config) : Prop where
  counted : ∀ id message, cfg.shared.world.db.outbox.lookup id = some message →
    message.attemptCount.toInt = failuresSince cfg.shared.history id
  below : ∀ id message, cfg.shared.world.db.outbox.lookup id = some message →
    message.status = .pending ∨ message.status = .processing →
    message.attemptCount < message.maxAttempts
  /-- The recorded attempts are those of the events, one for each finish. -/
  recorded : (Table.values cfg.shared.world.db.annex.jobAttempts).Perm
    (recordedAttempts cfg.shared.history)
  /-- A message is given up exactly in the step that records the failure that reaches the limit. -/
  deadLettered : ∀ (action : s.outboxSystem.Action) next, cfg.perform action = some next → ∀ id,
    (¬ DeadLettered cfg.shared id ∧ DeadLettered next.shared id) ↔
      ∃ call message attempt,
        action.event cfg = some (call, some (.outbox (.finished message attempt))) ∧
        message.id = id ∧ attempt.outboxMessageID = id ∧ attempt.status = .failed ∧
        message.attemptCount = message.maxAttempts

theorem finishedMessage_full
      (full : (finishedMessage claimed (.error err) finishedAt).attemptCount =
    (finishedMessage claimed (.error err) finishedAt).maxAttempts) :
    (finishedMessage claimed (.error err) finishedAt).status = .deadLetter := by
  rw [finishedMessage] at full ⊢
  split at full
  · next reached => rw [if_pos reached]
  · next waits => exact absurd (Int64.le_of_eq full.symm) waits

/-- Only a failure that reaches the limit makes a message dead. -/
theorem Balanced.step_dead (balanced : Balanced before) (sound : OutboxSound s .new before)
    (step : OutboxStep s .new call before drawn left) (inside : message ∈ left.writes)
    (dead : message.status = .deadLetter) :
    ∃ attempt, left = .finished message attempt ∧ attempt.outboxMessageID = message.id ∧
      attempt.status = .failed ∧ message.attemptCount = message.maxAttempts := by
  have counted := balanced.accounts.step_new balanced.tokens sound step message inside
  cases step with
  | clockRead => cases inside
  | recovered | claimed =>
    cases mem_singleton.mp inside
    cases dead
  | @finished mine stored outcome startedAt finishedAt =>
    cases mem_singleton.mp inside
    refine ⟨_, rfl, (Kin.finished mine finishedAt outcome).id.symm, ?_, ?_⟩
    · cases outcome with
      | ok => cases dead
      | error err => rfl
    · rw [counted.count, counted.limit, counted.dead.mp dead]
      rfl
  | replayed _ each =>
    obtain ⟨old, stored, rfl, -⟩ := each message inside
    cases dead

theorem Balanced.step_gives_up (sound : OutboxSound s .new before)
    (step : OutboxStep s .new call before drawn (.finished message attempt))
    (failed : attempt.status = .failed) (full : message.attemptCount = message.maxAttempts) :
    message.status = .deadLetter ∧ ¬ DeadLettered before message.id := by
  cases step with
  | @finished mine stored outcome startedAt finishedAt front number claim reading
    known held token =>
    constructor
    · cases outcome with
      | ok => cases failed
      | error err => exact finishedMessage_full full
    · rintro ⟨other, found, dead⟩
      rw [(Kin.finished mine finishedAt outcome).id] at found
      cases Option.mem_unique held.found found
      rw [token.status, sound.status (reading.front_subset claim)] at dead
      cases dead

theorem Balanced.deadLettered_iff (ids : s.FreshIDs) {cfg next}
    {action : s.outboxSystem.Action} (balanced : Balanced cfg.shared)
    (sound : cfg.Sound ((outboxRegime s .new ids).discipline ids))
    (performed : cfg.perform action = some next) (id : Text) :
    (¬ DeadLettered cfg.shared id ∧ DeadLettered next.shared id) ↔ ∃ call message attempt,
        action.event cfg = some (call, some (.outbox (.finished message attempt))) ∧
        message.id = id ∧ attempt.outboxMessageID = id ∧ attempt.status = .failed ∧
        message.attemptCount = message.maxAttempts := by
  have moves := (sound.perform (s.outboxSystem_keeps .new ids) performed).1
  generalize next.shared = shared at moves
  constructor
  · rintro ⟨alive, message, found, dead⟩
    cases moves with
    | @call number event world seen change =>
      rcases change with ⟨-, report, told, change⟩ | change
      · rcases told.lookup_cases ids found with ⟨entry, member, rfl, -⟩ | old
        · rw [(told.posted entry member).status] at dead
          cases dead
        · exact absurd ⟨message, old, dead⟩ alive
      · rcases change.replaced.lookup_cases found with ⟨inside, rfl⟩ | old
        · cases event with
          | none => cases inside
          | some left =>
            obtain ⟨step, rfl, legal⟩ := change.legal left rfl
            obtain ⟨attempt, rfl, named, failed, full⟩ :=
              balanced.step_dead sound.inv.2 legal inside dead
            exact ⟨number, message, attempt, seen, rfl, named, failed, full⟩
        · exact absurd ⟨message, old, dead⟩ alive
    | outer _ outer =>
      refine absurd ⟨message, ?_, dead⟩ alive
      rcases outer with outer | ⟨number, -, rfl⟩ | ⟨world, ⟨endpoints, rfl⟩, rfl⟩
      · rw [← outer.outbox]
        exact found
      · exact found
      · exact found
  · rintro ⟨call, message, attempt, seen, rfl, -, failed, full⟩
    cases moves with
    | @call number event world seen' change =>
      cases Option.mem_unique seen seen'
      rcases change with ⟨-, report, -, change⟩ | change
      · exact absurd rfl (change.leaves.2.1 _)
      · obtain ⟨step, same, legal⟩ := change.legal _ rfl
        cases Event.outbox.inj same
        obtain ⟨dead, alive⟩ := Balanced.step_gives_up sound.inv.2 legal failed full
        exact ⟨alive, message, change.replaced.lookup_new (mem_singleton_self _), dead⟩
    | outer unseen =>
      rw [seen] at unseen
      cases unseen

theorem Counted.toInt (counted : Counted history message) :
    message.attemptCount.toInt = failuresSince history message.id := by
  rw [counted.count]
  have within := counted.within
  generalize failuresSince history message.id = count at within ⊢
  interval_cases count <;> rfl

theorem Counted.lt_limit (counted : Counted history message)
    (alive : message.status ≠ .deadLetter) : message.attemptCount < message.maxAttempts := by
  rw [counted.count, counted.limit]
  have below := counted.below alive
  generalize failuresSince history message.id = count at below ⊢
  interval_cases count <;> decide

/-- In every run from a new store in which the readings of the clock increase, every failure is
counted once, and messages are given up when their limit is reached. -/
theorem outbox_accounted (s : Service) (ids : s.FreshIDs) {cfg : s.outboxSystem.Config}
    (reached : System.Reaches (System.Guarded LaterReading) Initial cfg) : Accounted cfg := by
  have sound := reached.sound (s.outboxSystem_keeps .new ids) fun _ initial => initial.start ids
  have balanced := reaches_balanced ids reached
  refine ⟨?_, ?_, balanced.recorded, ?_⟩
  · intro id message found
    cases sound.inv.2.keyed id message found
    exact (balanced.accounts _ message found).toInt
  · intro id message found active
    refine (balanced.accounts id message found).lt_limit ?_
    intro dead
    rw [dead] at active
    exact absurd active (by decide)
  · intro action next performed id
    exact balanced.deadLettered_iff ids sound performed id

end Runs

/-- A check that passes only readings after all others. -/
def laterReading (before : State) (_ : Nat) : Option Event → Bool
  | some (.outbox (.clockRead time)) => before.history.all fun
    | (_, .outbox (.clockRead earlier)) => decide (earlier.nanos < time.nanos)
    | _ => true
  | _ => true

theorem laterReading_strict (state : State) (log : AuditLog) (call : Nat) (event : Option Event)
    (passed : laterReading state call event = true) :
    LaterReading (withLog state log) call event := by
  rintro time rfl other earlier there
  exact of_decide_eq_true (all_eq_true.mp passed _ there)

/-- Some seconds into the new year. -/
def second (count : Int) : Time := newYear.add (count * 1000000000)

/-- A dispatcher claims the message of a rollover and fails, and every time it reads the clock a
second has passed. -/
def failing : List smallService.outboxSystem.Action :=
  rollingOver ++ dispatching 6 2 ++ [.disturb (.inl (.tick (second 1)))] ++
    System.Action.runs 6 2 .calm ++ [.disturb (.inl (.tick (second 2)))] ++
    System.Action.runs 6 1 .calm ++ [.disturb (.inl (.tick (second 3)))] ++
    System.Action.runs 6 2 .calm

/-- The message after the failure. -/
def failedRolled : OutboxMessage :=
  finishedMessage (claimedMessage rolledMessage (second 1)) unhandled (second 3)

def lateAttempt : JobAttempt :=
  jobAttempt (smallID 12) (claimedMessage rolledMessage (second 1)) unhandled (second 2)
    (second 3)

/-- The failure is recorded and counted once. -/
theorem failed_accounted : ∃ cfg : smallService.outboxSystem.Config,
    System.Reaches (System.Guarded LaterReading) Initial cfg ∧
      (6, .outbox (.finished failedRolled lateAttempt)) ∈ cfg.shared.history ∧
      lateAttempt.status = .failed ∧
      cfg.shared.world.db.outbox.lookup rolledMessage.id = some failedRolled ∧
      failedRolled.attemptCount = 1 ∧ Accounted cfg := by
  obtain ⟨⟨_, _, _⟩, plan, log, reached, -, -, rfl, fails, stored⟩ := rehearsed_guarded laterReading
    laterReading_strict newWorld_initial failing (fun plan =>
      (6, .outbox (.finished failedRolled lateAttempt)) ∈ plan.shared.history ∧
      plan.shared.world.db.outbox.lookup rolledMessage.id = some failedRolled)
  exact ⟨_, reached, fails, rfl, stored, rfl,
    outbox_accounted smallService small_freshIDs reached⟩

end AnoPki.Lifecycle
