import AnoPki.Lifecycle.OutboxSteps

/-! # The dispatchers keep to their steps

Every run of a dispatcher and every replay of messages, whatever the others do between its steps,
makes only the steps of the outbox. What a call has read stays known to it: it is still there in
some version, and it was created before the clock was read. -/
namespace AnoPki.Lifecycle

open Foundation Domain Store List Tx Shelf Table Regime

variable {message : OutboxMessage} {before after : Session} {state : State}
  {handler : OutboxHandler} {ctx : Context} {actor : Text} {claimed : OutboxMessage}
  {req : ReplayDeadLetterOutboxRequest} {replayed : List OutboxMessage} {u : Unit}

variable {s : Service} {stock : Stock} {ids : s.FreshIDs} {call : Nat} {α : Type}

/-- The operation keeps to the steps of the outbox. -/
abbrev OutboxMeets (stock : Stock) (ids : s.FreshIDs) (call : Nat) (op : Op α)
    (post : α → State → Prop) (state : State) : Prop :=
  Prog.MeetsOk ((outboxRegime s stock ids).discipline ids) call op post state

/-- The states a call may find after one of its own steps. -/
abbrev OutboxFinds (stock : Stock) (ids : s.FreshIDs) (call : Nat) (state now : State) : Prop :=
  (outboxRegime s stock ids).Finds call state now

section Facts

/-- A message that a dispatcher has listed. -/
structure Listed (stock : Stock) (state : State) (message : OutboxMessage) : Prop where
  held : ∃ stored, Stored state message stored
  due : ∃ time : Time, time.nanos ≤ state.world.clock.nanos ∧ outboxMessageDue message time
  known : Known stock state.history state.history message

/-- A message that a dispatcher has claimed. -/
structure Claims (stock : Stock) (call : Nat) (state : State) (message : OutboxMessage) : Prop where
  claim : (call, Event.outbox (.claimed message)) ∈ state.history
  held : ∃ stored, Stored state message stored
  known : Known stock state.history state.history message

variable {state after : State} {message : OutboxMessage} {history front : History}

theorem Known.mono {history' front'} (known : Known stock history front message)
    (grows : history <+: history') (further : front ⊆ front') :
    Known stock history' front' message where
  origin := known.origin.imp_right (written_mono grows)
  witnessed new := (known.witnessed new).mono further

theorem Listed.later (listed : Listed stock state message) (since : Later state after)
    (grows : Table.Grows Kin state.world.db.outbox after.world.db.outbox) :
    Listed stock after message where
  held := by
    obtain ⟨stored, held⟩ := listed.held
    exact held.later grows
  due := by
    obtain ⟨time, past, due⟩ := listed.due
    exact ⟨time, past.trans since.clock, due⟩
  known := listed.known.mono since.history since.history.subset

theorem Claims.later (claims : Claims stock call state message) (since : Later state after)
    (grows : Table.Grows Kin state.world.db.outbox after.world.db.outbox) :
    Claims stock call after message where
  claim := since.history.subset claims.claim
  held := by
    obtain ⟨stored, held⟩ := claims.held
    exact held.later grows
  known := claims.known.mono since.history since.history.subset

/-- What a dispatcher lists at a reading of the clock that it has noted. -/
theorem OutboxSound.listed (sound : OutboxSound s stock state) {now}
    (noted : (call, Event.outbox (.clockRead now)) ∈ state.history)
    (past : now.nanos ≤ state.world.clock.nanos) (inside : message ∈ state.world.db.outbox.values)
    (due : outboxMessageDue message now) : Listed stock state message := by
  obtain ⟨id, found⟩ := mem_values_iff.mp inside
  cases sound.keyed id message found
  have origin := sound.origin _ message found
  refine ⟨⟨message, found, .refl message⟩, ⟨now, past, due⟩, origin, ?_⟩
  intro new
  rcases origin with original | old
  · have posted := new message original
    refine ⟨call, now, noted, ?_⟩
    simp only [outboxMessageDue, posted.status, posted.availableAt] at due
    exact not_lt.mp (of_decide_eq_true due)
  · exact sound.witnessed new message old

end Facts

section Steps

variable {state : State}

/-- The call's last reading of the clock. -/
theorem readClock_meets : OutboxMeets stock ids call readClock (fun now t => ∃ front,
    Readout t.history call now front [] ∧ state.history <+: front ∧
      now.nanos ≤ t.world.clock.nanos) state := by
  refine meets_still (fun _ _ => rfl) ?_
  rintro now finds answer value ⟨⟩
  constructor
  · refine ⟨.same now, rfl, rfl, ?_⟩
    rintro left ⟨⟩
    exact ⟨_, rfl, .clockRead⟩
  · exact ⟨now.history, ⟨[], rfl, fun _ inside => by cases inside⟩, finds.later.history, le_refl _⟩

/-- A message is stored in the place of the one that was read, if that one is still there. -/
theorem takeOutboxMessage_meets {current event}
    (writes : event.writes = [message]) (attempts : event.attempts = [])
    (legal : ∀ now stored, OutboxFinds stock ids call state now →
      now.world.db.outbox.lookup message.id = some stored → SameOutboxMessage stored current →
      OutboxStep s stock call now now.world.drawn event) :
    OutboxMeets stock ids call (takeOutboxMessage message current event) (fun taken t =>
      taken = true → ∃ now, OutboxFinds stock ids call state now ∧
        t.history = now.history ++ [(call, Event.outbox event)] ∧
        t.world.db.outbox.lookup message.id = some message) state := by
  refine .seq (.attempt (@meets_withinTx _ _ _ _ _ _
    (fun _ t => ∃ now, OutboxFinds stock ids call state now ∧
      t.history = now.history ++ [(call, Event.outbox event)] ∧
      t.world.db.outbox.lookup message.id = some message) _ _ ?_)) ?_
  · intro now finds value after run
    obtain ⟨stored, found, same, rfl⟩ := updateMessage_ok_iff.mp run
    constructor
    · refine ⟨⟨rfl, rfl, le_refl _⟩, ?_, ?_, ?_⟩
      · simp [Event.writes, writes, insertAll, session]
      · simp [Event.attempts, attempts, insertAll, session]
      · rintro left ⟨⟩
        exact ⟨event, rfl, legal now stored finds found same⟩
    · exact ⟨now, finds, rfl, AList.lookup_insert _⟩
  · rintro (err | value) t later taken
    · refine .ite (fun _ => .pure (by rintro ⟨⟩)) fun _ => ?_
      rintro _ ⟨⟩
    · exact .pure fun _ => taken () rfl

/-- The stored version of a message that was read before. -/
theorem Stored.now {now stored} (held : ∃ stored, Stored state message stored)
    (finds : OutboxFinds stock ids call state now)
    (found : now.world.db.outbox.lookup message.id = some stored) : Stored now message stored := by
  obtain ⟨old, held⟩ := held
  obtain ⟨stored', held'⟩ := held.later finds.relies
  cases Option.mem_unique held'.found found
  exact held'

theorem claimPending_meets {now front}
    (reading : Readout state.history call now front [.outbox (.recovered message)])
    (known : Known stock state.history front message) (held : ∃ stored, Stored state message stored)
    (pending : message.status = .pending) :
    OutboxMeets stock ids call (claimPending message now) (fun result t =>
      ∀ claimed, result = some claimed → Claims stock call t claimed) state := by
  refine .seq (takeOutboxMessage_meets rfl rfl ?_) ?_
  · intro found stored finds there same
    exact .claimed (reading.later finds.later.history finds.own)
      (known.mono finds.later.history (List.Subset.refl _))
        pending (Stored.now held finds there) same
  · intro taken t _ outcome
    refine .ite (fun yes => .pure ?_) fun _ => .pure (by rintro _ ⟨⟩)
    rintro _ ⟨⟩
    obtain ⟨found, finds, grown, there⟩ := outcome yes
    have inside : claimedMessage message now ∈ written t.history := by
      rw [grown, written_append]
      exact mem_append_cons_self
    have older : front ⊆ t.history := by
      rw [grown]
      exact subset_append_of_subset_left _
        (List.Subset.trans reading.front_subset finds.later.history.subset)
    refine ⟨?_, ⟨_, there, .refl _⟩, .inr inside, ?_⟩
    · rw [grown]
      exact mem_append_cons_self
    · intro new
      exact ((known.witnessed new).mono older).kin (.claimed _ _)

theorem claim_meets (listed : Listed stock state message) :
    OutboxMeets stock ids call (claim message) (fun result t =>
      ∀ claimed, result = some claimed → Claims stock call t claimed) state := by
  refine .ite (fun _ => .pure (by rintro _ ⟨⟩)) fun status => ?_
  refine .seq readClock_meets ?_
  rintro now t ⟨later, grows⟩ ⟨front, reading, older, past⟩
  have known : Known stock t.history front message :=
    listed.known.mono later.history older.subset
  have listed := listed.later later grows
  refine .ite (fun processing => ?_) fun idle => ?_
  · refine .seq (takeOutboxMessage_meets rfl rfl ?_) ?_
    · intro found stored finds there same
      refine .recovered (reading.later finds.later.history finds.own)
        (known.mono finds.later.history (List.Subset.refl _)) processing ?_
        (Stored.now listed.held finds there) same
      obtain ⟨time, earlier, due⟩ := listed.due
      simp only [outboxMessageDue, processing] at due
      exact (not_lt.mp (of_decide_eq_true due).2).trans (earlier.trans finds.later.clock)
    · intro taken u _ outcome
      refine .ite (fun yes => ?_) fun _ => .pure (by rintro _ ⟨⟩)
      obtain ⟨found, finds, grown, there⟩ := outcome yes
      have again := (reading.later finds.later.history finds.own).leaves
        (.outbox (.recovered (recoveredMessage message now)))
      rw [← grown] at again
      refine claimPending_meets again ?_ ⟨_, there, .refl _⟩ rfl
      refine ⟨.inr ?_, fun new => (known.witnessed new).kin (.recovered _ _)⟩
      rw [grown, written_append]
      exact mem_append_cons_self
  · have pending : message.status = .pending := by
      by_contra other
      exact status ⟨other, idle⟩
    exact claimPending_meets (reading.weaken (nil_subset _)) known listed.held pending

end Steps

section Dispatcher

variable {state : State}

/-- A handler that leaves the outbox alone. -/
def Handles (stock : Stock) (ids : s.FreshIDs) (handler : OutboxHandler) : Prop :=
  ∀ call message state, OutboxMeets stock ids call (handler message) (fun _ _ => True) state

theorem finishTx_ok {outcome startedAt finishedAt attempt}
    (run : s.finishTx claimed outcome startedAt finishedAt before = (.ok attempt, after)) :
    ∃ stored, before.db.outbox.lookup claimed.id = some stored ∧ SameOutboxMessage stored claimed ∧
      attempt = jobAttempt (s.idgen before.drawn) claimed outcome startedAt finishedAt ∧
      after = ⟨{ before.db with
        outbox := before.db.outbox.insert claimed.id (finishedMessage claimed outcome finishedAt)
        annex := { before.db.annex with
          jobAttempts := before.db.annex.jobAttempts.insert attempt.id attempt } },
        before.drawn + 1⟩ := by
  have named : (finishedMessage claimed outcome finishedAt).id = claimed.id :=
    (Kin.finished _ _ _).id
  obtain ⟨id, mid, drawn, run⟩ := bind_ok_iff.mp run
  obtain ⟨given, rfl⟩ := Prod.mk.inj drawn
  cases given
  obtain ⟨_, mid, updated, run⟩ := bind_ok_iff.mp run
  obtain ⟨stored, found, same, rfl⟩ := updateMessage_ok_iff.mp updated
  obtain ⟨_, mid, wrote, run⟩ := bind_ok_iff.mp run
  cases write_ok_iff.mp wrote
  obtain ⟨rfl, rfl⟩ := pure_ok_iff.mp run
  rw [named] at found ⊢
  exact ⟨stored, found, same, rfl, rfl⟩

theorem deliver_meets (handles : Handles stock ids handler)
    (claims : Claims stock call state claimed) :
    OutboxMeets stock ids call (s.deliver handler claimed) (fun _ _ => True) state := by
  refine .seq readClock_meets ?_
  rintro startedAt t ⟨later, grows⟩ -
  have claims := claims.later later grows
  refine .seq (.attempt (handles call claimed t)) ?_
  rintro outcome u ⟨later, grows⟩ -
  have claims := claims.later later grows
  refine .seq readClock_meets ?_
  rintro finishedAt v ⟨later, grows⟩ ⟨front, reading, older, past⟩
  have claim : (call, Event.outbox (.claimed claimed)) ∈ front := older.subset claims.claim
  have known : Known stock v.history front claimed :=
    claims.known.mono later.history older.subset
  have claims := claims.later later grows
  refine .seq (@meets_withinTx _ _ _ _ _ _ (fun _ _ => True) _ _ ?_)
    fun _ _ _ _ => .pure trivial
  intro found finds attempt after run
  obtain ⟨stored, there, same, rfl, rfl⟩ := finishTx_ok run
  refine ⟨⟨⟨rfl, rfl, Nat.le_succ _⟩, ?_, rfl, ?_⟩, trivial⟩
  · have named : (finishedMessage claimed outcome finishedAt).id = claimed.id :=
      (Kin.finished _ _ _).id
    change _ = (found.world.db.outbox.insert _ _)
    rw [named]
    rfl
  · rintro left ⟨⟩
    exact ⟨_, rfl, .finished claim (reading.later finds.later.history finds.own)
      (known.mono finds.later.history (List.Subset.refl _))
      (Stored.now claims.held finds there) same ⟨le_refl _, Nat.lt_succ_self _⟩⟩

theorem processMessages_meets (handles : Handles stock ids handler) (messages : List OutboxMessage)
    (processed : Nat) (listed : ∀ message ∈ messages, Listed stock state message) :
    OutboxMeets stock ids call (s.processMessages handler messages processed) (fun _ _ => True)
      state := by
  induction messages generalizing state processed with
  | nil => exact .pure trivial
  | cons message messages ih =>
    have rest : ∀ {t : State}, Later state t →
        Table.Grows Kin state.world.db.outbox t.world.db.outbox →
        ∀ message ∈ messages, Listed stock t message := by
      intro t later grows message inside
      exact (listed message (mem_cons_of_mem _ inside)).later later grows
    refine .seq (.attempt (claim_meets (listed message mem_cons_self))) ?_
    rintro (err | (_ | claimed)) t ⟨later, grows⟩ outcome
    · exact .pure trivial
    · exact ih processed (rest later grows)
    · have claims := outcome _ rfl claimed rfl
      refine .seq (.attempt (deliver_meets handles claims)) ?_
      rintro (err | _) u ⟨later', grows'⟩ -
      · exact .pure trivial
      · exact ih (processed + 1) (rest (later.trans later') (grows.trans Kin.trans grows'))

theorem runOnce_meets (handles : Handles stock ids handler) (limit : Int64) :
    OutboxMeets stock ids call (s.runOnce handler limit) (fun _ _ => True) state := by
  refine .seq readClock_meets ?_
  rintro now t - ⟨front, ⟨back, whole, -⟩, -, past⟩
  have noted : (call, Event.outbox (.clockRead now)) ∈ t.history := by simp [whole]
  refine .seq (.attempt (@meets_repo _ _ _ _ _ _
    (fun messages u => ∀ message ∈ messages, Listed stock u message) _ (.query _) ?_)) ?_
  · intro found finds messages run message inside
    obtain ⟨stored, due⟩ := (mem_of_listDueOutboxMessages run).2 message inside
    exact finds.inv.listed (finds.later.history.subset noted)
      (past.trans finds.later.clock) stored due
  · rintro (err | messages) u - listed
    · exact .pure trivial
    · exact processMessages_meets handles messages 0 (listed messages rfl)

end Dispatcher

section Handlers

theorem noopOutboxHandler_handles : Handles stock ids noopOutboxHandler :=
  fun _ _ _ => .pure trivial

/-- A repository whose operations leave the outbox alone. -/
structure WebhookRepository.Apart (repo : WebhookRepository Op) (stock : Stock) (ids : s.FreshIDs) :
    Prop where
  listNotificationEndpoints : ∀ call state,
    OutboxMeets stock ids call repo.listNotificationEndpoints (fun _ _ => True) state
  getWebhookDelivery : ∀ call state message endpoint,
    OutboxMeets stock ids call (repo.getWebhookDelivery message endpoint) (fun _ _ => True) state
  upsertWebhookDelivery : ∀ call state delivery,
    OutboxMeets stock ids call (repo.upsertWebhookDelivery delivery) (fun _ _ => True) state
  now : ∀ call state, OutboxMeets stock ids call repo.now (fun _ _ => True) state
  postWebhook : ∀ call state endpoint message,
    OutboxMeets stock ids call (repo.postWebhook endpoint message) (fun _ _ => True) state

theorem throw_meets {err : Err} {post} :
    OutboxMeets stock ids call (throw err : Op α) post state := by
  rintro _ ⟨⟩

variable {repo : WebhookRepository Op} (apart : repo.Apart stock ids)

include apart

theorem recordWebhookDelivery_meets {endpoint current status lastError} : OutboxMeets stock ids call
    (recordWebhookDelivery repo message endpoint current status lastError)
    (fun _ _ => True) state :=
  .seq (apart.now call state) fun _ t _ _ => apart.upsertWebhookDelivery call t _

theorem deliverToEndpoints_meets (endpoints : List NotificationEndpoint) :
    OutboxMeets stock ids call (deliverToEndpoints repo message endpoints) (fun _ _ => True)
      state := by
  induction endpoints generalizing state with
  | nil => exact .pure trivial
  | cons endpoint endpoints ih =>
    refine .ite (fun _ => ?_) fun _ => ih
    refine .seq (apart.getWebhookDelivery call state _ _) ?_
    intro delivery t _ _
    refine .ite (fun _ => ih) fun _ => ?_
    refine .seq (apart.postWebhook call t _ _) ?_
    rintro (err | _) u _ _
    · exact .seq (recordWebhookDelivery_meets apart) fun _ _ _ _ => throw_meets
    · exact .seq (recordWebhookDelivery_meets apart) fun _ _ _ _ => ih

theorem handleWebhookMessage_handles : Handles stock ids (handleWebhookMessage repo) := by
  intro call message state
  refine .seq (apart.listNotificationEndpoints call state) ?_
  intro endpoints t _ _
  cases decodeOutboxPayload message >>= fun _ => encodeWebhookBody message with
  | error err => exact throw_meets
  | ok _ => exact deliverToEndpoints_meets apart endpoints

omit apart

theorem webhookRepository_apart : webhookRepository.Apart stock ids where
  listNotificationEndpoints call state := meets_repo (.query _) fun _ _ _ _ => trivial
  getWebhookDelivery call state message endpoint := by
    refine .seq (.attempt
      (@meets_repo _ _ _ _ _ _ (fun _ _ => True) _ (.query _) fun _ _ _ _ => trivial)) ?_
    rintro (err | delivery) t _ _
    · refine .ite (fun _ => .pure trivial) fun _ => ?_
      rintro _ ⟨⟩
    · exact .pure trivial
  upsertWebhookDelivery call state delivery := by
    refine meets_withinTx ?_
    intro now finds value after run
    cases write_ok_iff.mp run
    exact ⟨⟨⟨rfl, rfl, le_refl _⟩, rfl, rfl, by rintro _ ⟨⟩⟩, trivial⟩
  now call state := meets_look fun _ _ => rfl
  postWebhook call state endpoint message := meets_look fun _ _ => rfl

theorem OutboxHandlerRegistry.handles {registry : OutboxHandlerRegistry}
    (each : ∀ entry ∈ registry.handlers, Handles stock ids entry.2) :
    Handles stock ids registry.handleOutboxMessage := by
  intro call message state
  rw [handleOutboxMessage]
  cases found : registry.handlers.lookup message.type with
  | none =>
    rintro _ ⟨⟩
  | some handler =>
    obtain ⟨key, inside⟩ : ∃ key, (key, handler) ∈ registry.handlers := by
      obtain ⟨front, back, whole, -⟩ := lookup_eq_some_iff.mp found
      exact ⟨message.type, by simp [whole]⟩
    exact each _ inside call message state

/-- The registry a dispatcher works with. -/
def lifecycleRegistry (webhook : Bool) : OutboxHandlerRegistry :=
  newLifecycleOutboxHandlerWithWebhook (if webhook then some webhookOutboxHandler else none)

theorem lifecycleRegistry_handles (webhook : Bool) :
    Handles stock ids (lifecycleRegistry webhook).handleOutboxMessage := by
  apply OutboxHandlerRegistry.handles
  intro entry inside
  cases webhook with
  | false =>
    obtain ⟨type, -, rfl⟩ := mem_map.mp inside
    exact noopOutboxHandler_handles
  | true =>
    obtain ⟨type, -, rfl⟩ := mem_map.mp inside
    exact handleWebhookMessage_handles webhookRepository_apart

end Handlers

section Replay

variable {state : State}

/-- The dead letters in the order in which they are tried. -/
def deadLetters (outbox : Table OutboxMessage) : List OutboxMessage :=
  (outbox.values.filter fun message =>
    decide (message.status = .deadLetter)).insertionSort fun a b =>
    CreatedBefore a.createdAt b.createdAt a.id b.id

theorem deadLetters_stored {outbox} (keyed : Table.KeyedBy OutboxMessage.id outbox) :
    ((deadLetters outbox).map OutboxMessage.id).Nodup ∧ ∀ message ∈ deadLetters outbox,
      outbox.lookup message.id = some message ∧ message.status = .deadLetter := by
  constructor
  · rw [deadLetters, ((perm_insertionSort _ _).map OutboxMessage.id).nodup_iff]
    exact keyed.nodup_values.sublist (filter_sublist.map _)
  · intro message listed
    obtain ⟨stored, dead⟩ := mem_filter.mp ((mem_insertionSort _).mp listed)
    obtain ⟨id, found⟩ := mem_values_iff.mp stored
    cases keyed id message found
    exact ⟨found, of_decide_eq_true dead⟩

/-- The messages that are made pending again, out of those that are listed. -/
def ReplayDeadLetterOutboxRequest.replays (req : ReplayDeadLetterOutboxRequest) (now : Time)
    (messages : List OutboxMessage) : List OutboxMessage :=
  ((messages.filter (decide <| req.selects ·)).take req.limit.toInt.toNat).map
    (outboxMessageForReplay · now)

theorem replays_concat {now messages} (item : OutboxMessage) :
      req.replays now (messages ++ [item]) =
        if ((req.replays now messages).length : Int) < req.limit.toInt ∧ req.selects item then
        req.replays now messages ++ [outboxMessageForReplay item now]
      else req.replays now messages := by
  simp only [ReplayDeadLetterOutboxRequest.replays, filter_append, length_map, length_take]
  by_cases selected : req.selects item
  · rw [filter_cons_of_pos (by simpa using selected), filter_nil, take_append, map_append]
    split
    · next room =>
      have left : [item].length ≤
          req.limit.toInt.toNat - (messages.filter (decide <| req.selects ·)).length := by
        rw [length_singleton]
        omega
      rw [take_of_length_le left, map_singleton]
    · next full =>
      have spent : req.limit.toInt.toNat - (messages.filter (decide <| req.selects ·)).length =
          0 := by
        by_contra left
        exact full ⟨by omega, selected⟩
      rw [spent, take_zero, map_nil, append_nil]
  · rw [filter_cons_of_neg (by simpa using selected), filter_nil, append_nil,
      if_neg fun both => selected both.2]

/-- Dead letters with different IDs can all be made pending again. -/
theorem replayMessages_eq {now messages} (distinct : (messages.map OutboxMessage.id).Nodup)
    (dead : ∀ message ∈ messages, before.db.outbox.lookup message.id = some message ∧
      message.status = .deadLetter) :
    replayMessages req now messages before = (.ok (req.replays now messages), { before with
      db := { before.db with
        outbox := insertAll OutboxMessage.id (req.replays now messages) before.db.outbox } }) := by
  let reached (done : List OutboxMessage) : Session := { before with db := { before.db with
    outbox := insertAll OutboxMessage.id (req.replays now done) before.db.outbox } }
  have looped : ∃ result t, replayMessages req now messages before = (.ok result, t) ∧
      result = req.replays now messages ∧ t = reached messages := by
    have empty : req.replays now [] = [] := by simp [ReplayDeadLetterOutboxRequest.replays]
    refine fold_succeeds (fun done result t => result = req.replays now done ∧ t = reached done)
      ⟨empty.symm, by simp [reached, empty, insertAll]⟩ ?_
    rintro done item _ _ ⟨rfl, rfl⟩ part
    have listed := dead item (part.subset (by simp))
    have grown := @replays_concat req now done item
    split at grown
    · next chosen =>
      refine ⟨_, reached (done ++ [item]), ite_ok_iff.mpr (.inl ⟨chosen, bind_ok_iff.mpr ⟨(), _,
        updateIfStatus_ok_iff.mpr ⟨⟨item, ?_, listed.2⟩, rfl⟩, pure_ok_iff.mpr ⟨rfl, ?_⟩⟩⟩),
        grown.symm, rfl⟩
      · refine (lookup_insertAll_of_notMem ?_).trans listed.1
        intro message inside same
        obtain ⟨old, there, rfl⟩ := mem_map.mp inside
        have nodup := distinct.sublist (part.sublist.map OutboxMessage.id)
        rw [map_append, nodup_append] at nodup
        exact nodup.2.2 _ (mem_map_of_mem (mem_of_mem_filter (mem_of_mem_take there))) _
          mem_cons_self same
      · simp [reached, grown, insertAll, foldl_append]
    · next kept =>
      exact ⟨_, _, ite_ok_iff.mpr (.inr ⟨kept, pure_ok_iff.mpr ⟨rfl, rfl⟩⟩), grown.symm,
        by simp only [reached, grown]⟩
  obtain ⟨_, _, run, rfl, rfl⟩ := looped
  exact run

theorem mem_replays {now messages} (inside : message ∈ req.replays now messages) :
    ∃ old ∈ messages, message = outboxMessageForReplay old now := by
  obtain ⟨old, there, rfl⟩ := mem_map.mp inside
  exact ⟨old, mem_of_mem_filter (mem_of_mem_take there), rfl⟩

theorem nodup_replays {now messages} (distinct : (messages.map OutboxMessage.id).Nodup) :
    ((req.replays now messages).map OutboxMessage.id).Nodup := by
  rw [ReplayDeadLetterOutboxRequest.replays, map_map]
  exact distinct.sublist (((take_sublist _ _).trans filter_sublist).map _)

/-- Audit events leave everything else alone. -/
theorem auditEvent_ok {action resourceType resourceID now fields}
    (run : s.createAuditEvent ctx actor action resourceType resourceID now fields before =
      (.ok u, after)) : ∃ log, after = ⟨{ before.db with audit := log }, before.drawn + 1⟩ := by
  obtain ⟨id, mid, drawn, run⟩ := bind_ok_iff.mp run
  cases drawn
  obtain ⟨log, -, rfl⟩ := createAuditEvent_ok run
  exact ⟨log, rfl⟩

theorem retryOutboxMessageTx_ok {currentStatus now}
    (run : s.retryOutboxMessageTx ctx actor message currentStatus now before = (.ok u, after)) :
    ∃ stored log, before.db.outbox.lookup message.id = some stored ∧ stored.status = currentStatus ∧
      after = ⟨{ before.db with
        outbox := before.db.outbox.insert message.id message, audit :=
          log }, before.drawn + 1⟩ := by
  obtain ⟨_, mid, updated, run⟩ := bind_ok_iff.mp run
  obtain ⟨⟨stored, found, status⟩, rfl⟩ := updateIfStatus_ok_iff.mp updated
  obtain ⟨log, rfl⟩ := auditEvent_ok run
  exact ⟨stored, log, found, status, rfl⟩

theorem retryOutboxMessage_meets (ctx : Context) (actor id : Text) :
    OutboxMeets stock ids call (s.retryOutboxMessage ctx actor id) (fun _ _ => True) state := by
  refine .seq meets_require ?_
  rintro _ _ - -
  refine .seq readClock_meets ?_
  rintro now t - ⟨front, reading, -, -⟩
  refine .seq (@meets_repo _ _ _ _ _ _ (fun message u =>
    Readout u.history call now front [] ∧ Stored u message message) _ (.query _) ?_) ?_
  · intro found finds message run
    obtain ⟨there, -⟩ := get_ok_iff.mp run
    cases finds.inv.keyed _ _ there
    exact ⟨reading.later finds.later.history finds.own, there, .refl _⟩
  rintro message u - ⟨reading, held⟩
  refine .seq meets_require ?_
  rintro _ _ - ⟨failed, rfl⟩
  refine .seq (@meets_withinTx _ _ _ _ _ _ (fun _ _ => True) _ _ ?_)
    fun _ _ _ _ => .pure trivial
  intro found finds _ after run
  obtain ⟨stored, log, there, status, rfl⟩ := retryOutboxMessageTx_ok run
  refine ⟨⟨⟨rfl, rfl, Nat.le_succ _⟩, rfl, rfl, ?_⟩, trivial⟩
  rintro left ⟨⟩
  refine ⟨_, rfl, .replayed (reading.later finds.later.history finds.own) ?_ (nodup_singleton _)⟩
  intro replayed inside
  cases mem_singleton.mp inside
  rw [← status] at failed
  exact ⟨message, stored, rfl, Stored.now ⟨_, held⟩ finds there, failed⟩

theorem replayDeadLettersTx_ok {now}
    (keyed : Table.KeyedBy OutboxMessage.id before.db.outbox)
    (run : s.replayDeadLetterOutboxMessagesTx ctx actor req now before = (.ok replayed, after)) :
    replayed = req.replays now (deadLetters before.db.outbox) ∧ ∃ log, after = ⟨{ before.db with
        outbox := insertAll OutboxMessage.id replayed before.db.outbox
        audit := log }, before.drawn + 2⟩ := by
  obtain ⟨_, mid, listed, run⟩ := bind_ok_iff.mp run
  obtain ⟨⟨⟩, rfl⟩ := query_ok_iff.mp listed
  obtain ⟨result, mid, looped, run⟩ := bind_ok_iff.mp run
  obtain ⟨distinct, dead⟩ := deadLetters_stored keyed
  obtain ⟨⟨⟩, rfl⟩ := Prod.mk.inj ((replayMessages_eq distinct dead).symm.trans looped)
  obtain ⟨resourceID, mid, drawn, run⟩ := bind_ok_iff.mp run
  obtain ⟨-, rfl⟩ := Prod.mk.inj drawn
  obtain ⟨_, mid, audited, run⟩ := bind_ok_iff.mp run
  obtain ⟨log, rfl⟩ := auditEvent_ok audited
  obtain ⟨rfl, rfl⟩ := pure_ok_iff.mp run
  exact ⟨rfl, log, rfl⟩

theorem replayDeadLetters_meets (ctx : Context) (actor : Text)
    (req : ReplayDeadLetterOutboxRequest) :
    OutboxMeets stock ids call (s.replayDeadLetterOutboxMessages ctx actor req) (fun _ _ => True)
      state := by
  refine .seq meets_require ?_
  rintro _ _ - -
  refine .seq readClock_meets ?_
  rintro now t - ⟨front, reading, -, -⟩
  refine meets_withinTx ?_
  intro found finds replayed after run
  obtain ⟨rfl, log, rfl⟩ := replayDeadLettersTx_ok finds.inv.keyed run
  obtain ⟨distinct, listed⟩ := deadLetters_stored finds.inv.keyed
  refine ⟨⟨⟨rfl, rfl, Nat.le_add_right _ 2⟩, rfl, rfl, ?_⟩, trivial⟩
  rintro left ⟨⟩
  refine ⟨_, rfl, .replayed (reading.later finds.later.history finds.own)
    ?_ (nodup_replays distinct)⟩
  intro message inside
  obtain ⟨old, there, rfl⟩ := mem_replays inside
  exact ⟨old, old, rfl, ⟨(listed old there).1, .refl _⟩, .inl (listed old there).2⟩

end Replay

/-- The calls of the dispatchers and of those who replay messages. -/
inductive OutboxTask where
  | runOnce (webhook : Bool) (limit : Int64)
  | retryOutboxMessage (ctx : Context) (actor id : Text)
  | replayDeadLetterOutboxMessages (ctx : Context) (actor : Text)
      (req : ReplayDeadLetterOutboxRequest)

def Service.startOutboxTask (s : Service) : OutboxTask → Prog World Oracle Event Unit
  | .runOnce webhook limit =>
    (s.runOnce (lifecycleRegistry webhook).handleOutboxMessage limit).forget
  | .retryOutboxMessage ctx actor id => (s.retryOutboxMessage ctx actor id).forget
  | .replayDeadLetterOutboxMessages ctx actor req =>
    (s.replayDeadLetterOutboxMessages ctx actor req).forget

/-- Dispatchers beside the lifecycle; the endpoints of the webhooks change on their own. -/
def Service.outboxExtension (s : Service) : Extension where
  Task := OutboxTask
  start _ := s.startOutboxTask
  Elsewhere := Table NotificationEndpoint
  elsewhere endpoints world := some { world with
    db := { world.db with annex := { world.db.annex with notifications := endpoints } } }

/-- The lifecycle with its outbox. -/
@[reducible] def Service.outboxSystem (s : Service) : System World Oracle Event :=
  s.extended s.outboxExtension

theorem OutboxMeets.forget {op : Op α} {post} (meets : OutboxMeets stock ids call op post state) :
    op.forget.Meets ((outboxRegime s stock ids).discipline ids) call (fun _ _ => True) state :=
  Prog.Meets.bind (Prog.Meets.mono meets fun _ _ _ _ => trivial)

theorem Service.outboxSystem_keeps (s : Service) (stock : Stock) (ids : s.FreshIDs) :
    s.outboxSystem.Keeps ((outboxRegime s stock ids).discipline ids) := by
  apply keeps
  · intro node task number state _
    cases task with
    | runOnce webhook limit =>
      exact (runOnce_meets (lifecycleRegistry_handles webhook) limit).forget
    | retryOutboxMessage ctx actor id => exact (retryOutboxMessage_meets ctx actor id).forget
    | replayDeadLetterOutboxMessages ctx actor req =>
      exact (replayDeadLetters_meets ctx actor req).forget
  · intro endpoints state world moved
    cases moved
    exact ⟨endpoints, rfl⟩

end AnoPki.Lifecycle
