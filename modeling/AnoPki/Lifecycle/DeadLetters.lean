import AnoPki.Lifecycle.OutboxOperations
import AnoPki.Lifecycle.Deployment

/-! # Dead letters that are sent again

A call of `ReplayDeadLetterOutboxMessages` that finds a store: which messages it makes pending, and
when it panics. -/
namespace AnoPki.Lifecycle

open Foundation Domain Store Tx

abbrev ReplayDeadLetterOutboxRequest.Refused (req : ReplayDeadLetterOutboxRequest) : Prop :=
  isBlank req.eventType ∨ req.createdFrom.isZero ∨ req.createdTo.isZero ∨
    req.createdTo.before req.createdFrom ∨ req.limit ≤ 0

/-- A call that finds a store, and how it ends: there is no answer if it panics. The slice for the
messages is made before the transaction, and `make` panics if its bytes exceed the address space. -/
def Service.replayDeadLetters (s : Service) (space messageSize : Nat) (ctx : Context) (actor : Text)
    (req : ReplayDeadLetterOutboxRequest) (now : Time) (answer : Oracle) (world : World) :
    Option (Except Err (List OutboxMessage) × World) :=
  if req.Refused then some (.error (ErrKind.err .invalidRequest), world)
  else if space < messageSize * req.limit.toInt.toNat then none
  else some (runTx (s.replayDeadLetterOutboxMessagesTx ctx actor req now) answer world)

/-- The first dead letters that the request selects, as many as its limit allows, are pending, and
the other messages are as they were. -/
def Replays (req : ReplayDeadLetterOutboxRequest) (now : Time) (before after : Table OutboxMessage)
    (replayed : List OutboxMessage) : Prop :=
  ∃ matching : List OutboxMessage,
    matching.Pairwise (fun a b => CreatedBefore a.createdAt b.createdAt a.id b.id) ∧
    matching.Perm (before.values.filter fun message =>
      decide (message.status = .deadLetter ∧ req.selects message)) ∧
    replayed = (matching.take req.limit.toInt.toNat).map (outboxMessageForReplay · now) ∧
    (∀ message ∈ replayed, after.lookup message.id = some message) ∧
    ∀ id, (∀ message ∈ replayed, message.id ≠ id) → after.lookup id = before.lookup id

/-- The call ends. It has replayed the messages, or it has changed nothing, and it succeeds unless
the repository fails or the audit log has no room. -/
def ReplayCompletes (req : ReplayDeadLetterOutboxRequest) (now : Time)
    (answer : Oracle) (world : World) (outcome : Option (Except Err (List OutboxMessage) × World)) :
    Prop :=
  ∃ result after, outcome = some (result, after) ∧
    (∀ replayed, result = .ok replayed → Replays req now world.db.outbox after.db.outbox replayed) ∧
    (∀ err, result = .error err → after.db = world.db) ∧
    (answer.storage = none → world.db.audit.Open 1 → ∃ replayed, result = .ok replayed)

section Replay

variable {s : Service} {ctx : Context} {actor : Text}
  {req : ReplayDeadLetterOutboxRequest} {now : Time} {before after : Session}
   {replayed : List OutboxMessage}

theorem deadLetters_ordered (outbox : Table OutboxMessage) : (deadLetters outbox).Pairwise
    fun a b => CreatedBefore a.createdAt b.createdAt a.id b.id := by
  have total : Std.Total fun a b : OutboxMessage =>
      CreatedBefore a.createdAt b.createdAt a.id b.id := by
    refine ⟨fun a b => ?_⟩
    have ids := le_total a.id b.id
    grind [CreatedBefore]
  have trans : IsTrans _ fun a b : OutboxMessage =>
      CreatedBefore a.createdAt b.createdAt a.id b.id := by
    refine ⟨fun a b c => ?_⟩
    have ids := @le_trans _ _ a.id b.id c.id
    grind [CreatedBefore]
  exact List.pairwise_insertionSort _ _

theorem replays_of_ok (keyed : Table.KeyedBy OutboxMessage.id before.db.outbox)
    (run : s.replayDeadLetterOutboxMessagesTx ctx actor req now before = (.ok replayed, after)) :
    Replays req now before.db.outbox after.db.outbox replayed := by
  obtain ⟨rfl, log, rfl⟩ := replayDeadLettersTx_ok keyed run
  refine ⟨(deadLetters before.db.outbox).filter (decide <| req.selects ·),
    (deadLetters_ordered _).filter _, ?_, rfl, fun message inside => ?_, fun id other => ?_⟩
  · refine ((List.perm_insertionSort _ _).filter _).trans ?_
    rw [List.filter_filter]
    simp only [Bool.decide_and, Bool.and_comm]
    exact .refl _
  · exact Table.lookup_insertAll_of_mem (nodup_replays (deadLetters_stored keyed).1) inside
  · exact Table.lookup_insertAll_of_notMem other

theorem replayTx_succeeds (keyed : Table.KeyedBy OutboxMessage.id before.db.outbox)
    (isOpen : before.db.audit.Open 1) : ∃ replayed after,
      s.replayDeadLetterOutboxMessagesTx ctx actor req now before = (.ok replayed, after) := by
  obtain ⟨distinct, dead⟩ := deadLetters_stored keyed
  have accepted (pairs : List (Text × Text)) (id : Text) {mid : Session}
      (isOpen : mid.db.audit.Open 1) :=
    createAuditEvent_succeeds s ctx actor "outbox.bulk_replay_requested" "outbox_messages" id now
      (Fields.Flat.auditFields pairs) isOpen
  choose log _ audited using accepted
  refine ⟨_, _, bind_ok_iff.mpr ⟨deadLetters before.db.outbox, before, query_ok_iff.mpr ⟨rfl, rfl⟩,
    bind_ok_iff.mpr ⟨_, _, replayMessages_eq distinct dead,
      bind_ok_iff.mpr ⟨s.idgen before.drawn, _, rfl,
        bind_ok_iff.mpr ⟨(), _, audited _ _ ?_, pure_ok_iff.mpr ⟨rfl, rfl⟩⟩⟩⟩⟩⟩
  exact isOpen

end Replay

/-- A call with an accepted request replays the right messages if and only if the slice fits. -/
theorem replayDeadLetters_completes_iff (s : Service) (space messageSize : Nat) (ctx : Context)
    (actor : Text) (req : ReplayDeadLetterOutboxRequest) (now : Time)
    (answer : Oracle) (world : World) (keyed : Table.KeyedBy OutboxMessage.id world.db.outbox)
    (accepted : ¬ req.Refused) : ReplayCompletes req now answer world
        (s.replayDeadLetters space messageSize ctx actor req now answer world) ↔
      messageSize * req.limit.toInt.toNat ≤ space := by
  rw [Service.replayDeadLetters, if_neg accepted]
  constructor
  · rintro ⟨result, after, ends, -⟩
    by_contra wide
    rw [if_pos (not_le.mp wide)] at ends
    cases ends
  · intro fits
    rw [if_neg (not_lt.mpr fits)]
    cases run : runTx (s.replayDeadLetterOutboxMessagesTx ctx actor req now) answer world with
    | mk result after =>
      refine ⟨result, after, rfl, ?_⟩
      rcases runTx_cases run with ⟨err, drawn, rfl, -, rfl, -⟩ | ⟨replayed, done, rfl, body, rfl⟩
      · refine ⟨nofun, fun _ _ => rfl, fun works isOpen => ?_⟩
        obtain ⟨replayed, after, body⟩ :=
          @replayTx_succeeds s ctx actor req now ⟨world.db, world.drawn⟩ keyed isOpen
        rw [runTx, works, body] at run
        cases run
      · refine ⟨?_, nofun, fun _ _ => ⟨replayed, rfl⟩⟩
        rintro _ ⟨⟩
        exact replays_of_ok keyed body

/-- A message that was given up. -/
def deadMessage (id : Text) : OutboxMessage where
  id := id
  type := "certificate.revoked"
  payloadJSON := "\x7b\x7d"
  status := .deadLetter
  availableAt := Time.zero
  maxAttempts := 5
  createdAt := newYear
  updatedAt := Time.zero

/-- A store with three of them. -/
def deadWorld : World :=
  { newWorld with
    db := { newWorld.db with
      outbox := Table.insertAll OutboxMessage.id
        [deadMessage "a", deadMessage "b", deadMessage "c"] ∅ } }

def replayRequest (limit : Int64) : ReplayDeadLetterOutboxRequest where
  eventType := "certificate.revoked"
  createdFrom := newYear
  createdTo := newYear
  limit := limit

/-- Two of the three messages, of 192 bytes each, are sent again. -/
theorem deadMessages_replay : ReplayCompletes (replayRequest 2) newYear .working deadWorld
    (smallService.replayDeadLetters (2 ^ 48) 192 {} "admin" (replayRequest 2) newYear .working
      deadWorld) :=
  (replayDeadLetters_completes_iff _ _ _ _ _ _ _ _ _
    ((((@Table.KeyedBy.empty _ OutboxMessage.id).insert (deadMessage "a")).insert
      (deadMessage "b")).insert (deadMessage "c")) (by decide)).mpr (by decide)

/-- A slice of the widest limit cannot be made. -/
theorem widest_limit_panics : ¬ (replayRequest Int64.maxValue).Refused ∧
    smallService.replayDeadLetters (2 ^ 48) 192 {} "admin" (replayRequest Int64.maxValue) newYear
      .working deadWorld = none := by
  decide

end AnoPki.Lifecycle
