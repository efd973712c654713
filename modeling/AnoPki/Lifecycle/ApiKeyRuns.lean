import AnoPki.Foundation.Running
import AnoPki.Lifecycle.ApiKeys
import AnoPki.Lifecycle.Deployment

/-! # API keys over whole runs

Keys are used, disabled and rotated beside the lifecycle calls. Authentication writes back a record
that it read some steps before; the write finds the key active or fails, so it brings back no key
that was disabled in between. -/
namespace AnoPki.Lifecycle

open Foundation Domain Store Table Option Shelf Tx Regime

variable {id : Text} {key : APIKey} {table : Table APIKey} {token : Text} {a b stored : APIKey}
  {tokenHash : Text} {read : APIKey}

/-- The calls about API keys. -/
inductive APIKeyTask where
  | authenticate (token : Text)
  | disable (ctx : Context) (actor id : Text)
  | rotate (ctx : Context) (actor id : Text)

def Service.startAPIKeyTask (s : Service) : APIKeyTask → Prog World Oracle Event Unit
  | .authenticate token => (s.authenticateAPIKey token).forget
  | .disable ctx actor id => (s.disableAPIKey ctx actor id).forget
  | .rotate ctx actor id => (s.rotateAPIKey ctx actor id).forget

@[reducible] def Service.apiKeyExtension (s : Service) : Extension where
  Task := APIKeyTask
  start _ task := s.startAPIKeyTask task
  Elsewhere := Empty
  elsewhere change := change.elim

/-- The service with the calls about API keys. -/
abbrev Service.apiKeySystem (s : Service) : System World Oracle Event :=
  s.extended s.apiKeyExtension

abbrev keys (state : State) : Table APIKey := state.world.db.annex.apiKeys

/-- Two versions of a key. -/
def APIKeySame (before after : APIKey) : Prop :=
  after = { before with
    status := after.status
    lastUsedAt := after.lastUsedAt
    updatedAt := after.updatedAt }

/-- What a step does to the keys, with the event it leaves. -/
inductive KeyStep (s : Service) (before : State) (drawn : Nat) : Option Event → Table APIKey → Prop
  | still : KeyStep s before drawn none (keys before)
  | authenticated {stored key : APIKey} (found : (keys before).lookup key.id = some stored)
      (active : stored.status = .active) (same : APIKeySame stored key)
      (stays : key.status = .active) (unexpired : ¬ APIKeyExpired key key.lastUsedAt)
      (past : key.lastUsedAt.nanos ≤ before.world.clock.nanos) :
      KeyStep s before drawn (some (.apiKey (.authenticated key))) ((keys before).insert key.id key)
  | disabled {stored key : APIKey} (found : (keys before).lookup key.id = some stored)
      (active : stored.status = .active) (same : APIKeySame stored key)
      (ended : key.status = .disabled) :
      KeyStep s before drawn (some (.apiKey (.disabled key))) ((keys before).insert key.id key)
  | rotated {stored oldKey : APIKey} {number : Nat} {tokenHash : Text} {now : Time}
      (fresh : Drawn before.world.drawn drawn number)
      (found : (keys before).lookup oldKey.id = some stored) (active : stored.status = .active)
      (same : APIKeySame stored oldKey) (ended : oldKey.status = .disabled)
      (unexpired : ¬ APIKeyExpired stored now) (past : now.nanos ≤ before.world.clock.nanos) :
      KeyStep s before drawn
        (some (.apiKey (.rotated oldKey (successorKey (s.idgen number) oldKey tokenHash now))))
        (((keys before).insert oldKey.id oldKey).insert (s.idgen number)
          (successorKey (s.idgen number) oldKey tokenHash now))

/-- The keys are kept under IDs that were given out. -/
structure KeysKept (s : Service) (drawn : Nat) (table : Table APIKey) : Prop where
  keyed : Table.KeyedBy APIKey.id table
  given : GivenOut s drawn table

theorem APIKeySame.refl (key : APIKey) : APIKeySame key key := rfl

theorem APIKeySame.trans {c} (first : APIKeySame a b) (second : APIKeySame b c) :
    APIKeySame a c := by
  rw [APIKeySame] at *
  rw [second, first]

theorem APIKeySame.symm (same : APIKeySame a b) : APIKeySame b a := by
  rw [APIKeySame] at *
  rw [same]

section Steps

variable {s : Service} {before : State} {drawn : Nat} {event : Option Event} {after : Table APIKey}

theorem KeysKept.mono {drawn drawn' : Nat} (kept : KeysKept s drawn table) (more : drawn ≤ drawn') :
    KeysKept s drawn' table :=
  ⟨kept.keyed, kept.given.mono more⟩

theorem KeysKept.step (kept : KeysKept s before.world.drawn (keys before))
    (more : before.world.drawn ≤ drawn) (step : KeyStep s before drawn event after) :
    KeysKept s drawn after := by
  cases step with
  | still => exact kept.mono more
  | authenticated found | disabled found =>
    exact ⟨kept.keyed.insert _, (kept.given.insert (kept.given _ _ found)).mono more⟩
  | @rotated stored oldKey number tokenHash now fresh found =>
    have ended : GivenOut s drawn ((keys before).insert oldKey.id oldKey) :=
      (kept.given.insert (kept.given _ _ found)).mono more
    exact ⟨@Table.KeyedBy.insert _ APIKey.id _ (kept.keyed.insert oldKey)
      (successorKey _ oldKey _ now), ended.insert ⟨number, fresh.2, rfl⟩⟩

/-- A key that is written in the place of a version of itself. -/
theorem grows_same (found : table.lookup key.id = some stored) (same : APIKeySame stored key) :
    Table.Grows APIKeySame table (table.insert key.id key) :=
  .replace APIKeySame.refl found same

/-- Keys are never removed, and keep what they were created with. -/
theorem KeyStep.grows (ids : s.FreshIDs) (kept : KeysKept s before.world.drawn (keys before))
    (step : KeyStep s before drawn event after) : Table.Grows APIKeySame (keys before) after := by
  cases step with
  | still => exact .refl APIKeySame.refl _
  | authenticated found _ same | disabled found _ same => exact grows_same found same
  | @rotated stored oldKey number _ _ fresh found _ same =>
    refine (grows_same found same).trans APIKeySame.trans (.insert APIKeySame.refl ?_)
    intro other there
    rw [lookup_insert_eq, kept.given.fresh ids fresh.1] at there
    split at there
    · next here =>
      rw [← here, kept.given.fresh ids fresh.1] at found
      cases found
    · cases there

end Steps

section Transactions

variable {s : Service} {before : State} {after : Session} {ctx : Context}
  {actor : Text} {now : Time}

/-- What the transactions about keys do: the ledger is left alone. -/
structure KeyTx (s : Service) (before : State) (event : Event) (after : Session) : Prop where
  ledger : Ledger.of after.db = ledger before
  forward : before.world.drawn ≤ after.drawn
  step : KeyStep s before after.drawn (some event) after.db.annex.apiKeys

theorem getAPIKeyByTokenHash_ok {t t'} (run : getAPIKeyByTokenHash tokenHash t = (.ok key, t')) :
    key ∈ t.db.annex.apiKeys.values ∧ key.tokenHash = tokenHash ∧ t = t' := by
  obtain ⟨look, same⟩ := query_ok_iff.mp run
  split at look
  · next found =>
    cases look
    exact ⟨List.mem_of_find?_eq_some found, by simpa using List.find?_some found, same⟩
  · cases look

/-- The key that was read is written back: it has been active all along. -/
theorem updateUsed_step {u} (active : read.status = .active)
    (unexpired : ¬ APIKeyExpired read now) (past : now.nanos ≤ before.world.clock.nanos)
    (there : ∃ stored, (keys before).lookup read.id = some stored ∧ APIKeySame read stored)
    (run : updateAPIKeyIfStatus (usedAPIKey read now) .active (session before) = (.ok u, after)) :
    KeyTx s before (.apiKey (.authenticated (usedAPIKey read now))) after := by
  obtain ⟨⟨stored, found, still⟩, rfl⟩ := updateIfStatus_ok_iff.mp run
  obtain ⟨other, here, same⟩ := there
  cases mem_unique found here
  refine ⟨rfl, le_refl _, ?_⟩
  exact .authenticated found still (same.symm.trans rfl) active unexpired past

theorem disableAPIKeyTx_step (kept : KeysKept s before.world.drawn (keys before))
    (run : s.disableAPIKeyTx ctx actor id now (session before) = (.ok key, after)) :
    KeyTx s before (.apiKey (.disabled key)) after := by
  simp only [Service.disableAPIKeyTx, bind_ok_iff, getAPIKey, get_ok_iff, require_ok_iff,
    pure_ok_iff] at run
  obtain ⟨stored, _, ⟨found, rfl⟩, ⟨⟩, _, ⟨active, rfl⟩, ⟨⟩, _, updated, ⟨⟩, _, audited,
    rfl, rfl⟩ := run
  obtain ⟨-, rfl⟩ := updateIfStatus_ok_iff.mp updated
  obtain ⟨event, -, told, same⟩ := auditEvent_told audited
  refine ⟨same, told.forward, ?_⟩
  rw [told.annex]
  have own : stored.id = id := kept.keyed _ _ found
  exact @KeyStep.disabled s before _ stored { stored with status := .disabled, updatedAt := now }
    (own ▸ found) active rfl rfl

theorem rotateAPIKeyTx_step (kept : KeysKept s before.world.drawn (keys before))
    {stored} (past : now.nanos ≤ before.world.clock.nanos)
    (run : s.rotateAPIKeyTx ctx actor id token now (session before) = (.ok stored, after)) :
    KeyTx s before (.apiKey (.rotated stored.1 stored.2)) after := by
  simp only [Service.rotateAPIKeyTx, bind_ok_iff, getAPIKey, get_ok_iff, require_ok_iff,
    newID_ok_iff, createAPIKey, write_ok_iff, pure_ok_iff] at run
  obtain ⟨current, _, ⟨found, rfl⟩, ⟨⟩, _, ⟨fit, rfl⟩, ⟨⟩, _, updated, _, _, ⟨rfl, rfl⟩,
    ⟨⟩, _, rfl, ⟨⟩, _, audited, rfl, rfl⟩ := run
  obtain ⟨-, rfl⟩ := updateIfStatus_ok_iff.mp updated
  obtain ⟨event, -, told, same⟩ := auditEvent_told audited
  obtain ⟨active, unexpired⟩ := not_or.mp fit
  refine ⟨same, (Nat.le_succ _).trans told.forward, ?_⟩
  rw [told.annex]
  have own : current.id = id := kept.keyed _ _ found
  exact @KeyStep.rotated s before _ current { current with
    status := .disabled, updatedAt :=
      now } _ _ now ⟨le_refl _, told.forward⟩ (own ▸ found) (not_not.mp active)
        rfl rfl unexpired past

end Transactions

section Keeping

variable {s : Service}

/-- A step leaves the ledger alone and does what it may to the keys. -/
structure KeyChange (s : Service) (call : Nat) (before : State) (event : Option Event)
    (world : World) : Prop extends Framed before world where
  step : KeyStep s before world.drawn event world.db.annex.apiKeys

/-- Nothing is done beside the steps. -/
theorem framed_of_nothing {before world} (impossible : False) : Framed before world :=
  impossible.elim

/-- The work on the API keys. -/
def apiKeyRegime (ids : s.FreshIDs) : Regime s where
  inv state := KeysKept s state.world.drawn (keys state)
  step := KeyChange s
  aside _ _ := False
  later before after := Table.Grows APIKeySame (keys before) (keys after)
  later_refl _ := .refl APIKeySame.refl _
  later_trans one two := one.trans APIKeySame.trans two
  idle more _ := ⟨⟨rfl, rfl, more⟩, .still⟩
  step_framed change := change.toFramed
  step_event := by
    rintro call before event world ⟨-, step⟩ started rfl
    cases step
  aside_framed impossible := framed_of_nothing impossible
  lifecycle_keeps := by
    rintro call before event world - kept - ⟨report, told, -⟩
    have same : world.db.annex = before.world.db.annex := told.annex
    constructor
    · change KeysKept s world.drawn world.db.annex.apiKeys
      rw [same]
      exact kept.mono told.forward
    · change Table.Grows APIKeySame (keys before) world.db.annex.apiKeys
      rw [same]
      exact .refl APIKeySame.refl _
  step_keeps _ kept change := ⟨kept.step change.forward change.step, change.step.grows ids kept⟩
  outer_keeps := by
    intro before after kept outer
    rw [keys, keys, outer.annex, outer.drawn]
    exact ⟨kept, .refl APIKeySame.refl _⟩
  started_keeps := by
    rintro before after kept ⟨number, -, rfl⟩
    exact ⟨kept, .refl APIKeySame.refl _⟩
  aside_keeps _ _ impossible := impossible.elim

variable {ids : s.FreshIDs} {call : Nat} {α : Type} {state : State} {ctx : Context} {actor : Text}

/-- The operation keeps to the steps of the keys. -/
abbrev KeyMeets (ids : s.FreshIDs) (call : Nat) (op : Op α) (post : α → State → Prop)
    (state : State) : Prop :=
  Prog.MeetsOk ((apiKeyRegime ids).discipline ids) call op post state

theorem KeyMeets.forget {op : Op α} {post} (meets : KeyMeets ids call op post state) :
    op.forget.Meets ((apiKeyRegime ids).discipline ids) call (fun _ _ => True) state :=
  Prog.Meets.bind (Prog.Meets.mono meets fun _ _ _ _ => trivial)

/-- A version of the key is stored. -/
def KeyThere (read : APIKey) (state : State) : Prop :=
  ∃ stored, (keys state).lookup read.id = some stored ∧ APIKeySame read stored

theorem KeyThere.later {state later} (there : KeyThere read state)
    (grows : Table.Grows APIKeySame (keys state) (keys later)) : KeyThere read later := by
  exact grows.held .trans there

theorem getAPIKeyByTokenHash_meets :
    KeyMeets ids call (repo (getAPIKeyByTokenHash tokenHash)) KeyThere state := by
  refine meets_repo (.query _) fun now finds key run => ?_
  obtain ⟨member, -, -⟩ := getAPIKeyByTokenHash_ok run
  obtain ⟨id, found⟩ := mem_values_iff.mp member
  have own : key.id = id := finds.inv.keyed _ _ found
  exact ⟨key, own ▸ found, .refl key⟩

theorem getAPIKeyByToken_meets : KeyMeets ids call (s.getAPIKeyByToken token) KeyThere state := by
  refine .ite (fun _ => ?_) fun _ => getAPIKeyByTokenHash_meets
  refine .seq (.attempt getAPIKeyByTokenHash_meets) fun found t _ there => ?_
  cases found with
  | ok key => exact .pure (there key rfl)
  | error err => exact .ite (fun _ => getAPIKeyByTokenHash_meets) fun _ => by rintro _ ⟨⟩

theorem clock_meets :
    KeyMeets ids call Op.now (fun time t => time.nanos ≤ t.world.clock.nanos) state := by
  refine meets_still (fun _ _ => rfl) fun now finds answer value read => ?_
  cases read
  exact ⟨idle _ le_rfl finds.inv, le_refl _⟩

/-- A transaction that does a step of the keys. -/
theorem keyTx_meets {body} {event : α → Event}
    (steps : ∀ (now : State), (apiKeyRegime ids).Finds call state now → ∀ value after,
      body (session now) = (.ok value, after) → KeyTx s now (event value) after) :
    KeyMeets ids call (withinTx body fun value => some (event value)) (fun _ _ => True) state := by
  refine meets_withinTx fun now finds value after run => ⟨?_, trivial⟩
  have tx := steps now finds value after run
  exact ⟨⟨tx.ledger, rfl, tx.forward⟩, tx.step⟩

theorem authenticateAPIKey_meets :
    KeyMeets ids call (s.authenticateAPIKey token) (fun _ _ => True) state := by
  refine .seq meets_require fun _ _ _ _ => ?_
  refine .seq (.attempt getAPIKeyByToken_meets) fun found _ _ there => ?_
  refine .seq .computed fun key t _ given => ?_
  obtain ⟨given, rfl⟩ := given
  have there : KeyThere key t := by
    cases found with
    | error err => cases given
    | ok read =>
      obtain rfl := Except.ok.inj given
      exact there read rfl
  refine .seq meets_require fun _ _ _ fit => ?_
  obtain ⟨fit, rfl⟩ := fit
  refine .seq meets_require fun _ _ _ named => ?_
  obtain ⟨-, rfl⟩ := named
  refine .seq clock_meets fun time t' since past => ?_
  refine .seq meets_require fun _ _ _ unexpired => ?_
  obtain ⟨unexpired, rfl⟩ := unexpired
  refine .seq (.attempt (keyTx_meets fun now finds _ after run => ?_)) fun _ _ _ _ => ?_
  · exact updateUsed_step (not_not.mp (not_or.mp fit).1) unexpired (past.trans finds.later.clock)
      ((there.later since.2).later finds.relies) run
  · exact .seq .computed fun _ _ _ _ => .pure trivial

theorem disableAPIKey_meets :
    KeyMeets ids call (s.disableAPIKey ctx actor id) (fun _ _ => True) state := by
  refine .seq meets_require fun _ _ _ _ => ?_
  refine .seq clock_meets fun _ _ _ _ => ?_
  exact keyTx_meets fun _ finds _ _ run => disableAPIKeyTx_step finds.inv run

theorem rotateAPIKey_meets :
    KeyMeets ids call (s.rotateAPIKey ctx actor id) (fun _ _ => True) state := by
  refine .seq meets_require fun _ _ _ _ => ?_
  refine .seq (meets_look fun _ _ => rfl) fun token _ _ _ => ?_
  refine .seq clock_meets fun now _ _ past => ?_
  refine .seq (keyTx_meets fun _ finds _ _ run => ?_) fun _ _ _ _ => .pure trivial
  exact rotateAPIKeyTx_step finds.inv (past.trans finds.later.clock) run

/-- The service with the calls about API keys keeps to its steps. -/
theorem Service.apiKeySystem_keeps (ids : s.FreshIDs) :
    s.apiKeySystem.Keeps ((apiKeyRegime ids).discipline ids) := by
  refine (apiKeyRegime ids).keeps ids ?_ fun change => change.elim
  intro node task number state _
  cases task with
  | authenticate token => exact KeyMeets.forget authenticateAPIKey_meets
  | disable ctx actor id => exact KeyMeets.forget disableAPIKey_meets
  | rotate ctx actor id => exact KeyMeets.forget rotateAPIKey_meets

end Keeping

section Program

variable {s : Service} {token tokenHash : Text} {events : List Event}

/-- The hash is one of the token's, with the pepper or without. -/
def Service.HashOf (s : Service) (token tokenHash : Text) : Prop :=
  tokenHash = s.hashAPIKeyToken token ∨ tokenHash = Lifecycle.hashAPIKeyToken token

/-- Only a key that has a hash of the token is authenticated. -/
def AuthenticatesBy (s : Service) (token : Text) (_events : List Event) (_before : World)
    (event : Option Event) (_after : World) : Prop :=
  ∀ key, event = some (.apiKey (.authenticated key)) → s.HashOf token key.tokenHash

/-- Nothing was left, and a result is a key with one of the token's hashes. -/
def FoundBy (s : Service) (token : Text) (events later : List Event)
    (result : Except Err APIKey) : Prop :=
  later = events ∧ ∀ key, result = .ok key → s.HashOf token key.tokenHash

/-- A step that leaves no event. -/
theorem obeys_quietly {α : Type} {act} {post : List Event → Except Err α → Prop}
    (ends : ∀ answer world result after, act answer world = (result, after) → post events result) :
    (Op.atomic act fun _ => none).run.Obeys (AuthenticatesBy s token) post events := by
  intro answer world result after acts
  have silent : result.toOption.bind (fun _ => (none : Option Event)) = none := by
    cases result <;> rfl
  constructor
  · intro key left
    change result.toOption.bind (fun _ => none) = _ at left
    rw [silent] at left
    cases left
  · change post (events ++ (result.toOption.bind fun _ => none).toList) result
    rw [silent, toList_none, List.append_nil]
    exact ends answer world result after (Option.some.inj acts)

theorem getAPIKeyByTokenHash_obeys (hashed : s.HashOf token tokenHash) :
    (repo (getAPIKeyByTokenHash tokenHash)).run.Obeys (AuthenticatesBy s token)
      (FoundBy s token events) events := by
  refine obeys_quietly fun answer world result after run => ⟨rfl, ?_⟩
  rintro key rfl
  rcases runTx_cases run with ⟨_, _, ⟨⟩, -⟩ | ⟨_, t, ⟨⟩, found, -⟩
  rw [(getAPIKeyByTokenHash_ok found).2.1]
  exact hashed

theorem getAPIKeyByToken_obeys : (s.getAPIKeyByToken token).run.Obeys (AuthenticatesBy s token)
    (FoundBy s token events) events := by
  have plain := @getAPIKeyByTokenHash_obeys s token _ events (.inr rfl)
  rw [Service.getAPIKeyByToken]
  split
  · refine .seq (.bind ((getAPIKeyByTokenHash_obeys (.inl rfl)).mono ?_))
    rintro later found ⟨rfl, hashed⟩
    refine ⟨by rintro _ ⟨⟩, ?_⟩
    rintro _ ⟨⟩
    cases found with
    | ok key => exact ⟨rfl, by rintro _ ⟨⟩; exact hashed key rfl⟩
    | error err =>
      dsimp only
      split
      · exact plain
      · exact ⟨rfl, by rintro _ ⟨⟩⟩
  · exact plain

/-- What a result that was computed before is used for. -/
theorem obeys_computed {α β : Type} {outcome} {rest : α → Op β} {post}
    (stops : ∀ err, outcome = .error err → post events (.error err))
    (continues : ∀ value, outcome = .ok value →
      (rest value).run.Obeys (AuthenticatesBy s token) post events) :
    (Op.ofExcept outcome >>= rest).run.Obeys (AuthenticatesBy s token) post events :=
  .seq ⟨stops, continues⟩

/-- What a call for authentication leaves: the event of the key that it returns. -/
def authenticationEvents (result : Except Err APIKey) : List Event :=
  (result.toOption.map fun key => Event.apiKey (.authenticated key)).toList

/-- A call that succeeds has left the event of the key it returns, and one that fails has left
none. -/
theorem authenticateAPIKey_obeys : (s.authenticateAPIKey token).run.Obeys
    (AuthenticatesBy s token.trimSpace)
    (fun events result => events = authenticationEvents result) [] := by
  refine obeys_computed (fun _ _ => rfl) fun _ _ => ?_
  refine .seq (.bind (getAPIKeyByToken_obeys.mono ?_))
  rintro _ found ⟨rfl, hashed⟩
  refine ⟨by rintro _ ⟨⟩, ?_⟩
  rintro _ ⟨⟩
  refine obeys_computed (fun _ _ => rfl) fun key given => ?_
  have hashed : s.HashOf token.trimSpace key.tokenHash := by
    cases found with
    | error err => cases given
    | ok read =>
      obtain rfl := Except.ok.inj given
      exact hashed read rfl
  refine obeys_computed (fun _ _ => rfl) fun _ _ => ?_
  refine obeys_computed (fun _ _ => rfl) fun _ _ => ?_
  refine .seq (obeys_quietly ?_)
  rintro answer world result after -
  refine ⟨fun _ _ => rfl, ?_⟩
  rintro now rfl
  refine obeys_computed (fun _ _ => rfl) fun _ _ => ?_
  refine .seq (.bind ?_)
  intro answer world updated after acts
  constructor
  · intro other left
    cases updated with
    | error err => cases left
    | ok u =>
      cases left
      exact hashed
  · refine ⟨by rintro _ ⟨⟩, ?_⟩
    rintro _ ⟨⟩
    cases updated with
    | error err => exact obeys_computed (fun _ _ => rfl) (by rintro _ ⟨⟩)
    | ok u => exact obeys_computed (by rintro _ ⟨⟩) fun _ _ => rfl

/-- A rotation that succeeds has left the event of the key it returns, and no other. -/
theorem rotateAPIKey_path {ctx actor result}
    (path : Prog.Path (s.rotateAPIKey ctx actor id).run events (.ok result)) :
    ∃ oldKey, events = [.apiKey (.rotated oldKey result.key)] := by
  rcases Prog.Path.of_seq path with ⟨_, ⟨⟩, -⟩ | ⟨_, front, _, checked, asks, rfl⟩
  obtain ⟨rfl, -⟩ := Prog.Path.ret_iff.mp checked
  rcases Prog.Path.of_seq asks with ⟨_, ⟨⟩, -⟩ | ⟨token, front, _, asked, reads, rfl⟩
  cases Prog.Path.of_step asked
  rcases Prog.Path.of_seq reads with ⟨_, ⟨⟩, -⟩ | ⟨now, front, _, read, rotates, rfl⟩
  cases Prog.Path.of_step read
  rcases Prog.Path.of_seq rotates with ⟨_, ⟨⟩, -⟩ | ⟨stored, front, _, rotated, returns, rfl⟩
  cases Prog.Path.of_step rotated
  obtain ⟨rfl, same⟩ := Prog.Path.ret_iff.mp returns
  cases same
  exact ⟨stored.1, rfl⟩

end Program

section Runs

/-- The key that the event is the end of. -/
def APIKeyEvent.ends : APIKeyEvent → Option APIKey
  | .authenticated _ => none
  | .disabled key => some key
  | .rotated oldKey _ => some oldKey

/-- The keys have different hashes. -/
def HashesUnique (table : Table APIKey) : Prop :=
  ∀ id id' key key', table.lookup id = some key → table.lookup id' = some key' →
    key.tokenHash = key'.tokenHash → id = id'

/-- A new key has a hash that no stored key has. -/
def HashUnused (state : State) (_call : Nat) (event : Option Event) : Prop :=
  ∀ oldKey newKey, event = some (.apiKey (.rotated oldKey newKey)) →
    ∀ id key, (keys state).lookup id = some key → key.tokenHash ≠ newKey.tokenHash

/-- A store to begin with, in which the hashes of the keys are different. -/
structure KeyStore (s : Service) (world : World) : Prop where
  consistent : Consistent s ⟨world, []⟩
  kept : KeysKept s world.drawn world.db.annex.apiKeys
  unique : HashesUnique world.db.annex.apiKeys

/-- The hashes are different, and every key that was disabled or rotated is stored as disabled. -/
structure KeysSafe (state : State) : Prop where
  unique : HashesUnique (keys state)
  ended : ∀ number left key, (number, Event.apiKey left) ∈ state.history → left.ends = some key →
    ∃ stored, (keys state).lookup key.id = some stored ∧ stored.status = .disabled ∧
    APIKeySame key stored

variable {s : Service} {before : State} {drawn : Nat} {event : Option Event} {after : Table APIKey}

/-- A key that is disabled is not written any more. -/
theorem KeyStep.lookup_disabled (ids : s.FreshIDs)
    (kept : KeysKept s before.world.drawn (keys before)) (step : KeyStep s before drawn event after)
    (found : (keys before).lookup id = some stored) (ended : stored.status = .disabled) :
    after.lookup id = some stored := by
  have other : ∀ {id' : Text} {active : APIKey}, (keys before).lookup id' = some active →
      active.status = .active → id ≠ id' := by
    rintro _ active there live rfl
    cases mem_unique found there
    rw [ended] at live
    cases live
  cases step with
  | still => exact found
  | authenticated there active | disabled there active =>
    rw [lookup_insert_eq, if_neg (other there active), found]
  | @rotated _ _ number _ _ fresh there active =>
    rw [lookup_insert_eq, if_neg, lookup_insert_eq, if_neg (other there active), found]
    rintro rfl
    rw [kept.given.fresh ids fresh.1] at found
    cases found

/-- A key that an event ends is stored as disabled from then on. -/
theorem KeyStep.lookup_ended (ids : s.FreshIDs) (kept : KeysKept s before.world.drawn (keys before))
    {left} (ends : left.ends = some key)
    (step : KeyStep s before drawn (some (.apiKey left)) after) :
    after.lookup key.id = some key ∧ key.status = .disabled := by
  cases step with
  | authenticated => cases ends
  | disabled _ _ _ ended =>
    cases ends
    exact ⟨AList.lookup_insert _, ended⟩
  | @rotated _ _ number _ _ fresh there _ _ ended =>
    cases ends
    refine ⟨?_, ended⟩
    rw [lookup_insert_eq, if_neg, AList.lookup_insert]
    intro same
    rw [same, kept.given.fresh ids fresh.1] at there
    cases there

/-- A key whose hash no other key has. -/
theorem HashesUnique.put (unique : HashesUnique table)
    (alone : ∀ other stored, table.lookup other = some stored → stored.tokenHash = key.tokenHash →
      other = id) : HashesUnique (table.insert id key) := by
  intro one two first second there there' equal
  rw [lookup_insert_eq] at there there'
  split at there
  · next here =>
    cases there
    split at there'
    · next here' => exact here.trans here'.symm
    · exact here.trans (alone _ _ there' equal.symm).symm
  · split at there'
    · next here' =>
      cases there'
      exact (alone _ _ there equal).trans here'.symm
    · exact unique _ _ _ _ there there' equal

/-- A key that is written in the place of a version of itself keeps its hash. -/
theorem HashesUnique.insert {table} (unique : HashesUnique table) {stored key}
    (found : table.lookup key.id = some stored) (same : APIKeySame stored key) :
    HashesUnique (table.insert key.id key) := by
  have hash : key.tokenHash = stored.tokenHash := by rw [same]
  exact unique.put fun _ _ there equal => unique _ _ _ _ there found (equal.trans hash)

theorem HashesUnique.insert_new (unique : HashesUnique table)
    (unused : ∀ id other, table.lookup id = some other → other.tokenHash ≠ key.tokenHash) :
    HashesUnique (table.insert id key) :=
  unique.put fun _ _ there equal => absurd equal (unused _ _ there)

theorem HashesUnique.step (unique : HashesUnique (keys before)) {call : Nat}
    (unused : HashUnused before call event) (step : KeyStep s before drawn event after) :
    HashesUnique after := by
  cases step with
  | still => exact unique
  | authenticated found _ same | disabled found _ same => exact unique.insert found same
  | @rotated stored oldKey number tokenHash now _ found _ same =>
    refine (unique.insert found same).insert_new ?_
    intro id other there
    rcases of_lookup_insert there with rfl | there
    · have hash : oldKey.tokenHash = stored.tokenHash := by rw [same]
      rw [hash]
      exact unused _ _ rfl _ _ found
    · exact unused _ _ rfl _ _ there

theorem KeysSafe.step (ids : s.FreshIDs) {call : Nat} {world}
    (kept : KeysKept s before.world.drawn (keys before)) (safe : KeysSafe before)
    (unused : HashUnused before call event)
    (step : KeyStep s before drawn event world.db.annex.apiKeys) :
    KeysSafe (before.after call event world) := by
  refine ⟨safe.unique.step unused step, ?_⟩
  intro number left key there ends
  rcases Shared.mem_after_iff.mp there with old | ⟨-, rfl⟩
  · obtain ⟨stored, found, disabled, same⟩ := safe.ended number left key old ends
    exact ⟨stored, step.lookup_disabled ids kept found disabled, disabled, same⟩
  · obtain ⟨found, disabled⟩ := step.lookup_ended ids kept ends
    exact ⟨key, found, disabled, .refl key⟩

/-- What leaves the keys alone and leaves no event about them keeps them safe. -/
theorem KeysSafe.same {state : State} (safe : KeysSafe before) (table : keys state = keys before)
    (history : ∀ number left, (number, Event.apiKey left) ∈ state.history →
      (number, Event.apiKey left) ∈ before.history) : KeysSafe state := by
  refine ⟨table ▸ safe.unique, ?_⟩
  intro number left key there ends
  rw [table]
  exact safe.ended number left key (history number left there) ends

theorem reaches_keysSafe (ids : s.FreshIDs) {cfg : s.apiKeySystem.Config}
    (reached : System.Reaches (System.Guarded HashUnused) (KeyStore s) cfg) :
    KeysSafe cfg.shared := by
  refine (apiKeyRegime ids).guarded_induct ids (s.apiKeySystem_keeps ids)
    (fun world store => ⟨store.consistent, store.kept⟩) ?_ ?_ ?_ ?_ ?_ ?_ reached
  · intro world store
    exact ⟨store.unique, by rintro _ _ _ ⟨⟩⟩
  · rintro before call event world - - safe - ⟨report, told, change⟩ -
    refine safe.same (congrArg Annex.apiKeys told.annex) fun number left there => ?_
    rcases Shared.mem_after_iff.mp there with old | ⟨-, left⟩
    · exact old
    · exact absurd left (change.leaves.2.2.1 _)
  · rintro before call event world - kept safe unused change
    exact safe.step ids kept unused change.step
  · intro before after safe outer
    exact safe.same (congrArg Annex.apiKeys outer.annex) fun number left there =>
      (outer.mem_history_iff fun _ => by nofun).mp there
  · rintro before after safe ⟨number, -, rfl⟩
    exact safe.same rfl fun number left there => by simpa using there
  · rintro before world - ⟨⟩

end Runs

section Seen

variable {s : Service} {guard : s.apiKeySystem.Config → s.apiKeySystem.Action → Prop}
  {cfg next : s.apiKeySystem.Config} {action : s.apiKeySystem.Action} {number : Nat}
  {left : APIKeyEvent}

/-- An action that leaves an event of the keys does one of their steps. -/
theorem keyStep_of_event (ids : s.FreshIDs) (reached : System.Reaches guard (KeyStore s) cfg)
    (seen : action.event cfg = some (number, some (.apiKey left)))
    (performed : cfg.perform action = some next) :
    KeysKept s cfg.shared.world.drawn (keys cfg.shared) ∧
      KeyStep s cfg.shared next.shared.world.drawn (some (.apiKey left)) (keys next.shared) := by
  have sound := reached.sound (s.apiKeySystem_keeps ids) fun _ store =>
    ⟨store.consistent, store.kept⟩
  refine ⟨sound.inv.2, ?_⟩
  have moves := (sound.perform (s.apiKeySystem_keeps ids) performed).1
  generalize next.shared = shared at moves ⊢
  cases moves with
  | call seen' change =>
    cases mem_unique seen seen'
    rcases change with ⟨-, report, -, change⟩ | change
    · exact absurd rfl (change.leaves.2.2.1 left)
    · exact change.step
  | outer unseen =>
    rw [seen] at unseen
    cases unseen

end Seen

section Rehearsal

set_option synthInstance.maxSize 1000000

instance : Apart apiKeys := ⟨fun _ _ => rfl, fun _ _ _ => rfl, fun _ _ => rfl⟩

instance (tokenHash : Text) : Tx.Rehearsed (getAPIKeyByTokenHash tokenHash) :=
  rehearsedQuery fun _ _ _ => rfl

instance (id : Text) : Tx.Rehearsed (getAPIKey id) := by
  delta getAPIKey
  infer_instance

instance (key : APIKey) (expected : APIKeyStatus) :
    Tx.Rehearsed (updateAPIKeyIfStatus key expected) := by
  delta updateAPIKeyIfStatus
  infer_instance

instance (s : Service) (token : Text) : Prog.Rehearsed (s.getAPIKeyByToken token).run := by
  delta Service.getAPIKeyByToken
  exact .ite (.seq inferInstance fun found => by cases found <;> infer_instance) inferInstance

instance (s : Service) (token : Text) : Prog.Rehearsed (s.authenticateAPIKey token).run := by
  delta Service.authenticateAPIKey
  infer_instance

instance (s : Service) (ctx : Context) (actor id : Text) :
    Prog.Rehearsed (s.disableAPIKey ctx actor id).run := by
  delta Service.disableAPIKey Service.disableAPIKeyTx
  infer_instance

instance (s : Service) : s.apiKeySystem.Rehearsed := Extension.rehearsed s _ fun _ task =>
  match task with
  | .authenticate token => some (Prog.Rehearsed.standIn (s.authenticateAPIKey token).forget)
  | .disable ctx actor id => some (Prog.Rehearsed.standIn (s.disableAPIKey ctx actor id).forget)
  | .rotate _ _ _ => none

end Rehearsal

/-- The key as it is when it has been disabled. -/
def disabledKey (key : APIKey) (now : Time) : APIKey :=
  { key with status := .disabled, updatedAt := now }

/-- The small deployment with a pepper. -/
def pepperedService : Service := { smallService with apiKeyPepper := "pepper" }

theorem pepperedService_freshIDs : pepperedService.FreshIDs :=
  ⟨small_freshIDs.injective, small_freshIDs.nonblank, small_freshIDs.nonzero⟩

def anHourLater : Time := newYear.add 3600000000000

/-- A key with one of the hashes of a token. -/
def smallKey (number : Nat) (tokenHash : Text) : APIKey where
  id := pepperedService.idgen number
  name := "key"
  tokenHash := tokenHash
  status := .active
  actor := "operator"
  scopes := [.operator]
  expiresAt := anHourLater
  createdAt := newYear
  updatedAt := newYear

/-- The key whose hash was made without the pepper. -/
def plainKey : APIKey := smallKey 0 (hashAPIKeyToken "token")

def pepperedKey : APIKey := smallKey 1 (pepperedService.hashAPIKeyToken "token")

def smallKeys : Table APIKey :=
  ((∅ : Table APIKey).insert plainKey.id plainKey).insert pepperedKey.id pepperedKey

def keyedWorld : World :=
  { newWorld with db := { Db.empty with annex := { apiKeys := smallKeys } }, drawn := 2 }

theorem pepperedKey_tokenHash_ne : pepperedKey.tokenHash ≠ plainKey.tokenHash := by
  intro same
  have heads := congrArg List.head? same
  rw [show pepperedKey.tokenHash = hashAPIKeyTokenWithPepper "token" "pepper" from rfl,
    hashAPIKeyTokenWithPepper, if_neg (by decide +kernel)] at heads
  cases heads

theorem keyedWorld_store : KeyStore pepperedService keyedWorld := by
  refine ⟨?_, ⟨(Table.KeyedBy.empty.insert plainKey).insert pepperedKey, ?_⟩, ?_⟩
  · refine @Framed.consistent _ ⟨{ keyedWorld with db := .empty }, []⟩ keyedWorld []
      ⟨rfl, rfl, le_refl _⟩ (Initial.consistent ⟨rfl⟩) ?_
    rintro _ _ ⟨⟩
  · exact (GivenOut.insert .empty ⟨0, by decide, rfl⟩).insert ⟨1, by decide, rfl⟩
  · refine HashesUnique.insert_new (HashesUnique.insert_new ?_ ?_) ?_
    · rintro _ _ _ _ ⟨⟩
    · rintro _ _ ⟨⟩
    · intro id other there
      rcases of_lookup_insert there with rfl | there
      · exact pepperedKey_tokenHash_ne.symm
      · cases there

/-- The key of the peppered hash, used at new year. -/
def usedKey : APIKey := usedAPIKey pepperedKey newYear

/-- No key is added. -/
def addsNoKey (_state : State) (_call : Nat) : Option Event → Bool
  | some (.apiKey (.rotated _ _)) => false
  | _ => true

theorem addsNoKey_strict (state : State) (log : AuditLog) (call : Nat) (event : Option Event)
    (added : addsNoKey state call event = true) : HashUnused (withLog state log) call event := by
  rintro oldKey newKey rfl
  cases added

/-- The plain key is disabled. A call with the token reads the clock and the other key, and waits
before it writes that key back until it has expired. -/
def waitingToUse : List pepperedService.apiKeySystem.Action :=
  tasked pepperedService pepperedService.apiKeyExtension .calm 0 0
    (.disable {} "admin" plainKey.id) 2 ++ tasked pepperedService pepperedService.apiKeyExtension
    .calm 1 0 (.authenticate "token") 2 ++ [.disturb (.inl (.tick anHourLater))]

/-- What the schedule comes to. -/
structure WaitsToUse (plan : pepperedService.apiKeySystem.Config) : Prop where
  disabled : (0, Event.apiKey (.disabled (disabledKey plainKey newYear))) ∈ plan.shared.history
  clock : plan.shared.world.clock = anHourLater
  next : (System.Action.run 1 .calm : pepperedService.apiKeySystem.Action).event plan =
    some (1, some (.apiKey (.authenticated usedKey)))
  goes : (plan.rehearse (.run 1 .calm)).isSome

instance (plan : pepperedService.apiKeySystem.Config) : Decidable (WaitsToUse plan) :=
  decidable_of_iff ((0,
    Event.apiKey (.disabled (disabledKey plainKey newYear))) ∈ plan.shared.history ∧
    plan.shared.world.clock = anHourLater ∧
    (System.Action.run 1 .calm : pepperedService.apiKeySystem.Action).event plan =
      some (1, some (.apiKey (.authenticated usedKey))) ∧ (plan.rehearse (.run 1 .calm)).isSome)
    ⟨fun ⟨disabled, clock, next, goes⟩ => ⟨disabled, clock, next, goes⟩,
      fun waits => ⟨waits.disabled, waits.clock, waits.next, waits.goes⟩⟩

theorem small_waitsToUse : ∃ cfg plan log, System.Reaches (System.Guarded HashUnused)
    (KeyStore pepperedService) cfg ∧ (System.idle keyedWorld).performAll waitingToUse = some cfg ∧
      cfg.Mirrors plan ∧ cfg.shared = withLog plan.shared log ∧ WaitsToUse plan :=
  rehearsed_guarded addsNoKey addsNoKey_strict keyedWorld_store waitingToUse
    WaitsToUse

/-- The key of a call for authentication that writes it back: it had not expired when the call read
the clock, and it is none of those that were disabled or rotated before. -/
structure UsedLive (state : State) (key : APIKey) : Prop where
  active : key.status = .active
  unexpired : ¬ APIKeyExpired key key.lastUsedAt
  past : key.lastUsedAt.nanos ≤ state.world.clock.nanos
  live : ∀ number left ended, (number, Event.apiKey left) ∈ state.history → left.ends = some ended →
    ended.id ≠ key.id ∧ ended.tokenHash ≠ key.tokenHash

/-- A rotation disables an active key that has not expired and adds one that is active, with its
actor, scopes and expiry. -/
structure RotatedOnce (before after : State) (oldKey newKey : APIKey) : Prop where
  replaced : ∃ stored, (keys before).lookup oldKey.id = some stored ∧ stored.status = .active ∧
    APIKeySame stored oldKey ∧ ¬ APIKeyExpired stored newKey.createdAt
  ended : oldKey.status = .disabled
  added : (keys before).lookup newKey.id = none
  active : newKey.status = .active
  actor : newKey.actor = oldKey.actor
  scopes : newKey.scopes = oldKey.scopes
  expiresAt : newKey.expiresAt = oldKey.expiresAt
  keys : keys after = ((keys before).insert oldKey.id oldKey).insert newKey.id newKey

section Results

variable {s : Service} {state after : State} {drawn : Nat}

theorem KeyStep.usedLive (safe : KeysSafe state)
    (step : KeyStep s state drawn (some (.apiKey (.authenticated key))) table) :
    UsedLive state key := by
  cases step with
  | @authenticated stored _ found active same stays unexpired past =>
    refine ⟨stays, unexpired, past, ?_⟩
    intro number left ended there ends
    obtain ⟨stored', found', disabled, same'⟩ := safe.ended number left ended there ends
    have other : ended.id ≠ key.id := by
      intro equal
      rw [equal] at found'
      cases mem_unique found found'
      rw [active] at disabled
      cases disabled
    refine ⟨other, fun hash => other (safe.unique _ _ _ _ found' found ?_)⟩
    calc stored'.tokenHash = ended.tokenHash := by rw [same']
      _ = key.tokenHash := hash
      _ = stored.tokenHash := by rw [same]

theorem KeyStep.rotatedOnce (ids : s.FreshIDs) {oldKey newKey}
    (kept : KeysKept s state.world.drawn (keys state))
    (step : KeyStep s state drawn (some (.apiKey (.rotated oldKey newKey))) (keys after)) :
    RotatedOnce state after oldKey newKey := by
  generalize same : keys after = table at step
  cases step with
  | rotated fresh found active version ended unexpired past =>
    exact ⟨⟨_, found, active, version, unexpired⟩, ended, kept.given.fresh ids fresh.1,
      rfl, rfl, rfl, rfl, same⟩

end Results

/-- In every run on a store with different hashes, a key that was disabled or rotated stays
disabled, a call for authentication succeeds only with a live key that has a hash of its token, and
a rotation that succeeds adds one key. -/
theorem apiKeys_safe {s : Service} (ids : s.FreshIDs) {cfg : s.apiKeySystem.Config}
    (reached : System.Reaches (System.Guarded HashUnused) (KeyStore s) cfg) :
    (∀ number left key, (number, Event.apiKey left) ∈ cfg.shared.history → left.ends = some key →
        ∃ stored, (keys cfg.shared).lookup key.id = some stored ∧ stored.status = .disabled ∧
          APIKeySame key stored) ∧
      (∀ number action next, cfg.perform action = some next →
        (∀ key, action.event cfg = some (number, some (.apiKey (.authenticated key))) →
          UsedLive cfg.shared key ∧ ∀ token events,
            cfg.Runs number (s.authenticateAPIKey token).forget events →
            s.HashOf token.trimSpace key.tokenHash) ∧
        ∀ oldKey newKey, action.event cfg = some (number, some (.apiKey (.rotated oldKey newKey))) →
          RotatedOnce cfg.shared next.shared oldKey newKey) ∧
      (∀ token events result, Prog.Path (s.authenticateAPIKey token).run events result →
        events = authenticationEvents result) ∧
      ∀ ctx actor id events result,
        Prog.Path (s.rotateAPIKey ctx actor id).run events (.ok result) →
        ∃ oldKey, events = [.apiKey (.rotated oldKey result.key)] := by
  have safe := reaches_keysSafe ids reached
  refine ⟨safe.ended, ?_, fun _ _ _ path => authenticateAPIKey_obeys.path path,
    fun _ _ _ _ _ path => rotateAPIKey_path path⟩
  intro number action next performed
  constructor
  · intro key seen
    refine ⟨(keyStep_of_event ids reached seen performed).2.usedLive safe, ?_⟩
    intro token events runs
    have obeys : (s.authenticateAPIKey token).forget.Obeys (AuthenticatesBy s token.trimSpace)
        (fun _ _ => True) [] := .bind (authenticateAPIKey_obeys.mono fun _ _ _ => trivial)
    exact runs.obeys obeys seen performed key rfl
  · intro oldKey newKey seen
    obtain ⟨kept, step⟩ := keyStep_of_event ids reached seen performed
    exact step.rotatedOnce ids kept

/-- The plain key stays disabled while a call waits to write the other key back. -/
theorem small_staysDisabled : ∃ cfg : pepperedService.apiKeySystem.Config,
    System.Reaches (System.Guarded HashUnused) (KeyStore pepperedService) cfg ∧
      (0, Event.apiKey (.disabled (disabledKey plainKey newYear))) ∈ cfg.shared.history ∧
      ∃ stored, (keys cfg.shared).lookup plainKey.id = some stored ∧ stored.status = .disabled := by
  obtain ⟨cfg, plan, log, reached, -, -, same, waits⟩ := small_waitsToUse
  have there : (0, Event.apiKey (.disabled (disabledKey plainKey newYear))) ∈ cfg.shared.history :=
    same ▸ waits.disabled
  obtain ⟨stored, found, disabled, -⟩ :=
    (apiKeys_safe pepperedService_freshIDs reached).1 0 _ _ there rfl
  exact ⟨cfg, reached, there, stored, found, disabled⟩

/-- The call goes on. The token is that of the disabled key as well, and the key that it is answered
with has expired by then. -/
theorem small_usedLate : ∃ (cfg next : pepperedService.apiKeySystem.Config)
    (action : pepperedService.apiKeySystem.Action) (events : List Event),
    System.Reaches (System.Guarded HashUnused) (KeyStore pepperedService) cfg ∧
      (0, Event.apiKey (.disabled (disabledKey plainKey newYear))) ∈ cfg.shared.history ∧
      pepperedService.HashOf "token" plainKey.tokenHash ∧
      cfg.Runs 1 (pepperedService.authenticateAPIKey "token").forget events ∧
      action.event cfg = some (1, some (.apiKey (.authenticated usedKey))) ∧
      cfg.perform action = some next ∧ APIKeyExpired usedKey cfg.shared.world.clock := by
  obtain ⟨cfg, plan, log, reached, all, mirrors, same, waits⟩ := small_waitsToUse
  obtain ⟨after, goes⟩ := isSome_iff_exists.mp waits.goes
  obtain ⟨next, performed, -⟩ := mirrors.perform goes
  have seen := mirrors.event waits.next
  obtain ⟨_, node, _, _, _, _, _, running, -, -⟩ := System.Action.step_of_event seen performed
  have begun : (System.idle keyedWorld : pepperedService.apiKeySystem.Config).Begun [] :=
    ⟨rfl, by rintro _ _ _ ⟨⟩⟩
  obtain ⟨call, first, events, runs⟩ := (begun.performAll all).runs 1 node _ running
  cases Option.some.inj first
  refine ⟨cfg, next, .run 1 .calm, events, reached, same ▸ waits.disabled, .inr rfl, runs, seen,
    performed, ?_⟩
  rw [same, show (withLog plan.shared log).world.clock =
    plan.shared.world.clock from rfl, waits.clock]
  decide +kernel

end AnoPki.Lifecycle
