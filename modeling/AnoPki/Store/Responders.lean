import AnoPki.Store.Memory

/-! # OCSP responders in the memory store

An issuer may have one active responder. The store looks for it among all responders, and refuses to
create or to activate a second one. -/
namespace AnoPki.Store

open Foundation Domain ErrKind

variable {active : Option OCSPResponder} {responder found : OCSPResponder}
  {list : List OCSPResponder}

@[reducible] def ocspResponders : Shelf OCSPResponder where
  table db := db.annex.ocspResponders
  put table db := { db with annex := { db.annex with ocspResponders := table } }
  key := OCSPResponder.id
  missing := .ocspResponderNotFound

/-- The responder is an active one of the issuer. -/
def ActiveFor (issuerID : Text) (responder : OCSPResponder) : Prop :=
  responder.issuerID = issuerID ∧ responder.status = .active
deriving Decidable

/-- One turn of the search: the newer of the active responder so far and the next one, the one with
the greater ID among those of one time. -/
def newerActive (issuerID : Text) (active : Option OCSPResponder) (responder : OCSPResponder) :
    Option OCSPResponder :=
  if ¬ ActiveFor issuerID responder then active
  else some (active.elim responder fun current =>
    if responder.createdAt.after current.createdAt ∨
        (responder.createdAt.equal current.createdAt ∧ current.id < responder.id) then responder
    else current)

/-- The active responder of an issuer; the order of the records makes no difference. -/
def activeOCSPResponderByIssuer (responders : Table OCSPResponder) (issuerID : Text) :
    Option OCSPResponder :=
  responders.values.foldl (newerActive issuerID) none

def createOCSPResponder (responder : OCSPResponder) : Repo Unit := do
  let taken ← Tx.query fun s =>
    .ok (activeOCSPResponderByIssuer s.db.annex.ocspResponders responder.issuerID).isSome
  Tx.require (¬ (responder.status = .active ∧ taken)) (err .invalidTransition)
  ocspResponders.write responder

def getOCSPResponder (id : Text) : Repo OCSPResponder := ocspResponders.get id

def getActiveOCSPResponderByIssuer (issuerID : Text) : Repo OCSPResponder :=
  Tx.query fun s =>
    match activeOCSPResponderByIssuer s.db.annex.ocspResponders issuerID with
    | some responder => .ok responder
    | none => .error (err .ocspResponderNotFound)

def updateOCSPResponderIfStatus (responder : OCSPResponder) (currentStatus : OCSPResponderStatus) :
    Repo Unit := do
  let current ← ocspResponders.get responder.id
  Tx.require (current.status = currentStatus) (err .invalidTransition)
  let active ← Tx.query fun s =>
    .ok (activeOCSPResponderByIssuer s.db.annex.ocspResponders responder.issuerID)
  Tx.require (¬ (responder.status = .active ∧ active.any fun active =>
    decide (active.id ≠ responder.id))) (err .invalidTransition)
  ocspResponders.write responder

section Search

variable {issuerID : Text} {responders : Table OCSPResponder}

theorem newerActive_some (same : newerActive issuerID active responder = some found) :
    active = some found ∨ (found = responder ∧ ActiveFor issuerID responder) := by
  rw [newerActive] at same
  split at same
  · exact .inl same
  · next live =>
    have live := not_not.mp live
    cases active with
    | none => exact .inr ⟨(Option.some.inj same).symm, live⟩
    | some current =>
      rw [Option.elim_some] at same
      split at same
      · exact .inr ⟨(Option.some.inj same).symm, live⟩
      · exact .inl same

theorem newerActive_none (same : newerActive issuerID active responder = none) :
    active = none ∧ ¬ ActiveFor issuerID responder := by
  rw [newerActive] at same
  split at same
  · next dead => exact ⟨same, dead⟩
  · cases same

/-- What is found in a list of responders from an active one so far. -/
theorem foldl_newerActive_some (same : list.foldl (newerActive issuerID) active = some found) :
    active = some found ∨ (found ∈ list ∧ ActiveFor issuerID found) := by
  induction list generalizing active with
  | nil => exact .inl same
  | cons first rest ih =>
    rcases ih same with before | ⟨inside, live⟩
    · rcases newerActive_some before with old | ⟨rfl, live⟩
      · exact .inl old
      · exact .inr ⟨List.mem_cons_self, live⟩
    · exact .inr ⟨List.mem_cons_of_mem _ inside, live⟩

theorem foldl_newerActive_none (same : list.foldl (newerActive issuerID) active = none) :
    active = none ∧ ∀ responder ∈ list, ¬ ActiveFor issuerID responder := by
  induction list generalizing active with
  | nil => exact ⟨same, nofun⟩
  | cons first rest ih =>
    obtain ⟨before, dead⟩ := ih same
    obtain ⟨unset, here⟩ := newerActive_none before
    exact ⟨unset, List.forall_mem_cons.mpr ⟨here, dead⟩⟩

theorem active_some (same : activeOCSPResponderByIssuer responders issuerID = some found) :
    (∃ key, responders.lookup key = some found) ∧ ActiveFor issuerID found := by
  rcases foldl_newerActive_some same with start | ⟨inside, live⟩
  · cases start
  · exact ⟨Table.mem_values_iff.mp inside, live⟩

theorem active_none (same : activeOCSPResponderByIssuer responders issuerID = none) {key}
    (found : responders.lookup key = some responder) : ¬ ActiveFor issuerID responder :=
  (foldl_newerActive_none same).2 responder (Table.mem_values_iff.mpr ⟨key, found⟩)

variable {s t : Session} {responder : OCSPResponder} {u : Unit}

theorem getActiveResponder_ok_iff :
    getActiveOCSPResponderByIssuer issuerID s = (.ok responder, t) ↔
      activeOCSPResponderByIssuer s.db.annex.ocspResponders issuerID = some responder ∧ s = t := by
  rw [getActiveOCSPResponderByIssuer, Tx.query_ok_iff]
  cases activeOCSPResponderByIssuer s.db.annex.ocspResponders issuerID with
  | none | some active => simp

/-- An active responder is created only for an issuer without one. -/
theorem createOCSPResponder_ok (active : responder.status = .active)
    (run : createOCSPResponder responder s = (.ok u, t)) :
    activeOCSPResponderByIssuer s.db.annex.ocspResponders responder.issuerID = none ∧ { s with
        db := ocspResponders.put (s.db.annex.ocspResponders.insert responder.id responder)
          s.db } = t := by
  simp only [createOCSPResponder, Tx.bind_ok_iff, Tx.query_ok_iff, Tx.require_ok_iff,
    Shelf.write_ok_iff] at run
  obtain ⟨taken, _, ⟨looked, rfl⟩, _, _, ⟨free, rfl⟩, written⟩ := run
  refine ⟨?_, written⟩
  rw [← Option.not_isSome_iff_eq_none]
  intro there
  cases looked
  exact free ⟨active, there⟩

/-- A responder is disabled in the place of one in the expected status. -/
theorem updateResponder_ok {currentStatus : OCSPResponderStatus}
    (run : updateOCSPResponderIfStatus responder currentStatus s = (.ok u, t)) :
    (∃ current, s.db.annex.ocspResponders.lookup responder.id = some current ∧
      current.status = currentStatus) ∧
      { s with
        db := ocspResponders.put (s.db.annex.ocspResponders.insert responder.id responder)
          s.db } = t := by
  simp only [updateOCSPResponderIfStatus, Tx.bind_ok_iff, Tx.query_ok_iff, Tx.require_ok_iff,
    Shelf.get_ok_iff, Shelf.write_ok_iff] at run
  obtain ⟨current, _, ⟨found, rfl⟩, _, _, ⟨same, rfl⟩, _, _, ⟨-, rfl⟩, _, _, ⟨-, rfl⟩, written⟩ :=
    run
  exact ⟨⟨current, found, same⟩, written⟩

end Search

end AnoPki.Store
