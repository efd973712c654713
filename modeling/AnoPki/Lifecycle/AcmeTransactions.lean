import AnoPki.Lifecycle.Transactions

/-! # What the ACME transactions do

Opening an order with its authorizations and challenges, answering a challenge, and moving an
order. -/
namespace AnoPki.Lifecycle

open Foundation Domain Store List Tx Shelf

variable {u : Unit} {order : ACMEOrder} {challenge : ACMEChallenge} {challengeID : Text}
  {a b : Session} {type : Text} {authorization : ACMEAuthorization} {id : Text}

variable {s : Service}

/-- An order being opened: the parts that are there so far. -/
structure Opening (s : Service) (orderID : Text) (base mid : Session)
    (parts : List (ACMEAuthorization × ACMEChallenge)) : Prop where
  authorization : ∀ part ∈ parts, part.1.orderID = orderID ∧ part.1.status = .pending
  challenge : ∀ part ∈ parts, part.2.authorizationID = part.1.id ∧ part.2.status = .pending
  numbered : ∃ numbers : List Nat, numbers.Nodup ∧
    (∀ number ∈ numbers, Drawn base.drawn mid.drawn number) ∧
    (parts.flatMap fun part => [part.1.id, part.2.id]) = numbers.map s.idgen
  ledger : Ledger.of mid.db = (Ledger.of base.db).putParts parts
  told : Told s base mid {}

/-- The identifier of a part. -/
def identifier (part : ACMEAuthorization × ACMEChallenge) : Text × Text :=
  (part.1.identifierType, part.1.identifierValue)

theorem Ledger.putParts_append (l : Ledger)
    (first second : List (ACMEAuthorization × ACMEChallenge)) :
    l.putParts (first ++ second) = (l.putParts first).putParts second := by
  simp [Ledger.putParts, Table.insertAll]

section Opening

variable {orderID : Text} {base mid after : Session}
  {parts : List (ACMEAuthorization × ACMEChallenge)} {now : Time}

theorem Opening.start (base : Session) : Opening s orderID base base [] where
  authorization := by simp
  challenge := by simp
  numbered := ⟨[], nodup_nil, by simp, rfl⟩
  ledger := rfl
  told := .refl base

/-- One more authorization. -/
theorem Opening.next (opening : Opening s orderID base mid parts) {value}
    (run : s.createACMEAuthorization orderID type now value mid = (.ok u, after)) :
    ∃ part, identifier part = (type, value) ∧ Opening s orderID base after (parts ++ [part]) := by
  simp only [Service.createACMEAuthorization, bind_ok_iff, newID_ok_iff,
    Store.createACMEAuthorization, createACMEChallenge, write_ok_iff] at run
  obtain ⟨_, _, ⟨rfl, rfl⟩, ⟨⟩, _, rfl, _, _, ⟨rfl, rfl⟩, _, _, ⟨rfl, rfl⟩, rfl⟩ := run
  refine ⟨(newACMEAuthorization (s.idgen mid.drawn) orderID type value now,
    newACMEChallenge (s.idgen (mid.drawn + 1)) (s.idgen mid.drawn) (s.idgen (mid.drawn + 2)) .http01
      now), rfl, ?_, ?_, ?_, ?_, ?_⟩
  · intro part inside
    rcases mem_append.mp inside with old | new
    · exact opening.authorization part old
    · cases mem_singleton.mp new
      exact ⟨rfl, rfl⟩
  · intro part inside
    rcases mem_append.mp inside with old | new
    · exact opening.challenge part old
    · cases mem_singleton.mp new
      exact ⟨rfl, rfl⟩
  · obtain ⟨numbers, distinct, drawn, named⟩ := opening.numbered
    have forward := opening.told.forward
    refine ⟨numbers ++ [mid.drawn, mid.drawn + 1], ?_, ?_, ?_⟩
    · rw [nodup_append]
      refine ⟨distinct, by simp, ?_⟩
      intro number inside number' last same
      have := (drawn number inside).2
      simp only [mem_cons, not_mem_nil, or_false] at last
      omega
    · intro number inside
      simp only [mem_append, mem_cons, not_mem_nil, or_false] at inside
      change base.drawn ≤ number ∧ number < mid.drawn + 1 + 1 + 1
      rcases inside with old | rfl | rfl
      · have := drawn number old
        exact ⟨this.1, by have := this.2; omega⟩
      · omega
      · omega
    · rw [flatMap_append, named, map_append]
      rfl
  · rw [Ledger.putParts_append, ← opening.ledger]
    rfl
  · refine opening.told.followed rfl rfl rfl ?_
    change mid.drawn ≤ mid.drawn + 1 + 1 + 1
    omega

/-- An authorization for each value. -/
theorem Opening.values (opening : Opening s orderID base mid parts) {values}
    (run : Tx.fold (fun _ value => s.createACMEAuthorization orderID type now value) () values mid =
      (.ok u, after)) : ∃ more, more.map identifier = values.map (fun value => (type, value)) ∧
      Opening s orderID base after (parts ++ more) := by
  refine fold_induct (fun done _ mid => ∃ more,
    more.map identifier = done.map (fun value => (type, value)) ∧
      Opening s orderID base mid (parts ++ more)) run ⟨[], rfl, by simpa using opening⟩ ?_
  rintro done value ⟨⟩ ⟨⟩ mid after ⟨more, identifiers, opening⟩ - turn
  obtain ⟨part, named, opening⟩ := opening.next turn
  refine ⟨more ++ [part], ?_, by simpa using opening⟩
  simp [identifiers, named]

theorem createAuthorizations_opening
    (run : s.createACMEAuthorizations order now base = (.ok u, after)) :
    ∃ parts, parts.map identifier = orderIdentifiers order ∧
    Opening s order.id base after parts := by
  obtain ⟨⟨⟩, mid, names, addresses⟩ := bind_ok_iff.mp run
  obtain ⟨front, named, opening⟩ := (Opening.start base).values names
  obtain ⟨back, named', opening⟩ := opening.values addresses
  refine ⟨front ++ back, ?_, by simpa using opening⟩
  rw [map_append, named, named', orderIdentifiers]

end Opening

section Acme

variable {call : Nat} {before : State} {after : Session} {ctx : Context} {actor : Text} {now : Time}

theorem requireValidAccount_readOnly (account : ACMEAccount) :
    (requireValidAccount account).ReadOnly := .bind (.query _) fun _ => .query _

theorem checkProfileExists_readOnly (profileID : Text) : (checkProfileExists profileID).ReadOnly :=
  .ite (.pure _) (.bind (.query _) fun _ => .pure _)

theorem createACMEOrderTx_performs {req}
    (inhabited : ¬ (req.requestedDNSNames = [] ∧ req.requestedIPAddresses = []))
    (allowed : NamesAllowed before req.certificateProfileID req.requestedDNSNames)
    (run : s.createACMEOrderTx ctx actor req now (session before) = (.ok order, after)) :
    Performs s call before none after := by
  simp only [Service.createACMEOrderTx, bind_ok_iff, newID_ok_iff, getACMEAccount, getIdentity,
    getIssuer, get_ok_iff, query_ok_iff, Store.createACMEOrder, write_ok_iff,
    pure_ok_iff] at run
  obtain ⟨_, _, ⟨rfl, rfl⟩, account, _, ⟨-, rfl⟩, ⟨⟩, _, valid, identity, _, ⟨-, rfl⟩,
    ⟨⟩, _, ⟨-, rfl⟩, issuer, _, ⟨-, rfl⟩, ⟨⟩, _, profile, ⟨⟩, _, rfl, ⟨⟩, _, parts, ⟨⟩, after,
    audited, rfl, rfl⟩ := run
  cases (requireValidAccount_readOnly account).same valid
  cases (checkProfileExists_readOnly _).same profile
  obtain ⟨parts, identifiers, opening⟩ := createAuthorizations_opening parts
  obtain ⟨event, recorded, told, same⟩ := auditEvent_told audited
  rw [Performs, same, opening.ledger]
  refine ⟨_, (opening.told.trans told).before rfl rfl rfl (Nat.le_succ _), ?_⟩
  refine @Change.opened _ _ _ _ ⟨newACMEOrder (s.idgen before.world.drawn) req now, parts⟩ _ ?_
    allowed (recorded.quiet (by decide))
  refine ⟨?_, rfl, ?_, identifiers, opening.authorization, opening.challenge⟩
  · obtain ⟨numbers, distinct, drawn, named⟩ := opening.numbered
    have start : ∀ number ∈ numbers, before.world.drawn + 1 ≤ number :=
      fun number inside => (drawn number inside).1
    have finish : ∀ number ∈ numbers, number < after.drawn :=
      fun number inside => (drawn number inside).2.trans_le told.forward
    have moved : before.world.drawn + 1 ≤ after.drawn := opening.told.forward.trans told.forward
    refine ⟨before.world.drawn :: numbers, ?_, ?_, ?_⟩
    · refine nodup_cons.mpr ⟨?_, distinct⟩
      intro again
      have := start _ again
      omega
    · intro number inside
      rcases mem_cons.mp inside with rfl | later
      · exact ⟨le_refl _, moved⟩
      · exact ⟨(Nat.le_succ _).trans (start number later), finish number later⟩
    · rw [OpenedOrder.ids, named]
      rfl
  · rintro rfl
    refine inhabited ?_
    simpa [orderIdentifiers, newACMEOrder] using identifiers

theorem openChallenge_ok (keyed : Keyed (ledger before))
    (run : openChallenge challengeID (session before) = (.ok (challenge, authorization), after)) :
    after = session before ∧ OpenChallenge (ledger before) challenge authorization := by
  simp only [openChallenge, bind_ok_iff, getACMEChallenge, getACMEAuthorization,
    get_ok_iff, require_ok_iff, pure_ok_iff, Prod.mk.injEq] at run
  obtain ⟨challenge, _, ⟨found, rfl⟩, ⟨⟩, _, ⟨unanswered, rfl⟩, authorization, _,
    ⟨held, rfl⟩, ⟨⟩, _, ⟨pending, rfl⟩, ⟨rfl, rfl⟩, rfl⟩ := run
  obtain rfl : challenge.id = challengeID := keyed.challenges _ challenge found
  have owner : authorization.id = challenge.authorizationID :=
    keyed.authzs _ authorization held
  refine ⟨rfl, found, unanswered, ?_, owner.symm, pending⟩
  rw [owner]
  exact held

theorem markProcessingTx_performs (keyed : Keyed (ledger before))
    (run : s.markACMEChallengeProcessingTx ctx actor challengeID now (session before) =
      (.ok challenge, after)) : Performs s call before none after := by
  obtain ⟨⟨stored, authorization⟩, _, looked, run⟩ := bind_ok_iff.mp run
  obtain ⟨rfl, opened⟩ := openChallenge_ok keyed looked
  simp only [bind_ok_iff, updateACMEChallengeIfStatus, updateIfStatus_ok_iff, pure_ok_iff] at run
  obtain ⟨⟨⟩, _, ⟨-, rfl⟩, ⟨⟩, _, audited, rfl, rfl⟩ := run
  exact audited_performs (by decide) audited (.silent rfl rfl rfl le_rfl) fun _ _ =>
    .acme (.processing opened)

/-- A listing has a record that is not valid unless every record it is made of is. -/
theorem any_invalid_iff {table : Table α} {found : List α} {owned valid : α → Prop}
    [DecidablePred valid] (mem : ∀ value, value ∈ found ↔
    (∃ key, table.lookup key = some value) ∧ owned value) :
      (found.any fun value => decide (¬ valid value)) = true ↔
      ¬ ∀ key value, table.lookup key = some value → owned value → valid value := by
  simp only [any_eq_true, decide_eq_true_eq]
  constructor
  · rintro ⟨value, inside, invalid⟩ all
    obtain ⟨⟨key, there⟩, owner⟩ := (mem value).mp inside
    exact invalid (all key value there owner)
  · intro invalid
    push Not at invalid
    obtain ⟨key, value, there, owner, status⟩ := invalid
    exact ⟨value, (mem value).mpr ⟨⟨key, there⟩, owner⟩, status⟩

/-- What the promotion of an order does: nothing while the order is not waiting for it. -/
theorem promoteOrder_ok (run : promoteACMEOrderIfReady order now a = (.ok u, b)) :
    (b = a ∧ (order.status ≠ .pending ∨ ¬ (Ledger.of a.db).AuthorizationsValid order.id)) ∨
      (order.status = .pending ∧ (Ledger.of a.db).AuthorizationsValid order.id ∧
        b = { a with db := { a.db with acmeOrders := (a.db.acmeOrders.insert order.id
          ({ order with status := .ready, updatedAt := now } : ACMEOrder)) } }) := by
  rcases ite_ok_iff.mp run with ⟨idle, run⟩ | ⟨pending, run⟩
  · obtain ⟨-, rfl⟩ := pure_ok_iff.mp run
    exact .inl ⟨rfl, .inl idle⟩
  obtain ⟨authorizations, mid, listed, run⟩ := bind_ok_iff.mp run
  obtain ⟨rfl, mem⟩ := mem_listAuthorizations listed
  have iff : _ ↔ ¬ (Ledger.of a.db).AuthorizationsValid order.id := any_invalid_iff mem
  rcases ite_ok_iff.mp run with ⟨any, run⟩ | ⟨clear, run⟩
  · obtain ⟨-, rfl⟩ := pure_ok_iff.mp run
    exact .inl ⟨rfl, .inr (iff.mp any)⟩
  · obtain ⟨-, rfl⟩ := updateIfStatus_ok_iff.mp run
    exact .inr ⟨not_not.mp pending, not_not.mp fun invalid => clear (iff.mpr invalid), rfl⟩

theorem promoteAuthorization_ok (keyed : Keyed (ledger before)) {mid}
    (opened : OpenChallenge (ledger before) challenge authorization)
    (answered : Ledger.of mid.db = (ledger before).putChallenge (completedChallenge challenge now))
    (run : promoteACMEAuthorizationIfReady authorization now mid = (.ok u, after)) :
    AcmeChange (ledger before) (.of after.db) ∧ Told s mid after {} := by
  obtain ⟨challenges, _, listed, run⟩ := bind_ok_iff.mp run
  obtain ⟨rfl, mem⟩ := mem_listChallenges listed
  have iff : _ ↔ ¬ (Ledger.of mid.db).ChallengesValid authorization.id := any_invalid_iff mem
  rw [answered] at iff
  rcases ite_ok_iff.mp run with ⟨any, run⟩ | ⟨clear, run⟩
  · obtain ⟨-, rfl⟩ := pure_ok_iff.mp run
    rw [answered]
    exact ⟨.completed opened (iff.mp any), .refl _⟩
  have valid := not_not.mp fun invalid => clear (iff.mpr invalid)
  obtain ⟨⟨⟩, authorized, updated, run⟩ := bind_ok_iff.mp run
  obtain ⟨-, shape⟩ := updateIfStatus_ok_iff.mp updated
  have changed : Ledger.of authorized.db = ((ledger before).putChallenge
      (completedChallenge challenge now)).putAuthz (validAuthorization authorization now) := by
    rw [← answered, ← shape]
    rfl
  have told : Told s mid authorized {} := by
    rw [← shape]
    exact .silent rfl rfl rfl le_rfl
  obtain ⟨order, _, looked, run⟩ := bind_ok_iff.mp run
  obtain ⟨found, rfl⟩ := get_ok_iff.mp looked
  have there : (ledger before).orders.lookup authorization.orderID = some order := by
    have orders : authorized.db.acmeOrders = (ledger before).orders :=
      congrArg Ledger.orders changed
    rw [← orders]
    exact found
  have owner : order.id = authorization.orderID := keyed.orders _ order there
  rw [← owner] at there
  rcases promoteOrder_ok run with ⟨rfl, waiting⟩ | ⟨pending, ready, rfl⟩
  · refine ⟨?_, told⟩
    rw [changed] at waiting ⊢
    exact .authorized opened valid there owner.symm waiting
  · refine ⟨?_, told.followed rfl rfl rfl le_rfl⟩
    rw [changed] at ready
    have readied := AcmeChange.readied opened valid there owner.symm pending ready
    rw [← changed] at readied
    exact readied

theorem completeACMEChallengeTx_performs (keyed : Keyed (ledger before))
    (run : s.completeACMEChallengeTx ctx actor challengeID now (session before) =
      (.ok challenge, after)) : Performs s call before none after := by
  obtain ⟨⟨stored, authorization⟩, _, looked, run⟩ := bind_ok_iff.mp run
  obtain ⟨rfl, opened⟩ := openChallenge_ok keyed looked
  obtain ⟨⟨⟩, answered, updated, run⟩ := bind_ok_iff.mp run
  obtain ⟨-, shape⟩ := updateIfStatus_ok_iff.mp updated
  have first : Told s (session before) answered {} := by
    rw [← shape]
    exact .silent rfl rfl rfl le_rfl
  obtain ⟨⟨⟩, promoted, promotion, run⟩ := bind_ok_iff.mp run
  obtain ⟨change, second⟩ := promoteAuthorization_ok (s := s) keyed opened
    (by rw [← shape]; rfl) promotion
  obtain ⟨current, _, looked, run⟩ := bind_ok_iff.mp run
  obtain ⟨-, rfl⟩ := get_ok_iff.mp looked
  obtain ⟨⟨⟩, _, audited, done⟩ := bind_ok_iff.mp run
  obtain ⟨-, rfl⟩ := pure_ok_iff.mp done
  obtain ⟨event, recorded, told, same⟩ := auditEvent_told audited
  rw [Performs, same]
  exact ⟨_, (first.trans second).trans told, .acme change (recorded.quiet (by decide))⟩

theorem invalidateACMEOrderTx_performs
    (known : ∃ stored, (ledger before).orders.lookup order.id = some stored ∧
    OrderSame order stored)
    (run : s.invalidateACMEOrderTx ctx actor order now (session before) = (.ok u, after)) :
    Performs s call before none after := by
  simp only [Service.invalidateACMEOrderTx, bind_ok_iff, updateACMEOrderIfStatus,
    updateIfStatus_ok_iff] at run
  obtain ⟨⟨⟩, _, ⟨⟨stored, found, ready⟩, rfl⟩, audited⟩ := run
  obtain ⟨stored', found', agrees⟩ := known
  obtain rfl := Option.mem_unique found' found
  refine audited_performs (by decide) audited (.silent rfl rfl rfl le_rfl) fun _ _ => .acme ?_
  refine @AcmeChange.invalidated _ stored' { order with status := .invalid, updatedAt := now } found
    ready ?_ rfl
  rw [agrees]
  rfl

theorem finalizeOrder_performs (valid : order.status = .valid)
    (known : ∃ stored, (ledger before).orders.lookup order.id = some stored ∧
    OrderSame stored order) (issued : ∃ certificate,
      (ledger before).certificates.lookup order.certificateID = some certificate ∧
      certificate.dnsNames = order.requestedDNSNames ∧
      certificate.ipAddresses = order.requestedIPAddresses)
    (run : updateACMEOrderIfStatus order .ready (session before) = (.ok u, after)) :
    Performs s call before none after := by
  obtain ⟨⟨stored, found, ready⟩, rfl⟩ := updateIfStatus_ok_iff.mp run
  obtain ⟨stored', found', same⟩ := known
  cases Option.mem_unique found' found
  obtain ⟨certificate, issued, names⟩ := issued
  exact ⟨{}, .silent rfl rfl rfl le_rfl,
    .acme (.finalized found ready same valid issued names) .nothing⟩

end Acme

end AnoPki.Lifecycle
