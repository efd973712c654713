import AnoPki.Lifecycle.Deployment

/-! # Orders over whole runs

Challenges, authorizations and orders are promoted one after the other: an authorization is valid
iff its challenges are, an order waits iff one of its authorizations is not valid, and an order in
status valid names a certificate for the identifiers of its authorizations. -/
namespace AnoPki.Lifecycle

open Foundation Domain Store List Table AList Ledger

variable {id : Text} {old : ACMEAuthorization} {order : ACMEOrder} {l after : Ledger} {drawn : Nat}
  {authorization : ACMEAuthorization} {before : State} {call : Nat} {event : Option Event}
  {report : Report} {orderID : Text}

variable {s : Service} {cfg : s.system.Config}

/-- The moves of a challenge's status. -/
inductive ChallengeMove : ACMEChallengeStatus → ACMEChallengeStatus → Prop
  | processing : ChallengeMove .pending .processing
  | completed {status : ACMEChallengeStatus}
      (unanswered : status = .pending ∨ status = .processing) : ChallengeMove status .valid

/-- The moves of an authorization's status. -/
inductive AuthorizationMove : ACMEAuthorizationStatus → ACMEAuthorizationStatus → Prop
  | valid : AuthorizationMove .pending .valid

/-- The moves of an order's status. -/
inductive OrderMove : ACMEOrderStatus → ACMEOrderStatus → Prop
  | ready : OrderMove .pending .ready
  | finalized : OrderMove .ready .valid
  | invalidated : OrderMove .ready .invalid

/-- Between two states no record of an order is lost and the statuses only make their moves. -/
structure OrdersForward (before after : Ledger) : Prop where
  challenges : Table.Grows (fun old new =>
    Relation.ReflTransGen ChallengeMove old.status new.status) before.challenges after.challenges
  authzs : Table.Grows
    (fun old new => Relation.ReflTransGen AuthorizationMove old.status new.status)
    before.authzs after.authzs
  orders : Table.Grows (fun old new => Relation.ReflTransGen OrderMove old.status new.status)
    before.orders after.orders

theorem OrdersForward.refl (l : Ledger) : OrdersForward l l :=
  ⟨.refl (fun _ => .refl) _, .refl (fun _ => .refl) _, .refl (fun _ => .refl) _⟩

theorem OrdersForward.trans {a b c} (first : OrdersForward a b)
    (second : OrdersForward b c) : OrdersForward a c where
  challenges := first.challenges.trans .trans second.challenges
  authzs := first.authzs.trans .trans second.authzs
  orders := first.orders.trans .trans second.orders

/-- What an authorization is for. -/
def identifierOf (authorization : ACMEAuthorization) : Text × Text :=
  (authorization.identifierType, authorization.identifierValue)

/-- The authorizations of an order. -/
def orderAuthorizations (l : Ledger) (orderID : Text) : List ACMEAuthorization :=
  l.authzs.values.filter fun authorization => decide (authorization.orderID = orderID)

/-- The certificate an order names is stored and has the names of the order. -/
def NamesCertificate (l : Ledger) (order : ACMEOrder) : Prop :=
  ∃ certificate, l.certificates.lookup order.certificateID = some certificate ∧
    certificate.dnsNames = order.requestedDNSNames ∧
    certificate.ipAddresses = order.requestedIPAddresses

/-- An authorization is valid iff its challenges are. -/
def Settled (l : Ledger) (id : Text) : Prop :=
  ∀ authorization, l.authzs.lookup id = some authorization →
    (authorization.status = .valid ↔ l.ChallengesValid id)

/-- An order is pending iff one of its authorizations is not valid. -/
def Waits (l : Ledger) (id : Text) : Prop :=
  ∀ order, l.orders.lookup id = some order →
    (order.status = .pending ↔ ¬ l.AuthorizationsValid id)

/-- Challenges, authorizations, orders and certificates belong together. -/
structure Linked (l : Ledger) : Prop where
  ordered : ∀ id authorization, l.authzs.lookup id = some authorization →
    ∃ order, l.orders.lookup authorization.orderID = some order
  authorized : ∀ id challenge, l.challenges.lookup id = some challenge →
    ∃ authorization, l.authzs.lookup challenge.authorizationID = some authorization
  identifiers : ∀ id order, l.orders.lookup id = some order →
    ((orderAuthorizations l id).map identifierOf).Perm (orderIdentifiers order)
  certified : ∀ id order, l.orders.lookup id = some order → order.status = .valid →
    NamesCertificate l order

/-- Their statuses agree as well. -/
structure Orders (l : Ledger) : Prop extends Linked l where
  settled : ∀ id, Settled l id
  waits : ∀ id, Waits l id

section Puts

variable {l : Ledger}

theorem Linked.putChallenge (linked : Linked l) (challenge : ACMEChallenge) {old}
    (found : l.challenges.lookup challenge.id = some old)
    (same : challenge.authorizationID = old.authorizationID) :
    Linked (l.putChallenge challenge) where
  ordered := linked.ordered
  authorized key stored there := by
    rcases of_lookup_insert there with rfl | there
    · rw [same]
      exact linked.authorized _ old found
    · exact linked.authorized key stored there
  identifiers := linked.identifiers
  certified := linked.certified

/-- A new version of an authorization is for the same identifier. -/
theorem identifiers_putAuthz (found : l.authzs.lookup authorization.id = some old)
    (same : authorization.orderID = old.orderID)
    (means : identifierOf authorization = identifierOf old) (id : Text) :
      ((orderAuthorizations (l.putAuthz authorization) id).map identifierOf).Perm
        ((orderAuthorizations l id).map identifierOf) := by
  have before := ((values_perm_of_lookup found).filter
    fun authorization => decide (authorization.orderID = id)).map identifierOf
  refine List.Perm.trans (List.Perm.of_eq ?_) before.symm
  simp only [orderAuthorizations, putAuthz, values_insert, filter_cons, same]
  split
  · rw [map_cons, map_cons, means]
  · rfl

theorem Linked.putAuthz (linked : Linked l) (authorization : ACMEAuthorization)
    (found : l.authzs.lookup authorization.id = some old)
    (same : authorization.orderID = old.orderID)
    (means : identifierOf authorization = identifierOf old) :
    Linked (l.putAuthz authorization) where
  ordered key stored there := by
    rcases of_lookup_insert there with rfl | there
    · rw [same]
      exact linked.ordered _ old found
    · exact linked.ordered key stored there
  authorized key challenge there := by
    obtain ⟨stored, held⟩ := linked.authorized key challenge there
    by_cases own : challenge.authorizationID = authorization.id
    · exact ⟨authorization, by rw [own]; exact lookup_insert _⟩
    · exact ⟨stored, by simp [Ledger.putAuthz, own, held]⟩
  identifiers id order there :=
    (identifiers_putAuthz found same means id).trans (linked.identifiers id order there)
  certified := linked.certified

theorem Linked.putOrder (linked : Linked l) {old}
    (found : l.orders.lookup order.id = some old) (same : OrderSame old order)
    (certified : order.status = .valid → NamesCertificate l order) : Linked (l.putOrder order) where
  ordered id authorization there := by
    obtain ⟨stored, known⟩ := linked.ordered id authorization there
    by_cases own : authorization.orderID = order.id
    · exact ⟨order, by rw [own]; exact lookup_insert _⟩
    · exact ⟨stored, by simp [Ledger.putOrder, own, known]⟩
  authorized := linked.authorized
  identifiers id stored there := by
    simp only [Ledger.putOrder, lookup_insert_eq] at there
    split at there
    · next own =>
      cases there
      subst own
      have asked : orderIdentifiers order = orderIdentifiers old := by rw [same]; rfl
      rw [asked]
      exact linked.identifiers _ old found
    · exact linked.identifiers id stored there
  certified id stored there valid := by
    rcases of_lookup_insert there with rfl | there
    · exact certified valid
    · exact linked.certified id stored there valid

/-- A new version of a challenge matters only to its own authorization. -/
theorem challengesValid_putChallenge {challenge old}
    (found : l.challenges.lookup challenge.id = some old)
    (same : challenge.authorizationID = old.authorizationID)
    (other : challenge.authorizationID ≠ id) :
    (l.putChallenge challenge).ChallengesValid id ↔ l.ChallengesValid id :=
  forall_owned_insert_iff found same other

theorem Settled.putChallenge (settled : Settled l id) (challenge : ACMEChallenge) {old}
    (found : l.challenges.lookup challenge.id = some old)
    (same : challenge.authorizationID = old.authorizationID)
    (other : challenge.authorizationID ≠ id) :
    Settled (l.putChallenge challenge) id := by
  intro authorization held
  rw [challengesValid_putChallenge found same other]
  exact settled authorization held

theorem Settled.putAuthz (settled : Settled l id) (authorization : ACMEAuthorization)
    (other : authorization.id ≠ id) : Settled (l.putAuthz authorization) id := by
  intro stored held
  simp only [Ledger.putAuthz, lookup_insert_eq, if_neg other.symm] at held
  exact settled stored held

/-- A new version of an authorization matters only to its own order. -/
theorem authorizationsValid_putAuthz (found : l.authzs.lookup authorization.id = some old)
    (same : authorization.orderID = old.orderID) (other : authorization.orderID ≠ id) :
    (l.putAuthz authorization).AuthorizationsValid id ↔ l.AuthorizationsValid id :=
  forall_owned_insert_iff found same other

theorem Waits.putAuthz (waits : Waits l id) (authorization : ACMEAuthorization)
    (found : l.authzs.lookup authorization.id = some old)
    (same : authorization.orderID = old.orderID) (other : authorization.orderID ≠ id) :
    Waits (l.putAuthz authorization) id := by
  intro order known
  rw [authorizationsValid_putAuthz found same other]
  exact waits order known

theorem Waits.putOrder (waits : Waits l id) (order : ACMEOrder) (other : order.id ≠ id) :
    Waits (l.putOrder order) id := by
  intro stored known
  simp only [Ledger.putOrder, lookup_insert_eq, if_neg other.symm] at known
  exact waits stored known

/-- An order as it was written. -/
theorem Waits.written (agrees : order.status = .pending ↔ ¬ l.AuthorizationsValid order.id) :
    Waits (l.putOrder order) order.id := by
  intro stored known
  obtain rfl : order = stored := by simpa [Ledger.putOrder] using known
  exact agrees

end Puts

section Changes

variable {l after : Ledger} {challenge : ACMEChallenge} {authorization : ACMEAuthorization}
  {order : ACMEOrder} {now : Time}

/-- The order of an authorization that is not valid waits. -/
theorem Orders.pending (orders : Orders l)
    (held : l.authzs.lookup authorization.id = some authorization)
    (waiting : authorization.status = .pending)
    (found : l.orders.lookup authorization.orderID = some order) : order.status = .pending := by
  refine (orders.waits _ order found).mpr ?_
  intro valid
  have valid := valid _ authorization held rfl
  simp [waiting] at valid

/-- An order that was ready is decided. -/
theorem Orders.decide (orders : Orders l) {stored}
    (found : l.orders.lookup order.id = some stored) (ready : stored.status = .ready)
    (decided : order.status ≠ .pending) (id : Text) : Waits (l.putOrder order) id := by
  by_cases own : order.id = id
  · subst own
    have waits := orders.waits _ stored found
    exact Waits.written (iff_of_false decided (waits.not.mp (by simp [ready])))
  · exact (orders.waits id).putOrder order own

/-- A challenge moves on, and its authorization keeps waiting. -/
theorem Orders.answer (orders : Orders l) {answered}
    (opened : OpenChallenge l challenge authorization) (id : answered.id = challenge.id)
    (owner : answered.authorizationID = authorization.id)
    (waiting : ¬ (l.putChallenge answered).ChallengesValid authorization.id) :
    Orders (l.putChallenge answered) := by
  have found : l.challenges.lookup answered.id = some challenge := id ▸ opened.found
  have same : answered.authorizationID = challenge.authorizationID := owner.trans opened.owner.symm
  refine ⟨orders.toLinked.putChallenge answered found same, ?_, orders.waits⟩
  intro other
  by_cases own : answered.authorizationID = other
  · intro stored held
    rw [← own, owner] at held ⊢
    cases Option.mem_unique opened.held held
    simp [opened.pending, waiting]
  · exact (orders.settled other).putChallenge answered found same own

/-- The ledger after the last challenge of an authorization was completed. -/
def Ledger.authorize (l : Ledger) (challenge : ACMEChallenge) (authorization : ACMEAuthorization)
    (now : Time) : Ledger :=
  (l.putChallenge (completedChallenge challenge now)).putAuthz
    (validAuthorization authorization now)

theorem Linked.authorize (linked : Linked l) (opened : OpenChallenge l challenge authorization) :
    Linked (l.authorize challenge authorization now) :=
  (linked.putChallenge (completedChallenge challenge now) opened.found rfl).putAuthz
    (validAuthorization authorization now) opened.held rfl rfl

theorem Settled.authorize (settled : ∀ id, Settled l id)
    (opened : OpenChallenge l challenge authorization)
    (answered : (l.putChallenge (completedChallenge challenge now)).ChallengesValid
    authorization.id) (id : Text) : Settled (l.authorize challenge authorization now) id := by
  by_cases own : authorization.id = id
  · subst own
    intro stored held
    obtain rfl : validAuthorization authorization now = stored :=
      Option.some.inj ((lookup_insert _).symm.trans held)
    exact iff_of_true rfl answered
  · have unanswered : (completedChallenge challenge now).authorizationID ≠ id :=
      fun same => own (opened.owner.symm.trans same)
    exact ((settled id).putChallenge (completedChallenge challenge now) opened.found rfl
      unanswered).putAuthz (validAuthorization authorization now) own

theorem Waits.authorize (waits : Waits l id) (opened : OpenChallenge l challenge authorization)
    (other : authorization.orderID ≠ id) : Waits (l.authorize challenge authorization now) id :=
  Waits.putAuthz waits (validAuthorization authorization now) opened.held rfl other

theorem AcmeChange.orders (change : AcmeChange l after) (orders : Orders l) : Orders after := by
  cases change with
  | processing opened =>
    refine orders.answer opened rfl opened.owner ?_
    intro valid
    have valid := valid _ _ (lookup_insert _) opened.owner
    cases valid
  | completed opened waiting => exact orders.answer opened rfl opened.owner waiting
  | @authorized challenge authorization order now opened answered found owner waiting =>
    refine ⟨orders.toLinked.authorize opened, Settled.authorize orders.settled opened answered, ?_⟩
    intro id
    by_cases own : authorization.orderID = id
    · rintro stored (known : l.orders.lookup id = some stored)
      rw [← own, owner] at known ⊢
      cases Option.mem_unique found known
      have pending := orders.pending opened.held opened.pending (owner ▸ found)
      exact iff_of_true pending (waiting.resolve_left (not_not_intro pending))
    · exact (orders.waits id).authorize opened own
  | @readied challenge authorization order now opened answered found owner pending authorized =>
    have linked : Linked (l.authorize challenge authorization now) :=
      orders.toLinked.authorize opened
    refine ⟨linked.putOrder found rfl (by simp),
      Settled.authorize orders.settled opened answered, ?_⟩
    intro id
    by_cases own : order.id = id
    · subst own
      exact Waits.written (iff_of_false (by simp) (not_not_intro authorized))
    · have waits : Waits (l.authorize challenge authorization now) id :=
        (orders.waits id).authorize opened (owner ▸ own)
      exact waits.putOrder _ own
  | @invalidated stored order found ready same invalid =>
    refine ⟨orders.toLinked.putOrder found same (by simp [invalid]), orders.settled, ?_⟩
    exact orders.decide found ready (by simp [invalid])
  | @finalized stored order certificate found ready same valid issued names =>
    refine ⟨orders.toLinked.putOrder found same fun _ => ⟨certificate, issued, names⟩,
      orders.settled, ?_⟩
    exact orders.decide found ready (by simp [valid])

end Changes

section Opened

variable {l : Ledger} {drawn drawn' : Nat} {opened : OpenedOrder}

section

variable (ids : s.FreshIDs) (given : Given s drawn l)

include ids given

/-- The authorizations of an order after a new one was opened. -/
theorem orderAuthorizations_open (fresh : opened.Fresh s drawn drawn') (id : Text) :
    (orderAuthorizations (l.openOrder opened) id).Perm
      ((if opened.order.id = id then opened.parts.map Prod.fst else []) ++
        orderAuthorizations l id) := by
  obtain ⟨-, new, -⟩ := fresh.newRecords ids
  have whole := (values_insertAll_perm new.distinct fun authorization inside =>
    new.fresh ids given.authzs inside).filter fun authorization =>
      decide (authorization.orderID = id)
  rw [filter_append] at whole
  refine whole.trans (.append_right _ (.of_eq ?_))
  have owner : ∀ authorization ∈ opened.parts.map Prod.fst,
      authorization.orderID = opened.order.id := by
    intro authorization inside
    obtain ⟨part, member, rfl⟩ := mem_map.mp inside
    exact (fresh.authorization part member).1
  split
  · next own =>
    rw [filter_eq_self]
    intro authorization inside
    simp [owner authorization inside, own]
  · next other =>
    rw [filter_eq_nil_iff]
    intro authorization inside
    simp [owner authorization inside, other]

theorem Linked.openOrder (linked : Linked l) (fresh : opened.Fresh s drawn drawn') :
    Linked (l.openOrder opened) := by
  obtain ⟨⟨number, unused, named⟩, authzs, challenges⟩ := fresh.newRecords ids
  have unknown : l.orders.lookup opened.order.id = none := by
    rw [named]
    exact given.orders.fresh ids unused.1
  constructor
  case ordered =>
    intro id authorization there
    rcases authzs.lookup_cases there with ⟨inside, -⟩ | old
    · obtain ⟨part, member, rfl⟩ := mem_map.mp inside
      rw [(fresh.authorization part member).1]
      exact ⟨opened.order, lookup_insert _⟩
    · obtain ⟨order, known⟩ := linked.ordered id authorization old
      refine ⟨order, ?_⟩
      change (l.orders.insert opened.order.id opened.order).lookup _ = _
      rw [lookup_insert_eq, if_neg, known]
      intro same
      rw [same, unknown] at known
      cases known
  case authorized =>
    intro id challenge there
    rcases challenges.lookup_cases there with ⟨inside, -⟩ | old
    · obtain ⟨part, member, rfl⟩ := mem_map.mp inside
      rw [(fresh.challenge part member).1]
      exact ⟨part.1, authzs.lookup_new (mem_map_of_mem member)⟩
    · obtain ⟨authorization, held⟩ := linked.authorized id challenge old
      exact ⟨authorization, authzs.lookup_old ids given.authzs held⟩
  case identifiers =>
    intro id order known
    have parts := (orderAuthorizations_open ids given fresh id).map identifierOf
    refine parts.trans ?_
    change (l.orders.insert opened.order.id opened.order).lookup id = some order at known
    rw [lookup_insert_eq] at known
    by_cases own : id = opened.order.id
    · rw [if_pos own] at known
      cases known
      have empty : orderAuthorizations l id = [] := by
        rw [orderAuthorizations, filter_eq_nil_iff]
        intro authorization inside
        obtain ⟨key, held⟩ := mem_values_iff.mp inside
        obtain ⟨order, known⟩ := linked.ordered key authorization held
        simp only [decide_eq_true_eq]
        intro same
        rw [same, own, unknown] at known
        cases known
      rw [if_pos own.symm, empty, append_nil, map_map, ← fresh.identifiers]
      exact .refl _
    · rw [if_neg own] at known
      rw [if_neg (Ne.symm own), nil_append]
      exact linked.identifiers id order known
  case certified =>
    intro id order known valid
    change (l.orders.insert opened.order.id opened.order).lookup id = some order at known
    rcases of_lookup_insert known with rfl | known
    · simp [fresh.pending] at valid
    · exact linked.certified id order known valid

theorem Orders.openOrder (orders : Orders l) (fresh : opened.Fresh s drawn drawn') :
    Orders (l.openOrder opened) := by
  obtain ⟨⟨number, unused, named⟩, authzs, challenges⟩ := fresh.newRecords ids
  refine ⟨orders.toLinked.openOrder ids given fresh, ?_, ?_⟩
  · intro id authorization held
    rcases authzs.lookup_cases held with ⟨inside, rfl⟩ | old
    · obtain ⟨part, member, rfl⟩ := mem_map.mp inside
      refine iff_of_false (by simp [(fresh.authorization part member).2]) ?_
      intro valid
      have valid := valid _ part.2 (challenges.lookup_new (mem_map_of_mem member))
        (fresh.challenge part member).1
      simp [(fresh.challenge part member).2] at valid
    · have old : l.authzs.lookup id = some authorization := old
      rw [orders.settled id authorization old]
      constructor
      · intro valid key challenge there owner
        rcases challenges.lookup_cases there with ⟨inside, -⟩ | before
        · obtain ⟨part, member, rfl⟩ := mem_map.mp inside
          rw [(fresh.challenge part member).1] at owner
          have absent := authzs.fresh ids given.authzs (mem_map_of_mem member)
          rw [owner, old] at absent
          cases absent
        · exact valid key challenge before owner
      · intro valid key challenge there
        exact valid key challenge (challenges.lookup_old ids given.challenges there)
  · intro id order known
    have unknown : l.orders.lookup opened.order.id = none := by
      rw [named]
      exact given.orders.fresh ids unused.1
    change (l.orders.insert opened.order.id opened.order).lookup id = some order at known
    rw [lookup_insert_eq] at known
    split at known
    · next own =>
      cases known
      subst own
      refine iff_of_true fresh.pending ?_
      intro valid
      obtain ⟨part, member⟩ := exists_mem_of_ne_nil _ fresh.inhabited
      have valid := valid _ part.1 (authzs.lookup_new (mem_map_of_mem member))
        (fresh.authorization part member).1
      simp [(fresh.authorization part member).2] at valid
    · rw [orders.waits id order known]
      refine not_congr ⟨?_, ?_⟩
      · intro valid key authorization there owner
        rcases authzs.lookup_cases there with ⟨inside, -⟩ | before
        · obtain ⟨part, member, rfl⟩ := mem_map.mp inside
          rw [(fresh.authorization part member).1] at owner
          rw [owner, known] at unknown
          cases unknown
        · exact valid key authorization before owner
      · intro valid key authorization there
        exact valid key authorization (authzs.lookup_old ids given.authzs there)

end

end Opened

/-- Certificates keep their names. -/
theorem NamesCertificate.mono (names : NamesCertificate l order)
    (grows : Table.Grows CertificateSame l.certificates after.certificates) :
    NamesCertificate after order := by
  obtain ⟨certificate, found, dnsNames, ipAddresses⟩ := names
  obtain ⟨stored, there, same⟩ := grows _ certificate found
  rw [CertificateSame] at same
  exact ⟨stored, there, by rw [same]; exact dnsNames, by rw [same]; exact ipAddresses⟩

/-- A change that leaves the orders and their parts alone. -/
theorem Orders.of_eq (orders : Orders l) (same : after.orders = l.orders)
    (authzs : after.authzs = l.authzs) (challenges : after.challenges = l.challenges)
    (grows : Table.Grows CertificateSame l.certificates after.certificates) : Orders after where
  ordered := by simpa only [authzs, same] using orders.ordered
  authorized := by simpa only [authzs, challenges] using orders.authorized
  identifiers := by simpa only [orderAuthorizations, authzs, same] using orders.identifiers
  certified id order known valid :=
    (orders.certified id order (same ▸ known) valid).mono grows
  settled id := by
    simpa only [Settled, Ledger.ChallengesValid, authzs, challenges] using orders.settled id
  waits id := by
    simpa only [Waits, Ledger.AuthorizationsValid, authzs, same] using orders.waits id

theorem Change.orders (ids : s.FreshIDs) (consistent : Consistent s before)
    (orders : Orders (ledger before)) (change : Change s call before drawn event report after) :
    Orders after := by
  have grows := (change.grows ids consistent).certificates
  cases change with
  | configured change | crl change =>
    exact orders.of_eq (by rw [change.frame]) (by rw [change.frame]) (by rw [change.frame]) grows
  | opened fresh => exact orders.openOrder ids consistent.given fresh
  | acme change => exact change.orders orders
  | _ => exact orders.of_eq rfl rfl rfl grows

theorem reachable_orders (ids : s.FreshIDs) (reached : s.Reachable cfg) :
    Orders (ledger cfg.shared) := by
  refine @reachable_induct s cfg ids (fun state => Orders (ledger state)) ?_ ?_ ?_ reached
  · intro world initial
    rw [ledger, initial.db]
    constructor
    case toLinked => constructor <;> simp [of, Db.empty]
    case settled => simp [Settled, of, Db.empty]
    case waits => simp [Waits, of, Db.empty]
  · intro before call event report after consistent orders _ change
    exact change.orders ids consistent orders
  · intro before after orders outer
    rw [outer.ledger]
    exact orders

section Forward

variable {l after : Ledger}

theorem AcmeChange.forward (change : AcmeChange l after) : OrdersForward l after := by
  have same := OrdersForward.refl l
  have completed : ∀ {challenge authorization} (now : Time),
      OpenChallenge l challenge authorization →
      Table.Grows (fun old new => Relation.ReflTransGen ChallengeMove old.status new.status)
        l.challenges (l.putChallenge (completedChallenge challenge now)).challenges :=
    fun _ opened =>
      .replace (fun _ => .refl) opened.found (.single (.completed opened.unanswered))
  have authorized : ∀ {challenge authorization} (now : Time),
      OpenChallenge l challenge authorization →
      Table.Grows (fun old new => Relation.ReflTransGen AuthorizationMove old.status new.status)
        l.authzs (l.putAuthz (validAuthorization authorization now)).authzs := by
    intro challenge authorization now opened
    refine .replace (fun _ => .refl) opened.held ?_
    rw [opened.pending]
    exact .single .valid
  cases change with
  | processing opened =>
    refine { same with challenges := .replace (fun _ => .refl) opened.found ?_ }
    rcases opened.unanswered with pending | processing
    · rw [pending]
      exact .single .processing
    · rw [processing]
  | completed opened => exact { same with challenges := completed _ opened }
  | authorized opened =>
    exact { same with challenges := completed _ opened, authzs := authorized _ opened }
  | readied opened _ found _ pending =>
    refine ⟨completed _ opened, authorized _ opened, .replace (fun _ => .refl) found ?_⟩
    rw [pending]
    exact .single .ready
  | invalidated found ready _ invalid =>
    refine { same with orders := .replace (fun _ => .refl) found ?_ }
    rw [ready, invalid]
    exact .single .invalidated
  | finalized found ready _ valid =>
    refine { same with orders := .replace (fun _ => .refl) found ?_ }
    rw [ready, valid]
    exact .single .finalized

theorem Change.ordersForward (ids : s.FreshIDs) (consistent : Consistent s before)
    (change : Change s call before drawn event report after) :
    OrdersForward (ledger before) after := by
  have same := OrdersForward.refl (ledger before)
  cases change with
  | configured change | crl change =>
    rw [change.frame]
    exact { same with }
  | opened fresh =>
    obtain ⟨⟨number, unused, named⟩, authzs, challenges⟩ := fresh.newRecords ids
    have given := consistent.given
    constructor
    · intro id challenge found
      exact ⟨challenge, challenges.lookup_old ids given.challenges found, .refl⟩
    · intro id authorization found
      exact ⟨authorization, authzs.lookup_old ids given.authzs found, .refl⟩
    · exact given.orders.grows ids (fun _ => .refl) unused.1 named
  | acme change => exact change.forward
  | _ => exact { same with }

end Forward

/-- Over every run: orders in status ready or valid have only valid authorizations, an authorization
is valid iff its challenges are, a pending order has an authorization that is not valid, an order in
status valid names a stored certificate for exactly the identifiers of its authorizations, and no
status moves backwards. -/
theorem orders_consistent (ids : s.FreshIDs) (reached : s.Reachable cfg) :
    (∀ id order, (ledger cfg.shared).orders.lookup id = some order →
      ((order.status = .ready ∨ order.status = .valid) →
        (ledger cfg.shared).AuthorizationsValid id) ∧
      (order.status = .pending → ∃ key authorization,
        (ledger cfg.shared).authzs.lookup key = some authorization ∧
          authorization.orderID = id ∧ authorization.status ≠ .valid) ∧
      (order.status = .valid → ∃ certificate,
        (ledger cfg.shared).certificates.lookup order.certificateID = some certificate ∧
        ((orderAuthorizations (ledger cfg.shared) id).map identifierOf).Perm
          (certificate.dnsNames.map (fun name => ("dns".toList, name)) ++
            certificate.ipAddresses.map fun address => ("ip".toList, address)))) ∧
    (∀ id authorization, (ledger cfg.shared).authzs.lookup id = some authorization →
      (authorization.status = .valid ↔ (ledger cfg.shared).ChallengesValid id)) ∧
    ∀ actions final, cfg.performAll actions = some final →
      OrdersForward (ledger cfg.shared) (ledger final.shared) := by
  have orders := reachable_orders ids reached
  refine ⟨?_, orders.settled, ?_⟩
  · intro id order known
    refine ⟨?_, ?_, ?_⟩
    · intro decided
      by_contra unanswered
      have pending := (orders.waits id order known).mpr unanswered
      simp [pending] at decided
    · intro pending
      have unanswered := (orders.waits id order known).mp pending
      rw [Ledger.AuthorizationsValid] at unanswered
      push Not at unanswered
      exact unanswered
    · intro valid
      obtain ⟨certificate, issued, dnsNames, ipAddresses⟩ := orders.certified id order known valid
      refine ⟨certificate, issued, ?_⟩
      rw [dnsNames, ipAddresses]
      exact orders.identifiers id order known
  · intro actions final performed
    refine @reachable_along s cfg ids (fun a b => OrdersForward (ledger a) (ledger b)) ?_ ?_ ?_ ?_
      reached actions final performed
    · intro state
      exact .refl _
    · intro a b c
      exact .trans
    · intro before call event report after consistent _ change
      exact change.ordersForward ids consistent
    · intro before after outer
      rw [outer.ledger]
      exact .refl _

/-- The client's order when it is ready. -/
def clientReady : ACMEOrder := readyOrder (smallOrder [] 4) newYear

/-- An order whose authorizations are valid is ready. -/
theorem orders_consistent_ready : ∃ (cfg : SmallConfig) (order : ACMEOrder),
    (ledger cfg.shared).orders.lookup order.id = some order ∧ order.status = .ready ∧
      (ledger cfg.shared).AuthorizationsValid order.id := by
  obtain ⟨⟨_, _, _⟩, plan, log, reached, -, rfl, ready⟩ := rehearsed_reaches newWorld_initial
    (configuring ++ ordering 2 4 0 []) (fun plan =>
      plan.shared.world.db.acmeOrders.lookup clientReady.id = some clientReady)
  have consistent := orders_consistent small_freshIDs reached
  exact ⟨_, clientReady, ready, rfl, (consistent.1 _ _ ready).1 (.inl rfl)⟩

/-- A call that finalizes an order stored the enrollment. -/
def OrderEnrollment (state : State) (orderID enrollmentID : Text) : Prop :=
  ∃ call ctx actor req, (call, Event.started (.finalizeACMEOrder ctx actor orderID req)) ∈
    state.history ∧ (call, Event.enrollmentCreated enrollmentID) ∈ state.history

/-- The enrollment was rejected. -/
def Rejected (l : Ledger) (enrollmentID : Text) : Prop :=
  ∃ enrollment, l.enrollments.lookup enrollmentID = some enrollment ∧ enrollment.status = .rejected

/-- A call that finalizes an order stores an enrollment only if those stored for the order before
were rejected. -/
def OnlyEnrollment (state : State) (call : Nat) (event : Option Event) : Prop :=
  ∀ id, event = some (.enrollmentCreated id) → ∀ orderID ctx actor req,
    (call, Event.started (.finalizeACMEOrder ctx actor orderID req)) ∈ state.history →
    ∀ earlier, OrderEnrollment state orderID earlier → Rejected (ledger state) earlier

/-- Of two enrollments of an order one was rejected. -/
def OrdersEnrolled (state : State) : Prop :=
  ∀ orderID first second, OrderEnrollment state orderID first →
    OrderEnrollment state orderID second → first ≠ second →
    Rejected (ledger state) first ∨ Rejected (ledger state) second

section Enrolled

variable {before : State} {call drawn : Nat} {event : Option Event} {report : Report}
  {after : Ledger}

/-- A rejected enrollment stays rejected. -/
theorem Change.rejected (ids : s.FreshIDs) (consistent : Consistent s before)
    (change : Change s call before drawn event report after)
    (rejected : Rejected (ledger before) id) : Rejected after id := by
  obtain ⟨enrollment, found, status⟩ := rejected
  have kept : after.enrollments = (ledger before).enrollments → Rejected after id := by
    intro same
    exact ⟨enrollment, by rw [same, found], status⟩
  have other : ∀ {written : Enrollment}, written.id ≠ id →
      after.enrollments = (ledger before).enrollments.insert written.id written →
      Rejected after id := by
    intro written different same
    exact ⟨enrollment, by rw [same, lookup_insert_eq, if_neg different.symm, found], status⟩
  cases change with
  | configured change | crl change | acme change => exact kept (by rw [change.frame])
  | @enrolled written _ _ _ _ _ _ fresh named =>
    refine @other written ?_ rfl
    rintro rfl
    rw [named, consistent.given.enrollments.fresh ids fresh.1] at found
    cases found
  | @decided stored written _ _ there pending =>
    refine @other written ?_ rfl
    rintro rfl
    cases Option.mem_unique there found
    rw [status] at pending
    cases pending
  | @finalized enrolled attempt now there approved =>
    refine @other { enrolled with status := .issued, updatedAt := now } ?_ rfl
    rintro rfl
    cases Option.mem_unique there found
    rw [status] at approved
    cases approved
  | _ => exact kept rfl

/-- The enrollments of an order after a step. -/
theorem Change.orderEnrollment (change : Change s call before drawn event report after) {world}
    (enrolled : OrderEnrollment (before.after call event world) orderID id) :
    OrderEnrollment before orderID id ∨ (event = some (.enrollmentCreated id) ∧ ∃ ctx actor req,
        (call, Event.started (.finalizeACMEOrder ctx actor orderID req)) ∈ before.history) := by
  obtain ⟨number, ctx, actor, req, started, created⟩ := enrolled
  rcases Shared.mem_after_iff.mp started with begun | ⟨-, new⟩
  · rcases Shared.mem_after_iff.mp created with old | ⟨same, new⟩
    · exact .inl ⟨number, ctx, actor, req, begun, old⟩
    · obtain rfl : number = call := same
      exact .inr ⟨new, ctx, actor, req, begun⟩
  · exact absurd new (change.leaves.1 _)

theorem Outer.orderEnrollment {next} (outer : Outer before next)
    (enrolled : OrderEnrollment next orderID id) : OrderEnrollment before orderID id := by
  obtain ⟨number, ctx, actor, req, started, created⟩ := enrolled
  have created := (outer.mem_history_iff fun _ => by nofun).mp created
  refine ⟨number, ctx, actor, req, ?_, created⟩
  rcases outer.history with same | ⟨fresh, call, unused, longer⟩
  · exact same ▸ started
  · rw [longer, mem_append, mem_singleton] at started
    rcases started with started | new
    · exact started
    · cases new
      exact absurd created (unused _)

theorem OrdersEnrolled.step (ids : s.FreshIDs) (consistent : Consistent s before)
    (enrolled : OrdersEnrolled before) (only : OnlyEnrollment before call event) {world}
    (change : Change s call before drawn event report (.of world.db)) :
    OrdersEnrolled (before.after call event world) := by
  intro orderID first second isFirst isSecond different
  have new : ∀ {earlier id : Text}, OrderEnrollment before orderID earlier →
      event = some (.enrollmentCreated id) ∧ (∃ ctx actor req,
        (call, Event.started (.finalizeACMEOrder ctx actor orderID req)) ∈ before.history) →
      Rejected (.of world.db) earlier := by
    rintro earlier id old ⟨created, ctx, actor, req, started⟩
    exact change.rejected ids consistent (only id created orderID ctx actor req started earlier old)
  rcases change.orderEnrollment isFirst with old | created
  · rcases change.orderEnrollment isSecond with old' | created
    · exact (enrolled orderID first second old old' different).imp (change.rejected ids consistent)
        (change.rejected ids consistent)
    · exact .inl (new old created)
  · rcases change.orderEnrollment isSecond with old' | created'
    · exact .inr (new old' created)
    · have same := created.1.symm.trans created'.1
      obtain rfl : first = second := by simpa using same
      exact absurd rfl different

end Enrolled

/-- The enrollment of a certificate was not rejected. -/
theorem Issuance.not_rejected (issuance : Issuance s drawn l) {certificate}
    (found : l.certificates.lookup id = some certificate) :
    ¬ Rejected l certificate.enrollmentID := by
  rintro ⟨enrollment, stored, rejected⟩
  obtain ⟨attempt, there, finalized, -⟩ := issuance.certified id certificate found
  obtain ⟨issued, -, stored', status, -⟩ := issuance.finalized _ attempt there finalized
  cases Option.mem_unique stored stored'
  rw [rejected] at status
  cases status

/-- In every run in which the calls that finalize an order store a further enrollment for it only
once those stored before were rejected, at most one certificate is stored for the order. -/
theorem order_issuedOnce (ids : s.FreshIDs)
    (reached : System.Reaches (System.Guarded OnlyEnrollment) Initial cfg)
    {orderID id id' : Text} {certificate certificate' : Certificate}
    (found : (ledger cfg.shared).certificates.lookup id = some certificate)
    (found' : (ledger cfg.shared).certificates.lookup id' = some certificate')
    (owner : OrderEnrollment cfg.shared orderID certificate.enrollmentID)
    (owner' : OrderEnrollment cfg.shared orderID certificate'.enrollmentID) : id = id' := by
  have enrolled : OrdersEnrolled cfg.shared := by
    refine @guarded_induct s cfg ids OnlyEnrollment OrdersEnrolled ?_ ?_ ?_ reached
    · rintro world - orderID first second ⟨_, _, _, _, started, -⟩
      cases started
    · intro before call event report after consistent enrolled only _ change
      exact enrolled.step ids consistent only change
    · intro before after enrolled outer orderID first second isFirst isSecond different
      rw [outer.ledger]
      exact enrolled orderID first second (outer.orderEnrollment isFirst)
        (outer.orderEnrollment isSecond) different
  have issuance := (reaches_consistent ids reached).issuance
  by_cases same : certificate.enrollmentID = certificate'.enrollmentID
  · obtain ⟨attempt, there, -, rfl⟩ := issuance.certified id certificate found
    obtain ⟨attempt', there', -, rfl⟩ := issuance.certified id' certificate' found'
    rw [← same] at there'
    cases Option.mem_unique there there'
    rfl
  · rcases enrolled orderID _ _ owner owner' same with rejected | rejected
    · exact absurd rejected (issuance.not_rejected found)
    · exact absurd rejected (issuance.not_rejected found')

/-- The enrollment that a call finalizes the client's order with. -/
def clientEnrollment (number : Nat) : Enrollment :=
  orderEnrollment smallService clientReady clientFinalize webInfo number newYear

/-- The certificate for it. -/
def clientCertificate (number : Nat) (result : IssueResult) : Certificate :=
  issuedCertificate (approved (clientEnrollment number) "client" newYear)
    (signedAtOnce smallService (clientEnrollment number).id (number + 3) result newYear) newYear

/-- The client's order is finalized; the eighth step stores the enrollment and the twentieth the
certificate. -/
def finalizing (answer : Oracle) (number : Nat) (node : Node) : List SmallAction :=
  answered answer number node (.finalizeACMEOrder {} "client" clientReady.id clientFinalize) 20

/-- A check that passes only runs with one enrollment. -/
def onlyEnrollment (state : State) (_ : Nat) : Option Event → Bool
  | some (.enrollmentCreated _) => state.history.all fun
    | (_, .enrollmentCreated _) => false
    | _ => true
  | _ => true

theorem onlyEnrollment_strict (state : State) (log : AuditLog) (call : Nat) (event : Option Event)
    (passed : onlyEnrollment state call event = true) :
    OnlyEnrollment (withLog state log) call event := by
  rintro id rfl orderID ctx actor req - earlier ⟨number, _, _, _, -, created⟩
  cases all_eq_true.mp passed _ created

/-- A client that finalizes its order once. -/
theorem order_issuedOnce_client : ∃ (cfg : SmallConfig) (orderID id : Text)
    (certificate : Certificate),
    (ledger cfg.shared).certificates.lookup id = some certificate ∧
      OrderEnrollment cfg.shared orderID certificate.enrollmentID ∧
      ∀ id' certificate', (ledger cfg.shared).certificates.lookup id' = some certificate' →
        OrderEnrollment cfg.shared orderID certificate'.enrollmentID → id = id' := by
  obtain ⟨⟨_, _, _⟩, plan, log, reached, -, -, rfl, issued, started, created⟩ := rehearsed_guarded
    onlyEnrollment onlyEnrollment_strict newWorld_initial (configuring ++ ordering 2 4 0 [] ++
      finalizing .working 5 1) (fun plan =>
      plan.shared.world.db.certificates.lookup (clientCertificate 12 webResult).id =
        some (clientCertificate 12 webResult) ∧
      (5, .started (.finalizeACMEOrder {} "client" clientReady.id clientFinalize)) ∈
        plan.shared.history ∧
      (5, .enrollmentCreated (clientEnrollment 12).id) ∈ plan.shared.history)
  have owner : OrderEnrollment (withLog plan.shared log) clientReady.id
      (clientCertificate 12 webResult).enrollmentID :=
    ⟨5, {}, "client", clientFinalize, started, created⟩
  exact ⟨_, _, _, _, issued, owner, fun id' certificate' found' owner' =>
    order_issuedOnce small_freshIDs reached issued found' owner owner'⟩

/-- The second certificate for the client's order. -/
def secondResult : IssueResult := { webResult with serialNumber := "2" }

/-- Calls that finalize one order side by side have two certificates issued for it. -/
theorem order_issuedTwice : ∃ cfg : SmallConfig, smallService.Reachable cfg ∧
    ∃ orderID id id' certificate certificate',
      (ledger cfg.shared).certificates.lookup id = some certificate ∧
      (ledger cfg.shared).certificates.lookup id' = some certificate' ∧
      OrderEnrollment cfg.shared orderID certificate.enrollmentID ∧
      OrderEnrollment cfg.shared orderID certificate'.enrollmentID ∧ id ≠ id' := by
  obtain ⟨⟨_, _, _⟩, plan, log, reached, -, rfl, one, two, first, created, second, created'⟩ :=
    rehearsed_reaches newWorld_initial (configuring ++ ordering 2 4 0 [] ++
        finalizing .working 5 1 ++ finalizing { Oracle.working with issue := .ok secondResult }
          6 2) (fun plan =>
      plan.shared.world.db.certificates.lookup (clientCertificate 12 webResult).id =
        some (clientCertificate 12 webResult) ∧
      plan.shared.world.db.certificates.lookup (clientCertificate 16 secondResult).id =
        some (clientCertificate 16 secondResult) ∧
      (5, .started (.finalizeACMEOrder {} "client" clientReady.id clientFinalize)) ∈
        plan.shared.history ∧
      (5, .enrollmentCreated (clientEnrollment 12).id) ∈ plan.shared.history ∧
      (6, .started (.finalizeACMEOrder {} "client" clientReady.id clientFinalize)) ∈
        plan.shared.history ∧
      (6, .enrollmentCreated (clientEnrollment 16).id) ∈ plan.shared.history)
  exact ⟨_, reached, clientReady.id, _, _, _, _, one, two,
    ⟨5, {}, "client", clientFinalize, first, created⟩,
    ⟨6, {}, "client", clientFinalize, second, created'⟩, by decide +kernel⟩

end AnoPki.Lifecycle
