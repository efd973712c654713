import AnoPki.Foundation.Running
import AnoPki.Lifecycle.CrlRuns
import AnoPki.Lifecycle.OcspRuns

/-! # Lists of one issuer and distribution point

The claims that were taken and the lists that were published for one pair, as the history tells
them. The last claim is the only one that can lead to a publication as long as no two claims of the
pair are alike: the store compares claims by their number and their times only. -/
namespace AnoPki.Lifecycle

open Foundation Domain Store List Table Ledger Tx Int64

variable {publication : CRLPublication} {l : Ledger} {claim : CRLGenerationClaim} {world : World}
  {request : Corecli.GenerateCRLRequest} {events : List Event}

section Numbers

variable {publications : List CRLPublication} {distributionPoint issuerID : Text}

/-- The largest number is the given one, or that of a list. -/
theorem maxCRLNumber_cases (start : Int64) :
    maxCRLNumber publications distributionPoint start = start ∨ ∃ publication ∈ publications,
      publication.distributionPoint = distributionPoint ∧
        publication.crlNumber = maxCRLNumber publications distributionPoint start := by
  induction publications generalizing start with
  | nil => exact .inl rfl
  | cons first rest ih =>
    have further : ∀ number,
        (∃ publication ∈ rest, publication.distributionPoint = distributionPoint ∧
        publication.crlNumber = maxCRLNumber rest distributionPoint number) →
        ∃ publication ∈ first :: rest, publication.distributionPoint = distributionPoint ∧
          publication.crlNumber = maxCRLNumber rest distributionPoint number := by
      rintro number ⟨publication, member, here, largest⟩
      exact ⟨publication, mem_cons_of_mem _ member, here, largest⟩
    rw [maxCRLNumber, foldl_cons]
    split_ifs with larger
    · rcases ih first.crlNumber with same | other
      · exact .inr ⟨first, mem_cons_self, larger.1, same.symm⟩
      · exact .inr (further _ other)
    · rcases ih start with same | other
      · exact .inl same
      · exact .inr (further _ other)

/-- The stored lists of a pair. -/
def Ledger.listsOf (l : Ledger) (issuerID distributionPoint : Text) : List CRLPublication :=
  l.crls.values.filter fun publication =>
    decide (publication.issuerID = issuerID ∧ publication.distributionPoint = distributionPoint)

theorem Ledger.mem_listsOf_iff :
    publication ∈ l.listsOf issuerID distributionPoint ↔ publication ∈ l.crls.values ∧
      publication.issuerID = issuerID ∧ publication.distributionPoint = distributionPoint := by
  rw [listsOf, mem_filter, decide_eq_true_iff]

/-- The lists are numbered from one on, without gaps. -/
def Consecutive (publications : List CRLPublication) : Prop :=
  (publications.map fun publication => publication.crlNumber.toInt) =
    (List.range publications.length).map fun (place : Nat) => (place : Int) + 1

theorem Consecutive.append (numbered : Consecutive publications) {publication : CRLPublication}
    (next : publication.crlNumber.toInt = publications.length + 1) :
    Consecutive (publications ++ [publication]) := by
  rw [Consecutive, map_append, numbered, length_append, length_singleton, range_succ,
    map_append, map_singleton, map_singleton, next]

theorem Consecutive.le_length (numbered : Consecutive publications)
    (member : publication ∈ publications) : publication.crlNumber.toInt ≤ publications.length := by
  have inside : publication.crlNumber.toInt ∈
      publications.map fun publication => publication.crlNumber.toInt := mem_map_of_mem member
  rw [numbered, mem_map] at inside
  obtain ⟨place, small, number⟩ := inside
  rw [mem_range] at small
  omega

theorem Consecutive.exists_last (numbered : Consecutive publications) (filled : publications ≠ []) :
    ∃ publication ∈ publications, publication.crlNumber.toInt = publications.length := by
  have positive := length_pos_iff.mpr filled
  have inside : (publications.length : Int) ∈
      publications.map fun publication => publication.crlNumber.toInt := by
    rw [numbered, mem_map]
    exact ⟨publications.length - 1, mem_range.mpr (by omega), by omega⟩
  obtain ⟨publication, member, number⟩ := mem_map.mp inside
  exact ⟨publication, member, number⟩

/-- The next number comes right after the others, unless it has wrapped around. -/
theorem Ledger.nextCRLNumber_toInt
    (stored : (l.listsOf issuerID distributionPoint).Perm publications)
    (numbered : Consecutive publications)
    (positive : 0 < l.nextCRLNumber issuerID distributionPoint) :
    (l.nextCRLNumber issuerID distributionPoint).toInt = publications.length + 1 := by
  have mem_iff : ∀ publication, publication ∈ publications ↔
      publication ∈ (l.crls.values.filter fun publication =>
        decide (publication.issuerID = issuerID)) ∧
        publication.distributionPoint = distributionPoint := by
    intro publication
    rw [← stored.mem_iff, mem_listsOf_iff, mem_filter, decide_eq_true_iff, and_assoc]
  rw [nextCRLNumber, nextCRLNumber_eq] at positive ⊢
  obtain ⟨nonnegative, above⟩ := @le_maxCRLNumber (l.crls.values.filter fun publication =>
    decide (publication.issuerID = issuerID)) distributionPoint 0
  rw [toInt_succ (le_iff_toInt_le.mp nonnegative) positive]
  congr 1
  apply le_antisymm
  · rcases @maxCRLNumber_cases (l.crls.values.filter fun publication =>
      decide (publication.issuerID = issuerID)) distributionPoint 0 with
        none | ⟨last, member, here, same⟩
    · rw [none]
      exact Int.natCast_nonneg _
    · rw [← same]
      exact numbered.le_length ((mem_iff last).mpr ⟨member, here⟩)
  · by_cases some : publications = []
    · rw [some]
      exact le_iff_toInt_le.mp nonnegative
    · obtain ⟨last, member, number⟩ := numbered.exists_last some
      obtain ⟨inside, here⟩ := (mem_iff last).mp member
      rw [← number]
      exact le_iff_toInt_le.mp (above last inside here)

end Numbers

variable {s : Service} {call : Nat} {before : State} {drawn : Nat} {event : Option Event}
  {report : Report} {after : Ledger} {issuerID distributionPoint : Text}

/-- An entry of an issuer's list stays: the revocation is kept and the certificate stays revoked. -/
theorem Change.revokedEntries (ids : s.FreshIDs) (consistent : Consistent s before)
    (change : Change s call before drawn event report after) {entry}
    (inside : entry ∈ (ledger before).revokedEntries issuerID) :
    entry ∈ after.revokedEntries issuerID := by
  obtain ⟨revocation, recorded, made⟩ := mem_filterMap.mp inside
  obtain ⟨key, found⟩ := mem_values_iff.mp recorded
  obtain ⟨certificate, there, issued, revoked, rfl⟩ := revokedEntry_eq_some_iff.mp made
  suffices kept : after.revocations.lookup key = some revocation ∧
      after.certificates.lookup revocation.certificateID = some certificate by
    refine mem_filterMap.mpr ⟨revocation, mem_values_iff.mpr ⟨key, kept.1⟩, ?_⟩
    exact revokedEntry_eq_some_iff.mpr ⟨certificate, kept.2, issued, revoked, rfl⟩
  cases change.certificates consistent with
  | unchanged certificates revocations =>
    rw [certificates, revocations]
    exact ⟨found, there⟩
  | issued certificates revocations unused =>
    rw [certificates, revocations, lookup_insert_eq, if_neg]
    · exact ⟨found, there⟩
    · intro same
      rw [same, unused] at there
      cases there
  | updated legal distinct apart =>
    refine ⟨(recordedRevocations_new ids legal apart).lookup_old ids
      consistent.given.revocations found, ?_⟩
    rw [recertify_other legal, there]
    intro update member same
    rw [← same, (legal update member).found] at there
    cases there
    exact (legal update member).unrevoked revoked

section History

/-- The claim is on the pair. -/
def OfPair (issuerID distributionPoint : Text) (claim : CRLGenerationClaim) : Prop :=
  claim.issuerID = issuerID ∧ claim.distributionPoint = distributionPoint
deriving Decidable

/-- The claim on the pair that the event takes. -/
def Event.claims (issuerID distributionPoint : Text) : Event → Option CRLGenerationClaim
  | .crlClaimed claim => if OfPair issuerID distributionPoint claim then some claim else none
  | _ => none

/-- What was signed and stored for the pair with the event. -/
def Event.publishes (issuerID distributionPoint : Text) :
    Event → Option (Corecli.GenerateCRLRequest × CRLPublication)
  | .crlPublished claim request publication =>
    if OfPair issuerID distributionPoint claim then some (request, publication) else none
  | _ => none

/-- The claims that were taken on a pair, each with the call that took it, in their order. -/
def claimsOn (state : State) (issuerID distributionPoint : Text) :
    List (Nat × CRLGenerationClaim) :=
  state.history.filterMap fun entry =>
    (entry.2.claims issuerID distributionPoint).map (Prod.mk entry.1)

/-- The lists that were published for a pair, in their order. -/
def publishedOn (state : State) (issuerID distributionPoint : Text) :
    List (Corecli.GenerateCRLRequest × CRLPublication) :=
  state.history.filterMap fun entry => entry.2.publishes issuerID distributionPoint

variable {state : State} {claim : CRLGenerationClaim} {number : Nat}

theorem mem_claimsOn_iff : (number, claim) ∈ claimsOn state issuerID distributionPoint ↔
    (number, Event.crlClaimed claim) ∈ state.history ∧ OfPair issuerID distributionPoint claim := by
  rw [claimsOn, mem_filterMap]
  constructor
  · rintro ⟨⟨call, seen⟩, there, taken⟩
    obtain ⟨other, claims, same⟩ := Option.map_eq_some_iff.mp taken
    cases same
    cases seen with
    | crlClaimed =>
      simp only [Event.claims, Option.ite_none_right_eq_some, Option.some.injEq] at claims
      obtain ⟨pair, rfl⟩ := claims
      exact ⟨there, pair⟩
    | _ => cases claims
  · rintro ⟨there, pair⟩
    exact ⟨_, there, by rw [Event.claims, if_pos pair]; rfl⟩

theorem filterMap_after {α : Type} (select : Nat × Event → Option α) :
    (before.after call event world).history.filterMap select =
      before.history.filterMap select ++ (event.bind fun seen => select (call, seen)).toList := by
  rw [Shared.after, filterMap_append]
  cases event with
  | none => rfl
  | some seen => cases chosen : select (call, seen) <;> simp [chosen]

theorem claimsOn_after : claimsOn (before.after call event world) issuerID distributionPoint =
      claimsOn before issuerID distributionPoint ++
        ((event.bind (Event.claims issuerID distributionPoint)).map (Prod.mk call)).toList := by
  rw [claimsOn, filterMap_after, Option.map_bind]
  rfl

theorem publishedOn_after : publishedOn (before.after call event world) issuerID distributionPoint =
      publishedOn before issuerID distributionPoint ++
        (event.bind (Event.publishes issuerID distributionPoint)).toList :=
  filterMap_after _

end History

/-- What a step does to the claims and the lists of a pair. -/
inductive PairStep (s : Service) (call : Nat) (before : State) (drawn : Nat)
    (issuerID distributionPoint : Text) : Option Event → Ledger → Prop
  | other {event : Option Event} {after : Ledger}
      (claims : event.bind (Event.claims issuerID distributionPoint) = none)
      (publishes : event.bind (Event.publishes issuerID distributionPoint) = none)
      (lists : after.listsOf issuerID distributionPoint =
        (ledger before).listsOf issuerID distributionPoint)
      (held : ∀ key claim, after.crlClaims.lookup key = some claim →
        OfPair issuerID distributionPoint claim →
        (ledger before).crlClaims.lookup key = some claim) :
      PairStep s call before drawn issuerID distributionPoint event after
  | claimed {claim : CRLGenerationClaim} (pair : OfPair issuerID distributionPoint claim)
      (number : claim.crlNumber = (ledger before).nextCRLNumber issuerID distributionPoint) :
      PairStep s call before drawn issuerID distributionPoint (some (.crlClaimed claim))
        ((ledger before).putClaim claim)
  | published {claim stored : CRLGenerationClaim} {request : Corecli.GenerateCRLRequest}
      {publication : CRLPublication} {number : Nat} (pair : OfPair issuerID distributionPoint claim)
      (requested : (call, Event.crlRequested claim request) ∈ before.history)
      (fresh : Drawn before.world.drawn drawn number) (named : publication.id = s.idgen number)
      (covers : ClaimCovers claim publication) (numbered : publication.crlNumber = claim.crlNumber)
      (held : (ledger before).crlClaims.lookup (claimKey claim) = some stored)
      (same : SameCRLClaim stored claim) (storedPair : OfPair issuerID distributionPoint stored) :
      PairStep s call before drawn issuerID distributionPoint
        (some (.crlPublished claim request publication))
        (((ledger before).putCRL publication).dropClaim claim)

/-- A list that is published for another pair is none of this one. -/
theorem Ledger.listsOf_putCRL_other (unused : l.crls.lookup publication.id = none)
    (apart : ¬ (publication.issuerID = issuerID ∧
    publication.distributionPoint = distributionPoint)) :
    (l.putCRL publication).listsOf issuerID distributionPoint =
      l.listsOf issuerID distributionPoint := by
  rw [listsOf, putCRL, values_insert, erase_of_lookup_none unused,
    filter_cons_of_neg (by simpa using apart), listsOf]

theorem Ledger.listsOf_putCRL {l : Ledger} {publication}
    (unused : l.crls.lookup publication.id = none)
    (here : publication.issuerID = issuerID ∧ publication.distributionPoint = distributionPoint) :
    (l.putCRL publication).listsOf issuerID distributionPoint =
      publication :: l.listsOf issuerID distributionPoint := by
  rw [listsOf, putCRL, values_insert, erase_of_lookup_none unused,
    filter_cons_of_pos (by simpa using here), listsOf]

/-- What remains after a claim was given up was there before. -/
theorem Ledger.lookup_dropClaim {other key}
    (held : (l.dropClaim claim).crlClaims.lookup key = some other) :
    key ≠ claimKey claim ∧ l.crlClaims.lookup key = some other := by
  change (l.crlClaims.erase (claimKey claim)).lookup key = some other at held
  rw [lookup_erase_eq] at held
  split at held
  · cases held
  · next apart => exact ⟨apart, held⟩

theorem Change.pairStep (ids : s.FreshIDs) (consistent : Consistent s before)
    (known : ClaimsKnown before) (change : Change s call before drawn event report after)
    (issuerID distributionPoint : Text) :
    PairStep s call before drawn issuerID distributionPoint event after := by
  rcases change.crl_cases with ⟨crls, claims, unrelated⟩ | ⟨seen, rfl, crl⟩
  · have lists : after.listsOf issuerID distributionPoint =
        (ledger before).listsOf issuerID distributionPoint := by
      rw [listsOf, crls, listsOf]
    cases event with
    | none => exact .other rfl rfl lists fun _ _ held _ => claims ▸ held
    | some seen =>
      have other := unrelated seen rfl
      cases seen <;>
        first | exact .other rfl rfl lists fun _ _ held _ => claims ▸ held | cases other
  -- A claim that is taken for another pair may stand under the same key, but it is not of this
  -- pair.
  have claimed : ∀ claim : CRLGenerationClaim,
      claim.crlNumber = (ledger before).nextCRLNumber claim.issuerID claim.distributionPoint →
      PairStep s call before drawn issuerID distributionPoint (some (.crlClaimed claim))
        ((ledger before).putClaim claim) := by
    intro claim number
    by_cases pair : OfPair issuerID distributionPoint claim
    · refine .claimed pair ?_
      rw [number, pair.1, pair.2]
    · refine .other (if_neg pair) rfl rfl ?_
      intro key other held ofPair
      rcases of_lookup_insert held with rfl | held
      · exact absurd ofPair pair
      · exact held
  cases crl with
  | claimedFirst | claimedAgain => exact claimed _ rfl
  | listed | requested => exact .other rfl rfl rfl fun _ _ held _ => held
  | released => exact .other rfl rfl rfl fun _ _ held _ => (lookup_dropClaim held).2
  | @published claim request publication number requested fresh named covers numbered
    dated free current =>
    obtain ⟨stored, held, same⟩ := current
    by_cases pair : OfPair issuerID distributionPoint claim
    · obtain ⟨issuer, there⟩ := known.issuer _ _ (known.claimed _ _ _ requested rfl)
      obtain ⟨ofIssuer, ofPoint⟩ := consistent.claim_pair ids there held
      exact .published pair requested fresh named covers numbered held same
        ⟨ofIssuer.trans pair.1, ofPoint.trans pair.2⟩
    · refine .other rfl (if_neg pair) ?_ fun _ _ held _ => (lookup_dropClaim held).2
      have unused : (ledger before).crls.lookup publication.id = none := by
        rw [named]
        exact consistent.given.crls.fresh ids fresh.1
      refine listsOf_putCRL_other unused ?_
      rw [covers.1, covers.2]
      exact pair

section Invariants

variable (state : State) (issuerID distributionPoint : Text)

/-- The lists and the claims of a pair, by their numbers. Only the claim that was taken last can be
the stored one, and it is one ahead of the lists. -/
structure PairNumbers : Prop where
  stored : ((ledger state).listsOf issuerID distributionPoint).Perm
    ((publishedOn state issuerID distributionPoint).map Prod.snd)
  consecutive : Consecutive ((publishedOn state issuerID distributionPoint).map Prod.snd)
  held : ∀ key claim, (ledger state).crlClaims.lookup key = some claim →
    OfPair issuerID distributionPoint claim →
    claim.crlNumber.toInt = (publishedOn state issuerID distributionPoint).length + 1 ∧
      ∃ front number, claimsOn state issuerID distributionPoint = front ++ [(number, claim)]
  behind : ∀ number claim, (number, claim) ∈ claimsOn state issuerID distributionPoint →
    claim.crlNumber.toInt ≤ (publishedOn state issuerID distributionPoint).length + 1
  distinct : (claimsOn state issuerID distributionPoint).Pairwise fun earlier later =>
    ¬ SameCRLClaim earlier.2 later.2

/-- The entries that were listed and signed for a pair. -/
structure PairEntries : Prop where
  listed : ∀ number claim entries, (number, .revocationsListed claim entries) ∈ state.history →
    OfPair issuerID distributionPoint claim →
    (∀ entry ∈ entries, entry ∈ (ledger state).revokedEntries issuerID) ∧
      ∀ request publication, (request, publication) ∈ publishedOn state issuerID distributionPoint →
        publication.crlNumber.toInt < claim.crlNumber.toInt →
        ∀ revoked ∈ request.revokedCertificates, revoked ∈ entries.map revokedCertificate
  requested : ∀ number claim request, (number, .crlRequested claim request) ∈ state.history →
    OfPair issuerID distributionPoint claim → ∃ entries,
      (number, .revocationsListed claim entries) ∈ state.history ∧
        request.revokedCertificates = entries.map revokedCertificate
  published : ∀ request publication,
    (request, publication) ∈ publishedOn state issuerID distributionPoint → ∃ number claim,
      (number, .crlRequested claim request) ∈ state.history ∧
        OfPair issuerID distributionPoint claim
  ordered : (publishedOn state issuerID distributionPoint).Pairwise fun earlier later =>
    ∀ revoked ∈ earlier.1.revokedCertificates, revoked ∈ later.1.revokedCertificates

/-- A claim is taken with a number, and is like no claim that was taken on the pair before. -/
def ClaimDistinct (state : State) (_call : Nat) (event : Option Event) : Prop :=
  ∀ claim, event = some (.crlClaimed claim) → 0 < claim.crlNumber ∧
    ∀ number earlier, (number, earlier) ∈ claimsOn state claim.issuerID claim.distributionPoint →
      ¬ SameCRLClaim earlier claim

end Invariants

/-- Where nothing is claimed or published and no claim comes back, the numbers stay. -/
theorem PairNumbers.congr {state} (numbers : PairNumbers before issuerID distributionPoint)
    (lists : (ledger state).listsOf issuerID distributionPoint =
      (ledger before).listsOf issuerID distributionPoint)
    (claims : claimsOn state issuerID distributionPoint =
    claimsOn before issuerID distributionPoint)
      (published : publishedOn state issuerID distributionPoint =
    publishedOn before issuerID distributionPoint)
    (held : ∀ key claim, (ledger state).crlClaims.lookup key = some claim →
      OfPair issuerID distributionPoint claim → (ledger before).crlClaims.lookup key = some claim) :
    PairNumbers state issuerID distributionPoint := by
  constructor
  · rw [lists, published]
    exact numbers.stored
  · rw [published]
    exact numbers.consecutive
  · rw [claims, published]
    exact fun key claim there pair => numbers.held key claim (held key claim there pair) pair
  · rw [claims, published]
    exact numbers.behind
  · rw [claims]
    exact numbers.distinct

theorem PairNumbers.step (ids : s.FreshIDs) (consistent : Consistent s before)
    (numbers : PairNumbers before issuerID distributionPoint)
    (condition : ClaimDistinct before call event) {world : World}
    (step : PairStep s call before drawn issuerID distributionPoint event (.of world.db)) :
    PairNumbers (before.after call event world) issuerID distributionPoint := by
  generalize outcome : of world.db = l at step
  have ledgers : ledger (before.after call event world) = l := outcome
  cases step with
  | other claims publishes lists held =>
    refine numbers.congr (ledgers ▸ lists) ?_ ?_ (ledgers ▸ held)
    · rw [claimsOn_after, claims]
      exact append_nil _
    · rw [publishedOn_after, publishes]
      exact append_nil _
  | @claimed claim pair number =>
    obtain ⟨positive, unlike⟩ := condition claim rfl
    have longer : claimsOn (before.after call (some (.crlClaimed claim)) world)
        issuerID distributionPoint = claimsOn before issuerID distributionPoint ++
          [(call, claim)] := by
      rw [claimsOn_after, Option.bind_some, Event.claims, if_pos pair]
      rfl
    have sameLists : publishedOn (before.after call (some (.crlClaimed claim)) world) issuerID
        distributionPoint = publishedOn before issuerID distributionPoint := by
      rw [publishedOn_after]
      exact append_nil _
    have next : claim.crlNumber.toInt =
        (publishedOn before issuerID distributionPoint).length + 1 := by
      rw [number] at positive ⊢
      rw [nextCRLNumber_toInt numbers.stored numbers.consecutive positive, length_map]
    constructor
    case stored =>
      rw [ledgers, sameLists]
      exact numbers.stored
    case consecutive =>
      rw [sameLists]
      exact numbers.consecutive
    case held =>
      rw [ledgers, sameLists, longer]
      intro key other there ofPair
      change ((ledger before).crlClaims.insert (claimKey claim) claim).lookup key =
        some other at there
      rw [lookup_insert_eq] at there
      split at there
      · cases there
        exact ⟨next, _, call, rfl⟩
      · next apart =>
        refine absurd ?_ apart
        rw [← consistent.keyed.crlClaims key other there, claimKey, claimKey, ofPair.1,
          ofPair.2, pair.1, pair.2]
    case behind =>
      rw [sameLists, longer]
      intro taker other member
      rcases mem_append.mp member with old | new
      · exact numbers.behind taker other old
      · cases mem_singleton.mp new
        exact le_of_eq next
    case distinct =>
      rw [longer, pairwise_append]
      refine ⟨numbers.distinct, pairwise_singleton _ _, ?_⟩
      intro earlier member later new
      cases mem_singleton.mp new
      refine unlike earlier.1 earlier.2 ?_
      rw [pair.1, pair.2]
      exact member
  | @published claim stored request publication number pair requested fresh named
      covers numbered held same storedPair =>
    have sameClaims : claimsOn
        (before.after call (some (.crlPublished claim request publication)) world)
          issuerID distributionPoint = claimsOn before issuerID distributionPoint := by
      rw [claimsOn_after]
      exact append_nil _
    have longer : publishedOn
        (before.after call (some (.crlPublished claim request publication)) world)
          issuerID distributionPoint = publishedOn before issuerID distributionPoint ++
            [(request, publication)] := by
      rw [publishedOn_after, Option.bind_some, Event.publishes, if_pos pair]
      rfl
    have next : publication.crlNumber.toInt =
        (publishedOn before issuerID distributionPoint).length + 1 := by
      rw [numbered, ← same.1]
      exact (numbers.held _ stored held storedPair).1
    have unused : (ledger before).crls.lookup publication.id = none := by
      rw [named]
      exact consistent.given.crls.fresh ids fresh.1
    constructor
    case stored =>
      have lists := @listsOf_putCRL issuerID distributionPoint _ _ unused
        ⟨covers.1.trans pair.1, covers.2.trans pair.2⟩
      rw [ledgers, longer, map_append]
      change (((ledger before).putCRL publication).listsOf issuerID distributionPoint).Perm _
      rw [lists]
      exact (numbers.stored.cons publication).trans (perm_append_singleton _ _).symm
    case consecutive =>
      rw [longer, map_append]
      exact numbers.consecutive.append (by rw [next, length_map])
    case held =>
      rw [ledgers]
      intro key other there ofPair
      obtain ⟨apart, still⟩ := lookup_dropClaim there
      refine absurd ?_ apart
      rw [← consistent.keyed.crlClaims key other still, claimKey, claimKey, ofPair.1,
        ofPair.2, pair.1, pair.2]
    case behind =>
      rw [sameClaims, longer]
      intro taker other member
      have small := numbers.behind taker other member
      rw [length_append, length_singleton]
      omega
    case distinct =>
      rw [sameClaims]
      exact numbers.distinct

/-- Whatever was signed is on the issuer's list. -/
theorem PairEntries.signed (entries : PairEntries before issuerID distributionPoint)
    (published : (request, publication) ∈ publishedOn before issuerID distributionPoint)
    {revoked} (inside : revoked ∈ request.revokedCertificates) :
    revoked ∈ ((ledger before).revokedEntries issuerID).map revokedCertificate := by
  obtain ⟨number, claim, requested, pair⟩ := entries.published request publication published
  obtain ⟨listed, there, same⟩ := entries.requested number claim request requested pair
  rw [same] at inside
  obtain ⟨entry, member, rfl⟩ := mem_map.mp inside
  exact mem_map_of_mem ((entries.listed number claim listed there pair).1 entry member)

theorem PairNumbers.le_length (numbers : PairNumbers before issuerID distributionPoint)
    (published : (request, publication) ∈ publishedOn before issuerID distributionPoint) :
    publication.crlNumber.toInt ≤ (publishedOn before issuerID distributionPoint).length := by
  have bound := numbers.consecutive.le_length (mem_map_of_mem published)
  rwa [length_map] at bound

/-- A list that a step publishes has the next number, and the same call has asked for it. -/
theorem PairStep.publishes (numbers : PairNumbers before issuerID distributionPoint)
    (step : PairStep s call before drawn issuerID distributionPoint event after)
    {request publication}
    (new : event.bind (Event.publishes issuerID distributionPoint) = some (request, publication)) :
    ∃ claim, (call, Event.crlRequested claim request) ∈ before.history ∧
      OfPair issuerID distributionPoint claim ∧ publication.crlNumber = claim.crlNumber ∧
      publication.crlNumber.toInt = (publishedOn before issuerID distributionPoint).length + 1 := by
  cases step with
  | other _ publishes =>
    rw [publishes] at new
    cases new
  | claimed => cases new
  | @published claim stored _ _ _ pair requested _ _ _ numbered held same storedPair =>
    rw [Option.bind_some, Event.publishes, if_pos pair] at new
    cases Option.some.inj new
    refine ⟨claim, requested, pair, numbered, ?_⟩
    rw [numbered, ← same.1]
    exact (numbers.held _ stored held storedPair).1

theorem PairEntries.step (ids : s.FreshIDs) (consistent : Consistent s before)
    (known : ClaimsKnown before) (numbers : PairNumbers before issuerID distributionPoint)
    (entries : PairEntries before issuerID distributionPoint) {world}
    (change : Change s call before world.drawn event report (.of world.db)) :
    PairEntries (before.after call event world) issuerID distributionPoint := by
  have grown : ∀ {entry : Nat × Event}, entry ∈ before.history →
      entry ∈ (before.after call event world).history :=
        fun old => Shared.mem_after_iff.mpr (.inl old)
  have publishes := fun request publication =>
    @PairStep.publishes _ _ _ _ _ _ _ _ numbers
      (change.pairStep ids consistent known issuerID distributionPoint) request publication
  have mem_iff : ∀ list, list ∈ publishedOn (before.after call event world)
      issuerID distributionPoint ↔ list ∈ publishedOn before issuerID distributionPoint ∨
        event.bind (Event.publishes issuerID distributionPoint) = some list := by
    intro list
    rw [publishedOn_after, mem_append, Option.mem_toList]
  constructor
  case listed =>
    intro number claim listed there pair
    rcases Shared.mem_after_iff.mp there with old | ⟨rfl, left⟩
    · obtain ⟨inside, covers⟩ := entries.listed number claim listed old pair
      refine ⟨fun entry member => change.revokedEntries ids consistent (inside entry member), ?_⟩
      intro request publication member smaller
      rcases (mem_iff _).mp member with earlier | new
      · exact covers request publication earlier smaller
      · obtain ⟨-, -, -, -, next⟩ := publishes request publication new
        have bound := numbers.behind number claim
          (mem_claimsOn_iff.mpr ⟨known.claimed _ _ _ old rfl, pair⟩)
        omega
    · subst left
      rcases change.crl_cases with ⟨-, -, unrelated⟩ | ⟨seen, same, crl⟩
      · cases unrelated _ rfl
      cases same
      generalize outcome : of world.db = l at crl
      cases crl
      refine ⟨fun entry member => ?_, ?_⟩
      · rw [pair.1] at member
        exact change.revokedEntries ids consistent member
      · intro request publication member smaller revoked inside
        rcases (mem_iff _).mp member with earlier | new
        · rw [pair.1]
          exact entries.signed earlier inside
        · cases new
  case requested =>
    intro number claim request there pair
    rcases Shared.mem_after_iff.mp there with old | ⟨rfl, left⟩
    · obtain ⟨listed, before, same⟩ := entries.requested number claim request old pair
      exact ⟨listed, grown before, same⟩
    · subst left
      rcases change.crl_cases with ⟨-, -, unrelated⟩ | ⟨seen, same, crl⟩
      · cases unrelated _ rfl
      cases same
      generalize of world.db = l at crl
      cases crl with
      | requested listed _ revoked => exact ⟨_, grown listed, revoked⟩
  case published =>
    intro request publication member
    rcases (mem_iff _).mp member with earlier | new
    · obtain ⟨number, claim, requested, pair⟩ := entries.published request publication earlier
      exact ⟨number, claim, grown requested, pair⟩
    · obtain ⟨claim, requested, pair, -⟩ := publishes request publication new
      exact ⟨call, claim, grown requested, pair⟩
  case ordered =>
    rw [publishedOn_after, pairwise_append]
    refine ⟨entries.ordered, ?_, ?_⟩
    · cases event.bind (Event.publishes issuerID distributionPoint) with
      | none => exact .nil
      | some list => exact pairwise_singleton _ _
    · rintro ⟨request, publication⟩ earlier ⟨request', publication'⟩ last revoked inside
      obtain ⟨claim, requested, pair, numbered, next⟩ :=
        publishes request' publication' (Option.mem_toList.mp last)
      obtain ⟨listed, there, same⟩ := entries.requested call claim request' requested pair
      have bound := numbers.le_length earlier
      rw [same]
      refine (entries.listed call claim listed there pair).2 request publication earlier
        ?_ revoked inside
      rw [← numbered]
      omega

section Outer

variable {state : State}

/-- Between the steps of calls nobody claims, lists or publishes. -/
theorem Outer.mem_history {seen} {number : Nat} (outer : Outer before state)
    (about : seen.crlClaim = some claim) :
    (number, seen) ∈ state.history ↔ (number, seen) ∈ before.history := by
  refine outer.mem_history_iff ?_
  rintro call rfl
  cases about

theorem Outer.claimsOn_eq (outer : Outer before state) :
    claimsOn state issuerID distributionPoint = claimsOn before issuerID distributionPoint :=
  outer.filterMap_history fun _ _ => rfl

theorem Outer.publishedOn_eq (outer : Outer before state) :
    publishedOn state issuerID distributionPoint = publishedOn before issuerID distributionPoint :=
  outer.filterMap_history fun _ _ => rfl

theorem PairNumbers.outer (numbers : PairNumbers before issuerID distributionPoint)
    (outer : Outer before state) : PairNumbers state issuerID distributionPoint := by
  refine numbers.congr ?_ outer.claimsOn_eq outer.publishedOn_eq ?_
  · rw [outer.ledger]
  · rw [outer.ledger]
    exact fun _ _ there _ => there

theorem PairEntries.outer (entries : PairEntries before issuerID distributionPoint)
    (outer : Outer before state) : PairEntries state issuerID distributionPoint := by
  constructor
  case listed =>
    intro number claim listed there
    rw [outer.ledger, outer.publishedOn_eq]
    exact entries.listed number claim listed ((outer.mem_history rfl).mp there)
  case requested =>
    intro number claim request there pair
    obtain ⟨listed, old, same⟩ :=
      entries.requested number claim request ((outer.mem_history rfl).mp there) pair
    exact ⟨listed, (outer.mem_history rfl).mpr old, same⟩
  case published =>
    rw [outer.publishedOn_eq]
    intro request publication member
    obtain ⟨number, claim, requested, pair⟩ := entries.published request publication member
    exact ⟨number, claim, (outer.mem_history rfl).mpr requested, pair⟩
  case ordered =>
    rw [outer.publishedOn_eq]
    exact entries.ordered

end Outer

/-- What holds of a pair in every run whose claims are distinct. -/
theorem reaches_pair (ids : s.FreshIDs) {cfg : s.system.Config}
    (reached : System.Reaches (System.Guarded ClaimDistinct) Initial cfg)
    (issuerID distributionPoint : Text) : ClaimsKnown cfg.shared ∧
      PairNumbers cfg.shared issuerID distributionPoint ∧
      PairEntries cfg.shared issuerID distributionPoint := by
  refine @guarded_induct s cfg ids ClaimDistinct (fun state => ClaimsKnown state ∧
    PairNumbers state issuerID distributionPoint ∧
    PairEntries state issuerID distributionPoint) ?_ ?_ ?_ reached
  · intro world initial
    have empty : ledger ⟨world, []⟩ = .of .empty := congrArg of initial.db
    refine ⟨⟨by simp, by simp⟩, ⟨?_, rfl, ?_, by rintro _ _ ⟨⟩, .nil⟩,
      ⟨by rintro _ _ _ ⟨⟩, by rintro _ _ _ ⟨⟩, by rintro _ _ ⟨⟩, .nil⟩⟩
    · rw [empty]
      exact .nil
    · rw [empty]
      rintro _ _ ⟨⟩
  · rintro before call event report after consistent ⟨known, numbers, entries⟩ condition - change
    exact ⟨known.step ids consistent change,
      numbers.step ids consistent condition (change.pairStep ids consistent known _ _),
      entries.step ids consistent known numbers change⟩
  · rintro before after ⟨known, numbers, entries⟩ outer
    exact ⟨known.outer outer, numbers.outer outer, entries.outer outer⟩

section TakenOver

/-- Another claim was taken on the pair after the call's. -/
def TakenOver (state : State) (number : Nat) (claim : CRLGenerationClaim) : Prop :=
  ∃ front back, claimsOn state claim.issuerID claim.distributionPoint =
    front ++ (number, claim) :: back ∧ back ≠ []

variable {state : State} {number : Nat} {claim : CRLGenerationClaim}

theorem TakenOver.claimed (lost : TakenOver state number claim) :
    (number, .crlClaimed claim) ∈ state.history := by
  obtain ⟨front, back, claims, -⟩ := lost
  have member : (number, claim) ∈ claimsOn state claim.issuerID claim.distributionPoint := by
    rw [claims]
    simp
  exact (mem_claimsOn_iff.mp member).1

/-- The stored claim is unlike one that was taken over. -/
theorem TakenOver.not_current (ids : s.FreshIDs) (consistent : Consistent s state)
    (known : ClaimsKnown state)
    (numbers : PairNumbers state claim.issuerID claim.distributionPoint)
    (lost : TakenOver state number claim) : ¬ ClaimCurrent (ledger state) claim := by
  rintro ⟨stored, held, same⟩
  obtain ⟨issuer, there⟩ := known.issuer _ _ lost.claimed
  obtain ⟨front, back, claims, more⟩ := lost
  obtain ⟨-, front', taker, last⟩ :=
    numbers.held _ stored held (consistent.claim_pair ids there held)
  obtain ⟨middle, final, rfl⟩ := (eq_nil_or_concat back).resolve_left more
  have alone := numbers.distinct
  rw [claims, pairwise_append, pairwise_cons] at alone
  have unlike := alone.2.1.1 final (by simp)
  rw [last, concat_eq_append, ← cons_append, ← append_assoc] at claims
  obtain rfl : (taker, stored) = final := by simpa using (append_inj' claims rfl).2
  exact unlike ⟨same.1.symm, same.2.1.symm, same.2.2.symm⟩

end TakenOver

section Program

/-- Once it has a claim, a call writes only by publishing under it or by giving it up. -/
def UnderClaim (events : List Event) (before : World) (event : Option Event)
    (after : World) : Prop :=
  ∀ claim, .crlClaimed claim ∈ events → after.db = before.db ∨
    (∃ request publication, event = some (.crlPublished claim request publication)) ∨
    event = some (.crlReleased claim)

/-- No other claim was taken. -/
def OnlyClaim (claim : CRLGenerationClaim) (events : List Event) : Prop :=
  ∀ other, .crlClaimed other ∈ events → other = claim

def NoClaim (events : List Event) : Prop := ∀ claim, .crlClaimed claim ∉ events

variable {α : Type} {claim : CRLGenerationClaim}

/-- Before a claim everything is allowed. -/
theorem within_noClaim {act} {event : α → Option Event}
    (quiet : ∀ value, event value = none) :
    (Op.atomic act event).run.Within UnderClaim NoClaim := by
  intro events free answer world result after acts
  have silent : result.toOption.bind event = .none := by
    cases result with
    | error err => rfl
    | ok value => exact quiet value
  refine ⟨fun claim there => absurd there (free claim), ?_⟩
  change NoClaim (events ++ (result.toOption.bind event).toList)
  rwa [silent, Option.toList_none, append_nil]

/-- A step under a claim takes no claim, and writes only with an event of that claim. -/
theorem within_onlyClaim {act} {event : α → Option Event}
    (writes : ∀ answer world result after, act answer world = (result, after) →
      after.db = world.db ∨ ∃ value, result = .ok value ∧ ((∃ request publication,
        event value = some (.crlPublished claim request publication)) ∨
        event value = some (.crlReleased claim)))
    (unclaimed : ∀ value other, event value ≠ some (.crlClaimed other)) :
    (Op.atomic act event).run.Within UnderClaim (OnlyClaim claim) := by
  intro events only answer world result after acts
  constructor
  · intro other there
    cases only other there
    rcases writes answer world result after (Option.some.inj acts) with same | ⟨value, rfl, leaves⟩
    · exact .inl same
    · exact .inr leaves
  · intro other there
    rcases mem_append.mp there with old | new
    · exact only other old
    · rw [Option.mem_toList] at new
      obtain ⟨value, -, left⟩ := Option.bind_eq_some_iff.mp new
      exact absurd left (unclaimed value other)

theorem publishClaimedCRL_within (ctx : Context) (actor : Text) (issuer : Issuer)
    (req : PublishCRLRequest) (now : Time) :
    (s.publishClaimedCRL ctx actor issuer claim req now).run.Within UnderClaim
      (OnlyClaim claim) := by
  refine .seq (within_onlyClaim ?_ (by rintro _ _ ⟨⟩)) fun entries => ?_
  · intro answer world result after run
    rcases runTx_cases run with ⟨_, _, -, -, rfl, -⟩ | ⟨value, session, rfl, listed, rfl⟩
    · exact .inl rfl
    · obtain ⟨-, rfl⟩ := query_ok_iff.mp listed
      exact .inl rfl
  refine .seq (.seq (within_onlyClaim ?_ (by rintro _ _ ⟨⟩)) fun _ => ?_) fun result => ?_
  · rintro answer world result after ⟨⟩
    exact .inl rfl
  · refine .seq (within_onlyClaim ?_ (by rintro _ _ ⟨⟩)) fun answer => ?_
    · rintro answer world result after ⟨⟩
      exact .inl rfl
    · exact .seq (.ret _) fun _ => .seq (.ret _) fun _ => .ret _
  · refine within_onlyClaim ?_ (by rintro _ _ ⟨⟩)
    intro answer world result' after run
    rcases runTx_cases run with ⟨_, _, -, -, rfl, -⟩ | ⟨publication, session, rfl, -⟩
    · exact .inl rfl
    · exact .inr ⟨publication, rfl, .inl ⟨_, publication, rfl⟩⟩

theorem releaseCRLClaim_within :
    (releaseCRLClaim claim).run.Within UnderClaim (OnlyClaim claim) := by
  refine within_onlyClaim ?_ ?_
  · intro answer world result after run
    rcases runTx_cases run with ⟨_, _, -, -, rfl, -⟩ | ⟨deleted, session, rfl, done, rfl⟩
    · exact .inl rfl
    obtain ⟨outcome, mid, looked, run⟩ := bind_ok_iff.mp done
    rw [attempt_ok_iff] at looked
    cases outcome with
    | ok u =>
      obtain ⟨rfl, -⟩ := pure_ok_iff.mp run
      exact .inr ⟨true, rfl, .inr rfl⟩
    | error err =>
      cases deleteCRLClaim_error looked
      rcases ite_ok_iff.mp run with ⟨-, run⟩ | ⟨-, run⟩
      · obtain ⟨-, rfl⟩ := pure_ok_iff.mp run
        exact .inl rfl
      · exact (fail_ok_iff.mp run).elim
  · intro deleted other left
    cases deleted <;> cases left

/-- A part that leaves no event comes before the claim. -/
theorem obeys_before {β : Type} {op} {rest : α → Op β}
    (within : op.run.Within UnderClaim NoClaim) (free : NoClaim events)
    (following : ∀ value events, NoClaim events →
      (rest value).run.Obeys UnderClaim (fun _ _ => True) events) :
    (op >>= rest).run.Obeys UnderClaim (fun _ _ => True) events := by
  refine .seq ((within events free).mono ?_)
  intro later result still
  exact ⟨fun _ _ => trivial, fun value _ => following value later still⟩

theorem publishCRL_obeys (ctx : Context) (actor : Text) (req : PublishCRLRequest)
    (free : NoClaim events) :
    (s.publishCRL ctx actor req).run.Obeys UnderClaim (fun _ _ => True) events := by
  refine obeys_before (within_noClaim fun _ => rfl) free fun now events free => ?_
  refine obeys_before (.ret _) free fun _ events free => ?_
  refine obeys_before (within_noClaim fun _ => rfl) free fun issuer events free => ?_
  refine .seq ?_
  intro answer world result after acts
  refine ⟨fun claim there => absurd there (free claim), fun _ _ => trivial, ?_⟩
  rintro claim rfl
  -- From here on the claim is the only one.
  have only : OnlyClaim claim (events ++ [.crlClaimed claim]) := by
    intro other there
    rcases mem_append.mp there with old | new
    · exact absurd old (free other)
    · cases mem_singleton.mp new
      rfl
  refine Prog.Obeys.mono (Prog.Within.seq (.bind (publishClaimedCRL_within ctx actor issuer req now)
    fun _ => .ret _) (fun result => ?_) _ only) fun _ _ _ => trivial
  cases result with
  | ok publication => exact .ret _
  | error err => exact .seq (.bind releaseCRLClaim_within fun _ => .ret _) fun _ => .ret _

end Program

/-- Whoever publishes under a claim or gives it up finds it stored. -/
theorem Change.claimCurrent (change : Change s call before drawn event report after)
    (writes : (∃ request publication,
      event = some (.crlPublished claim request publication)) ∨ event = some (.crlReleased claim)) :
    ClaimCurrent (ledger before) claim := by
  rcases change.crl_cases with ⟨-, -, unrelated⟩ | ⟨seen, rfl, crl⟩
  · rcases writes with ⟨request, publication, rfl⟩ | rfl
    · cases unrelated _ rfl
    · cases unrelated _ rfl
  · rcases writes with ⟨request, publication, left⟩ | left
    · cases left
      cases crl
      assumption
    · cases left
      cases crl
      assumption

/-- When the lease of a claim that was taken at new year is over. -/
def leaseOver : Time := newYear.add defaultCRLGenerationLease

/-- The claim that is taken over then. -/
def secondClaim (number : Int64) : CRLGenerationClaim :=
  takenOverClaim (crlClaimAt number newYear) number leaseOver

/-- The first call waits before it stores its list while its claim is taken over by a call whose
core is not ready, and another waits before it takes a claim. -/
def takingOver : List SmallAction :=
  configuring ++ publishing 2 2 ++ publishing 3 2 ++ publishingOn 2 4 ++
    [.disturb (.tick leaseOver)] ++ answered .calm 4 0 (.publishCRL {} "admin" crlRequest) 6

/-- A check for claims that are distinct. -/
def claimDistinct (state : State) (_ : Nat) : Option Event → Bool
  | some (.crlClaimed claim) => decide (0 < claim.crlNumber) &&
      (claimsOn state claim.issuerID claim.distributionPoint).all fun earlier =>
        decide (¬ SameCRLClaim earlier.2 claim)
  | _ => true

theorem claimDistinct_strict (state : State) (log : AuditLog) (call : Nat) (event : Option Event)
    (passed : claimDistinct state call event = true) :
    ClaimDistinct (withLog state log) call event := by
  rintro claim rfl
  obtain ⟨positive, apart⟩ := (Bool.and_eq_true _ _).mp passed
  refine ⟨of_decide_eq_true positive, ?_⟩
  intro number earlier there
  exact of_decide_eq_true (all_eq_true.mp apart (number, earlier) there)

/-- In every run whose claims are distinct, the lists of a pair are numbered from one on in the
order they were published, each has all the entries of those before it, and a call whose claim was
taken over leaves the store as it is. -/
theorem crl_publications_safe (ids : s.FreshIDs) {cfg : s.system.Config}
    (reached : System.Reaches (System.Guarded ClaimDistinct) Initial cfg)
    (issuerID distributionPoint : Text) :
    ((ledger cfg.shared).listsOf issuerID distributionPoint).Perm
        ((publishedOn cfg.shared issuerID distributionPoint).map Prod.snd) ∧
      Consecutive ((publishedOn cfg.shared issuerID distributionPoint).map Prod.snd) ∧
      ((publishedOn cfg.shared issuerID distributionPoint).Pairwise fun earlier later =>
        ∀ revoked ∈ earlier.1.revokedCertificates, revoked ∈ later.1.revokedCertificates) ∧
      ∀ number ctx actor req claim,
        (number, .started (.publishCRL ctx actor req)) ∈ cfg.shared.history →
        TakenOver cfg.shared number claim →
        ∀ (action : s.system.Action) (event : Option Event) (next : s.system.Config),
          action.event cfg = some (number, event) → cfg.perform action = some next →
          next.shared.world.db = cfg.shared.world.db := by
  obtain ⟨known, numbers, entries⟩ := reaches_pair ids reached issuerID distributionPoint
  refine ⟨numbers.stored, numbers.consecutive, entries.ordered, ?_⟩
  intro number ctx actor req claim started lost action event next seen performed
  have sound := reached.sound (s.system_keeps ids) fun _ initial => initial.consistent
  have stale := lost.not_current ids sound.inv known (reaches_pair ids reached _ _).2.1
  have writes := reached.obeys (s.system_keeps ids) (fun _ initial => initial.consistent)
    (fun other there => sound.inv.calls number other (.publishCRL ctx actor req) there started)
    (fun _ => Prog.Obeys.bind
      ((publishCRL_obeys ctx actor req (by rintro claim there; simp at there)).mono fun _ _ _ =>
        trivial)) seen performed
  have change : ∃ report, Change s number cfg.shared next.shared.world.drawn event report
      (.of next.shared.world.db) := by
    have moves := (sound.perform (s.system_keeps ids) performed).1
    generalize next.shared = shared at moves ⊢
    cases moves with
    | call seen' change =>
      cases Option.mem_unique seen seen'
      obtain ⟨-, report, -, change⟩ := change
      exact ⟨report, change⟩
    | outer unseen =>
      rw [seen] at unseen
      cases unseen
  obtain ⟨report, change⟩ := change
  rcases writes claim (Shared.mem_own_iff.mpr lost.claimed) with same | writes
  · exact same
  · exact absurd (change.claimCurrent writes) stale

/-- A call whose claim was taken over while it waited goes on. -/
theorem small_takenOver_stores_nothing : ∃ (cfg next : SmallConfig)
    (action : SmallAction) (event : Option Event),
    System.Reaches (System.Guarded ClaimDistinct) Initial cfg ∧
      (2, Event.started (.publishCRL {} "admin" crlRequest)) ∈ cfg.shared.history ∧
      TakenOver cfg.shared 2 (crlClaimAt 1 newYear) ∧ action.event cfg = some (2, event) ∧
      cfg.perform action = some next ∧ next.shared.world.db = cfg.shared.world.db := by
  obtain ⟨⟨_, _, _⟩, plan, log, reached, -, mirrors, rfl, started, claims, shown, goesOn⟩ :=
    rehearsed_guarded claimDistinct claimDistinct_strict newWorld_initial takingOver (fun plan =>
      (2, .started (.publishCRL {} "admin" crlRequest)) ∈ plan.shared.history ∧
      claimsOn plan.shared crlRequest.issuerID crlRequest.distributionPoint =
        [(2, crlClaimAt 1 newYear), (4, secondClaim 1)] ∧
      (System.Action.run 2 .calm : SmallAction).event plan = some (2, none) ∧
      (plan.rehearse (.run 2 .calm)).any (fun _ => decide True) = true)
  have lost : TakenOver (withLog plan.shared log) 2 (crlClaimAt 1 newYear) :=
    ⟨[], _, claims, by simp⟩
  have seen := mirrors.event shown
  obtain ⟨next, -, -, performed, -⟩ := performs_of_mirrors mirrors goesOn
  exact ⟨_, next, _, _, reached, started, lost, seen, performed,
    (crl_publications_safe small_freshIDs reached crlRequest.issuerID
      crlRequest.distributionPoint).2.2.2 2 {} "admin" crlRequest _ started
        lost _ _ _ seen performed⟩

/-- A third call, with a reading of the clock as old as the first one's, takes a claim like the
first one's. The first call then publishes, and the third has lost its claim. -/
theorem small_takenOver_publishes : ∃ (cfg next : SmallConfig)
    (action : SmallAction) (event : Option Event), smallService.Reachable cfg ∧
      (2, Event.started (.publishCRL {} "admin" crlRequest)) ∈ cfg.shared.history ∧
      TakenOver cfg.shared 2 (crlClaimAt 1 newYear) ∧ action.event cfg = some (2, event) ∧
      cfg.perform action = some next ∧
      claimsOn cfg.shared crlRequest.issuerID crlRequest.distributionPoint =
        [(2, crlClaimAt 1 newYear), (4, secondClaim 1), (3, crlClaimAt 1 newYear)] ∧
      cfg.shared.world.db.crlClaims.lookup (claimKey (crlClaimAt 1 newYear)) =
        some (crlClaimAt 1 newYear) ∧
      next.shared.world.db.crlClaims.lookup (claimKey (crlClaimAt 1 newYear)) = none ∧
      cfg.shared.world.db.crls = ∅ ∧
      next.shared.world.db.crls.lookup (smallID 4) = some (crlAt 4 1 newYear) := by
  obtain ⟨⟨_, _, _⟩, plan, log, reached, mirrors, rfl, begun, claims, held, freed, shown, stores⟩ :=
    rehearsed_reaches newWorld_initial (takingOver ++ publishingOn 3 1) (fun plan =>
      (2, .started (.publishCRL {} "admin" crlRequest)) ∈ plan.shared.history ∧
      claimsOn plan.shared crlRequest.issuerID crlRequest.distributionPoint =
        [(2, crlClaimAt 1 newYear), (4, secondClaim 1), (3, crlClaimAt 1 newYear)] ∧
      plan.shared.world.db.crlClaims.lookup (claimKey (crlClaimAt 1 newYear)) =
        some (crlClaimAt 1 newYear) ∧
      plan.shared.world.db.crls.entries = [] ∧
      ((System.Action.run 2 .calm : SmallAction).event plan).map Prod.fst = some 2 ∧
      (plan.rehearse (.run 2 .calm)).any (fun after => decide (
        after.shared.world.db.crlClaims.lookup (claimKey (crlClaimAt 1 newYear)) = none ∧
        after.shared.world.db.crls.lookup (smallID 4) = some (crlAt 4 1 newYear))) = true)
  obtain ⟨⟨_, event⟩, shown, rfl⟩ := Option.map_eq_some_iff.mp shown
  obtain ⟨⟨_, _, _⟩, after, log', performed, rfl, released, published⟩ :=
    performs_of_mirrors mirrors stores
  exact ⟨_, _, _, event, reached, begun, ⟨[], _, claims, by simp⟩, mirrors.event shown, performed,
    claims, held, released, AList.ext freed, published⟩

end AnoPki.Lifecycle
