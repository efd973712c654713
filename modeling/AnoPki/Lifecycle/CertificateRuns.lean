import AnoPki.Lifecycle.Deployment

/-! # The status of certificates over whole runs

Which changes of a certificate's status a run can make, what is recorded and told of each, and that
revocations name exactly the revoked certificates. -/
namespace AnoPki.Lifecycle

open Foundation Domain Store List Table

variable {update : CertificateUpdate} {before : State} {call drawn : Nat} {report : Report}
  {event : Option Event} {after : Ledger} {key : Text} {message : OutboxMessage}

variable {s : Service} {cfg : s.system.Config}

section Status

variable {before after : CertificateStatus} {action : Text}

/-- Revoked and expired certificates stay what they are. -/
theorem StatusChange.active (change : StatusChange before action after) :
    before = .valid ∨ before = .suspended := by
  cases change with
  | suspend | revoke => exact .inl rfl
  | resume => exact .inr rfl
  | forceRevoke active | expire active => exact active

/-- Only a forced revocation reaches a suspended certificate. -/
theorem StatusChange.forced (change : StatusChange .suspended action .revoked) :
    action = "certificate.force_revoked" := by
  cases change
  rfl

theorem StatusChange.due (change : StatusChange before action .expired) :
    action = "certificate.expired" := by
  cases change
  rfl

end Status

/-- The audit event reports a change of a certificate's status. -/
def IsStatusEvent (id : Text) (event : AuditEvent) : Prop :=
  event.action ∈ statusActions ∧ event.resourceType = "certificate" ∧ event.resourceID = id
deriving Decidable

/-- The message reports a change of a certificate's status. -/
def IsStatusMessage (id : Text) (message : OutboxMessage) : Prop :=
  message.type ∈ statusActions ∧ messageCertificateID message = some id

/-- The audit events that the second state has and the first has not. -/
def newEvents (before after : State) : List AuditEvent :=
  after.world.db.audit.events.drop before.world.db.audit.events.length

/-- A message that the second state has and the first has not. -/
def NewMessage (before after : State) (key : Text) (message : OutboxMessage) : Prop :=
  before.world.db.outbox.lookup key = none ∧ after.world.db.outbox.lookup key = some message

/-- A change of a certificate's status between two states, with the one audit event and the one
message that report it. -/
structure StatusChanged (before after : State) (old new : Certificate) (action : Text) : Prop where
  change : StatusChange old.status action new.status
  due : new.status = .expired → old.notAfter.nanos ≤ before.world.clock.nanos
  forced : old.status = .suspended → new.status = .revoked → ∃ call ctx actor reason,
    (call, Event.started (.forceRevokeCertificate ctx actor old.id reason)) ∈ before.history
  event : ∃ event, (newEvents before after).filter (fun event => IsStatusEvent old.id event) =
    [event] ∧ event.action = action
  message : ∃ key message, NewMessage before after key message ∧ IsStatusMessage old.id message ∧
    message.type = action ∧ ∀ key' message', NewMessage before after key' message' →
      IsStatusMessage old.id message' → key' = key

/-- What may happen to the status of certificates between two states. -/
structure StatusStep (before after : State) : Prop where
  log : before.world.db.audit.events <+: after.world.db.audit.events
  outbox : ∀ key message, before.world.db.outbox.lookup key = some message →
    after.world.db.outbox.lookup key = some message
  kept : ∀ id old, (ledger before).certificates.lookup id = some old →
    ∃ new, (ledger after).certificates.lookup id = some new ∧ CertificateSame old new ∧
      (new.status = old.status ∨ ∃ action, StatusChanged before after old new action)
  issued : ∀ id new, (ledger after).certificates.lookup id = some new →
    (ledger before).certificates.lookup id = none → new.status = .valid
  events : ∀ event ∈ newEvents before after, event.action ∈ statusActions →
    ∃ old new, IsStatusEvent old.id event ∧
      (ledger before).certificates.lookup old.id = some old ∧
      (ledger after).certificates.lookup old.id = some new ∧
      StatusChange old.status event.action new.status
  messages : ∀ key message, NewMessage before after key message → message.type ∈ statusActions →
    ∃ old new, IsStatusMessage old.id message ∧
      (ledger before).certificates.lookup old.id = some old ∧
      (ledger after).certificates.lookup old.id = some new ∧
      StatusChange old.status message.type new.status

/-- What a change does to the certificates and the revocations. -/
inductive CertificateChange (s : Service) (call : Nat) (before : State) (drawn : Nat) :
    Report → Ledger → Prop
  | unchanged {report : Report} {after : Ledger}
      (certificates : after.certificates = (ledger before).certificates)
      (revocations : after.revocations = (ledger before).revocations)
      (quiet : report.Quiet call before) : CertificateChange s call before drawn report after
  | issued {report : Report} {after : Ledger} {certificate : Certificate}
      (certificates :
        after.certificates = (ledger before).certificates.insert certificate.id certificate)
      (revocations : after.revocations = (ledger before).revocations)
      (unused : (ledger before).certificates.lookup certificate.id = none)
      (valid : certificate.status = .valid) (quiet : report.Quiet call before) :
      CertificateChange s call before drawn report after
  | updated {updates : List CertificateUpdate}
      (legal : ∀ update ∈ updates, update.Legal s call before drawn)
      (distinct : (updates.map fun update => update.old.id).Nodup)
      (apart : ((recordedRevocations updates).map Prod.fst).Nodup) :
      CertificateChange s call before drawn {
        events := updates.map CertificateUpdate.event
        messages := updates.map CertificateUpdate.message } ((ledger before).recertify updates)

theorem Change.certificates (consistent : Consistent s before)
    (change : Change s call before drawn event report after) :
    CertificateChange s call before drawn report after := by
  have silent : ({} : Report).Quiet call before := .nothing
  cases change with
  | idle _ quiet | enrolled _ _ _ _ _ _ quiet | decided _ _ _ _ quiet | opened _ _ quiet =>
    exact .unchanged rfl rfl quiet
  | configured change quiet | crl change quiet | acme change quiet =>
    exact .unchanged (by rw [change.frame]) (by rw [change.frame]) quiet
  | finalized _ _ there _ signed =>
    exact .issued rfl rfl (consistent.issuance.unused there signed) rfl silent
  | recertified legal distinct apart => exact .updated legal distinct apart
  | _ => exact .unchanged rfl rfl silent

section Told

variable {before after : Session} {report : Report}

/-- The messages stay, and the new ones are those of the report. -/
theorem Told.newMessage_iff (ids : s.FreshIDs) (told : Told s before after report)
    (given : GivenOut s before.drawn before.db.outbox) :
    (before.db.outbox.lookup key = none ∧ after.db.outbox.lookup key = some message) ↔
      message ∈ report.messages.map Prod.snd ∧ message.id = key := by
  have new := told.newRecords ids
  rw [told.outbox]
  constructor
  · rintro ⟨absent, found⟩
    rcases new.lookup_cases found with inside | old
    · exact inside
    · rw [absent] at old
      cases old
  · rintro ⟨inside, rfl⟩
    exact ⟨new.fresh ids given inside, new.lookup_new inside⟩

end Told

section Steps

variable {before after : State} {report : Report}

theorem Told.newEvents_eq (told : Told s (session before) (session after) report) :
    newEvents before after = report.events := by
  have grown : after.world.db.audit.events = before.world.db.audit.events ++ report.events :=
    told.audit
  rw [newEvents, grown, drop_left]

section

variable (ids : s.FreshIDs) (told : Told s (session before) (session after) report)
  (given : GivenOut s before.world.drawn before.world.db.outbox)

include ids told given

theorem Told.outbox_kept (found : before.world.db.outbox.lookup key = some message) :
    after.world.db.outbox.lookup key = some message := by
  have whole : after.world.db.outbox = _ := told.outbox
  rw [whole]
  exact (told.newRecords ids).lookup_old ids given found

/-- A step that leaves the stored certificates as they are and tells nothing about them. -/
theorem StatusStep.quiet (quiet : report.Quiet call before)
    (kept : ∀ id old, (ledger before).certificates.lookup id = some old →
      (ledger after).certificates.lookup id = some old)
    (issued : ∀ id new, (ledger after).certificates.lookup id = some new →
      (ledger before).certificates.lookup id = none → new.status = .valid) :
    StatusStep before after where
  log := ⟨report.events, told.audit.symm⟩
  outbox _ _ found := told.outbox_kept ids given found
  kept id old found := ⟨old, kept id old found, .refl old, .inl rfl⟩
  issued := issued
  events event inside status := by
    rw [told.newEvents_eq] at inside
    exact absurd status (quiet.events event inside)
  messages key message new status := by
    obtain ⟨inside, -⟩ := (told.newMessage_iff ids given).mp new
    obtain ⟨entry, member, rfl⟩ := mem_map.mp inside
    exact absurd status (quiet.messages entry member)

end

variable {call drawn : Nat} {updates : List CertificateUpdate}

theorem CertificateUpdate.Legal.statusChange (legal : update.Legal s call before drawn)
    (reported : update.action ∈ statusActions) :
    StatusChange update.old.status update.action update.new.status := by
  rcases legal.change with change | ⟨-, -, warning⟩
  · exact change
  · rw [warning] at reported
    exact absurd reported (by decide)

/-- Different updates are about different certificates. -/
theorem eq_of_old_eq (distinct : (updates.map fun update => update.old.id).Nodup)
    {other} (inside : update ∈ updates) (inside' : other ∈ updates)
    (same : other.old.id = update.old.id) : other = update :=
  inj_on_of_nodup_map distinct inside' inside same

/-- One of the events of updates is about a given certificate. -/
theorem filter_updateEvents (legal : ∀ update ∈ updates, update.Legal s call before drawn)
    (distinct : (updates.map fun update => update.old.id).Nodup) (inside : update ∈ updates)
    (reported : update.action ∈ statusActions) :
    (updates.map CertificateUpdate.event).filter (fun event => IsStatusEvent update.old.id event) =
      [update.event] := by
  obtain ⟨front, back, rfl⟩ := append_of_mem inside
  have others : ∀ other ∈ front ++ back, ¬ IsStatusEvent update.old.id other.event := by
    rintro other member ⟨-, -, same⟩
    rw [map_append, map_cons, nodup_middle, nodup_cons] at distinct
    refine distinct.1 ?_
    rw [← map_append]
    have there : other ∈ front ++ update :: back := by
      rw [mem_append, mem_cons]
      exact (mem_append.mp member).imp_right .inr
    exact mem_map.mpr ⟨other, member, (legal other there).event.2.2.symm.trans same⟩
  have here : IsStatusEvent update.old.id update.event := by
    obtain ⟨action, resourceType, resourceID⟩ := (legal update inside).event
    exact ⟨action ▸ reported, resourceType, resourceID⟩
  have silent : ∀ part : List CertificateUpdate, (∀ other ∈ part, other ∈ front ++ back) →
      (part.map CertificateUpdate.event).filter
        (fun event => IsStatusEvent update.old.id event) = [] := by
    intro part inside
    rw [filter_eq_nil_iff]
    intro event member
    obtain ⟨other, there, rfl⟩ := mem_map.mp member
    simpa using others other (inside other there)
  rw [map_append, map_cons, filter_append, filter_cons_of_pos (by simpa using here),
    silent front fun other => mem_append_left _, silent back fun other => mem_append_right _]
  rfl

section

variable (ids : s.FreshIDs)
  (told : Told s (session before) (session after) {
    events := updates.map CertificateUpdate.event
    messages := updates.map CertificateUpdate.message })
  (given : GivenOut s before.world.drawn before.world.db.outbox)
  (legal : ∀ update ∈ updates, update.Legal s call before drawn)
  (distinct : (updates.map fun update => update.old.id).Nodup)

include ids told given legal distinct

/-- An update that changes a certificate's status, with its event and its message. -/
theorem StatusChanged.of_update (inside : update ∈ updates)
    (change : StatusChange update.old.status update.action update.new.status) :
    StatusChanged before after update.old update.new update.action where
  change := change
  due expired := (legal update inside).expired (by
    rw [expired] at change
    exact change.due)
  forced suspended revoked := by
    rw [suspended, revoked] at change
    exact ⟨call, (legal update inside).forced change.forced⟩
  event := by
    rw [told.newEvents_eq]
    exact ⟨update.event, filter_updateEvents legal distinct inside change.mem_statusActions,
      (legal update inside).event.1⟩
  message := by
    obtain ⟨type, carries⟩ := (legal update inside).message
    refine ⟨_, update.message.2, (told.newMessage_iff ids given).mpr ⟨?_, rfl⟩,
      ⟨type ▸ change.mem_statusActions, carries⟩, type, ?_⟩
    · exact mem_map_of_mem (mem_map_of_mem inside)
    · rintro key message new ⟨-, about⟩
      obtain ⟨there, rfl⟩ := (told.newMessage_iff ids given).mp new
      rw [map_map] at there
      obtain ⟨other, member, rfl⟩ := mem_map.mp there
      have same := Option.some.inj ((legal other member).message.2.symm.trans about)
      rw [eq_of_old_eq distinct inside member same]
      rfl

theorem StatusStep.recertified (ledger_eq : ledger after = (ledger before).recertify updates) :
    StatusStep before after where
  log := ⟨_, told.audit.symm⟩
  outbox _ _ found := told.outbox_kept ids given found
  kept id old found := by
    rw [ledger_eq]
    by_cases touched : ∃ update ∈ updates, update.old.id = id
    · obtain ⟨update, inside, rfl⟩ := touched
      cases (legal update inside).found.symm.trans found
      refine ⟨update.new, recertify_updated legal distinct inside, (legal update inside).same, ?_⟩
      rcases (legal update inside).change with change | ⟨same, -⟩
      · exact .inr ⟨update.action, .of_update ids told given legal distinct inside change⟩
      · exact .inl same
    · have other : ∀ update ∈ updates, update.old.id ≠ id := by simpa using touched
      exact ⟨old, by rw [recertify_other legal other, found], .refl old, .inl rfl⟩
  issued id new found absent := by
    rw [ledger_eq] at found
    obtain ⟨stored, there, -⟩ := recertify_back legal distinct id new found
    rw [absent] at there
    cases there
  events event inside status := by
    rw [told.newEvents_eq] at inside
    obtain ⟨update, member, rfl⟩ := mem_map.mp inside
    obtain ⟨action, resourceType, resourceID⟩ := (legal update member).event
    refine ⟨update.old, update.new, ⟨status, resourceType, resourceID⟩,
      (legal update member).found, ?_, ?_⟩
    · rw [ledger_eq]
      exact recertify_updated legal distinct member
    · rw [action] at status ⊢
      exact (legal update member).statusChange status
  messages key message new status := by
    obtain ⟨there, rfl⟩ := (told.newMessage_iff ids given).mp new
    rw [map_map] at there
    obtain ⟨update, member, rfl⟩ := mem_map.mp there
    obtain ⟨type, carries⟩ := (legal update member).message
    refine ⟨update.old, update.new, ⟨status, carries⟩, (legal update member).found, ?_, ?_⟩
    · rw [ledger_eq]
      exact recertify_updated legal distinct member
    · change update.message.2.type ∈ statusActions at status
      change StatusChange _ update.message.2.type _
      rw [type] at status ⊢
      exact (legal update member).statusChange status

end

theorem StatusStep.outer (outer : Outer before after) : StatusStep before after where
  log := by rw [outer.audit]
  outbox key message found := by rw [outer.outbox, found]
  kept id old found := ⟨old, by rw [outer.ledger, found], .refl old, .inl rfl⟩
  issued id new found absent := by
    rw [outer.ledger, absent] at found
    cases found
  events event inside := by
    rw [newEvents, outer.audit, drop_length] at inside
    cases inside
  messages key message new := by
    obtain ⟨absent, found⟩ := new
    rw [outer.outbox, absent] at found
    cases found

end Steps

/-- Every step of a call treats the certificates' status as it should. -/
theorem Change.statusStep (ids : s.FreshIDs) {after} (consistent : Consistent s before)
    (given : GivenOut s before.world.drawn before.world.db.outbox)
    (told : Told s (session before) (session after) report)
    (change : Change s call before drawn event report (ledger after)) :
    StatusStep before after := by
  generalize outcome : ledger after = l at change
  cases change.certificates consistent with
  | unchanged certificates _ quiet =>
    refine StatusStep.quiet ids told given quiet ?_ ?_
    · intro id old found
      rw [outcome, certificates, found]
    · intro id new found absent
      rw [outcome, certificates, absent] at found
      cases found
  | issued certificates _ unused valid quiet =>
    refine StatusStep.quiet ids told given quiet ?_ ?_
    · intro id old found
      rw [outcome, certificates, lookup_insert_eq, if_neg, found]
      rintro rfl
      rw [unused] at found
      cases found
    · intro id new found absent
      rw [outcome, certificates, lookup_insert_eq] at found
      split at found
      · cases found
        exact valid
      · rw [absent] at found
        cases found
  | updated legal distinct => exact StatusStep.recertified ids told given legal distinct outcome

/-- The revocation stored under a key names the certificate. -/
def RevocationFor (l : Ledger) (certificateID key : Text) : Prop :=
  ∃ revocation, l.revocations.lookup key = some revocation ∧
    revocation.certificateID = certificateID

/-- The revocations name exactly the revoked certificates, each of them once. -/
structure Revocations (l : Ledger) : Prop where
  named : ∀ id key, RevocationFor l id key →
    ∃ certificate, l.certificates.lookup id = some certificate ∧ certificate.status = .revoked
  recorded : ∀ id certificate, l.certificates.lookup id = some certificate →
    certificate.status = .revoked → ∃ key, RevocationFor l id key
  once : ∀ id key key', RevocationFor l id key → RevocationFor l id key' → key = key'

section Revocations

variable {before : State} {call drawn : Nat} {updates : List CertificateUpdate}

/-- Only certificates that are not revoked yet are updated. -/
theorem CertificateUpdate.Legal.unrevoked (legal : update.Legal s call before drawn) :
    update.old.status ≠ .revoked := by
  rcases legal.change with change | ⟨-, kept, -⟩
  · rcases change.active with valid | suspended
    · simp [valid]
    · simp [suspended]
  · exact kept

/-- The revocations after updates: those that were there, and one for each certificate that an
update revokes. -/
theorem revocationFor_recertify_iff (ids : s.FreshIDs)
    (given : GivenOut s before.world.drawn (ledger before).revocations)
    (legal : ∀ update ∈ updates, update.Legal s call before drawn)
    (apart : ((recordedRevocations updates).map Prod.fst).Nodup) {id key} :
    RevocationFor ((ledger before).recertify updates) id key ↔
      RevocationFor (ledger before) id key ∨ ∃ update ∈ updates, ∃ number revocation,
        update.revocation = some (number, revocation) ∧ revocation.id = key ∧
          update.old.id = id ∧ update.new.status = .revoked := by
  have new := recordedRevocations_new ids legal apart
  constructor
  · rintro ⟨revocation, found, rfl⟩
    rcases new.lookup_cases found with ⟨inside, rfl⟩ | old
    · obtain ⟨entry, member, rfl⟩ := mem_map.mp inside
      obtain ⟨update, there, recorded, revoked, -, -, about⟩ := mem_recordedRevocations legal member
      exact .inr ⟨update, there, entry.1, entry.2, recorded, rfl, about.symm, revoked⟩
    · exact .inl ⟨revocation, old, rfl⟩
  · rintro (⟨revocation, found, rfl⟩ |
      ⟨update, there, number, revocation, recorded, rfl, rfl, revoked⟩)
    · exact ⟨revocation, new.lookup_old ids given found, rfl⟩
    · have inside : (number, revocation) ∈ recordedRevocations updates :=
        mem_filterMap.mpr ⟨update, there, recorded⟩
      refine ⟨revocation, new.lookup_new (mem_map_of_mem inside), ?_⟩
      obtain ⟨_, _, same, -, -, about⟩ := (legal update there).recorded revoked
      cases Option.mem_unique recorded same
      exact about

theorem Revocations.recertify (ids : s.FreshIDs) (revocations : Revocations (ledger before))
    (given : GivenOut s before.world.drawn (ledger before).revocations)
    (legal : ∀ update ∈ updates, update.Legal s call before drawn)
    (distinct : (updates.map fun update => update.old.id).Nodup)
    (apart : ((recordedRevocations updates).map Prod.fst).Nodup) :
    Revocations ((ledger before).recertify updates) := by
  have revocationFor_iff := @revocationFor_recertify_iff _ _ _ _ _ ids given legal apart
  -- A certificate that a revocation names already is not updated.
  have done : ∀ update ∈ updates, ∀ key, ¬ RevocationFor (ledger before) update.old.id key := by
    intro update inside key there
    obtain ⟨certificate, found, revoked⟩ := revocations.named _ key there
    cases (legal update inside).found.symm.trans found
    exact (legal update inside).unrevoked revoked
  constructor
  case named =>
    intro id key there
    rcases revocationFor_iff.mp there with old | ⟨update, inside, -, -, -, -, rfl, revoked⟩
    · obtain ⟨certificate, found, revoked⟩ := revocations.named id key old
      refine ⟨certificate, ?_, revoked⟩
      rw [recertify_other legal, found]
      rintro update inside rfl
      exact done update inside key old
    · exact ⟨update.new, recertify_updated legal distinct inside, revoked⟩
  case recorded =>
    intro id certificate found revoked
    rcases recertify_cases legal distinct found with ⟨update, inside, rfl, rfl⟩ | ⟨-, old⟩
    · obtain ⟨number, revocation, recorded, -⟩ := (legal update inside).recorded revoked
      exact ⟨revocation.id, revocationFor_iff.mpr
        (.inr ⟨update, inside, number, revocation, recorded, rfl, rfl, revoked⟩)⟩
    · obtain ⟨key, there⟩ := revocations.recorded id certificate old revoked
      exact ⟨key, revocationFor_iff.mpr (.inl there)⟩
  case once =>
    intro id key key' there there'
    rcases revocationFor_iff.mp there with old | ⟨update, inside, _, _, recorded, rfl, rfl, -⟩ <;>
      rcases revocationFor_iff.mp there' with
        old' | ⟨update', inside', _, _, recorded', rfl, same, -⟩
    · exact revocations.once id key key' old old'
    · subst same
      exact absurd old (done update' inside' key)
    · exact absurd old' (done update inside key')
    · obtain rfl := eq_of_old_eq distinct inside inside' same
      cases Option.mem_unique recorded recorded'
      rfl

end Revocations

/-- What the records of certificates keep. -/
structure CertificatesRecorded (s : Service) (state : State) : Prop where
  outbox : GivenOut s state.world.drawn state.world.db.outbox
  revocations : Revocations (ledger state)

theorem CertificateChange.revocations (ids : s.FreshIDs) (consistent : Consistent s before)
    (revocations : Revocations (ledger before))
    (change : CertificateChange s call before drawn report after) : Revocations after := by
  cases change with
  | unchanged certificates same =>
    exact ⟨by simpa only [RevocationFor, certificates, same] using revocations.named,
      by simpa only [RevocationFor, certificates, same] using revocations.recorded,
      by simpa only [RevocationFor, same] using revocations.once⟩
  | issued certificates same unused valid =>
    have revocationFor_iff : ∀ id key, RevocationFor after id key ↔
        RevocationFor (ledger before) id key := by simp [RevocationFor, same]
    constructor
    case named =>
      intro id key there
      obtain ⟨certificate, found, revoked⟩ :=
        revocations.named id key ((revocationFor_iff id key).mp there)
      refine ⟨certificate, ?_, revoked⟩
      rw [certificates, lookup_insert_eq, if_neg, found]
      rintro rfl
      rw [unused] at found
      cases found
    case recorded =>
      intro id certificate found revoked
      rw [certificates, lookup_insert_eq] at found
      split at found
      · cases found
        rw [valid] at revoked
        cases revoked
      · obtain ⟨key, there⟩ := revocations.recorded id certificate found revoked
        exact ⟨key, (revocationFor_iff id key).mpr there⟩
    case once =>
      intro id key key' there there'
      exact revocations.once id key key' ((revocationFor_iff id key).mp there)
        ((revocationFor_iff id key').mp there')
  | updated legal distinct apart =>
    exact revocations.recertify ids consistent.given.revocations legal distinct apart

theorem CertificatesRecorded.step (ids : s.FreshIDs) {before after} {call drawn : Nat}
    {event report} (recorded : CertificatesRecorded s before)
    (consistent : Consistent s before) (told : Told s (session before) (session after) report)
    (change : Change s call before drawn event report (ledger after)) :
    CertificatesRecorded s after where
  outbox := by
    have whole : after.world.db.outbox = _ := told.outbox
    rw [whole]
    exact (told.newRecords ids).givenOut recorded.outbox told.forward
  revocations := (change.certificates consistent).revocations ids consistent recorded.revocations

theorem reaches_recorded (ids : s.FreshIDs) (reached : s.Reachable cfg) :
    CertificatesRecorded s cfg.shared := by
  refine @reachable_induct s cfg ids (CertificatesRecorded s) ?_ ?_ ?_ reached
  · intro world initial
    constructor
    · rw [initial.db]
      exact .empty
    · rw [ledger, initial.db]
      constructor <;> simp [RevocationFor, Ledger.of, Db.empty]
  · intro before call event report after consistent recorded told change
    exact recorded.step ids consistent told change
  · intro before after recorded outer
    constructor
    · rw [outer.outbox, outer.drawn]
      exact recorded.outbox
    · rw [outer.ledger]
      exact recorded.revocations

/-- Every action from a reachable configuration treats the certificates' status as it should. -/
theorem reachable_statusStep (ids : s.FreshIDs) (reached : s.Reachable cfg) {action next}
    (performed : cfg.perform action = some next) : StatusStep cfg.shared next.shared := by
  have sound := reaches_sound ids reached
  have moves := (sound.perform (s.system_keeps ids) performed).1
  generalize next.shared = shared at moves
  cases moves with
  | call seen change =>
    obtain ⟨-, report, told, change⟩ := change
    exact change.statusStep ids sound.inv (reaches_recorded ids reached).outbox told
  | outer _ outer => exact .outer outer

/-- A certificate that is revoked or expired. -/
def Ended (status : CertificateStatus) : Prop := status = .revoked ∨ status = .expired

theorem StatusStep.ended {after} (step : StatusStep before after) {id old}
    (found : (ledger before).certificates.lookup id = some old) (ended : Ended old.status) :
    ∃ new, (ledger after).certificates.lookup id = some new ∧ new.status = old.status := by
  obtain ⟨new, there, -, same | ⟨action, changed⟩⟩ := step.kept id old found
  · exact ⟨new, there, same⟩
  · rcases changed.change.active with active | active <;> rcases ended with ended | ended <;>
      simp [active] at ended

/-- Over every run: a certificate is revoked iff exactly one revocation names it, and none names it
otherwise; each action changes the status of certificates only as the state machine says and with
the one audit event and the one message for it, and nothing else is told about a status; and revoked
and expired certificates stay so. -/
theorem certificate_lifecycle (ids : s.FreshIDs) (reached : s.Reachable cfg) :
    (∀ id certificate, (ledger cfg.shared).certificates.lookup id = some certificate →
      (certificate.status = .revoked ↔ ∃! key, RevocationFor (ledger cfg.shared) id key) ∧
      (certificate.status ≠ .revoked → ∀ key, ¬ RevocationFor (ledger cfg.shared) id key)) ∧
    (∀ action next, cfg.perform action = some next → StatusStep cfg.shared next.shared) ∧
    ∀ actions final, cfg.performAll actions = some final → ∀ id certificate,
      (ledger cfg.shared).certificates.lookup id = some certificate → Ended certificate.status →
      ∃ stored, (ledger final.shared).certificates.lookup id = some stored ∧
        stored.status = certificate.status := by
  have revocations := (reaches_recorded ids reached).revocations
  refine ⟨?_, fun action next performed => reachable_statusStep ids reached performed, ?_⟩
  · intro id certificate found
    have named : ∀ key, RevocationFor (ledger cfg.shared) id key →
        certificate.status = .revoked := by
      intro key there
      obtain ⟨stored, here, revoked⟩ := revocations.named id key there
      obtain rfl := Option.mem_unique found here
      exact revoked
    refine ⟨⟨?_, ?_⟩, fun kept key there => kept (named key there)⟩
    · intro revoked
      obtain ⟨key, there⟩ := revocations.recorded id certificate found revoked
      exact ⟨key, there, fun other there' => revocations.once id other key there' there⟩
    · rintro ⟨key, there, -⟩
      exact named key there
  · -- What has ended is ended after each action, so after all of them.
    intro actions
    induction actions generalizing cfg with
    | nil =>
      rintro final ⟨⟩ id certificate found -
      exact ⟨certificate, found, rfl⟩
    | cons action rest ih =>
      intro final performed id certificate found ended
      obtain ⟨next, first, later⟩ := Option.bind_eq_some_iff.mp performed
      obtain ⟨stored, there, same⟩ :=
        (reachable_statusStep ids reached first).ended found ended
      have next_reached : s.Reachable next := .step reached trivial first
      obtain ⟨final', here, same'⟩ := ih next_reached
        (reaches_recorded ids next_reached).revocations final later id stored there (same ▸ ended)
      exact ⟨final', here, same'.trans same⟩

/-- The deployment revokes its certificate. -/
theorem small_revoked : ∃ cfg : SmallConfig, smallService.Reachable cfg ∧
    cfg.shared.world.db.issuers.values = [webIssuer] ∧
    cfg.shared.world.db.certificates.lookup webCertificate.id =
      some (revokedCopy webCertificate newYear) := by
  obtain ⟨⟨_, _, _⟩, plan, log, reached, -, rfl, revoked⟩ := rehearsed_reaches newWorld_initial
    revoking (fun plan =>
      plan.shared.world.db.issuers.values = [webIssuer] ∧
      plan.shared.world.db.certificates.lookup webCertificate.id =
        some (revokedCopy webCertificate newYear))
  exact ⟨_, reached, revoked⟩

/-- The certificate it revokes has one record of it. -/
theorem certificate_lifecycle_revoked : ∃ cfg : SmallConfig,
    (ledger cfg.shared).certificates.lookup webCertificate.id =
      some (revokedCopy webCertificate newYear) ∧
    ∃! key, RevocationFor (ledger cfg.shared) webCertificate.id key := by
  obtain ⟨cfg, reached, -, found⟩ := small_revoked
  have lifecycle := certificate_lifecycle small_freshIDs reached
  exact ⟨cfg, found, (lifecycle.1 _ _ found).1.mp rfl⟩

end AnoPki.Lifecycle
