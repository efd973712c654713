import AnoPki.Store.AuditLog

/-! # Tamper evidence of the audit chain

The bytes hashed for an event determine the previous hash and every field of the event. With the
chain rule of `Foundation.Chain.committed` the recorded head then determines the whole log, up to a
collision of the hash function among the inputs that were hashed. -/
namespace AnoPki.Store

open Foundation Domain List Text Int64 Json

/-- Two events with the same hashed content. -/
structure SameContent (event event' : AuditEvent) : Prop where
  sequence : event.sequence = event'.sequence
  id : event.id = event'.id
  actor : event.actor = event'.actor
  action : event.action = event'.action
  resourceType : event.resourceType = event'.resourceType
  resourceID : event.resourceID = event'.resourceID
  createdAt : event.createdAt.equal event'.createdAt
  metadata : canonicalAuditMetadata event.metadataJSON =
    canonicalAuditMetadata event'.metadataJSON
  previousEventHash : event.previousEventHash = event'.previousEventHash
  eventHash : event.eventHash = event'.eventHash

private theorem quote_time (t : Time) :
    quote t.rfc3339Nano = '"' :: (t.rfc3339Nano ++ ['"']) := by
  apply quote_of_plain
  intro c member
  have plain : ∀ mark ∈ ['-', 'T', ':', '.', 'Z', '+'], escape mark = [mark] := by
    simp [escape, hexEscaped]
  rcases Time.mem_rfc3339Nano member with mark | digit
  · exact plain c mark
  · exact escape_of_isDigit digit

private theorem quoteMark_notMem_time (t : Time) : '"' ∉ t.rfc3339Nano := by
  intro member
  rcases Time.mem_rfc3339Nano member with mark | digit
  · exact absurd mark (by decide)
  · exact absurd digit (by decide)

private theorem comma_notMem_decimalInt (n : Int) : ',' ∉ decimalInt n := by
  intro member
  rcases mem_decimalInt member with minus | digit
  · exact absurd minus (by decide)
  · exact absurd digit (by decide)

/-- The metadata of a payload ends where the last member begins. -/
private theorem metadata_unique {key metadata metadata'} {t u : Time}
    (same : metadata ++ (key ++ quote t.rfc3339Nano ++ ['\x7d']) =
      metadata' ++ (key ++ quote u.rfc3339Nano ++ ['\x7d'])) :
    metadata = metadata' ∧ t.rfc3339Nano = u.rfc3339Nano := by
  rw [quote_time, quote_time] at same
  have whole : ((metadata ++ key) ++ '"' :: t.rfc3339Nano) ++ ['"', '\x7d'] =
      ((metadata' ++ key) ++ '"' :: u.rfc3339Nano) ++ ['"', '\x7d'] := by
    simpa using same
  obtain ⟨fronts, times⟩ := split_unique_last (quoteMark_notMem_time t)
    (quoteMark_notMem_time u) (append_cancel_right whole)
  exact ⟨append_cancel_right fronts, times⟩

private theorem quoted_unique {front value value' rest rest'}
    (same : front ++ (quote value ++ rest) = front ++ (quote value' ++ rest')) :
    value = value' ∧ rest = rest' :=
  quote_append_inj (append_cancel_left same)

/-- The payload written out: each value between the text before it and the text after it. -/
private theorem auditHashPayload_eq (event : AuditEvent) (metadata : Text) :
    auditHashPayload event metadata = '\x7b' ::
      ((quote "hash_algorithm" ++ [':']) ++ (quote event.hashAlgorithm ++
      ((',' :: quote "sequence" ++ [':']) ++ (decimalInt event.sequence.toInt ++ ',' ::
      ((quote "id" ++ [':']) ++ (quote event.id ++
      ((',' :: quote "actor" ++ [':']) ++ (quote event.actor ++
      ((',' :: quote "action" ++ [':']) ++ (quote event.action ++
      ((',' :: quote "resource_type" ++ [':']) ++ (quote event.resourceType ++
      ((',' :: quote "resource_id" ++ [':']) ++ (quote event.resourceID ++
      ((',' :: quote "metadata" ++ [':']) ++ (metadata ++
      ((',' :: quote "created_at" ++ [':']) ++ quote event.createdAt.utc.rfc3339Nano ++
        ['\x7d']))))))))))))))))) := by
  simp only [auditHashPayload, writeObject, map_cons, map_nil, join,
    append_assoc, cons_append, nil_append]

/-- A payload determines the event it was written for. -/
theorem auditHashPayload_unique {event event'} {metadata metadata' : Text}
    (same : auditHashPayload event metadata = auditHashPayload event' metadata') :
    event.sequence = event'.sequence ∧ event.id = event'.id ∧ event.actor = event'.actor ∧
      event.action = event'.action ∧ event.resourceType = event'.resourceType ∧
      event.resourceID = event'.resourceID ∧ metadata = metadata' ∧
      event.createdAt.equal event'.createdAt := by
  rw [auditHashPayload_eq, auditHashPayload_eq] at same
  obtain ⟨-, rest⟩ := quoted_unique (cons.inj same).2
  obtain ⟨sequence, rest⟩ := split_unique (comma_notMem_decimalInt _)
    (comma_notMem_decimalInt _) (append_cancel_left rest)
  obtain ⟨id, rest⟩ := quoted_unique rest
  obtain ⟨actor, rest⟩ := quoted_unique rest
  obtain ⟨action, rest⟩ := quoted_unique rest
  obtain ⟨resourceType, rest⟩ := quoted_unique rest
  obtain ⟨resourceID, rest⟩ := quoted_unique rest
  obtain ⟨metadata, time⟩ := metadata_unique (append_cancel_left rest)
  exact ⟨toInt_inj.mp (decimalInt_injective sequence), id, actor, action, resourceType,
    resourceID, metadata, Time.rfc3339Nano_utc_injective time⟩

/-- The hash at a point is the empty text of a new chain or hexadecimal, so that it ends where the
payload of the next event begins. -/
def AuditPoint.BraceFree (point : AuditPoint) : Prop := '\x7b' ∉ point.hash

theorem AuditPoint.braceFree_of_isAuditHash {point : AuditPoint}
    (wellFormed : isAuditHash point.hash) : point.BraceFree := by
  cases decoded : hexDecode point.hash with
  | none => simp [isAuditHash, decoded] at wellFormed
  | some bytes =>
    simp only [isAuditHash, decoded, Bool.and_eq_true, beq_iff_eq] at wellFormed
    intro brace
    exact (mem_hexEncode (wellFormed.2.2 ▸ brace)).2 rfl

/-- The hashed bytes determine the previous hash and the content of the event. -/
theorem auditHashInput_unique {previousHash previousHash' event event' input}
    (clean : '\x7b' ∉ previousHash) (clean' : '\x7b' ∉ previousHash')
    (hashed : auditHashInput previousHash event = .ok input)
    (hashed' : auditHashInput previousHash' event' = .ok input) :
    previousHash = previousHash' ∧ event.sequence = event'.sequence ∧ event.id = event'.id ∧
      event.actor = event'.actor ∧ event.action = event'.action ∧
      event.resourceType = event'.resourceType ∧ event.resourceID = event'.resourceID ∧
      canonicalAuditMetadata event.metadataJSON = canonicalAuditMetadata event'.metadataJSON ∧
      event.createdAt.equal event'.createdAt := by
  obtain ⟨metadata, canonical, input⟩ := Except.bind_eq_ok.mp hashed
  obtain ⟨metadata', canonical', input'⟩ := Except.bind_eq_ok.mp hashed'
  have texts := utf8_injective (Except.ok.inj (input.trans input'.symm))
  have split := texts
  rw [auditHashPayload_eq, auditHashPayload_eq] at split
  obtain ⟨previous, -⟩ := split_unique clean clean' split
  subst previous
  obtain ⟨sequence, id, actor, action, resourceType, resourceID, sameMetadata, createdAt⟩ :=
    auditHashPayload_unique (append_cancel_left texts)
  exact ⟨rfl, sequence, id, actor, action, resourceType, resourceID,
    by rw [canonical, canonical', sameMetadata], createdAt⟩

/-- The inputs that are hashed when the events are verified. -/
def auditHashInputs (events : List AuditEvent) : List (List UInt8) :=
  events.filterMap fun event => (auditHashInput event.previousEventHash event).toOption

/-- An event that extends two points to one determines the point and its own content. -/
private theorem extendChain_backward {events events'}
    (noCollision : ∀ input ∈ auditHashInputs events, ∀ input' ∈ auditHashInputs events',
      sha256 input = sha256 input' → input = input')
    {event event'} (member : event ∈ events) (member' : event' ∈ events')
    {point point' next} (clean : point.BraceFree) (clean' : point'.BraceFree)
    (extended : extendAuditChain point event = some next)
    (extended' : extendAuditChain point' event' = some next) :
    point = point' ∧ SameContent event event' := by
  obtain ⟨sequence, -, previous, hashed, rfl⟩ := extendChain_eq_some.mp extended
  obtain ⟨sequence', -, previous', hashed', same⟩ := extendChain_eq_some.mp extended'
  obtain ⟨sameSequence, sameHash⟩ := AuditPoint.mk.inj same
  obtain ⟨input, bytes, digest⟩ := auditEventHash_eq_ok.mp hashed
  obtain ⟨input', bytes', digest'⟩ := auditEventHash_eq_ok.mp hashed'
  have inputMember : input ∈ auditHashInputs events :=
    mem_filterMap.mpr ⟨event, member, by rw [previous, bytes]; rfl⟩
  have inputMember' : input' ∈ auditHashInputs events' :=
    mem_filterMap.mpr ⟨event', member', by rw [previous', bytes']; rfl⟩
  have digests := Text.hexEncode_injective (digest.symm.trans (sameHash.trans digest'))
  obtain rfl := noCollision input inputMember input' inputMember' digests
  obtain ⟨hash, -, id, actor, action, resourceType, resourceID, metadata, createdAt⟩ :=
    auditHashInput_unique clean clean' bytes bytes'
  have points : point.sequence = point'.sequence :=
    (Int64.add_left_inj 1).mp (sequence.symm.trans (sameSequence.trans sequence'))
  refine ⟨?_, sameSequence, id, actor, action, resourceType, resourceID, createdAt, metadata,
    by rw [previous, previous', hash], sameHash⟩
  cases point
  cases point'
  simp_all

private theorem chain_sequence {point final events}
    (linked : chain extendAuditChain point events = some final) :
    final.sequence.toInt % 18446744073709551616 =
      (point.sequence.toInt + events.length) % 18446744073709551616 := by
  induction events generalizing point with
  | nil =>
    cases linked
    simp
  | cons event rest ih =>
    obtain ⟨next, extended, tail⟩ := Chain.cons_eq_some.mp linked
    obtain ⟨sequence, -, -, -, rfl⟩ := extendChain_eq_some.mp extended
    have successor := toInt_succ_emod point.sequence
    have tailSequence := ih tail
    simp only [sequence] at tailSequence
    simp only [length_cons]
    push_cast
    omega

/-- Two logs that verify against one chain state are the same log: equally long, with the same
content at every position. A log is a Go slice, and no two of the inputs hashed for them collide. -/
theorem verifyAuditState_tamperEvident (events events' : List AuditEvent) (state : AuditChainState)
    (valid : (verifyAuditState events state).valid = true)
    (valid' : (verifyAuditState events' state).valid = true)
    (size : events.length < 2 ^ 63) (size' : events'.length < 2 ^ 63)
    (noCollision : ∀ input ∈ auditHashInputs events, ∀ input' ∈ auditHashInputs events',
      sha256 input = sha256 input' → input = input') :
    events.length = events'.length ∧
      ∀ (index : Nat) (inside : index < events.length) (inside' : index < events'.length),
        SameContent events[index] events'[index] := by
  have log := auditState_valid_iff.mp valid
  have log' := auditState_valid_iff.mp valid'
  have start : (checkpointPoint state.checkpoint).BraceFree := by
    by_cases zero : state.checkpointSequence = 0
    · simp [AuditPoint.BraceFree, checkpointPoint, AuditChainState.checkpoint,
        log.checkpoint.unhashed zero]
    · exact AuditPoint.braceFree_of_isAuditHash (log.checkpoint.hashed zero)
  have agree : List.Forall₂ SameContent events events' := by
    refine Chain.committed start (fun extended _ =>
        AuditPoint.braceFree_of_isAuditHash (extendChain_isAuditHash extended)) ?_
      (fun event member event' member' _ _ _ clean clean' =>
        extendChain_backward noCollision member member' clean clean')
      log.linked log'.linked
    intro entries part returned
    have sequence := chain_sequence returned
    have short : entries.length < 2 ^ 63 :=
      part.elim (fun front => lt_of_le_of_lt front.length_le size)
        (fun front => lt_of_le_of_lt front.length_le size')
    exact eq_nil_of_length_eq_zero (by omega)
  refine ⟨agree.length_eq, fun index inside inside' => ?_⟩
  exact (forall₂_iff_get.mp agree).2 index inside inside'

/-- A new log with two events, the first of which has the given metadata. -/
def twoEvents (metadata : Text) : AuditLog :=
  let first := { issuerCreatedAt 0 with metadataJSON := metadata }
  (appendMemoryAuditEvent (appendMemoryAuditEvent AuditLog.empty first).2
    { issuerCreatedAt 1 with id := "event-2" }).2

/-- Two spellings of one metadata document verify against one state. -/
theorem verifyAuditState_tamperEvident_respelled :
    (twoEvents "\x7b\"b\":1, \"a\":2\x7d").events.length =
      (twoEvents "\x7b\"a\":2,\"b\":1\x7d").events.length ∧
    ∀ index inside inside', SameContent
      ((twoEvents "\x7b\"b\":1, \"a\":2\x7d").events.get ⟨index, inside⟩)
      ((twoEvents "\x7b\"a\":2,\"b\":1\x7d").events.get ⟨index, inside'⟩) :=
  verifyAuditState_tamperEvident _ _ (twoEvents "\x7b\"b\":1, \"a\":2\x7d").state
    (by decide +kernel) (by decide +kernel) (by decide +kernel) (by decide +kernel)
    (by decide +kernel)

end AnoPki.Store
