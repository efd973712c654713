import AnoPki.Lifecycle.Deployment

/-! # Expiration scans

`ScanCertificateExpirations` takes the certificates that need it from the head of a queue, a batch
at a time. What a call takes, it settles: the certificate is expired or its renewal is notified, and
it leaves the queue. `ExpirySLO` reports the certificates that expire soon and were not notified. -/
namespace AnoPki.Lifecycle

open Foundation Domain Store List Tx Table Shelf

variable {batch rest : List Certificate} {result : CertificateExpirationScanResult}
  {certificate : Certificate} {table : Table Certificate} {now : Time} {done : List Certificate}
  {outcomes : List (Except Err CertificateExpirationScanResult)}

structure ExpirySLO where
  windowDays : Nat
  unhandledCount : Nat
  unhandledIDs : List Text
  ok : Bool
deriving DecidableEq, Repr

/-- What `ExpirySLO` counts. -/
def expiryUnhandled (certificate : Certificate) (now cutoff : Time) : Prop :=
  (certificate.status = .valid ∨ certificate.status = .suspended) ∧ certificate.notAfter.after now ∧
    ¬ certificate.notAfter.after cutoff ∧ certificate.renewalNotifiedAt.isZero
deriving Decidable

/-- Fourteen days in nanoseconds. -/
def expirySLOWindow : Int := 14 * 24 * 3600000000000

def expiryReport (certificates : List Certificate) (now : Time) : ExpirySLO :=
  let cutoff := now.add expirySLOWindow
  let ids := (certificates.filter fun certificate => expiryUnhandled certificate now cutoff).map
    Certificate.id
  { windowDays := 14, unhandledCount := ids.length, unhandledIDs := ids, ok := ids.length = 0 }

def Service.expirySLO : Op ExpirySLO := do
  let certificates ← repo listCertificates
  let now ← Op.now
  pure (expiryReport certificates now)

section Queue

/-- The certificates that a scan is for. -/
def due (table : Table Certificate) (now warningBefore : Time) : List Certificate :=
  table.values.filter fun certificate =>
    certificateNeedsExpirationScan certificate now warningBefore

/-- The certificate as a scan leaves it. -/
def scanned (now : Time) (certificate : Certificate) : Certificate :=
  if certificateIsExpiredCandidate certificate now then
    { certificate with status := .expired, updatedAt := now }
  else { certificate with renewalNotifiedAt := now, updatedAt := now }

/-- What a scan of a batch returns. -/
def scanResult (now : Time) (batch : List Certificate) : CertificateExpirationScanResult where
  expired := (batch.filter fun certificate =>
    certificateIsExpiredCandidate certificate now).map (scanned now)
  expirationWarnings :=
    (batch.filter fun certificate =>
      ¬ certificateIsExpiredCandidate certificate now).map (scanned now)

variable {table : Table Certificate} {now warningBefore : Time} {certificate : Certificate}
  {batch : List Certificate}

/-- What needs a scan falls into one of its two cases. -/
theorem needsScan_iff : certificateNeedsExpirationScan certificate now warningBefore ↔
    certificateIsExpiredCandidate certificate now ∨
      certificateNeedsRenewalWarning certificate now warningBefore := Iff.rfl

theorem not_warning_of_expired (expired : certificateIsExpiredCandidate certificate now) :
    ¬ certificateNeedsRenewalWarning certificate now warningBefore :=
  fun warned => expired.2 warned.2.1

@[simp] theorem scanned_id : (scanned now certificate).id = certificate.id := by
  rw [scanned]
  split <;> rfl

@[simp] theorem map_scanned_id :
    (batch.map (scanned now)).map Certificate.id = batch.map Certificate.id := by
  simp

/-- A certificate that was scanned needs no scan, unless the clock stands at the zero time. -/
theorem not_needsScan_scanned (running : ¬ now.isZero)
    (needs : certificateNeedsExpirationScan certificate now warningBefore) :
    ¬ certificateNeedsExpirationScan (scanned now certificate) now warningBefore := by
  rw [scanned]
  split
  · rintro (⟨active | active, -⟩ | ⟨active, -⟩) <;> cases active
  · next unexpired =>
    rcases needs with expired | ⟨-, later, -⟩
    · exact absurd expired unexpired
    · rintro (⟨-, past⟩ | ⟨-, -, -, zero⟩)
      · exact past later
      · exact running zero

section

variable (keyed : Table.KeyedBy Certificate.id table)

include keyed

theorem mem_due_iff :
    certificate ∈ due table now warningBefore ↔ table.lookup certificate.id = some certificate ∧
      certificateNeedsExpirationScan certificate now warningBefore := by
  rw [due, mem_filter, mem_values_iff, decide_eq_true_iff]
  constructor
  · rintro ⟨⟨id, found⟩, needs⟩
    exact ⟨keyed id certificate found ▸ found, needs⟩
  · rintro ⟨found, needs⟩
    exact ⟨⟨_, found⟩, needs⟩

theorem due_nodup : ((due table now warningBefore).map Certificate.id).Nodup :=
  keyed.nodup_values.sublist (filter_sublist.map _)

/-- What is stored after a batch was scanned. -/
theorem lookup_scanned (distinct : (batch.map Certificate.id).Nodup)
    (stored : ∀ certificate ∈ batch, table.lookup certificate.id = some certificate) (id : Text) :
    (insertAll Certificate.id (batch.map (scanned now)) table).lookup id =
      (table.lookup id).map fun certificate =>
        if certificate ∈ batch then scanned now certificate else certificate := by
  by_cases there : ∃ certificate ∈ batch, certificate.id = id
  · obtain ⟨certificate, inside, rfl⟩ := there
    have entered := @lookup_insertAll_of_mem _ Certificate.id (batch.map (scanned now)) table
      (by rwa [map_scanned_id]) _ (mem_map_of_mem inside)
    rw [scanned_id] at entered
    rw [entered, stored certificate inside, Option.map_some, if_pos inside]
  · have other : ∀ certificate ∈ batch.map (scanned now), certificate.id ≠ id := by
      intro certificate inside
      obtain ⟨old, member, rfl⟩ := mem_map.mp inside
      rw [scanned_id]
      exact fun same => there ⟨old, member, same⟩
    rw [lookup_insertAll_of_notMem other]
    cases found : table.lookup id with
    | none => rfl
    | some certificate =>
      rw [Option.map_some, if_neg]
      intro inside
      exact there ⟨certificate, inside, keyed id certificate found⟩

/-- A batch that was scanned has left the queue, and nothing else has. -/
theorem due_scanned (running : ¬ now.isZero)
    (parts : (batch ++ rest).Perm (due table now warningBefore)) :
    (due (insertAll Certificate.id (batch.map (scanned now)) table)
      now warningBefore).Perm rest := by
  have distinct := ((parts.map Certificate.id).nodup_iff).mpr (due_nodup keyed)
  have member : ∀ certificate, certificate ∈ batch ∨ certificate ∈ rest ↔
      table.lookup certificate.id = some certificate ∧
        certificateNeedsExpirationScan certificate now warningBefore := by
    intro certificate
    rw [← mem_due_iff keyed, ← parts.mem_iff, mem_append]
  have apart : ∀ certificate ∈ batch, certificate ∉ rest := by
    intro certificate inside later
    rw [map_append, nodup_append] at distinct
    exact distinct.2.2 _ (mem_map_of_mem inside) _ (mem_map_of_mem later) rfl
  have batched : (batch.map Certificate.id).Nodup :=
    distinct.sublist ((sublist_append_left _ _).map _)
  have lookup := @lookup_scanned table now batch keyed batched fun certificate inside =>
    ((member certificate).mp (.inl inside)).1
  have keyed' : Table.KeyedBy Certificate.id
      (insertAll Certificate.id (batch.map (scanned now)) table) := keyed.insertAll
  rw [perm_ext_iff_of_nodup (due_nodup keyed').of_map
    (distinct.of_map.sublist (sublist_append_right _ _))]
  intro certificate
  rw [mem_due_iff keyed', lookup]
  constructor
  · rintro ⟨found, needs⟩
    obtain ⟨old, there, same⟩ := Option.map_eq_some_iff.mp found
    split at same
    · next inside =>
      subst same
      exact absurd needs (not_needsScan_scanned running ((member old).mp (.inl inside)).2)
    · next outside =>
      subst same
      exact ((member old).mpr ⟨there, needs⟩).resolve_left outside
  · intro inside
    obtain ⟨found, needs⟩ := (member certificate).mp (.inr inside)
    refine ⟨?_, needs⟩
    rw [found, Option.map_some, if_neg fun early => apart certificate early inside]

end

end Queue

section Scan

variable {s : Service} {ctx : Context} {actor : Text} {req : ScanCertificateExpirationsRequest}
  {now warningBefore : Time} {t t' : Session}

/-- The listing takes from the queue as many as the limit allows. -/
theorem listForScan_due {limit} (positive : 0 < limit)
    (run : listCertificatesForExpirationScan now warningBefore limit t = (.ok batch, t')) :
    t' = t ∧ batch.length = min limit.toInt.toNat (due t.db.certificates now warningBefore).length ∧
      ∃ rest, (batch ++ rest).Perm (due t.db.certificates now warningBefore) := by
  obtain ⟨look, rfl⟩ := query_ok_iff.mp run
  rw [if_neg (Int64.not_le.mpr positive)] at look
  cases look
  refine ⟨rfl, ?_, ((due t.db.certificates now warningBefore).insertionSort fun a b =>
    a.notAfter.before b.notAfter ∨
      (a.notAfter.equal b.notAfter ∧ a.id ≤ b.id)).drop limit.toInt.toNat, ?_⟩
  · rw [length_take, length_insertionSort]
    rfl
  · have whole := take_append_drop limit.toInt.toNat
      ((due t.db.certificates now warningBefore).insertionSort fun a b =>
        a.notAfter.before b.notAfter ∨ (a.notAfter.equal b.notAfter ∧ a.id ≤ b.id))
    exact (List.Perm.of_eq whole).trans (perm_insertionSort _ _)

/-- A change of a certificate that is stored as expected is made. -/
theorem scanChange_ok {window stored updated action changed expected}
    (found : t.db.certificates.lookup stored.id = some stored)
    (run : s.scanChange ctx actor window now updated expected action t = (.ok changed, t'))
    (current : stored.status = expected) (own : updated.id = stored.id) :
    changed = true ∧ t'.db.certificates = t.db.certificates.insert stored.id updated := by
  rw [← own] at found ⊢
  obtain ⟨outcome, mid, attempted, rest⟩ := bind_ok_iff.mp run
  have updates : updateCertificateIfStatus updated expected t =
      (.ok (), { t with
        db := certificates.put (t.db.certificates.insert updated.id updated) t.db }) :=
    updateIfStatus_ok_iff.mpr ⟨⟨stored, found, current⟩, rfl⟩
  rw [attempt_ok_iff, updates] at attempted
  cases attempted
  simp only [bind_ok_iff, pure_ok_iff] at rest
  obtain ⟨fields, _, target, ⟨⟩, _, audited, ⟨⟩, _, posted, rfl, rfl⟩ := rest
  obtain rfl := (addTarget_readOnly _ _).same target
  obtain ⟨-, -, -, same⟩ := auditEvent_told audited
  obtain ⟨-, -, -, -, same'⟩ := outboxMessage_told posted
  exact ⟨rfl, congrArg Ledger.certificates (same'.trans same)⟩

theorem scanResult_append (done : List Certificate) (certificate : Certificate) :
    scanResult now (done ++ [certificate]) =
      if certificateIsExpiredCandidate certificate now then
        { scanResult now done with
          expired := (scanResult now done).expired ++ [scanned now certificate] }
      else { scanResult now done with
        expirationWarnings :=
          (scanResult now done).expirationWarnings ++ [scanned now certificate] } := by
  split
  · next expired => simp [scanResult, expired]
  · next unexpired => simp [scanResult, unexpired]

/-- One turn of the loop settles its certificate. -/
theorem scanCertificate_ok (found : t.db.certificates.lookup certificate.id = some certificate)
    (needs : certificateNeedsExpirationScan certificate now (now.add req.warningWindow.toInt))
    (run : s.scanCertificate ctx actor req now (scanResult now done) certificate t =
    (.ok result, t')) : result = scanResult now (done ++ [certificate]) ∧
      t'.db.certificates = t.db.certificates.insert certificate.id (scanned now certificate) := by
  rw [scanResult_append, scanned]
  rcases ite_ok_iff.mp run with ⟨expired, run⟩ | ⟨unexpired, run⟩
  · obtain ⟨changed, _, change, run⟩ := bind_ok_iff.mp run
    obtain ⟨rfl, rfl⟩ := pure_ok_iff.mp run
    obtain ⟨rfl, stored⟩ := scanChange_ok found change rfl rfl
    rw [if_pos expired, if_pos expired]
    exact ⟨rfl, stored⟩
  · have warns : certificateNeedsRenewalWarning certificate now _ := needs.resolve_left unexpired
    rw [if_pos warns] at run
    obtain ⟨changed, _, change, run⟩ := bind_ok_iff.mp run
    obtain ⟨rfl, rfl⟩ := pure_ok_iff.mp run
    obtain ⟨rfl, stored⟩ := scanChange_ok found change warns.1 rfl
    rw [if_neg unexpired, if_neg unexpired]
    exact ⟨rfl, stored⟩

theorem insertAll_append (done : List Certificate) (certificate : Certificate)
    (table : Table Certificate) :
    insertAll Certificate.id ((done ++ [certificate]).map (scanned now)) table =
      (insertAll Certificate.id (done.map (scanned now)) table).insert certificate.id
        (scanned now certificate) := by
  simp [insertAll]

/-- A batch at the head of the queue, and what is behind it. -/
structure Batch (table : Table Certificate) (now : Time) (req : ScanCertificateExpirationsRequest)
    (batch rest : List Certificate) : Prop where
  parts : (batch ++ rest).Perm (due table now (now.add req.warningWindow.toInt))
  length : batch.length =
    min req.limit.toInt.toNat (due table now (now.add req.warningWindow.toInt)).length

section

variable (head : Batch table now req batch rest) (keyed : Table.KeyedBy Certificate.id table)

include head keyed

theorem Batch.stored (inside : certificate ∈ batch) :
      table.lookup certificate.id = some certificate ∧
      certificateNeedsExpirationScan certificate now (now.add req.warningWindow.toInt) :=
  (mem_due_iff keyed).mp (head.parts.subset (mem_append_left _ inside))

theorem Batch.distinct : (batch.map Certificate.id).Nodup :=
  (((head.parts.map Certificate.id).nodup_iff).mpr (due_nodup keyed)).sublist
    ((sublist_append_left _ _).map _)

/-- Before its turn a certificate is stored as it was listed. -/
theorem Batch.waiting (front : done ++ [certificate] <+: batch) :
    (insertAll Certificate.id (done.map (scanned now)) table).lookup certificate.id =
      some certificate := by
  have inside : certificate ∈ batch := front.subset (by simp)
  rw [lookup_insertAll_of_notMem, (head.stored keyed inside).1]
  intro other there
  obtain ⟨earlier, member, rfl⟩ := mem_map.mp there
  rw [scanned_id]
  have apart := (head.distinct keyed).sublist (front.sublist.map _)
  rw [map_append, nodup_append] at apart
  exact apart.2.2 _ (mem_map_of_mem member) _ (by simp)

end

/-- A scan that succeeds settles the batch at the head of the queue. -/
theorem scanTx_ok (keyed : Table.KeyedBy Certificate.id t.db.certificates)
    (positive : 0 < req.limit) (run : s.scanTx ctx actor req now t = (.ok result, t')) :
    ∃ batch rest, Batch t.db.certificates now req batch rest ∧ result = scanResult now batch ∧
      t'.db.certificates =
        insertAll Certificate.id (batch.map (scanned now)) t.db.certificates := by
  obtain ⟨batch, mid, listed, folded⟩ := bind_ok_iff.mp run
  obtain ⟨rfl, length, rest, parts⟩ := listForScan_due positive listed
  have head : Batch mid.db.certificates now req batch rest := ⟨parts, length⟩
  refine ⟨batch, rest, head, ?_⟩
  -- After each turn the certificates so far are settled and the others are as they were.
  refine fold_induct (fun done collected (after : Session) => collected = scanResult now done ∧
    after.db.certificates =
      insertAll Certificate.id (done.map (scanned now)) mid.db.certificates) folded ⟨rfl, rfl⟩ ?_
  rintro done certificate _ next before after ⟨rfl, stored⟩ front turn
  have inside : certificate ∈ batch := front.subset (by simp)
  have found := head.waiting keyed front
  rw [← stored] at found
  obtain ⟨result, settled⟩ := scanCertificate_ok found (head.stored keyed inside).2 turn
  exact ⟨result, by rw [insertAll_append, ← stored, settled]⟩

theorem addTarget_succeeds {before identityID identity}
    (known : before.db.identities.lookup identityID = some identity) {fields} (flat : fields.Flat) :
    ∃ named : Fields, named.Flat ∧
      addIdentityDeploymentTarget identityID fields before = (.ok named, before) := by
  have found : attempt (getIdentity identityID) before = (.ok (.ok identity), before) :=
    attempt_ok_iff.mpr (get_ok_iff.mpr ⟨known, rfl⟩)
  by_cases target : identity.deploymentTarget = []
  · refine ⟨fields, flat, bind_ok_iff.mpr ⟨_, _, found, ?_⟩⟩
    simp only [if_pos target]
    rfl
  · refine ⟨fields.setText "deployment_target" identity.deploymentTarget, flat.setText,
      bind_ok_iff.mpr ⟨_, _, found, ?_⟩⟩
    simp only [if_neg target]
    rfl

/-- An identity that is not there is passed over. -/
theorem addTarget_tolerates (identityID : Text) {fields} (flat : fields.Flat) :
    ∃ named : Fields, named.Flat ∧ addIdentityDeploymentTarget identityID fields t =
      (.ok named, t) := by
  cases known : t.db.identities.lookup identityID with
  | some identity => exact addTarget_succeeds known flat
  | none =>
    have missing : attempt (getIdentity identityID) t =
        (.ok (.error (ErrKind.err .identityNotFound)), t) :=
      attempt_ok_iff.mpr (get_error_iff.mpr ⟨known, rfl, rfl⟩)
    exact ⟨fields, flat, bind_ok_iff.mpr ⟨_, _, missing, rfl⟩⟩

/-- A change of a certificate that is stored as expected succeeds if the log has room. -/
theorem scanChange_succeeds {window stored updated action} {room : Nat}
    {expected} (isOpen : t.db.audit.Open (room + 1))
    (found : t.db.certificates.lookup stored.id = some stored) (current : stored.status = expected)
    (own : updated.id = stored.id) :
    ∃ after, s.scanChange ctx actor window now updated expected action t = (.ok true, after) ∧
      after.db.audit.Open room := by
  rw [← own] at found
  let written : Session :=
    { t with db := certificates.put (t.db.certificates.insert updated.id updated) t.db }
  have flat : (certificateExpirationAuditFields updated window).Flat :=
    (Fields.Flat.auditFields _).setText.set (.number _)
  obtain ⟨fields, flat, target⟩ := @addTarget_tolerates written updated.identityID _ flat
  obtain ⟨log, later, audited⟩ :=
    @createAuditEvent_succeeds s ctx actor action "certificate" updated.id now fields flat
      written room isOpen
  obtain ⟨outbox, posted⟩ := createOutboxMessage_succeeds s action now fields
    ⟨{ written.db with audit := log }, written.drawn + 1⟩
  refine ⟨⟨{ written.db with audit := log, outbox := outbox }, written.drawn + 1 + 1⟩, ?_, later⟩
  refine bind_ok_iff.mpr ⟨.ok (), written, attempt_ok_iff.mpr
    (updateIfStatus_ok_iff.mpr ⟨⟨stored, found, current⟩, rfl⟩), ?_⟩
  simp only [bind_ok_iff, pure_ok_iff]
  exact ⟨fields, _, target, (), _, audited, (), _, posted, trivial, rfl⟩

theorem scanCertificate_succeeds {certificate result}
    {room : Nat} (isOpen : t.db.audit.Open (room + 1))
    (found : t.db.certificates.lookup certificate.id = some certificate)
    (needs : certificateNeedsExpirationScan certificate now (now.add req.warningWindow.toInt)) :
    ∃ next after, s.scanCertificate ctx actor req now result certificate t = (.ok next, after) ∧
      after.db.audit.Open room := by
  by_cases expired : certificateIsExpiredCandidate certificate now
  · obtain ⟨after, change, later⟩ :=
      @scanChange_succeeds s ctx actor now t req.warningWindow certificate
      { certificate with status := .expired, updatedAt := now }
        "certificate.expired" room _ isOpen found
      rfl rfl
    rw [Service.scanCertificate, if_pos expired]
    exact ⟨_, after, bind_ok_iff.mpr ⟨true, after, change, rfl⟩, later⟩
  · have warns : certificateNeedsRenewalWarning certificate now _ := needs.resolve_left expired
    obtain ⟨after, change, later⟩ :=
      @scanChange_succeeds s ctx actor now t req.warningWindow certificate
      { certificate with renewalNotifiedAt := now, updatedAt := now }
        "certificate.expiration_warning" room _
      isOpen found warns.1 rfl
    rw [Service.scanCertificate, if_neg expired, if_pos warns]
    exact ⟨_, after, bind_ok_iff.mpr ⟨true, after, change, rfl⟩, later⟩

/-- A scan succeeds if the log has room for the batch. -/
theorem scanTx_succeeds {room : Nat} (keyed : Table.KeyedBy Certificate.id t.db.certificates)
    (positive : 0 < req.limit)
    (isOpen : t.db.audit.Open (room + min req.limit.toInt.toNat
      (due t.db.certificates now (now.add req.warningWindow.toInt)).length)) :
    ∃ result after, s.scanTx ctx actor req now t = (.ok result, after) ∧
    after.db.audit.Open room := by
  obtain ⟨batch, listed⟩ : ∃ batch, listCertificatesForExpirationScan now
      (now.add req.warningWindow.toInt) req.limit t = (.ok batch, t) := by
    rw [listCertificatesForExpirationScan, query]
    dsimp only
    rw [if_neg (Int64.not_le.mpr positive)]
    exact ⟨_, rfl⟩
  obtain ⟨-, length, rest, parts⟩ := listForScan_due positive listed
  have head : Batch t.db.certificates now req batch rest := ⟨parts, length⟩
  rw [← length] at isOpen
  have turn : ∀ (done : List Certificate) (certificate : Certificate)
      (collected : CertificateExpirationScanResult) (mid : Session),
      (mid.db.audit.Open (room + (batch.length - done.length)) ∧ collected = scanResult now done ∧
        mid.db.certificates = insertAll Certificate.id (done.map (scanned now)) t.db.certificates) →
      done ++ [certificate] <+: batch → ∃ next after,
        s.scanCertificate ctx actor req now collected certificate mid = (.ok next, after) ∧
        after.db.audit.Open (room + (batch.length - (done ++ [certificate]).length)) ∧
        next = scanResult now (done ++ [certificate]) ∧ after.db.certificates =
          insertAll Certificate.id ((done ++ [certificate]).map (scanned now))
            t.db.certificates := by
    rintro done certificate _ mid ⟨isOpen, rfl, stored⟩ front
    have inside : certificate ∈ batch := front.subset (by simp)
    have found := head.waiting keyed front
    rw [← stored] at found
    have needs := (head.stored keyed inside).2
    have fits := front.length_le
    rw [length_append, length_singleton] at fits ⊢
    rw [show room + (batch.length - done.length) =
      room + (batch.length - (done.length + 1)) + 1 by omega] at isOpen
    obtain ⟨next, after, turn, later⟩ :=
      @scanCertificate_succeeds s ctx actor req now mid certificate (scanResult now done) _
        isOpen found needs
    obtain ⟨result, settled⟩ := scanCertificate_ok found needs turn
    exact ⟨next, after, turn, later, result, by rw [insertAll_append, ← stored, settled]⟩
  obtain ⟨result, after, folded, later, -⟩ := fold_succeeds _ ⟨isOpen, rfl, rfl⟩ turn
  rw [Nat.sub_self] at later
  exact ⟨result, after, bind_ok_iff.mpr ⟨batch, t, listed, folded⟩, later⟩

end Scan

section Runs

/-- One scan after the other, with what each call returned. Nothing else happens meanwhile. -/
inductive Scans (s : Service) (ctx : Context) (actor : Text)
    (req : ScanCertificateExpirationsRequest) (state : State) :
    List (Except Err CertificateExpirationScanResult) → State → Prop
  | none : Scans s ctx actor req state [] state
  | call {outcomes mid after outcome number} (earlier : Scans s ctx actor req state outcomes mid)
      (returned : (s.scanCertificateExpirations ctx actor req).Returns (fun _ _ _ =>
        True) number mid outcome after) : Scans s ctx actor req state (outcomes ++ [outcome]) after

/-- The call has settled certificates. -/
def productive : Except Err CertificateExpirationScanResult → Bool
  | .ok result => decide (result ≠ {})
  | .error _ => false

/-- What the calls returned as expired. -/
def expiredBy (outcomes : List (Except Err CertificateExpirationScanResult)) : List Certificate :=
  (outcomes.filterMap Except.toOption).flatMap CertificateExpirationScanResult.expired

/-- What the calls returned as warned about. -/
def warnedBy (outcomes : List (Except Err CertificateExpirationScanResult)) : List Certificate :=
  (outcomes.filterMap Except.toOption).flatMap CertificateExpirationScanResult.expirationWarnings

/-- The certificates a scan with the request is for, at the time of the state. -/
def dueAt (state : State) (req : ScanCertificateExpirationsRequest) : List Certificate :=
  due state.world.db.certificates state.world.clock (state.world.clock.add req.warningWindow.toInt)

variable {s : Service} {ctx : Context} {actor : Text} {req : ScanCertificateExpirationsRequest}
  {state after : State} {passes : State → Nat → Option Event → Prop} {number : Nat}

theorem scanResult_eq_empty_iff : scanResult now batch = {} ↔ batch = [] := by
  constructor
  · intro nothing
    by_contra some
    obtain ⟨certificate, inside⟩ := exists_mem_of_ne_nil batch some
    by_cases expired : certificateIsExpiredCandidate certificate now
    · have listed : scanned now certificate ∈ (scanResult now batch).expired :=
        mem_map_of_mem (mem_filter.mpr ⟨inside, decide_eq_true expired⟩)
      rw [nothing] at listed
      cases listed
    · have listed : scanned now certificate ∈ (scanResult now batch).expirationWarnings :=
        mem_map_of_mem (mem_filter.mpr ⟨inside, decide_eq_true expired⟩)
      rw [nothing] at listed
      cases listed
  · rintro rfl
    rfl

/-- A call that succeeds has scanned at the time of the state. -/
theorem scanExpirations_ok
    (returned : (s.scanCertificateExpirations ctx actor req).Returns passes number state
    (.ok result) after) :
      0 < req.limit ∧ ∃ done, s.scanTx ctx actor req state.world.clock (session state) =
        (.ok result, done) ∧ after = stored state done.db done.drawn := by
  rcases returned.of_seq with ⟨_, ⟨⟩, -⟩ | ⟨_, _, required, reads⟩
  obtain ⟨rfl, holds⟩ := required.of_require
  rcases Op.Returns.of_seq reads with ⟨_, ⟨⟩, -⟩ | ⟨now, _, read, scans⟩
  obtain ⟨same, rfl⟩ := read.of_now
  cases same
  obtain ⟨done, committed, rfl⟩ := Op.Returns.of_withinTx scans
  have positive := (not_or.mp (holds _ rfl)).2
  exact ⟨Int64.not_le.mp positive, done, committed, after_none _ _ _⟩

/-- A call that fails leaves the store as it is. -/
theorem scanExpirations_error {err : Err}
    (returned : (s.scanCertificateExpirations ctx actor req).Returns passes number state
    (.error err) after) : ∃ drawn, after = stored state state.world.db drawn := by
  rcases returned.of_seq with ⟨_, -, required⟩ | ⟨_, _, required, reads⟩
  · obtain ⟨rfl, -⟩ := required.of_require
    exact ⟨_, rfl⟩
  obtain ⟨rfl, -⟩ := required.of_require
  rcases Op.Returns.of_seq reads with ⟨_, -, read⟩ | ⟨now, _, read, scans⟩
  · obtain ⟨-, rfl⟩ := read.of_now
    exact ⟨_, rfl⟩
  obtain ⟨-, rfl⟩ := read.of_now
  exact Op.Returns.of_withinTx_error scans

/-- A call succeeds if the log has room for its batch. -/
theorem scanExpirations_succeeds {room : Nat}
    (keyed : Table.KeyedBy Certificate.id state.world.db.certificates) (positive : 0 < req.limit)
    (window : 0 ≤ req.warningWindow)
    (isOpen : state.world.db.audit.Open
      (room + min req.limit.toInt.toNat (dueAt state req).length)) :
    ∃ result after, (s.scanCertificateExpirations ctx actor req).Returns (fun _ _ _ =>
      True) number state (.ok result) after ∧ after.world.db.audit.Open room := by
  obtain ⟨result, done, run, later⟩ :=
    @scanTx_succeeds s ctx actor req state.world.clock (session state) room keyed positive isOpen
  have lenient : Lenient fun _ _ _ => True := fun _ _ _ _ => trivial
  refine ⟨result, stored state done.db done.drawn, ?_, later⟩
  refine .seq (.require ?_) (.seq (.now lenient) (.withinTx lenient run rfl))
  rintro (negative | zero)
  · exact absurd window (Int64.not_le.mpr negative)
  · exact absurd positive (Int64.not_lt.mpr zero)

/-- What a run of scans has done: the certificates it has settled, in order. -/
structure ScanSettled (state after : State) (req : ScanCertificateExpirationsRequest)
    (outcomes : List (Except Err CertificateExpirationScanResult))
    (done : List Certificate) : Prop where
  clock : after.world.clock = state.world.clock
  keyed : Table.KeyedBy Certificate.id after.world.db.certificates
  parts : (done ++ dueAt after req).Perm (dueAt state req)
  stored : ∀ id, after.world.db.certificates.lookup id =
    (state.world.db.certificates.lookup id).map fun certificate =>
      if certificate ∈ done then scanned state.world.clock certificate else certificate
  expired : expiredBy outcomes = (scanResult state.world.clock done).expired
  warned : warnedBy outcomes = (scanResult state.world.clock done).expirationWarnings
  full : dueAt after req ≠ [] → outcomes.countP productive * req.limit.toInt.toNat = done.length
  count : outcomes.countP productive * req.limit.toInt.toNat < done.length + req.limit.toInt.toNat

theorem ScanSettled.none (keyed : Table.KeyedBy Certificate.id state.world.db.certificates)
    (positive : 0 < req.limit) : ScanSettled state state req [] [] where
  clock := rfl
  keyed := keyed
  parts := .refl _
  stored id := by simp
  expired := rfl
  warned := rfl
  full _ := by simp
  count := by simpa using positive

section Step

variable {mid : State} {outcomes : List (Except Err CertificateExpirationScanResult)}
  {done : List Certificate}

/-- A call that failed has settled nothing. -/
theorem ScanSettled.failed (settled : ScanSettled state mid req outcomes done)
    (err : Err) (drawn : Nat) :
    ScanSettled state (Lifecycle.stored mid mid.world.db drawn)
      req (outcomes ++ [.error err]) done := by
  have same : (outcomes ++ [Except.error err]).countP productive = outcomes.countP productive := by
    simp [productive]
  have results : (outcomes ++ [Except.error err]).filterMap Except.toOption =
      outcomes.filterMap Except.toOption := by
    simp [Except.toOption]
  constructor
  · exact settled.clock
  · exact settled.keyed
  · exact settled.parts
  · exact settled.stored
  · rw [expiredBy, results]
    exact settled.expired
  · rw [warnedBy, results]
    exact settled.warned
  · rw [same]
    exact settled.full
  · rw [same]
    exact settled.count

theorem countP_scan (now : Time) (batch : List Certificate) :
    (outcomes ++ [Except.ok (scanResult now batch)]).countP productive =
      outcomes.countP productive + if batch = [] then 0 else 1 := by
  rw [countP_append, countP_singleton, productive]
  by_cases nothing : batch = []
  · simp [scanResult_eq_empty_iff, nothing]
  · simp [scanResult_eq_empty_iff, nothing]

/-- A call that succeeded has settled its batch. -/
theorem ScanSettled.scan (settled : ScanSettled state mid req outcomes done)
    (running : ¬ state.world.clock.isZero)
    (initially : Table.KeyedBy Certificate.id state.world.db.certificates) {after}
    (head : Batch mid.world.db.certificates state.world.clock req batch rest)
    (clock : after.world.clock = mid.world.clock) (table : after.world.db.certificates =
      insertAll Certificate.id
    (batch.map (scanned state.world.clock)) mid.world.db.certificates) :
    ScanSettled state after req (outcomes ++ [.ok (scanResult state.world.clock batch)])
    (done ++ batch) := by
  have here : dueAt mid req = due mid.world.db.certificates state.world.clock
      (state.world.clock.add req.warningWindow.toInt) := by rw [dueAt, settled.clock]
  have behind : (dueAt after req).Perm rest := by
    rw [dueAt, clock, settled.clock, table]
    exact due_scanned settled.keyed running head.parts
  have all := settled.parts.length_eq
  have length := head.length
  have parts := head.parts.length_eq
  rw [← here, length_append] at parts
  rw [← here] at length
  have counted := @countP_scan outcomes state.world.clock batch
  have waiting : 0 < batch.length + rest.length → dueAt mid req ≠ [] := by
    intro positive empty
    rw [empty, length_nil] at parts
    omega
  constructor
  · exact clock.trans settled.clock
  · rw [table]
    exact settled.keyed.insertAll
  · rw [append_assoc]
    have queue : (batch ++ rest).Perm (dueAt mid req) := here ▸ head.parts
    exact (((behind.append_left batch).trans queue).append_left done).trans settled.parts
  · intro id
    rw [table, lookup_scanned settled.keyed (head.distinct settled.keyed) fun _ inside =>
      (head.stored settled.keyed inside).1, settled.stored, Option.map_map]
    refine Option.map_congr fun certificate found => ?_
    by_cases settledBefore : certificate ∈ done
    · have needs := ((mem_due_iff initially).mp
        (settled.parts.subset (mem_append_left _ settledBefore))).2
      have gone : scanned state.world.clock certificate ∉ batch := fun inside =>
        not_needsScan_scanned running needs (head.stored settled.keyed inside).2
      simp [settledBefore, gone]
    · simp [settledBefore]
  · have before := settled.expired
    rw [expiredBy] at before ⊢
    simp [before, scanResult, Except.toOption]
  · have before := settled.warned
    rw [warnedBy] at before ⊢
    simp [before, scanResult, Except.toOption]
  · intro left
    rw [counted, length_append, Nat.add_mul]
    have filled : rest ≠ [] := fun empty => left (perm_nil.mp (empty ▸ behind))
    have positive := length_pos_of_ne_nil filled
    have before := settled.count
    rw [settled.full (waiting (by omega))] at before ⊢
    split
    · next empty =>
      rw [empty, length_nil] at length parts
      omega
    · omega
  · rw [counted, length_append, Nat.add_mul]
    have before := settled.count
    split
    · omega
    · next filled =>
      have positive := length_pos_of_ne_nil filled
      rw [settled.full (waiting (by omega))]
      omega

end Step

section

variable (keyed : Table.KeyedBy Certificate.id state.world.db.certificates)

include keyed

/-- What a run of scans does. -/
theorem Scans.settled (positive : 0 < req.limit) (running : ¬ state.world.clock.isZero)
    (run : Scans s ctx actor req state outcomes after) :
    ∃ done, ScanSettled state after req outcomes done := by
  induction run with
  | none => exact ⟨[], .none keyed positive⟩
  | @call outcomes mid after outcome number earlier returned ih =>
    obtain ⟨done, settled⟩ := ih
    cases outcome with
    | error err =>
      obtain ⟨drawn, rfl⟩ := scanExpirations_error returned
      exact ⟨done, settled.failed err drawn⟩
    | ok result =>
      obtain ⟨-, session, committed, rfl⟩ := scanExpirations_ok returned
      obtain ⟨batch, rest, head, rfl, table⟩ := scanTx_ok settled.keyed positive committed
      rw [settled.clock] at head table ⊢
      exact ⟨done ++ batch, settled.scan running keyed head rfl table⟩

/-- A call that succeeds takes the batch from the head of the queue. -/
theorem scanExpirations_takes (running : ¬ state.world.clock.isZero)
    (returned : (s.scanCertificateExpirations ctx actor req).Returns passes number state
    (.ok result) after) : ∃ batch, result = scanResult state.world.clock batch ∧
      batch.length = min req.limit.toInt.toNat (dueAt state req).length ∧
      (dueAt after req).length + batch.length = (dueAt state req).length := by
  obtain ⟨positive, done, committed, rfl⟩ := scanExpirations_ok returned
  obtain ⟨batch, rest, head, rfl, table⟩ := scanTx_ok keyed positive committed
  refine ⟨batch, rfl, head.length, ?_⟩
  have behind : (dueAt (stored state done.db done.drawn) req).Perm rest := by
    change (due done.db.certificates _ _).Perm rest
    rw [table]
    exact due_scanned keyed running head.parts
  have whole : (batch ++ rest).length = (dueAt state req).length := head.parts.length_eq
  rw [length_append, ← behind.length_eq] at whole
  omega

/-- After a call that returned nothing the queue is empty. -/
theorem Scans.finished (positive : 0 < req.limit) (running : ¬ state.world.clock.isZero) {outcomes}
    (run : Scans s ctx actor req state outcomes after) (last : outcomes.getLast? = some (.ok {})) :
    dueAt after req = [] := by
  cases run with
  | none => cases last
  | @call outcomes mid _ outcome number earlier returned =>
    rw [getLast?_append, getLast?_singleton, Option.some_or] at last
    cases last
    obtain ⟨done, settled⟩ := earlier.settled keyed positive running
    obtain ⟨batch, nothing, length, left⟩ := scanExpirations_takes settled.keyed
      (settled.clock ▸ running) returned
    rw [scanResult_eq_empty_iff.mp nothing.symm, length_nil] at length left
    have room : 0 < req.limit.toInt.toNat := by simpa using positive
    exact length_eq_zero_iff.mp (by omega)

/-- Whatever has been done, the calls to come empty the queue if the log has room. -/
theorem Scans.finishes (positive : 0 < req.limit) (running : ¬ state.world.clock.isZero)
    (window : 0 ≤ req.warningWindow) (run : Scans s ctx actor req state outcomes after)
    (isOpen : after.world.db.audit.Open (dueAt after req).length) :
    ∃ more last, Scans s ctx actor req state (outcomes ++ more) last ∧
    more.getLast? = some (.ok {}) := by
  have room : 0 < req.limit.toInt.toNat := by simpa using positive
  induction waiting :
    (dueAt after req).length using Nat.strong_induction_on generalizing outcomes after with
  | _ length ih =>
    subst waiting
    obtain ⟨done, settled⟩ := run.settled keyed positive running
    have fits : (dueAt after req).length = (dueAt after req).length -
        min req.limit.toInt.toNat (dueAt after req).length +
        min req.limit.toInt.toNat (dueAt after req).length := by omega
    rw [fits] at isOpen
    obtain ⟨result, next, returned, later⟩ := @scanExpirations_succeeds s ctx actor req after 0 _
      settled.keyed positive window isOpen
    obtain ⟨batch, rfl, size, left⟩ := scanExpirations_takes settled.keyed
      (settled.clock ▸ running) returned
    have further := Scans.call run returned
    rw [show (dueAt after req).length - min req.limit.toInt.toNat (dueAt after req).length =
      (dueAt next req).length by omega] at later
    by_cases nothing : batch = []
    · rw [scanResult_eq_empty_iff.mpr nothing] at further
      exact ⟨_, next, further, rfl⟩
    · have taken := length_pos_of_ne_nil nothing
      obtain ⟨more, last, finished, ended⟩ := ih _ (by omega) further later rfl
      rw [append_assoc] at finished
      refine ⟨_, last, finished, ?_⟩
      rw [getLast?_append, ended, Option.some_or]

end

end Runs

section Results

variable {s : Service} {ctx : Context} {actor : Text} {req : ScanCertificateExpirationsRequest}
  {state after : State}

/-- While the clock does not stand at the zero time, what needs a scan is of one of the two kinds
and needs none afterwards; the productive calls are no more than the batches; and calls that are
repeated until one returns nothing settle what needed it, each certificate once. They come to that
whenever the log has room. -/
theorem scans_settle (keyed : Table.KeyedBy Certificate.id state.world.db.certificates)
    (positive : 0 < req.limit) (running : ¬ state.world.clock.isZero)
    {outcomes : List (Except Err CertificateExpirationScanResult)}
    (run : Scans s ctx actor req state outcomes after) :
    (∀ certificate ∈ dueAt state req, (certificateIsExpiredCandidate certificate state.world.clock ↔
          ¬ certificateNeedsRenewalWarning certificate state.world.clock
            (state.world.clock.add req.warningWindow.toInt)) ∧
        ¬ certificateNeedsExpirationScan (scanned state.world.clock certificate) state.world.clock
            (state.world.clock.add req.warningWindow.toInt)) ∧
      outcomes.countP productive ≤
        ((dueAt state req).length + req.limit.toInt.toNat - 1) / req.limit.toInt.toNat ∧
      (outcomes.getLast? = some (.ok {}) →
        (expiredBy outcomes).Perm ((state.world.db.certificates.values.filter fun certificate =>
          certificateIsExpiredCandidate certificate state.world.clock).map (scanned
            state.world.clock)) ∧
        (warnedBy outcomes).Perm ((state.world.db.certificates.values.filter fun certificate =>
          certificateNeedsRenewalWarning certificate state.world.clock
            (state.world.clock.add req.warningWindow.toInt)).map (scanned state.world.clock)) ∧
        ∀ id, after.world.db.certificates.lookup id =
          (state.world.db.certificates.lookup id).map fun certificate =>
            if certificateNeedsExpirationScan certificate state.world.clock
              (state.world.clock.add req.warningWindow.toInt)
            then scanned state.world.clock certificate else certificate) ∧
      (0 ≤ req.warningWindow → after.world.db.audit.Open (dueAt after req).length →
        ∃ more last, Scans s ctx actor req state (outcomes ++ more) last ∧
          more.getLast? = some (.ok {})) := by
  obtain ⟨done, settled⟩ := run.settled keyed positive running
  have room : 0 < req.limit.toInt.toNat := by simpa using positive
  refine ⟨?_, ?_, ?_, fun window isOpen => run.finishes keyed positive running window isOpen⟩
  · intro certificate waiting
    have needs := ((mem_due_iff keyed).mp waiting).2
    refine ⟨⟨not_warning_of_expired, ?_⟩, not_needsScan_scanned running needs⟩
    intro unwarned
    exact needs.resolve_right unwarned
  · rw [Nat.le_div_iff_mul_le room]
    have count := settled.count
    have whole := settled.parts.length_eq
    rw [length_append] at whole
    omega
  · intro last
    have all := settled.parts
    rw [run.finished keyed positive running last, append_nil] at all
    refine ⟨?_, ?_, ?_⟩
    -- both reports are what one filter leaves of the due certificates
    iterate 2
      simp only [settled.expired, settled.warned, scanResult]
      refine ((all.filter _).map _).trans (.of_eq ?_)
      rw [dueAt, due, filter_filter]
      congr 1
      refine filter_congr fun certificate _ => ?_
      by_cases expired : certificateIsExpiredCandidate certificate state.world.clock
      · simp [needsScan_iff, expired, not_warning_of_expired]
      · simp [needsScan_iff, expired]
    · intro id
      rw [settled.stored]
      refine Option.map_congr fun certificate found => if_congr ?_ rfl rfl
      rw [all.mem_iff, dueAt, mem_due_iff keyed, keyed id certificate found]
      exact ⟨And.right, fun needs => ⟨found, needs⟩⟩

end Results

/-- A certificate that expires a day after the given time. -/
def tomorrowCertificate (now : Time) (status : CertificateStatus) : Certificate :=
  { webCertificate with
    id := "certificate", notAfter := now.add (24 * 3600000000000), status, updatedAt := now }

/-- A store with this certificate alone. -/
def tomorrowState (now : Time) (status : CertificateStatus) : State where
  world := { newWorld with
    db := { Db.empty with
      certificates := (∅ : Table Certificate).insert "certificate"
        (tomorrowCertificate now status) }
    clock := now }
  history := []

/-- A window of fourteen days, one certificate at a time. -/
def scanRequest : ScanCertificateExpirationsRequest := ⟨14 * 24 * 3600000000000, 1⟩

theorem tomorrowState_keyed (now : Time) (status : CertificateStatus) :
    Table.KeyedBy Certificate.id (tomorrowState now status).world.db.certificates :=
  Table.KeyedBy.empty.insert (tomorrowCertificate now status)

/-- While the clock stands at the zero time, a warning leaves the certificate as it was. -/
theorem zero_scan {state} {room : Nat} (clock : state.world.clock = Time.zero)
    (table : state.world.db.certificates = (tomorrowState Time.zero .valid).world.db.certificates)
    (isOpen : state.world.db.audit.Open (room + 1)) :
    ∃ result after, (smallService.scanCertificateExpirations {} "admin" scanRequest).Returns
      (fun _ _ _ => True) 0 state (.ok result) after ∧ result ≠ {} ∧ after.world.clock = Time.zero ∧
      after.world.db.certificates = (tomorrowState Time.zero .valid).world.db.certificates ∧
      after.world.db.audit.Open room := by
  have keyed : Table.KeyedBy Certificate.id state.world.db.certificates :=
    table ▸ tomorrowState_keyed Time.zero .valid
  have waiting : dueAt state scanRequest = [tomorrowCertificate Time.zero .valid] := by
    rw [dueAt, clock, table]
    decide +kernel
  obtain ⟨result, after, returned, later⟩ := @scanExpirations_succeeds smallService {} "admin"
    scanRequest state 0 room keyed (by decide) (by decide) (by rw [waiting]; exact isOpen)
  refine ⟨result, after, returned, ?_⟩
  obtain ⟨positive, done, committed, rfl⟩ := scanExpirations_ok returned
  obtain ⟨batch, rest, head, rfl, stored⟩ := scanTx_ok keyed positive committed
  have whole : (batch ++ rest).Perm [tomorrowCertificate Time.zero .valid] := waiting ▸ head.parts
  have size : batch.length = min 1 (dueAt state scanRequest).length := head.length
  rw [waiting] at size
  obtain ⟨certificate, rfl⟩ := length_eq_one_iff.mp size
  obtain ⟨rfl, rfl⟩ := cons.inj (perm_singleton.mp whole)
  refine ⟨fun nothing => ?_, clock, ?_, later⟩
  · cases scanResult_eq_empty_iff.mp nothing
  · change done.db.certificates = _
    rw [stored, clock]
    change insertAll _ _ state.world.db.certificates = _
    have same : scanned Time.zero (tomorrowCertificate Time.zero .valid) =
        tomorrowCertificate Time.zero .valid := by
      decide +kernel
    rw [table, map_singleton, same]
    exact AList.insert_insert (∅ : Table Certificate)

/-- A certificate whose end has come. -/
def endedCertificate : Certificate :=
  { tomorrowCertificate newYear .valid with id := "ended", notAfter := newYear }

/-- A store with one of each. -/
def mixedState : State where
  world := { newWorld with
    db := { Db.empty with certificates :=
      (tomorrowState newYear .valid).world.db.certificates.insert "ended" endedCertificate } }
  history := []

theorem mixedState_keyed : Table.KeyedBy Certificate.id mixedState.world.db.certificates :=
  (tomorrowState_keyed newYear .valid).insert endedCertificate

/-- One is warned about, the other expires, and then nothing is left. -/
theorem tomorrow_settled : ∃ outcomes after,
    Scans smallService {} "admin" scanRequest mixedState outcomes after ∧
    outcomes.getLast? = some (.ok {}) ∧
    ∀ certificate ∈ [tomorrowCertificate newYear .valid, endedCertificate],
      after.world.db.certificates.lookup certificate.id = some (scanned newYear certificate) := by
  have positive : 0 < scanRequest.limit := by decide
  have running : ¬ newYear.isZero := by decide +kernel
  have isOpen : mixedState.world.db.audit.Open (dueAt mixedState scanRequest).length :=
    AuditLog.open_empty (by decide +kernel)
  obtain ⟨outcomes, after, run, last⟩ := (scans_settle mixedState_keyed positive running
    (.none : Scans smallService {} "admin" scanRequest _ _ _)).2.2.2 (by decide) isOpen
  rw [nil_append] at run
  refine ⟨outcomes, after, run, last, ?_⟩
  simp only [((scans_settle mixedState_keyed positive running run).2.2.1 last).2.2]
  decide +kernel

/-- At the zero time one certificate is warned about as often as it is scanned. -/
theorem zeroClock_warns_again : ∃ outcomes after, Scans smallService {} "admin" scanRequest
    (tomorrowState Time.zero .valid) outcomes after ∧
    (dueAt (tomorrowState Time.zero .valid) scanRequest).length = 1 ∧
    outcomes.countP productive = 2 := by
  obtain ⟨first, mid, warned, scanned, clock, table, isOpen⟩ :=
    @zero_scan (tomorrowState Time.zero .valid) 1 rfl rfl (AuditLog.open_empty (by decide))
  obtain ⟨second, after, again, scanned', -⟩ := zero_scan clock table isOpen
  refine ⟨_, after, .call (.call .none warned) again, by decide +kernel, ?_⟩
  simp [productive, scanned, scanned']

section Reports

variable {s : Service} {ctx : Context} {actor : Text} {req : ScanCertificateExpirationsRequest}
  {state after : State} {passes : State → Nat → Option Event → Prop} {number : Nat}

/-- A certificate that stays unhandled when it is scanned: it is suspended, or the clock stands at
the zero time. -/
def LeftOut (certificate : Certificate) (now : Time) : Prop :=
  expiryUnhandled certificate now (now.add expirySLOWindow) ∧
    (certificate.status = .suspended ∨ now.isZero)

theorem expiryUnhandled_scanned_iff {warningBefore}
    (window : now.nanos + expirySLOWindow ≤ warningBefore.nanos) :
    expiryUnhandled (if certificateNeedsExpirationScan certificate now warningBefore
      then scanned now certificate else certificate) now (now.add expirySLOWindow) ↔
      LeftOut certificate now := by
  split
  · next needs =>
    rw [scanned]
    split
    · next expired =>
      constructor
      · rintro ⟨active | active, -⟩ <;> cases active
      · rintro ⟨⟨-, later, -⟩, -⟩
        exact absurd later expired.2
    · next unexpired =>
      obtain ⟨valid, later, -, unnotified⟩ := needs.resolve_left unexpired
      constructor
      · rintro ⟨active, -, soon, zero⟩
        exact ⟨⟨active, later, soon, unnotified⟩, .inr zero⟩
      · rintro ⟨⟨active, -, soon, -⟩, suspended | zero⟩
        · rw [valid] at suspended
          cases suspended
        · exact ⟨active, later, soon, zero⟩
  · next unneeded =>
    constructor
    · rintro ⟨active | active, later, soon, unnotified⟩
      · refine absurd (.inr ⟨active, later, ?_, unnotified⟩) unneeded
        exact not_lt.mpr ((not_lt.mp soon).trans window)
      · exact ⟨⟨.inr active, later, soon, unnotified⟩, .inl active⟩
    · exact And.left

/-- A scan whose limit takes in the whole queue settles all of it. -/
theorem scanExpirations_whole
    (keyed : Table.KeyedBy Certificate.id state.world.db.certificates)
    (limit : (dueAt state req).length ≤ req.limit.toInt.toNat)
    (returned : (s.scanCertificateExpirations ctx actor req).Returns passes number state
    (.ok result) after) : after.world.clock = state.world.clock ∧
      ∀ id, after.world.db.certificates.lookup id =
        (state.world.db.certificates.lookup id).map fun certificate =>
        if certificateNeedsExpirationScan certificate state.world.clock
          (state.world.clock.add req.warningWindow.toInt)
        then scanned state.world.clock certificate else certificate := by
  obtain ⟨positive, done, committed, rfl⟩ := scanExpirations_ok returned
  obtain ⟨batch, rest, head, rfl, table⟩ := scanTx_ok keyed positive committed
  refine ⟨rfl, fun id => ?_⟩
  have size : batch.length = (dueAt state req).length := head.length.trans (min_eq_right limit)
  have whole : (batch ++ rest).Perm (dueAt state req) := head.parts
  have empty : rest = [] := by
    have length := whole.length_eq
    rw [length_append] at length
    exact length_eq_zero_iff.mp (by omega)
  rw [empty, append_nil] at whole
  change done.db.certificates.lookup id = _
  rw [show done.db.certificates = insertAll _ _ state.world.db.certificates from table,
    lookup_scanned keyed (head.distinct keyed) fun _ inside => (head.stored keyed inside).1]
  refine Option.map_congr fun certificate found => if_congr ?_ rfl rfl
  rw [whole.mem_iff, dueAt, mem_due_iff keyed, keyed id certificate found]
  exact ⟨And.right, fun needs => ⟨found, needs⟩⟩

theorem expirySLO_ok {slo later}
    (returned : Service.expirySLO.Returns passes number state (.ok slo) later) :
    slo = expiryReport state.world.db.certificates.values state.world.clock := by
  rcases returned.of_seq with ⟨_, ⟨⟩, -⟩ | ⟨certificates, _, listed, reads⟩
  obtain ⟨done, looked, rfl⟩ := Op.Returns.of_withinTx listed
  obtain ⟨found, rfl⟩ := query_ok_iff.mp looked
  cases found
  rcases Op.Returns.of_seq reads with ⟨_, ⟨⟩, -⟩ | ⟨now, _, read, returns⟩
  obtain ⟨same, rfl⟩ := read.of_now
  cases same
  obtain ⟨same, -⟩ := Prog.Goes.ret_iff.mp returns
  exact Except.ok.inj (Prog.ret.inj same)

theorem expiryReport_ok_iff {certificates} :
    ((expiryReport certificates now).ok = true ∧
      (expiryReport certificates now).unhandledCount = 0 ∧
      (expiryReport certificates now).unhandledIDs = []) ↔
      ∀ certificate ∈ certificates,
      ¬ expiryUnhandled certificate now (now.add expirySLOWindow) := by
  simp [expiryReport, filter_eq_nil_iff]

/-- After a scan that takes in the whole queue and fourteen days, the report is good exactly if no
certificate was left out. -/
theorem expirySLO_after_scan_iff (keyed : Table.KeyedBy Certificate.id state.world.db.certificates)
    (window : expirySLOWindow ≤ req.warningWindow.toInt)
    (limit : (dueAt state req).length ≤ req.limit.toInt.toNat)
    {result : CertificateExpirationScanResult}
    (scan : (s.scanCertificateExpirations ctx actor req).Returns passes number state
    (.ok result) after) :
    (∃ slo, Service.expirySLO.Returns (fun _ _ _ => True) number after (.ok slo) after) ∧
      ∀ slo later, Service.expirySLO.Returns (fun _ _ _ => True) number after (.ok slo) later →
        ((slo.ok = true ∧ slo.unhandledCount = 0 ∧ slo.unhandledIDs = []) ↔
          ∀ id certificate, state.world.db.certificates.lookup id = some certificate →
            ¬ LeftOut certificate state.world.clock) := by
  have lenient : Lenient fun _ _ _ => True := fun _ _ _ _ => trivial
  obtain ⟨clock, stored⟩ := scanExpirations_whole keyed limit scan
  refine ⟨⟨_, .seq (.repo lenient rfl) (.seq (.now lenient) .pure)⟩, ?_⟩
  intro slo later reported
  rw [expirySLO_ok reported, expiryReport_ok_iff, clock]
  have reaches : state.world.clock.nanos + expirySLOWindow ≤
      (state.world.clock.add req.warningWindow.toInt).nanos := Int.add_le_add_left window _
  constructor
  · intro handled id certificate found left
    refine handled _ (mem_values_iff.mpr ⟨id, ?_⟩) ((expiryUnhandled_scanned_iff reaches).mpr left)
    rw [stored, found, Option.map_some]
  · intro clear certificate there unhandled
    obtain ⟨id, found⟩ := mem_values_iff.mp there
    rw [stored] at found
    obtain ⟨old, stood, rfl⟩ := Option.map_eq_some_iff.mp found
    exact clear id old stood ((expiryUnhandled_scanned_iff reaches).mp unhandled)

/-- The report after a scan of both certificates. -/
theorem tomorrow_handled : ∃ result after slo, (smallService.scanCertificateExpirations {} "admin"
    { scanRequest with limit := 2 }).Returns (fun _ _ _ => True) 0 mixedState (.ok result) after ∧
    Service.expirySLO.Returns (fun _ _ _ => True) 0 after (.ok slo) after ∧ slo.ok = true := by
  obtain ⟨result, after, scan, -⟩ := @scanExpirations_succeeds smallService {} "admin"
    { scanRequest with limit := 2 } mixedState 0 0 mixedState_keyed (by decide) (by decide)
    (AuditLog.open_empty (by decide +kernel))
  obtain ⟨⟨slo, reported⟩, good⟩ := expirySLO_after_scan_iff mixedState_keyed (by decide)
    (by decide +kernel) scan
  refine ⟨result, after, slo, scan, reported, ((good slo after reported).mpr ?_).1⟩
  intro id certificate found left
  rcases of_lookup_insert found with rfl | found
  · exact absurd left.2 (by decide +kernel)
  rcases of_lookup_insert found with rfl | found
  · exact absurd left.2 (by decide +kernel)
  · cases found

/-- A suspended certificate that expires within the day is not warned about, and the report is not
good. -/
theorem tomorrow_suspended : ∃ result after slo, (smallService.scanCertificateExpirations {} "admin"
    scanRequest).Returns (fun _ _ _ => True) 0 (tomorrowState newYear .suspended)
    (.ok result) after ∧ Service.expirySLO.Returns (fun _ _ _ => True) 0 after (.ok slo) after ∧
    slo.ok = false ∧ slo.unhandledIDs = ["certificate".toList] := by
  have lenient : Lenient fun _ _ _ => True := fun _ _ _ _ => trivial
  have keyed := tomorrowState_keyed newYear .suspended
  obtain ⟨result, after, scan, -⟩ := @scanExpirations_succeeds smallService {} "admin" scanRequest
    (tomorrowState newYear .suspended) 0 0 keyed (by decide) (by decide)
    (AuditLog.open_empty (by decide +kernel))
  obtain ⟨positive, done, committed, rfl⟩ := scanExpirations_ok scan
  obtain ⟨batch, rest, head, rfl, table⟩ := scanTx_ok keyed positive committed
  have empty : batch = [] := length_eq_zero_iff.mp (head.length.trans (by decide +kernel))
  have same : done.db.certificates = (tomorrowState newYear .suspended).world.db.certificates := by
    rw [table, empty]
    rfl
  refine ⟨_, _, expiryReport done.db.certificates.values newYear, scan,
    .seq (.repo lenient rfl) (.seq (.now lenient) .pure), ?_⟩
  rw [same]
  decide +kernel

end Reports

end AnoPki.Lifecycle
