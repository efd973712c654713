import AnoPki.Lifecycle.Transactions

/-! # What the transactions of the configuration do

Those of identities, issuers, profiles and accounts, and those of a publication of revoked
certificates. -/
namespace AnoPki.Lifecycle

open Foundation Domain Store Tx Shelf Ledger

variable {account : ACMEAccount} {accountID : Text} {claim : CRLGenerationClaim} {issuer : Issuer}
  {profile : CertificateProfile} {a b : Session} {action : Text}

variable {s : Service} {call : Nat} {before : State} {after : Session} {ctx : Context}
  {actor : Text} {now : Time}

theorem createIdentityTx_performs {req identity}
    (run : s.createIdentityTx ctx actor req now (session before) = (.ok identity, after)) :
    Performs s call before none after := by
  simp only [Service.createIdentityTx, bind_ok_iff, newID_ok_iff, Store.createIdentity,
    write_ok_iff, pure_ok_iff] at run
  obtain ⟨_, _, ⟨rfl, rfl⟩, ⟨⟩, _, rfl, ⟨⟩, _, audited, rfl, rfl⟩ := run
  refine audited_performs (by decide) audited (.silent rfl rfl rfl (Nat.le_succ _))
    fun _ later => .configured ?_
  exact @ConfigChange.identity _ _ _ _ (newIdentity (s.idgen before.world.drawn) req now) _
    ⟨le_refl _, later⟩ rfl

theorem checkParentIssuer_readOnly (parentIssuerID : Text) :
    (checkParentIssuer parentIssuerID).ReadOnly :=
  .ite (.pure _) (.bind (.query _) fun _ => .pure _)

theorem createIssuerTx_performs {req} (accepted : s.AcceptsKeyRef req.keyRef)
    (run : s.createIssuerTx ctx actor req now (session before) = (.ok issuer, after)) :
    Performs s call before none after := by
  simp only [Service.createIssuerTx, bind_ok_iff, newID_ok_iff, Store.createIssuer,
    write_ok_iff, pure_ok_iff] at run
  obtain ⟨_, _, ⟨rfl, rfl⟩, ⟨⟩, _, checked, ⟨⟩, _, rfl, ⟨⟩, _, audited, rfl, rfl⟩ := run
  cases (checkParentIssuer_readOnly _).same checked
  refine audited_performs (by decide) audited (.silent rfl rfl rfl (Nat.le_succ _))
    fun _ later => .configured ?_
  exact @ConfigChange.issuer _ _ _ _ (newIssuer (s.idgen before.world.drawn) req now) _
    ⟨le_refl _, later⟩ rfl accepted

theorem createProfileTx_performs {req} (positive : req.validityPeriodSeconds > 0)
    (run : s.createCertificateProfileTx ctx actor req now (session before) = (.ok profile, after)) :
    Performs s call before none after := by
  simp only [Service.createCertificateProfileTx, bind_ok_iff, newID_ok_iff, getIssuer,
    get_ok_iff, Store.createCertificateProfile, write_ok_iff, pure_ok_iff] at run
  obtain ⟨_, _, ⟨rfl, rfl⟩, _, _, ⟨-, rfl⟩, ⟨⟩, _, rfl, ⟨⟩, _, audited, rfl, rfl⟩ := run
  refine audited_performs (by decide) audited (.silent rfl rfl rfl (Nat.le_succ _))
    fun _ later => .configured ?_
  exact @ConfigChange.profile _ _ _ _
    (newCertificateProfile s.lowerRune (s.idgen before.world.drawn) req now) _
    ⟨le_refl _, later⟩ rfl positive

theorem issuerTransition_readOnly (currentIssuer nextIssuer : Issuer) :
    (validateIntermediateIssuerTransition currentIssuer nextIssuer).ReadOnly :=
  .bind (.query _) fun _ => .bind (.query _) fun _ => .bind (.query _) fun _ => .pure _

theorem issuerTransitionAction_notMem (transition : CertificateProfileIssuerTransition) :
    issuerTransitionAction transition ∉ statusActions := by
  rw [issuerTransitionAction]
  split <;> decide

theorem transitionIssuerTx_performs (keyed : Keyed (ledger before)) {req}
    (started : (call, Event.started (.transitionCertificateProfileIssuer ctx actor req)) ∈
      before.history) (run : s.transitionCertificateProfileIssuerTx ctx actor req now
    (session before) = (.ok profile, after)) : Performs s call before none after := by
  simp only [Service.transitionCertificateProfileIssuerTx, bind_ok_iff, getCertificateProfile,
    getIssuer, get_ok_iff, require_ok_iff, pure_ok_iff] at run
  obtain ⟨stored, _, ⟨found, rfl⟩, ⟨⟩, _, ⟨-, rfl⟩, current, _, ⟨-, rfl⟩, next, _,
    ⟨-, rfl⟩, parentID, _, checked, ⟨⟩, _, updated, ⟨⟩, _, audited, ⟨⟩, _, posted, rfl, rfl⟩ := run
  cases (issuerTransition_readOnly _ _).same checked
  cases updateProfileIssuer_ok updated
  obtain ⟨event, recorded, told, same⟩ := auditEvent_told audited
  obtain ⟨message, type, -, told', same'⟩ := outboxMessage_told posted
  rw [← keyed.profiles _ stored found] at found
  have other := issuerTransitionAction_notMem req.transition
  rw [Performs, same', same]
  have quiet : Report.Quiet call before { events := [event] } := recorded.quiet other
  refine ⟨_, (told.trans told').before rfl rfl rfl le_rfl, .configured ?_ ⟨quiet.events, ?_, ?_⟩⟩
  · exact @ConfigChange.profileIssuer _ _ _ _ stored
      { stored with issuerID := next.id, updatedAt := now } found rfl
  · intro posted inside
    cases List.mem_singleton.mp inside
    rwa [type]
  · intro posted inside
    exact .inr ⟨ctx, actor, req, started⟩

theorem createACMEAccountTx_performs {req}
    (run : s.createACMEAccountTx ctx actor req now (session before) = (.ok account, after)) :
    Performs s call before none after := by
  simp only [Service.createACMEAccountTx, bind_ok_iff, newID_ok_iff, createACMEAccount_ok_iff,
    pure_ok_iff] at run
  obtain ⟨_, _, ⟨rfl, rfl⟩, ⟨⟩, _, ⟨-, rfl⟩, ⟨⟩, _, audited, rfl, rfl⟩ := run
  refine audited_performs (by decide) audited (.silent rfl rfl rfl (Nat.le_succ _))
    fun _ later => .configured ?_
  exact @ConfigChange.account _ _ _ _ (newACMEAccount (s.idgen before.world.drawn) req now) _
    ⟨le_refl _, later⟩ rfl rfl

theorem changeableAccount_ok_iff : changeableAccount accountID a = (.ok account, b) ↔
      a.db.acmeAccounts.lookup accountID = some account ∧ account.status = .valid ∧ a = b := by
  simp only [changeableAccount, bind_ok_iff, getACMEAccount, get_ok_iff,
    require_ok_iff, pure_ok_iff]
  constructor
  · rintro ⟨account, _, ⟨found, rfl⟩, ⟨⟩, _, ⟨-, rfl⟩, ⟨⟩, _, ⟨valid, rfl⟩, rfl, rfl⟩
    exact ⟨found, valid, rfl⟩
  · rintro ⟨found, valid, rfl⟩
    exact ⟨account, a, ⟨found, rfl⟩, (), a, ⟨by simp [valid], rfl⟩, (), a, ⟨valid, rfl⟩, rfl, rfl⟩

/-- A change of an account that can be changed. -/
theorem accountUpdate_performs (keyed : Keyed (ledger before)) (update : ACMEAccount → ACMEAccount)
    (named : ∀ account, (update account).id = account.id)
    (other : action ∉ statusActions) (run : (do
      let account ← changeableAccount accountID
      updateACMEAccountIfStatus (update account) .valid
      s.auditACMEAccount ctx actor action (update account) now
      pure (update account) : Repo _) (session before) = (.ok account, after)) :
    Performs s call before none after := by
  simp only [bind_ok_iff, changeableAccount_ok_iff, updateAccount_ok_iff,
    pure_ok_iff] at run
  obtain ⟨stored, _, ⟨found, valid, rfl⟩, ⟨⟩, _, ⟨-, -, rfl⟩, ⟨⟩, _, audited, rfl, rfl⟩ := run
  obtain rfl : stored.id = accountID := keyed.accounts _ stored found
  refine audited_performs other audited (.silent rfl rfl rfl le_rfl) fun _ _ => .configured ?_
  exact @ConfigChange.accountUpdated _ _ _ _ stored (update stored) (by rw [named]; exact found)
    valid (named stored)

theorem updateACMEAccountTx_performs (keyed : Keyed (ledger before)) {req}
    (run : s.updateACMEAccountTx ctx actor accountID req now (session before) =
      (.ok account, after)) : Performs s call before none after := by
  refine accountUpdate_performs keyed (fun account => updatedAccount account req now)
    (fun _ => rfl) ?_ run
  split <;> decide

theorem updateKeyTx_performs (keyed : Keyed (ledger before)) {req}
    (run : s.updateACMEAccountKeyTx ctx actor accountID req now (session before) =
      (.ok account, after)) : Performs s call before none after :=
  accountUpdate_performs keyed (fun account => rekeyedAccount account req now)
    (fun _ => rfl) (by decide) run

theorem claimCRLGenerationTx_performs (ids : s.FreshIDs) (consistent : Consistent s before)
    {issuerID distributionPoint} (known : (ledger before).issuers.lookup issuerID = some issuer)
    (past : now.nanos ≤ before.world.clock.nanos)
    (run : claimCRLGenerationTx issuerID distributionPoint now (session before) =
      (.ok claim, after)) :
    Performs s call before (some (.crlClaimed claim)) after ∧ claim.issuerID = issuerID ∧
      claim.distributionPoint = distributionPoint ∧ claim.updatedAt = now := by
  obtain ⟨publications, _, listed, run⟩ := bind_ok_iff.mp run
  obtain ⟨look, rfl⟩ := query_ok_iff.mp listed
  cases look
  obtain ⟨outcome, mid, looked, run⟩ := bind_ok_iff.mp run
  rw [attempt_ok_iff] at looked
  cases outcome with
  | error err =>
    obtain ⟨free, -, rfl⟩ := get_error_iff.mp looked
    rcases ite_ok_iff.mp run with ⟨-, run⟩ | ⟨-, run⟩
    · obtain ⟨⟨⟩, _, created, done⟩ := bind_ok_iff.mp run
      obtain ⟨-, rfl⟩ := createCRLClaim_ok_iff.mp created
      obtain ⟨rfl, rfl⟩ := pure_ok_iff.mp done
      exact ⟨⟨{}, .silent rfl rfl rfl le_rfl, .crl (.claimedFirst known free past)
        .nothing (by simp)⟩, rfl, rfl, rfl⟩
    · exact (fail_ok_iff.mp run).elim
  | ok current =>
    obtain ⟨found, rfl⟩ := get_ok_iff.mp looked
    obtain ⟨rfl, rfl⟩ := consistent.claim_pair ids known found
    obtain ⟨⟨⟩, _, required, run⟩ := bind_ok_iff.mp run
    obtain ⟨expired, rfl⟩ := require_ok_iff.mp required
    obtain ⟨⟨⟩, _, updated, done⟩ := bind_ok_iff.mp run
    obtain ⟨-, rfl⟩ := updateCRLClaim_ok_iff.mp updated
    obtain ⟨rfl, rfl⟩ := pure_ok_iff.mp done
    exact ⟨⟨{}, .silent rfl rfl rfl le_rfl, .crl (.claimedAgain known found expired past)
      .nothing (by simp)⟩, rfl, rfl, rfl⟩

theorem listRevocations_performs {entries}
    (claimed : (call, Event.crlClaimed claim) ∈ before.history)
    (run : listRevocationsByIssuer claim.issuerID (session before) = (.ok entries, after)) :
    Performs s call before (some (.revocationsListed claim entries)) after := by
  obtain ⟨look, rfl⟩ := query_ok_iff.mp run
  cases look
  exact ⟨{}, .refl _, .crl (.listed claimed) .nothing (by simp)⟩

theorem publishCRLTx_performs {req request result publication}
    (requested : (call, Event.crlRequested claim request) ∈ before.history)
    (pair : claim.issuerID = req.issuerID ∧ claim.distributionPoint = req.distributionPoint)
    (dated : claim.updatedAt = now)
    (run : s.publishCRLTx ctx actor claim req result now (session before) =
      (.ok publication, after)) :
    Performs s call before (some (.crlPublished claim request publication)) after := by
  simp only [Service.publishCRLTx, bind_ok_iff, newID_ok_iff, getIssuer, get_ok_iff,
    createCRLPublication_ok_iff, deleteCRLClaim_ok_iff, pure_ok_iff] at run
  obtain ⟨_, _, ⟨rfl, rfl⟩, _, _, ⟨-, rfl⟩, ⟨⟩, _, ⟨free, rfl⟩, ⟨⟩, audit, audited, ⟨⟩, _,
    ⟨⟨stored, found, token⟩, rfl⟩, rfl, rfl⟩ := run
  obtain ⟨event, recorded, told, same⟩ := auditEvent_told audited
  have claims : audit.db.crlClaims = (ledger before).crlClaims := congrArg crlClaims same
  rw [claims] at found
  have published : Told s (session before) audit { events := [event] } :=
    told.before rfl rfl rfl (Nat.le_succ _)
  refine ⟨_, published.followed rfl rfl rfl le_rfl, ?_⟩
  have shape : of { audit.db with crlClaims := audit.db.crlClaims.erase (claimKey claim) } =
      (((ledger before).putCRL (newCRLPublication (s.idgen before.world.drawn) claim req result now)
        ).dropClaim claim) := by
    change (of audit.db).dropClaim claim = _
    rw [same]
    rfl
  rw [shape]
  refine .crl ?_ (recorded.quiet (by decide)) fun _ => ⟨_, _, _, rfl⟩
  exact .published requested ⟨le_refl _, told.forward⟩ rfl ⟨pair.1.symm, pair.2.symm⟩ rfl dated.symm
    free ⟨stored, found, token⟩

theorem releaseCRLClaimTx_performs {deleted}
    (claimed : (call, Event.crlClaimed claim) ∈ before.history)
    (run : releaseCRLClaimTx claim (session before) = (.ok deleted, after)) :
    Performs s call before (if deleted then some (.crlReleased claim) else none) after := by
  obtain ⟨outcome, mid, looked, run⟩ := bind_ok_iff.mp run
  rw [attempt_ok_iff] at looked
  cases outcome with
  | ok u =>
    obtain ⟨current, rfl⟩ := deleteCRLClaim_ok_iff.mp looked
    obtain ⟨rfl, rfl⟩ := pure_ok_iff.mp run
    exact ⟨{}, .silent rfl rfl rfl le_rfl, .crl (.released claimed current) .nothing (by simp)⟩
  | error err =>
    cases deleteCRLClaim_error looked
    rcases ite_ok_iff.mp run with ⟨-, run⟩ | ⟨-, run⟩
    · obtain ⟨rfl, rfl⟩ := pure_ok_iff.mp run
      exact ⟨{}, .refl _, .idle .none .nothing⟩
    · exact (fail_ok_iff.mp run).elim

end AnoPki.Lifecycle
