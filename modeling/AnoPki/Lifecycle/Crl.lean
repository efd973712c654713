import AnoPki.Lifecycle.Signing

/-! # Publishing lists of revoked certificates

`PublishCRL` claims the next number of the issuer's list at a distribution point, reads the entries,
has the core sign the list and stores it. Claim, reading and publication are separate steps; the
claim is given up with the publication, or when the call fails. -/
namespace AnoPki.Lifecycle

open Foundation Domain Store

/-- Five minutes. -/
def defaultCRLGenerationLease : Int := 300000000000

def validatePublishCRLRequest (req : PublishCRLRequest) (now : Time) : Except Err Unit := do
  demand (¬ (isBlank req.issuerID ∨ isBlank req.distributionPoint)) (ErrKind.err .invalidRequest)
  demand (req.nextUpdate.after now) (ErrKind.err .invalidRequest)

def nextCRLNumber (publications : List CRLPublication) (distributionPoint : Text) : Int64 :=
  publications.foldl (fun maxNumber publication =>
    if publication.distributionPoint = distributionPoint ∧ publication.crlNumber > maxNumber then
      publication.crlNumber
    else maxNumber) 0 + 1

/-- The claim on a list that nobody had claimed. -/
def firstCRLClaim (issuerID distributionPoint : Text) (number : Int64) (now : Time) :
    CRLGenerationClaim where
  issuerID := issuerID
  distributionPoint := distributionPoint
  crlNumber := number
  leaseExpiresAt := now.add defaultCRLGenerationLease
  createdAt := now
  updatedAt := now

/-- A claim that is taken over. -/
def takenOverClaim (current : CRLGenerationClaim) (number : Int64) (now : Time) :
    CRLGenerationClaim :=
  { current with
    crlNumber := number
    leaseExpiresAt := now.add defaultCRLGenerationLease
    updatedAt := now }

/-- The transaction of `claimCRLGeneration`. -/
def claimCRLGenerationTx (issuerID distributionPoint : Text) (now : Time) :
    Repo CRLGenerationClaim := do
  let publications ← listCRLPublicationsByIssuer issuerID
  let nextNumber := nextCRLNumber publications distributionPoint
  match ← Tx.attempt (getCRLGenerationClaim issuerID distributionPoint) with
  | .error err =>
    if err.kind = .crlGenerationClaimNotFound then do
      let claim := firstCRLClaim issuerID distributionPoint nextNumber now
      createCRLGenerationClaim claim
      pure claim
    else Tx.fail err
  | .ok current => do
    Tx.require (¬ current.leaseExpiresAt.after now) (ErrKind.err .invalidTransition)
    let claim := takenOverClaim current nextNumber now
    updateCRLGenerationClaimIfCurrent claim current
    pure claim

def claimCRLGeneration (issuerID distributionPoint : Text) (now : Time) : Op CRLGenerationClaim :=
  withinTx (claimCRLGenerationTx issuerID distributionPoint now)
    fun claim => some (.crlClaimed claim)

/-- `mapCRLError`. -/
def mapCRLError (err : CoreError) : Err := { kind := .crlGenerationFailed, detail := err.text }

def revokedCertificate (entry : RevokedCertificateEntry) : Corecli.RevokedCertificate where
  serialNumber := entry.serialNumber
  revokedAt := entry.revokedAt
  reason := entry.reason.text

/-- The request the core is asked to sign. -/
def coreCRLRequest (issuer : Issuer) (claim : CRLGenerationClaim) (req : PublishCRLRequest)
    (entries : List RevokedCertificateEntry) (now : Time) : Corecli.GenerateCRLRequest where
  issuerCertificatePEM := issuer.certificatePEM
  issuerKeyRef := issuer.keyRef
  crlNumber := claim.crlNumber
  thisUpdate := now
  nextUpdate := req.nextUpdate
  revokedCertificates := entries.map revokedCertificate

/-- The core's signature and the evidence for it. -/
def generateCRL (claim : CRLGenerationClaim) (request : Corecli.GenerateCRLRequest) :
    Op GenerateCRLResult := do
  Op.ask (fun oracle => oracle.checkReady) fun _ => none
  -- The event is left however the core answers.
  let answer ← Op.ask (fun oracle => .ok oracle.generateCRL)
    fun _ => some (.crlRequested claim request)
  let result ← Op.ofExcept (answer.mapError mapCRLError)
  Op.ofExcept ((validateSigningEvidence result.signingEvidence "crl_generate_sign"
    "sha256").mapError mapCRLError)
  pure result

def newCRLPublication (id : Text) (claim : CRLGenerationClaim) (req : PublishCRLRequest)
    (result : GenerateCRLResult) (now : Time) : CRLPublication where
  id := id
  issuerID := req.issuerID
  distributionPoint := req.distributionPoint
  crlNumber := claim.crlNumber
  thisUpdate := now
  nextUpdate := req.nextUpdate
  status := .published
  crlPEM := result.crlPEM
  createdAt := now
  updatedAt := now

/-- The transaction that stores a publication. -/
def Service.publishCRLTx (s : Service) (ctx : Context) (actor : Text) (claim : CRLGenerationClaim)
    (req : PublishCRLRequest) (result : GenerateCRLResult) (now : Time) :
    Repo CRLPublication := do
  let id ← s.newID
  let publication := newCRLPublication id claim req result now
  let _ ← getIssuer req.issuerID
  createCRLPublication publication
  let fields := coreSigningAuditFields result.signingEvidence [
    ("issuer_id", .string publication.issuerID),
    ("crl_publication_id", .string publication.id),
    ("distribution_point", .string publication.distributionPoint),
    ("crl_number", .number (Text.decimalInt publication.crlNumber.toInt)),
    ("claim_mode", .string "leased_single_writer")]
  s.createAuditEvent ctx actor "crl.published" "crl_publication" publication.id now fields
  deleteCRLGenerationClaimIfCurrent claim
  pure publication

/-- The transaction that gives up a claim; whether it was still there. -/
def releaseCRLClaimTx (claim : CRLGenerationClaim) : Repo Bool := do
  match ← Tx.attempt (deleteCRLGenerationClaimIfCurrent claim) with
  | .ok () => pure true
  | .error err =>
    if err.kind = .crlGenerationClaimNotFound ∨ err.kind = .invalidTransition then pure false
    else Tx.fail err

def releaseCRLClaim (claim : CRLGenerationClaim) : Op Bool :=
  withinTx (releaseCRLClaimTx claim)
    fun deleted => if deleted then some (.crlReleased claim) else none

/-- What `PublishCRL` does under its claim. -/
def Service.publishClaimedCRL (s : Service) (ctx : Context) (actor : Text) (issuer : Issuer)
    (claim : CRLGenerationClaim) (req : PublishCRLRequest) (now : Time) : Op CRLPublication := do
  let entries ← withinTx (listRevocationsByIssuer req.issuerID)
    fun entries => some (.revocationsListed claim entries)
  let request := coreCRLRequest issuer claim req entries now
  let result ← generateCRL claim request
  withinTx (s.publishCRLTx ctx actor claim req result now)
    fun publication => some (.crlPublished claim request publication)

def Service.publishCRL (s : Service) (ctx : Context) (actor : Text) (req : PublishCRLRequest) :
    Op CRLPublication := do
  let now ← Op.now
  Op.ofExcept (validatePublishCRLRequest req now)
  let issuer ← repo (getIssuer req.issuerID)
  let claim ← claimCRLGeneration req.issuerID req.distributionPoint now
  match ← Op.attempt (s.publishClaimedCRL ctx actor issuer claim req now) with
  | .ok publication => pure publication
  | .error err =>
    -- The deferred release runs however the call ended, and its own failure is ignored.
    let _ ← Op.attempt (releaseCRLClaim claim)
    Op.fail err

end AnoPki.Lifecycle
