import AnoPki.Lifecycle.RehearsedCalls

/-! # A small deployment

A service with an identity and an issuer, and the schedules of its first calls. Runs of it are
rehearsed where a state or an event is to be shown. -/
namespace AnoPki.Lifecycle

open Foundation Domain Store

/-- The tables with a record and a new log. -/
def withIdentity (db : Db) (identity : Identity) (log : AuditLog) : Db :=
  { db with identities := db.identities.insert identity.id identity, audit := log }

def withIssuer (db : Db) (issuer : Issuer) (log : AuditLog) : Db :=
  { db with issuers := db.issuers.insert issuer.id issuer, audit := log }

def withProfile (db : Db) (profile : CertificateProfile) (log : AuditLog) : Db :=
  { db with profiles := db.profiles.insert profile.id profile, audit := log }

/-- The message that tells of a transition. -/
def transitionMessage (id : Text) (req : TransitionCertificateProfileIssuerRequest)
    (parentID : Text) (now : Time) : OutboxMessage where
  id := id
  type := issuerTransitionAction req.transition
  payloadJSON := (Json.object (outboxPayload (issuerTransitionAction req.transition) (auditFields [
    ("profile_id", req.profileID),
    ("previous_issuer_id", req.currentIssuerID),
    ("next_issuer_id", req.nextIssuerID),
    ("parent_issuer_id", parentID),
    ("transition", req.transition.text),
    ("reason", req.reason.trimSpace)]))).write
  status := .pending
  availableAt := now
  maxAttempts := defaultOutboxMaxAttempts
  createdAt := now
  updatedAt := now

/-- An enrollment as it is approved. -/
def approved (enrollment : Enrollment) (actor : Text) (now : Time) : Enrollment :=
  { enrollment with
    status := .approved
    approvedBy := actor
    approvedAt := now
    updatedAt := now }

/-- The attempt of an enrollment that was issued at once. -/
def signedAtOnce (s : Service) (enrollmentID : Text) (number : Nat) (result : IssueResult)
    (now : Time) : IssuanceAttempt :=
  signedAttempt (firstAttempt enrollmentID now) (s.idgen number) result now

/-- A certificate as it is revoked. -/
def revokedCopy (certificate : Certificate) (now : Time) : Certificate :=
  { certificate with status := .revoked, updatedAt := now }

/-- An order whose authorizations are all valid. -/
def readyOrder (order : ACMEOrder) (now : Time) : ACMEOrder :=
  { order with status := .ready, updatedAt := now }

/-- The enrollment a ready order is finalized with. -/
def orderEnrollment (s : Service) (order : ACMEOrder) (req : FinalizeACMEOrderRequest)
    (csrInfo : CSRInfo) (number : Nat) (now : Time) : Enrollment :=
  newEnrollment (s.idgen number) (orderEnrollmentRequest order req) csrInfo now

/-- A small deployment. -/
def smallService : Service where
  idgen n := 'i' :: Text.decimal n
  lowerRune c := c
  productionPolicy := false
  publicTLSCAAPolicy := true
  publicTLSLintHook := true
  publicTLSMaxValidityOverride := 0

theorem small_freshIDs : smallService.FreshIDs where
  injective m n same := Text.decimal_injective (List.cons.inj same).2
  nonblank n := Text.trim_cons_ne_nil rfl (Text.decimal n)
  nonzero n inside := by
    rcases List.mem_cons.mp inside with same | digit
    · exact absurd same (by decide)
    · exact absurd (Text.isDigit_of_mem_decimal digit) (by decide)

/-- Its IDs, by their numbers. -/
abbrev smallID : Nat → Text := smallService.idgen

abbrev SmallConfig := smallService.system.Config

abbrev SmallAction := smallService.system.Action

def newYear : Time := ⟨63902822400000000000, 0⟩

def newWorld : World where
  db := .empty
  drawn := 0
  clock := newYear
  issueMu := []

def webIdentity : CreateIdentityRequest where
  type := .service
  name := "web"

def rootIssuer : CreateIssuerRequest where
  name := "root"
  kind := .rootCA
  certificatePEM := "root"
  keyRef := "file:root"

def webInfo : CSRInfo where
  dnsNames := ["web".toList]

def webRequest : CreateEnrollmentRequest where
  identityID := smallID 0
  issuerID := smallID 2
  csrPEM := "csr"
  requestedSubject := "CN=web"
  requestedDNSNames := ["web".toList]
  requestedIPAddresses := []
  requestedNotAfter := newYear.add 86400000000000

def signature : SigningEvidence where
  schemaVersion := 1
  evidenceSource := "core_signing"
  operation := "certificate_issue"
  providerID := "file"
  providerClass := "file"
  providerReadiness := "ready"
  providerExportability := "exportable"
  referenceClass := "file"
  keyAlgorithm := "ecdsa"
  requestedSignatureAlgorithm := "ecdsa_with_sha256"
  issuerBindingVerified := true
  fallbackUsed := false
  resultCode := "ok"

def webResult : IssueResult where
  certificatePEM := "web"
  serialNumber := "1"
  subject := "CN=web"
  notBefore := newYear
  notAfter := newYear.add 86400000000000
  signingEvidence := signature

/-- The tables with one identity and one issuer. -/
def configuredDb (log : AuditLog) : Db :=
  withIssuer (withIdentity .empty (newIdentity (smallID 0) webIdentity newYear) log)
    (newIssuer (smallID 2) rootIssuer newYear) log

/-- An approved enrollment of the deployment, by the number of its ID. -/
def webEnrollment (number : Nat) : Enrollment :=
  approved (newEnrollment (smallID number) webRequest webInfo newYear) "admin" newYear

/-- The issuer of the deployment. -/
def webIssuer : Issuer := newIssuer (smallID 2) rootIssuer newYear

/-- The certificate the deployment issues. -/
def webCertificate : Certificate :=
  issuedCertificate (webEnrollment 4)
    (signedAtOnce smallService (smallID 4) 7 webResult newYear) newYear

/-- An issuer under the root. -/
def intermediateIssuer (name : Text) : CreateIssuerRequest where
  name := name
  kind := .intermediateCA
  parentIssuerID := smallID 2
  certificatePEM := name
  keyRef := "file:intermediate"

/-- A profile whose issuer is the first of two issuers under the root. -/
def rolledProfile : CreateCertificateProfileRequest where
  name := "web"
  issuerID := smallID 4
  validityPeriodSeconds := 17280000

/-- The profile's issuer is replaced by the second one. -/
def rollover : TransitionCertificateProfileIssuerRequest where
  profileID := smallID 8
  currentIssuerID := smallID 4
  nextIssuerID := smallID 6
  transition := .rollover
  reason := "rekey"

def rolledRecord : CertificateProfile :=
  newCertificateProfile smallService.lowerRune (smallID 8) rolledProfile newYear

/-- The tables with the two issuers and the profile. -/
def rollingDb (log : AuditLog) : Db :=
  withProfile (withIssuer (withIssuer (configuredDb log)
    (newIssuer (smallID 4) (intermediateIssuer "old") newYear) log)
    (newIssuer (smallID 6) (intermediateIssuer "new") newYear) log) rolledRecord log

/-- The account of a client. -/
def clientAccount : CreateACMEAccountRequest where
  contacts := ["mailto:ops".toList]
  termsOfServiceAgreed := true
  keyThumbprint := "key"

/-- The client's order under a profile or none. The account's ID has the given number, and the IDs
of the records that follow have the next ones. -/
def clientOrder (profileID : Text) (number : Nat) : CreateACMEOrderRequest where
  accountID := smallID number
  identityID := smallID 0
  issuerID := smallID 2
  certificateProfileID := profileID
  requestedDNSNames := ["web".toList]
  requestedIPAddresses := []
  requestedNotAfter := newYear.add 86400000000000

def smallOrder (profileID : Text) (number : Nat) : ACMEOrder :=
  newACMEOrder (smallID (number + 2)) (clientOrder profileID number) newYear

/-- The request a client finalizes its order with. -/
def clientFinalize : FinalizeACMEOrderRequest where
  csrPEM := "csr"
  requestedSubject := "CN=web"

/-- An outside that reads, checks and signs whatever it is asked to. -/
def Oracle.working : Oracle :=
  { Oracle.calm with
    inspectCSR := .ok webInfo
    checkReady := .ok ()
    issue := .ok webResult
    verifyHTTP01 := .ok ()
    checkCAA := .ok ()
    lint := .ok ()
    validateOCSPResponder := .ok true }

/-- A call is started and scheduled for so many steps with the same answer. -/
def answered (answer : Oracle) (number : Nat) (node : Node) (call : Call) (steps : Nat) :
    List SmallAction :=
  .spawn node call :: System.Action.runs number steps answer

/-- It is answered by an outside that works. -/
def calling : Nat → Node → Call → Nat → List SmallAction := answered .working

/-- The identity and the issuer are stored. -/
def configuring : List SmallAction :=
  calling 0 1 (.createIdentity {} "admin" webIdentity) 2 ++
    calling 1 1 (.createIssuer {} "admin" rootIssuer) 2

/-- An enrollment, whose ID has the given number, is created and approved. -/
def enrolling (number enrolled : Nat) : List SmallAction :=
  calling number 1 (.createEnrollment {} "admin" webRequest) 5 ++
    calling (number + 1) 1 (.approveEnrollment {} "admin" (smallID enrolled) []) 2

/-- An enrollment is issued. The sixth step claims it, the ninth stores the signed material and the
tenth the certificate. -/
def issuing (number : Nat) (node : Node) (enrolled steps : Nat) : List SmallAction :=
  calling number node (.issueCertificate {} "admin" (smallID enrolled)) steps

/-- The client's order becomes ready. A check of its names against a profile takes some steps
more. -/
def ordering (number drawn checks : Nat) (profileID : Text) : List SmallAction :=
  calling number 1 (.createACMEAccount {} "client" clientAccount) 2 ++
    calling (number + 1)
      1 (.createACMEOrder {} "client" (clientOrder profileID drawn)) (2 + checks) ++
    calling (number + 2) 1 (.completeACMEChallenge {} "client" (smallID (drawn + 4))) 2

/-- Two issuers under the root and a profile of the first are stored. -/
def rolling : List SmallAction :=
  configuring ++ calling 2 1 (.createIssuer {} "admin" (intermediateIssuer "old")) 2 ++
    calling 3 1 (.createIssuer {} "admin" (intermediateIssuer "new")) 2 ++
    calling 4 1 (.createCertificateProfile {} "admin" rolledProfile) 2

/-- The certificate is issued and revoked. -/
def revoking : List SmallAction :=
  configuring ++ enrolling 2 4 ++ issuing 4 1 4 10 ++
    calling 5 1 (.revokeCertificate {} "admin" (smallID 7) .keyCompromise) 2

theorem newWorld_initial : Initial newWorld := ⟨rfl⟩

end AnoPki.Lifecycle
