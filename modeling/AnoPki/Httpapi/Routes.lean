import AnoPki.Foundation.UrlPath
import AnoPki.Foundation.Strings
import AnoPki.Domain.Types

/-! # The routes of the API

Requests are told apart twice. The mux matches the path as it was sent, segment by segment; the
authentication tests the path without its escapes as one text. What ties the two together is that a
route fixes how the decoded path starts and ends. -/
namespace AnoPki.Httpapi

open Foundation Domain List Option

/-- The path of a request as it was sent, and without its escapes. -/
structure URL where
  escapedPath : Text
  path : Text
  decodes : unescape escapedPath = some path

inductive Handler where
  | expvar
  | createIdentity
  | listIdentities
  | getIdentity
  | createIssuer
  | getIssuerChain
  | createOCSPResponder
  | listOCSPResponders
  | rotateOCSPResponder
  | disableOCSPResponder
  | createNotificationEndpoint
  | listNotificationEndpoints
  | disableNotificationEndpoint
  | listOutboxMessages
  | replayDeadLetterOutboxMessages
  | retryOutboxMessage
  | listCertificateInventory
  | getExpirySLO
  | createAPIKey
  | listAPIKeys
  | rotateAPIKey
  | disableAPIKey
  | createACMEAccount
  | listACMEAccounts
  | createACMEOrder
  | getACMEOrder
  | listACMEAuthorizations
  | finalizeACMEOrder
  | listACMEChallenges
  | completeACMEChallenge
  | acmeDirectory
  | acmeNewNonce
  | acmeNewAccount
  | acmeUpdateAccount
  | acmeNewOrder
  | acmeKeyChange
  | acmeGetOrder
  | acmePostAsGetOrder
  | acmeGetAuthorization
  | acmePostAsGetAuthorization
  | acmeCompleteChallenge
  | acmeFinalizeOrder
  | acmeRevokeCertificate
  | acmeGetCertificate
  | acmePostAsGetCertificate
  | createCertificateProfile
  | listCertificateProfiles
  | getCertificateProfile
  | createEnrollment
  | listEnrollments
  | getEnrollment
  | approveEnrollment
  | rejectEnrollment
  | issueCertificate
  | listCertificates
  | scanCertificateExpirations
  | getCertificate
  | revokeCertificate
  | suspendCertificate
  | resumeCertificate
  | renewCertificate
  | reissueCertificate
  | publishCRL
  | getCRLPublication
  | getLatestIssuerCRL
  | respondOCSP
  | listAuditEvents
  | getAuditIntegrity
  | pruneAuditEvents
  | repairIssuanceAuditEvents
  | listTrustAnchors
deriving DecidableEq, Repr

inductive Segment where
  | literal (text : Text)
  | wildcard (name : Text)
deriving DecidableEq, Repr

instance : Coe String Segment := ⟨fun text => .literal text⟩

structure Route where
  method : Text
  pattern : List Segment
  handler : Handler
deriving DecidableEq, Repr

def registerRoutes : List Route := [
  ⟨"GET", ["debug", "vars"], .expvar⟩,
  ⟨"POST", ["identities"], .createIdentity⟩,
  ⟨"GET", ["identities"], .listIdentities⟩,
  ⟨"GET", ["identities", .wildcard "id"], .getIdentity⟩,
  ⟨"POST", ["issuers"], .createIssuer⟩,
  ⟨"GET", ["issuers", .wildcard "id", "chain"], .getIssuerChain⟩,
  ⟨"POST", ["issuers", .wildcard "id", "ocsp-responders"], .createOCSPResponder⟩,
  ⟨"GET", ["issuers", .wildcard "id", "ocsp-responders"], .listOCSPResponders⟩,
  ⟨"POST", ["issuers", .wildcard "id", "ocsp-responders", "rotate"], .rotateOCSPResponder⟩,
  ⟨"POST", ["issuers", .wildcard "id", "ocsp-responders", .wildcard "responderID", "disable"],
    .disableOCSPResponder⟩,
  ⟨"POST", ["notification-endpoints"], .createNotificationEndpoint⟩,
  ⟨"GET", ["notification-endpoints"], .listNotificationEndpoints⟩,
  ⟨"POST", ["notification-endpoints", .wildcard "id", "disable"], .disableNotificationEndpoint⟩,
  ⟨"GET", ["outbox", "messages"], .listOutboxMessages⟩,
  ⟨"POST", ["outbox", "messages", "dead-letter", "replay"], .replayDeadLetterOutboxMessages⟩,
  ⟨"POST", ["outbox", "messages", .wildcard "id", "retry"], .retryOutboxMessage⟩,
  ⟨"GET", ["operator", "certificate-inventory"], .listCertificateInventory⟩,
  ⟨"GET", ["operator", "expiry-slo"], .getExpirySLO⟩,
  ⟨"POST", ["api-keys"], .createAPIKey⟩,
  ⟨"GET", ["api-keys"], .listAPIKeys⟩,
  ⟨"POST", ["api-keys", .wildcard "id", "rotate"], .rotateAPIKey⟩,
  ⟨"POST", ["api-keys", .wildcard "id", "disable"], .disableAPIKey⟩,
  ⟨"POST", ["acme", "accounts"], .createACMEAccount⟩,
  ⟨"GET", ["acme", "accounts"], .listACMEAccounts⟩,
  ⟨"POST", ["acme", "orders"], .createACMEOrder⟩,
  ⟨"GET", ["acme", "orders", .wildcard "id"], .getACMEOrder⟩,
  ⟨"GET", ["acme", "orders", .wildcard "id", "authorizations"], .listACMEAuthorizations⟩,
  ⟨"POST", ["acme", "orders", .wildcard "id", "finalize"], .finalizeACMEOrder⟩,
  ⟨"GET", ["acme", "authorizations", .wildcard "id", "challenges"], .listACMEChallenges⟩,
  ⟨"POST", ["acme", "challenges", .wildcard "id", "complete"], .completeACMEChallenge⟩,
  ⟨"GET", ["acme", "directory"], .acmeDirectory⟩,
  ⟨"HEAD", ["acme", "new-nonce"], .acmeNewNonce⟩,
  ⟨"GET", ["acme", "new-nonce"], .acmeNewNonce⟩,
  ⟨"POST", ["acme", "new-account"], .acmeNewAccount⟩,
  ⟨"POST", ["acme", "account", .wildcard "id"], .acmeUpdateAccount⟩,
  ⟨"POST", ["acme", "new-order"], .acmeNewOrder⟩,
  ⟨"POST", ["acme", "key-change"], .acmeKeyChange⟩,
  ⟨"GET", ["acme", "order", .wildcard "id"], .acmeGetOrder⟩,
  ⟨"POST", ["acme", "order", .wildcard "id"], .acmePostAsGetOrder⟩,
  ⟨"GET", ["acme", "authz", .wildcard "id"], .acmeGetAuthorization⟩,
  ⟨"POST", ["acme", "authz", .wildcard "id"], .acmePostAsGetAuthorization⟩,
  ⟨"POST", ["acme", "challenge", .wildcard "id"], .acmeCompleteChallenge⟩,
  ⟨"POST", ["acme", "order", .wildcard "id", "finalize"], .acmeFinalizeOrder⟩,
  ⟨"POST", ["acme", "revoke-cert"], .acmeRevokeCertificate⟩,
  ⟨"GET", ["acme", "cert", .wildcard "id"], .acmeGetCertificate⟩,
  ⟨"POST", ["acme", "cert", .wildcard "id"], .acmePostAsGetCertificate⟩,
  ⟨"POST", ["certificate-profiles"], .createCertificateProfile⟩,
  ⟨"GET", ["certificate-profiles"], .listCertificateProfiles⟩,
  ⟨"GET", ["certificate-profiles", .wildcard "id"], .getCertificateProfile⟩,
  ⟨"POST", ["enrollments"], .createEnrollment⟩,
  ⟨"GET", ["enrollments"], .listEnrollments⟩,
  ⟨"GET", ["enrollments", .wildcard "id"], .getEnrollment⟩,
  ⟨"POST", ["enrollments", .wildcard "id", "approve"], .approveEnrollment⟩,
  ⟨"POST", ["enrollments", .wildcard "id", "reject"], .rejectEnrollment⟩,
  ⟨"POST", ["certificates"], .issueCertificate⟩,
  ⟨"GET", ["certificates"], .listCertificates⟩,
  ⟨"POST", ["certificates", "expiration-scan"], .scanCertificateExpirations⟩,
  ⟨"GET", ["certificates", .wildcard "id"], .getCertificate⟩,
  ⟨"POST", ["certificates", .wildcard "id", "revoke"], .revokeCertificate⟩,
  ⟨"POST", ["certificates", .wildcard "id", "suspend"], .suspendCertificate⟩,
  ⟨"POST", ["certificates", .wildcard "id", "resume"], .resumeCertificate⟩,
  ⟨"POST", ["certificates", .wildcard "id", "renew"], .renewCertificate⟩,
  ⟨"POST", ["certificates", .wildcard "id", "reissue"], .reissueCertificate⟩,
  ⟨"POST", ["crls"], .publishCRL⟩,
  ⟨"GET", ["crls", .wildcard "id"], .getCRLPublication⟩,
  ⟨"GET", ["issuers", .wildcard "id", "crl"], .getLatestIssuerCRL⟩,
  ⟨"POST", ["ocsp"], .respondOCSP⟩,
  ⟨"GET", ["audit-events"], .listAuditEvents⟩,
  ⟨"GET", ["audit-events", "integrity"], .getAuditIntegrity⟩,
  ⟨"POST", ["audit-events", "retention", "prune"], .pruneAuditEvents⟩,
  ⟨"POST", ["audit-events", "repair", "issuance"], .repairIssuanceAuditEvents⟩,
  ⟨"GET", ["trust", "anchors"], .listTrustAnchors⟩]

def Segment.takes : Segment → Text → Bool
  | literal text, segment => unescape segment == some text
  | wildcard _, segment => !segment.isEmpty

def takesSegments : List Segment → List Text → Bool
  | [], [] => true
  | first :: pattern, segment :: segments => first.takes segment && takesSegments pattern segments
  | _, _ => false

/-- A route for `GET` takes `HEAD` too. -/
def Route.takesMethod (route : Route) (method : Text) : Bool :=
  route.method == method || (route.method == "GET".toList && method == "HEAD".toList)

/-- No segment is empty, except the one after a last slash, and none is `.` or `..`. -/
def canonical (segments : List Text) : Bool :=
  segments.dropLast.all (fun segment => !segment.isEmpty) &&
    segments.all fun segment => segment != ".".toList && segment != "..".toList

/-- The segments of an absolute path the mux does not redirect. -/
def pathSegments : Text → Option (List Text)
  | '/' :: rest => if canonical (rest.splitOn '/') then some (rest.splitOn '/') else none
  | _ => none

def Route.takes (route : Route) (method : Text) (url : URL) : Bool :=
  route.takesMethod method && (pathSegments url.escapedPath).any (takesSegments route.pattern)

/-- The route the mux selects for a request. -/
def muxRoute (method : Text) (url : URL) : Option Route :=
  registerRoutes.find? fun route => route.takes method url

/-- Some segment is taken by both. -/
def Segment.meets : Segment → Segment → Bool
  | literal first, literal second => first == second
  | _, _ => true

def patternsMeet : List Segment → List Segment → Bool
  | [], [] => true
  | first :: pattern, second :: other => first.meets second && patternsMeet pattern other
  | _, _ => false

theorem Segment.meets_of_takes {first second : Segment} {segment}
    (one : first.takes segment = true) (two : second.takes segment = true) :
    first.meets second = true := by
  cases first with
  | wildcard name => rfl
  | literal text =>
    cases second with
    | wildcard name => rfl
    | literal other =>
      have same : some text = some other := (eq_of_beq one).symm.trans (eq_of_beq two)
      exact beq_iff_eq.mpr (some.inj same)

theorem patternsMeet_of_takes {pattern other segments}
    (one : takesSegments pattern segments = true) (two : takesSegments other segments = true) :
    patternsMeet pattern other = true := by
  induction segments generalizing pattern other with
  | nil => cases pattern <;> cases other <;> simp_all [takesSegments, patternsMeet]
  | cons segment segments ih =>
    cases pattern with
    | nil => cases one
    | cons first pattern =>
      cases other with
      | nil => cases two
      | cons second other =>
        obtain ⟨takesFirst, takesRest⟩ := Bool.and_eq_true_iff.mp one
        obtain ⟨takesSecond, takesOther⟩ := Bool.and_eq_true_iff.mp two
        exact Bool.and_eq_true_iff.mpr
          ⟨Segment.meets_of_takes takesFirst takesSecond, ih takesRest takesOther⟩

def methodsMeet (first second : Route) : Bool :=
  first.takesMethod second.method || second.takesMethod first.method

theorem methodsMeet_of_takes {first second method}
    (one : first.takesMethod method = true) (two : second.takesMethod method = true) :
    methodsMeet first second = true := by
  simp only [methodsMeet, Route.takesMethod, Bool.or_eq_true, Bool.and_eq_true, beq_iff_eq] at *
  rcases one with rfl | ⟨get, rfl⟩
  · exact .inr two
  · rcases two with head | ⟨get', _⟩
    · exact .inl (.inr ⟨get, head⟩)
    · exact .inl (.inl (get.trans get'.symm))

theorem registerRoutes_apart : ∀ first ∈ registerRoutes, ∀ second ∈ registerRoutes,
    methodsMeet first second = true → patternsMeet first.pattern second.pattern = true →
      first.handler = second.handler := by
  decide +kernel

/-- It does not matter in which order the mux tries the routes. -/
theorem handler_unique {method} {url : URL} {first second}
    (registered : first ∈ registerRoutes) (registered' : second ∈ registerRoutes)
    (one : first.takes method url = true) (two : second.takes method url = true) :
    first.handler = second.handler := by
  obtain ⟨fits, matched⟩ := Bool.and_eq_true_iff.mp one
  obtain ⟨fits', matched'⟩ := Bool.and_eq_true_iff.mp two
  obtain ⟨segments, parsed, taken⟩ := (any_eq_true _ _).mp matched
  obtain ⟨segments', parsed', taken'⟩ := (any_eq_true _ _).mp matched'
  obtain rfl := mem_unique parsed parsed'
  exact registerRoutes_apart first registered second registered' (methodsMeet_of_takes fits fits')
    (patternsMeet_of_takes taken taken')

theorem headNonce_handler : (⟨"HEAD", ["acme", "new-nonce"], .acmeNewNonce⟩ : Route).handler =
    (⟨"GET", ["acme", "new-nonce"], .acmeNewNonce⟩ : Route).handler :=
  @handler_unique "HEAD" ⟨"/acme/new-nonce", "/acme/new-nonce", by decide +kernel⟩ _ _
    (by decide +kernel) (by decide +kernel) (by decide +kernel) (by decide +kernel)

section Paths

/-- How every path of a pattern starts: up to its first wildcard. -/
def patternHead : List Segment → Text
  | [] => []
  | .literal text :: pattern => '/' :: (text ++ patternHead pattern)
  | .wildcard _ :: _ => ['/']

/-- How every path of a pattern ends: its last segment, when that is a literal. -/
def patternTail : List Segment → Text
  | [] => []
  | [.literal text] => '/' :: text
  | [.wildcard _] => []
  | _ :: second :: pattern => patternTail (second :: pattern)

def Segment.isLiteral : Segment → Bool
  | literal _ => true
  | wildcard _ => false

/-- The pattern has no wildcard. -/
def fixedPattern (pattern : List Segment) : Bool := pattern.all Segment.isLiteral

/-- The decoded segments a pattern admits. -/
def Admits (pattern : List Segment) (plain : List Text) : Prop :=
  List.Forall₂ (fun segment text => ∀ fixed, segment = .literal fixed → text = fixed) pattern
    plain

variable {pattern : List Segment} {segments plain : List Text}

theorem admits_of_takes (taken : takesSegments pattern segments = true)
    (decoded : List.Forall₂ (fun segment text => unescape segment = some text) segments plain) :
    Admits pattern plain := by
  induction decoded generalizing pattern with
  | nil =>
    cases pattern with
    | nil => exact .nil
    | cons first pattern => simp [takesSegments] at taken
  | @cons segment text segments plain decodes _ ih =>
    cases pattern with
    | nil => simp [takesSegments] at taken
    | cons first pattern =>
      obtain ⟨here, rest⟩ := Bool.and_eq_true_iff.mp taken
      refine .cons ?_ (ih rest)
      rintro fixed rfl
      have same : unescape segment = some fixed := by simpa [Segment.takes] using here
      exact mem_unique decodes same

theorem Admits.head (admitted : Admits pattern plain) : patternHead pattern <+: joinPath plain := by
  induction admitted with
  | nil => exact nil_prefix
  | @cons segment text pattern plain here _ ih =>
    rw [joinPath_cons]
    cases segment with
    | literal fixed =>
      rw [here fixed rfl]
      exact cons_prefix_cons.mpr ⟨rfl, (prefix_append_right_inj fixed).mpr ih⟩
    | wildcard name => exact cons_prefix_cons.mpr ⟨rfl, nil_prefix⟩

theorem Admits.tail (admitted : Admits pattern plain) : patternTail pattern <:+ joinPath plain := by
  induction admitted with
  | nil => exact nil_suffix
  | @cons segment text pattern plain here rest ih =>
    rw [joinPath_cons]
    cases pattern with
    | nil =>
      obtain rfl := forall₂_nil_left_iff.mp rest
      cases segment with
      | literal fixed =>
        rw [here fixed rfl]
        have last : joinPath [] = [] := rfl
        rw [last, append_nil]
        exact suffix_refl _
      | wildcard name => exact nil_suffix
    | cons second pattern =>
      have skipped : patternTail (segment :: second :: pattern) =
          patternTail (second :: pattern) := by cases segment <;> rfl
      rw [skipped, ← cons_append]
      exact ih.trans (suffix_append ('/' :: text) (joinPath plain))

theorem Admits.fixed (admitted : Admits pattern plain) (fixed : fixedPattern pattern = true) :
    joinPath plain = patternHead pattern := by
  induction admitted with
  | nil => rfl
  | @cons segment text pattern plain here _ ih =>
    obtain ⟨first, rest⟩ := Bool.and_eq_true_iff.mp fixed
    cases segment with
    | literal text => rw [joinPath_cons, here text rfl, ih rest, patternHead]
    | wildcard name => cases first

/-- What the mux says of a request: the route is registered, its method fits, and its pattern admits
the decoded path. -/
theorem muxRoute_spec {method} {url : URL} {route} (selected : muxRoute method url = some route) :
    route ∈ registerRoutes ∧ route.takesMethod method = true ∧
      ∃ plain, Admits route.pattern plain ∧ url.path = joinPath plain := by
  unfold muxRoute at selected
  have taken : route.takes method url = true := by simpa using find?_some selected
  obtain ⟨fits, matched⟩ := Bool.and_eq_true_iff.mp taken
  refine ⟨mem_of_find?_eq_some selected, fits, ?_⟩
  obtain ⟨segments, parsed, taken⟩ := (any_eq_true _ _).mp matched
  have joined : url.escapedPath = joinPath segments := by
    unfold pathSegments at parsed
    split at parsed
    next rest same =>
      split at parsed
      · cases parsed
        rw [joinPath_splitOn, same]
      · cases parsed
    next => cases parsed
  obtain ⟨plain, decoded, path⟩ := unescape_joinPath (joined ▸ url.decodes)
  exact ⟨plain, admits_of_takes taken decoded, path⟩

end Paths

end AnoPki.Httpapi
