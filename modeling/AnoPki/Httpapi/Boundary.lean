import AnoPki.Httpapi.Routes

/-! # Who may run which handler

A request is authenticated before the mux sees it, by tests of its method and its decoded path. The
tests are coarser than the routes. They let through without a key only requests for the protocols,
and they ask for the scope of an operator wherever a route is an operator's. -/
namespace AnoPki.Httpapi

open Foundation Domain

/-- A handler of the ACME protocol or of OCSP, or a download of a CRL. -/
def Handler.isProtocol : Handler → Bool
  | acmeDirectory | acmeNewNonce | acmeNewAccount | acmeUpdateAccount | acmeNewOrder
  | acmeKeyChange | acmeGetOrder | acmePostAsGetOrder | acmeGetAuthorization
  | acmePostAsGetAuthorization | acmeCompleteChallenge | acmeFinalizeOrder | acmeRevokeCertificate
  | acmeGetCertificate | acmePostAsGetCertificate => true
  | respondOCSP => true
  | getCRLPublication | getLatestIssuerCRL => true
  | _ => false

/-- A handler of the keys, the outbox, the audit log, the operators, the counters or the scan for
certificates that expire. -/
def Handler.isOperator : Handler → Bool
  | createAPIKey | listAPIKeys | rotateAPIKey | disableAPIKey => true
  | listOutboxMessages | replayDeadLetterOutboxMessages | retryOutboxMessage => true
  | listAuditEvents | getAuditIntegrity | pruneAuditEvents | repairIssuanceAuditEvents => true
  | listCertificateInventory | getExpirySLO => true
  | expvar | scanCertificateExpirations => true
  | _ => false

def methodGet : Text := "GET"

def methodHead : Text := "HEAD"

def methodPost : Text := "POST"

def isPublicACMEProtocolEndpoint (method path : Text) : Bool :=
  if method = methodGet ∧ path = "/acme/directory".toList then true
  else if (method = methodHead ∨ method = methodGet) ∧ path = "/acme/new-nonce".toList then true
  else if method = methodPost ∧
      (path = "/acme/new-account".toList ∨ path = "/acme/new-order".toList ∨
        path = "/acme/key-change".toList ∨ path = "/acme/revoke-cert".toList) then true
  else if method = methodPost ∧ "/acme/account/".toList <+: path then true
  else if method = methodGet ∧
    ("/acme/order/".toList <+: path ∨ "/acme/authz/".toList <+: path) then
    true
  else if method = methodPost ∧ ("/acme/order/".toList <+: path ∨ "/acme/authz/".toList <+: path ∨
      "/acme/challenge/".toList <+: path ∨ "/acme/cert/".toList <+: path) then true
  else if method = methodGet ∧ "/acme/cert/".toList <+: path then true
  else false

/-- Whether the path is `/issuers/`, one segment and `/crl`. -/
def isIssuerCRLPath (path : Text) : Bool :=
  match (path.trim (· == '/')).splitOn '/' with
  | [first, second, third] =>
    first == "issuers".toList && !second.isEmpty && third == "crl".toList
  | _ => false

def isPublicEndpoint (method path : Text) : Bool :=
  if method = methodPost ∧ path = "/ocsp".toList then true
  else if isPublicACMEProtocolEndpoint method path then true
  else if method = methodGet ∧ "/crls/".toList <+: path ∧
    0 < (path.drop "/crls/".toList.length).length then true
  else if method ≠ methodGet ∨ ¬"/issuers/".toList <+: path ∨ ¬"/crl".toList <:+ path then false
  else isIssuerCRLPath path

inductive RequiredScope where
  | read
  | write
  | operator
deriving DecidableEq, Repr

def RequiredScope.text : RequiredScope → Text
  | read => "read"
  | write => "write"
  | operator => "operator"

def requiredScopeForRequest (method path : Text) : RequiredScope :=
  if path = "/debug/vars".toList ∨ "/api-keys".toList <+: path ∨ "/outbox/".toList <+: path ∨
      "/audit-events".toList <+: path ∨ "/operator/".toList <+: path then .operator
  else if method = methodPost ∧ path = "/certificates/expiration-scan".toList then .operator
  else if method = methodGet then .read
  else .write

def apiKeyAllowsScope (key : APIKey) (required : RequiredScope) : Bool :=
  key.scopes.any fun scope =>
    scope == .operator || (required == .read && scope == .write) || scope.text == required.text

/-- The scopes in the order of what they allow. -/
def RequiredScope.level : RequiredScope → Nat
  | read => 0
  | write => 1
  | operator => 2

@[inherit_doc RequiredScope.level]
def scopeLevel : APIKeyScope → Nat
  | .read => 0
  | .write => 1
  | .operator => 2

/-- A key allows what one of its scopes is high enough for. -/
theorem apiKeyAllowsScope_iff {key required} :
    apiKeyAllowsScope key required = true ↔
    ∃ scope ∈ key.scopes, required.level ≤ scopeLevel scope := by
  have each : ∀ scope : APIKeyScope,
      (scope == .operator || (required == .read && scope == .write) || scope.text ==
        required.text) = true ↔ required.level ≤ scopeLevel scope := by
    intro scope
    cases scope <;> cases required <;> decide
  simp only [apiKeyAllowsScope, List.any_eq_true, each]

section Boundary

/-- What each public endpoint's method and path start with, the CRL of an issuer apart. -/
def publicHeads : List (Text × Text) := [
  (methodPost, "/ocsp"), (methodGet, "/acme/directory"), (methodHead, "/acme/new-nonce"),
  (methodGet, "/acme/new-nonce"), (methodPost, "/acme/new-account"),
  (methodPost, "/acme/new-order"), (methodPost, "/acme/key-change"),
  (methodPost, "/acme/revoke-cert"), (methodPost, "/acme/account/"), (methodGet, "/acme/order/"),
  (methodGet, "/acme/authz/"), (methodPost, "/acme/order/"), (methodPost, "/acme/authz/"),
  (methodPost, "/acme/challenge/"), (methodPost, "/acme/cert/"), (methodGet, "/acme/cert/"),
  (methodGet, "/crls/")]

variable {method path : Text} {url : URL} {route : Route}

theorem acme_publicHeads (accepted : isPublicACMEProtocolEndpoint method path = true) :
    ∃ start, (method, start) ∈ publicHeads ∧ start <+: path := by
  unfold isPublicACMEProtocolEndpoint at accepted
  split_ifs at accepted with directory nonce simple account get post certificate
  · obtain ⟨rfl, rfl⟩ := directory
    exact ⟨_, by decide, List.prefix_refl _⟩
  · obtain ⟨rfl | rfl, rfl⟩ := nonce
    · exact ⟨_, by decide, List.prefix_refl _⟩
    · exact ⟨_, by decide, List.prefix_refl _⟩
  · obtain ⟨rfl, rfl | rfl | rfl | rfl⟩ := simple
    all_goals exact ⟨_, by decide, List.prefix_refl _⟩
  · obtain ⟨rfl, starts⟩ := account
    exact ⟨_, by decide, starts⟩
  · obtain ⟨rfl, starts | starts⟩ := get
    all_goals exact ⟨_, by decide, starts⟩
  · obtain ⟨rfl, starts | starts | starts | starts⟩ := post
    all_goals exact ⟨_, by decide, starts⟩
  · obtain ⟨rfl, starts⟩ := certificate
    exact ⟨_, by decide, starts⟩

theorem isPublicEndpoint_starts (accepted : isPublicEndpoint method path = true) :
    (∃ start, (method, start) ∈ publicHeads ∧ start <+: path) ∨
      method = methodGet ∧ "/issuers/".toList <+: path ∧ "/crl".toList <:+ path := by
  unfold isPublicEndpoint at accepted
  split_ifs at accepted with ocsp acme crls refused
  · obtain ⟨rfl, rfl⟩ := ocsp
    exact .inl ⟨_, by decide, List.prefix_refl _⟩
  · exact .inl (acme_publicHeads acme)
  · obtain ⟨rfl, starts, _⟩ := crls
    exact .inl ⟨_, by decide, starts⟩
  · push Not at refused
    exact .inr refused

/-- One of two starts of a text is a start of the other. -/
def Compatible (first second : Text) : Prop := first <+: second ∨ second <+: first
deriving Decidable

-- The tables are finite: which routes a start of a path leaves open is computed.
theorem publicHeads_protocol : ∀ route ∈ registerRoutes, ∀ head ∈ publicHeads,
    route.takesMethod head.1 = true → Compatible (patternHead route.pattern) head.2 →
      route.handler.isProtocol = true := by
  decide +kernel

theorem issuerCRL_protocol : ∀ route ∈ registerRoutes, route.takesMethod methodGet = true →
    Compatible (patternHead route.pattern) "/issuers/".toList →
    patternTail route.pattern <:+ "/crl".toList ∨ "/crl".toList <:+ patternTail route.pattern →
      route.handler.isProtocol = true := by
  decide +kernel

/-- What is public is a protocol's. -/
theorem protocol_of_isPublicEndpoint (accepted : isPublicEndpoint method url.path = true)
    (selected : muxRoute method url = some route) : route.handler.isProtocol = true := by
  obtain ⟨registered, fits, plain, admitted, path⟩ := muxRoute_spec selected
  have head : patternHead route.pattern <+: url.path := path ▸ admitted.head
  have tail : patternTail route.pattern <:+ url.path := path ▸ admitted.tail
  rcases isPublicEndpoint_starts accepted with ⟨start, listed, starts⟩ | ⟨rfl, starts, ends⟩
  · exact publicHeads_protocol route registered _ listed fits
      (List.prefix_or_prefix_of_prefix head starts)
  · exact issuerCRL_protocol route registered fits (List.prefix_or_prefix_of_prefix head starts)
      (List.suffix_or_suffix_of_suffix tail ends)

/-- The routes of the operators: the counters, the scan, and those under the operators' paths. -/
theorem operator_starts : ∀ route ∈ registerRoutes, route.handler.isOperator = true →
    (fixedPattern route.pattern = true ∧ patternHead route.pattern = "/debug/vars".toList) ∨
    "/api-keys".toList <+: patternHead route.pattern ∨
    "/outbox/".toList <+: patternHead route.pattern ∨
    "/audit-events".toList <+: patternHead route.pattern ∨
    "/operator/".toList <+: patternHead route.pattern ∨
    (route.method = methodPost ∧ fixedPattern route.pattern = true ∧
      patternHead route.pattern = "/certificates/expiration-scan".toList) := by
  decide +kernel

theorem takesMethod_post (isPost : route.method = methodPost)
    (fits : route.takesMethod method = true) : method = methodPost := by
  unfold Route.takesMethod at fits
  rw [isPost] at fits
  rcases Bool.or_eq_true_iff.mp fits with same | get
  · exact (eq_of_beq same).symm
  · exact absurd (eq_of_beq (Bool.and_eq_true_iff.mp get).1) (by decide)

theorem operator_of_isOperator (selected : muxRoute method url = some route)
    (isOperator : route.handler.isOperator = true) :
    requiredScopeForRequest method url.path = .operator := by
  obtain ⟨registered, fits, plain, admitted, path⟩ := muxRoute_spec selected
  have head : patternHead route.pattern <+: url.path := path ▸ admitted.head
  unfold requiredScopeForRequest
  rcases operator_starts route registered isOperator with
    ⟨fixed, exactly⟩ | keys | outbox | audit | operator | ⟨isPost, fixed, exactly⟩
  · rw [if_pos (.inl (by rw [path, admitted.fixed fixed, exactly]))]
  · rw [if_pos (.inr (.inl (keys.trans head)))]
  · rw [if_pos (.inr (.inr (.inl (outbox.trans head))))]
  · rw [if_pos (.inr (.inr (.inr (.inl (audit.trans head)))))]
  · rw [if_pos (.inr (.inr (.inr (.inr (operator.trans head)))))]
  · have scan : url.path = "/certificates/expiration-scan".toList := by
      rw [path, admitted.fixed fixed, exactly]
    rw [if_pos (show method = methodPost ∧ _ from ⟨takesMethod_post isPost fits, scan⟩), ite_self]

end Boundary

end AnoPki.Httpapi
