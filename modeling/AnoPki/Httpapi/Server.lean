import AnoPki.Httpapi.Boundary
import AnoPki.Lifecycle.Service

/-! # Serving a request

`ServeHTTP` up to the handler the mux runs: the authentication, the authorizer if there is one, and
the limit on the rate of the ACME protocol. -/
namespace AnoPki.Httpapi

open Foundation Domain Lifecycle

inductive AuthMode where
  | dev
  | apiKey
  /-- Any other text. -/
  | other (text : Text)
deriving DecidableEq, Repr

def AuthMode.text : AuthMode → Text
  | dev => "dev"
  | apiKey => "api_key"
  | other text => text

inductive AuthorizationOutcome where
  | allow
  | deny
  | approvalRequired
  /-- Any other text. -/
  | other (text : Text)
deriving DecidableEq, Repr

structure AuthorizationInput where
  actorID : Text
  authenticationMethod : Text
  requiredScope : Text
  httpMethod : Text
  routePattern : Text
  requestID : Text
  traceparent : Text
  clientIP : Text
  userAgent : Text
deriving DecidableEq, Repr

structure RateBucket where
  count : Int64 := 0
  resetAt : Time := Time.zero
deriving DecidableEq, Repr

structure Server where
  mode : AuthMode
  /-- Whether an authorizer is configured. -/
  authorizer : Bool
  rateLimit : Int64
  /-- In nanoseconds. -/
  rateLimitWindow : Int64

/-- A request, with what `requestIDForRequest` and `requestClientIP` make of it. -/
structure Request where
  method : Text
  url : URL
  /-- The headers `Authorization` and `X-Actor`. -/
  authorization : Text
  xActor : Text
  requestID : Text
  traceparent : Text
  clientIP : Text
  userAgent : Text

/-- What the server is answered while it serves a request. -/
structure Answers where
  authenticateAPIKey : Text → Except Err APIKey
  authorize : AuthorizationInput → Except Err AuthorizationOutcome
  now : Time

/-- Who the context of a request says sent it. -/
structure Caller where
  actor : Text
  key : Option APIKeyAuditMetadata := none
deriving DecidableEq, Repr

inductive Outcome where
  | failed (err : Err)
  | rateLimited
  /-- The mux ran the handler of the route; without a route it redirected or refused. -/
  | served (caller : Caller) (route : Option Route)
deriving DecidableEq, Repr

def requestActor (caller : Caller) (req : Request) : Text :=
  if caller.actor ≠ [] then caller.actor
  else if req.xActor = [] then "anonymous"
  else req.xActor

def bearerToken (header : Text) : Option Text :=
  if ¬"Bearer ".toList <+: header then none
  else
    let token := Text.trimSpace (header.drop "Bearer ".toList.length)
    if token ≠ [] then some token else none

def apiKeyTokenFingerprint (tokenHash : Text) : Text :=
  let algorithm := tokenHash.takeWhile (· != ':')
  let hash := (tokenHash.dropWhile (· != ':')).drop 1
  if algorithm = [] ∨ hash = [] then []
  else algorithm ++ ':' :: hash.take 16

def keyAuditMetadata (key : APIKey) : APIKeyAuditMetadata where
  id := key.id
  name := key.name
  actor := key.actor
  fingerprint := apiKeyTokenFingerprint key.tokenHash
  scopes := key.scopes.map APIKeyScope.text

namespace Server

variable (server : Server)

def authenticateRequest (answers : Answers) (req : Request) : Except Err Caller :=
  match server.mode with
  | .dev => .ok ⟨requestActor ⟨[], none⟩ req, none⟩
  | .apiKey =>
    if isPublicEndpoint req.method req.url.path then .ok ⟨"public", none⟩
    else match bearerToken req.authorization with
      | none => .error (ErrKind.err .unauthorized)
      | some token => do
        let key ← answers.authenticateAPIKey token
        if !apiKeyAllowsScope key (requiredScopeForRequest req.method req.url.path) then
          .error (ErrKind.err .forbidden)
        else .ok ⟨key.actor, some (keyAuditMetadata key)⟩
  | .other _ => .error (ErrKind.err .unauthorized)

def Segment.text : Segment → Text
  | .literal text => text
  | .wildcard name => '\x7b' :: (name ++ ['\x7d'])

def routePattern (route : Route) : Text := joinPath (route.pattern.map Segment.text)

/-- The authorizer is asked about the requests that are not public and have a route. -/
def authorizes (answers : Answers) (caller : Caller) (req : Request) : Bool :=
  if server.authorizer ∧ ¬isPublicEndpoint req.method req.url.path then
    match muxRoute req.method req.url with
    | none => true
    | some route => answers.authorize {
        actorID := requestActor caller req
        authenticationMethod := server.mode.text
        requiredScope := (requiredScopeForRequest req.method req.url.path).text
        httpMethod := req.method
        routePattern := routePattern route
        requestID := req.requestID
        traceparent := req.traceparent
        clientIP := req.clientIP
        userAgent := req.userAgent } = .ok .allow
  else true

def isRateLimitedACMEProtocolEndpoint (method path : Text) : Bool :=
  method = methodPost ∧ (path = "/acme/new-account".toList ∨ path = "/acme/new-order".toList ∨
    path = "/acme/key-change".toList ∨ "/acme/challenge/".toList <+: path ∨
    ("/acme/order/".toList <+: path ∧ "/finalize".toList <:+ path))

def acmeRateLimitClass (path : Text) : Text :=
  if path = "/acme/new-account".toList then "account"
  else if path = "/acme/new-order".toList then "order"
  else if path = "/acme/key-change".toList then "account"
  else if "/acme/challenge/".toList <+: path then "challenge"
  else if "/acme/order/".toList <+: path ∧ "/finalize".toList <:+ path then "finalize"
  else path

/-- Whether the request is within the limit, and the buckets after it. -/
def checkACMERateLimit (now : Time) (req : Request) (rates : Table RateBucket) :
    Bool × Table RateBucket :=
  if !isRateLimitedACMEProtocolEndpoint req.method req.url.path then (true, rates)
  else
    let key := req.clientIP ++ ' ' :: acmeRateLimitClass req.url.path
    let stored := (rates.lookup key).getD {}
    let bucket := if stored.resetAt.isZero ∨ stored.resetAt.nanos ≤ now.nanos then
      { resetAt := now.add server.rateLimitWindow.toInt } else stored
    if server.rateLimit ≤ bucket.count then (false, rates.insert key bucket)
    else (true, rates.insert key { bucket with count := bucket.count + 1 })

def serveHTTP (answers : Answers) (rates : Table RateBucket) (req : Request) :
    Outcome × Table RateBucket :=
  match server.authenticateRequest answers req with
  | .error err => (.failed err, rates)
  | .ok caller =>
    if !server.authorizes answers caller req then (.failed (ErrKind.err .forbidden), rates)
    else
      let checked := server.checkACMERateLimit answers.now req rates
      if !checked.1 then (.rateLimited, checked.2)
      else (.served caller (muxRoute req.method req.url), checked.2)

section Results

variable {server : Server} {answers : Answers} {rates rates' : Table RateBucket} {req : Request}
  {caller : Caller} {selected : Option Route}

/-- Whoever is served was authenticated. -/
theorem serveHTTP_served
    (run : server.serveHTTP answers rates req = (.served caller selected, rates')) :
    server.authenticateRequest answers req = .ok caller ∧
    muxRoute req.method req.url = selected := by
  unfold serveHTTP at run
  split at run
  next => simp at run
  next found authenticated =>
    dsimp only at run
    split_ifs at run with refused limited
    · simp at run
    · simp at run
    · simp only [Prod.mk.injEq, Outcome.served.injEq] at run
      obtain ⟨⟨rfl, route⟩, _⟩ := run
      exact ⟨authenticated, route⟩

/-- With keys, a caller is the public or has shown a key that allows the request. -/
theorem authenticateRequest_apiKey (mode : server.mode = .apiKey)
    (authenticated : server.authenticateRequest answers req = .ok caller) :
    isPublicEndpoint req.method req.url.path = true ∨
      ∃ token key, bearerToken req.authorization = some token ∧
        answers.authenticateAPIKey token = .ok key ∧
        apiKeyAllowsScope key (requiredScopeForRequest req.method req.url.path) = true ∧
        caller = ⟨key.actor, some (keyAuditMetadata key)⟩ := by
  unfold authenticateRequest at authenticated
  rw [mode] at authenticated
  dsimp only at authenticated
  split_ifs at authenticated with isPublic
  · exact .inl isPublic
  · right
    split at authenticated
    next => cases authenticated
    next token shown =>
      obtain ⟨key, found, allowed⟩ := Except.bind_eq_ok.mp authenticated
      split_ifs at allowed with refused
      refine ⟨token, key, shown, found, ?_, (Except.ok.inj allowed).symm⟩
      simpa using refused

theorem requiredScope_not_get {method path} (other : method ≠ methodGet) :
    1 ≤ (requiredScopeForRequest method path).level := by
  unfold requiredScopeForRequest
  split_ifs <;> decide

/-- A route that is not for `GET` takes no `GET`. -/
theorem takesMethod_get {route : Route} {method} (fits : route.takesMethod method = true)
    (other : route.method ≠ methodGet) : method ≠ methodGet := by
  rintro rfl
  rcases Bool.or_eq_true_iff.mp fits with same | head
  · exact other (eq_of_beq same)
  · exact other (eq_of_beq (Bool.and_eq_true_iff.mp head).1)

/-- A server with keys and without an authorizer. -/
def keyed : Server := ⟨.apiKey, false, 120, 60000000000⟩

/-- A key of an operator. -/
def operatorKey : APIKey where
  id := "k1"
  name := "ops"
  tokenHash := "sha256:00"
  status := .active
  actor := "ops"
  scopes := [.operator]
  createdAt := Time.zero
  updatedAt := Time.zero

/-- The escaped separator makes two parts of the key's ID. -/
def disableURL : URL where
  escapedPath := "/api-keys/k%2F1/disable"
  path := "/api-keys/k/1/disable"
  decodes := by decide +kernel

def disableRequest : Request where
  method := methodPost
  url := disableURL
  authorization := "Bearer t1"
  xActor := []
  requestID := "r1"
  traceparent := []
  clientIP := "192.0.2.1"
  userAgent := []

def disableRoute : Route := ⟨"POST", ["api-keys", .wildcard "id", "disable"], .disableAPIKey⟩

def operatorAnswers : Answers where
  authenticateAPIKey _ := .ok operatorKey
  authorize _ := .ok .deny
  now := Time.zero

theorem disableRequest_served : (keyed.serveHTTP operatorAnswers ∅ disableRequest).1 =
    .served ⟨"ops", some (keyAuditMetadata operatorKey)⟩ (some disableRoute) := by
  decide +kernel

/-- With API keys, a public endpoint leads to a handler of a protocol, and every other handler is
reached only with a key whose scopes suffice. -/
theorem authorization_boundary (mode : server.mode = .apiKey) :
    (∀ (method : Text) (url : URL) (route : Route), isPublicEndpoint method url.path = true →
      muxRoute method url = some route → route.handler.isProtocol = true) ∧
    ∀ (answers : Answers) (rates rates' : Table RateBucket) (req : Request) (caller : Caller)
      (route : Route), server.serveHTTP answers rates req = (.served caller (some route), rates') →
      route.handler.isProtocol = false → ∃ token key,
        bearerToken req.authorization = some token ∧ answers.authenticateAPIKey token = .ok key ∧
        caller = ⟨key.actor, some (keyAuditMetadata key)⟩ ∧
        (∃ scope ∈ key.scopes,
          (requiredScopeForRequest req.method req.url.path).level ≤ scopeLevel scope) ∧
        (route.handler.isOperator = true →
          requiredScopeForRequest req.method req.url.path = .operator) ∧
        (route.method ≠ methodGet → ¬∀ scope ∈ key.scopes, scope = .read) := by
  refine ⟨fun method url route accepted selected =>
    protocol_of_isPublicEndpoint accepted selected, ?_⟩
  intro answers rates rates' req caller route run management
  obtain ⟨authenticated, selected⟩ := serveHTTP_served run
  rcases authenticateRequest_apiKey mode authenticated with accepted |
    ⟨token, key, shown, found, allowed, rfl⟩
  · rw [protocol_of_isPublicEndpoint accepted selected] at management
    cases management
  obtain ⟨scope, member, enough⟩ := apiKeyAllowsScope_iff.mp allowed
  refine ⟨token, key, shown, found, rfl, ⟨scope, member, enough⟩,
    operator_of_isOperator selected, ?_⟩
  intro other reads
  obtain ⟨_, fits, _⟩ := muxRoute_spec selected
  have write := @requiredScope_not_get _ req.url.path (takesMethod_get fits other)
  rw [reads scope member] at enough
  exact absurd (write.trans enough) (by decide)

/-- A route for operators is reached with the key of one. -/
theorem keyed_boundary : disableRoute.handler.isProtocol = false ∧ ∃ token key,
    bearerToken disableRequest.authorization = some token ∧
      operatorAnswers.authenticateAPIKey token = .ok key ∧ .operator ∈ key.scopes := by
  refine ⟨rfl, ?_⟩
  have run : keyed.serveHTTP operatorAnswers ∅ disableRequest =
      (.served ⟨"ops", some (keyAuditMetadata operatorKey)⟩ (some disableRoute),
        (keyed.serveHTTP operatorAnswers ∅ disableRequest).2) := by
    rw [← disableRequest_served]
  obtain ⟨token, key, shown, found, _, ⟨scope, member, enough⟩, operator, _⟩ :=
    (@authorization_boundary keyed rfl).2 _ _ _ _ _ _ run rfl
  refine ⟨token, key, shown, found, ?_⟩
  rw [operator rfl] at enough
  cases scope with
  | operator => exact member
  | read | write => exact absurd enough (by decide)

end Results

end Server

end AnoPki.Httpapi
