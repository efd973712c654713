import AnoPki.Foundation.Labels
import AnoPki.Foundation.Netip
import AnoPki.Httpapi.Server

/-! # The client's address

`requestClientIP`: the peer's address, or the first one of `X-Forwarded-For` if the peer is a
trusted proxy. The audit log and the rate limits go by it. -/
namespace AnoPki.Httpapi

open Foundation Domain Netip

def remoteAddrTrusted (host : Text) (trustedProxies : List Prefix) : Bool :=
  match parseAddr host.trimSpace with
  | none => false
  | some addr => trustedProxies.any (·.contains addr.unmap)

def forwardedClientIP (forwardedFor : Text) : Text :=
  let clientIP := Text.trimSpace ((forwardedFor.splitOn ',').headD [])
  if clientIP = [] then []
  else
    match parseAddr clientIP with
    | none => []
    | some addr => addr.unmap.string

/-- `forwardedFor` is the header `X-Forwarded-For`, empty if there is none. -/
def requestClientIP (remoteAddr forwardedFor : Text) (trustedProxies : List Prefix) : Text :=
  match splitHostPort remoteAddr with
  | none => remoteAddr
  | some (host, _) =>
    if trustedProxies ≠ [] ∧ remoteAddrTrusted host trustedProxies then
      let clientIP := forwardedClientIP forwardedFor
      if clientIP ≠ [] then clientIP else host
    else host

/-- The request as it is served, with the address of its client. -/
def Request.received (req : Request) (remoteAddr forwardedFor : Text)
    (trustedProxies : List Prefix) : Request :=
  { req with clientIP := requestClientIP remoteAddr forwardedFor trustedProxies }

/-- The key of a request's bucket. -/
def rateLimitKey (req : Request) : Text :=
  req.clientIP ++ ' ' :: Server.acmeRateLimitClass req.url.path

/-- The peer is a trusted proxy. -/
def peerTrusted (remoteAddr : Text) (trustedProxies : List Prefix) : Bool :=
  match splitHostPort remoteAddr with
  | none => false
  | some (host, _) => trustedProxies ≠ [] && remoteAddrTrusted host trustedProxies

/-- The address of the peer itself. -/
def peerAddress (remoteAddr : Text) : Text := (splitHostPort remoteAddr).elim remoteAddr Prod.fst

section Results

variable {remoteAddr : Text} {trustedProxies : List Prefix}

/-- Buckets are told apart by the client's address. -/
theorem rateLimitKey_received_iff (req : Request) (header header' : Text) :
    rateLimitKey (req.received remoteAddr header trustedProxies) =
        rateLimitKey (req.received remoteAddr header' trustedProxies) ↔
      requestClientIP remoteAddr header trustedProxies =
        requestClientIP remoteAddr header' trustedProxies :=
  List.append_left_inj _

/-- The header counts only if the peer is trusted. -/
theorem requestClientIP_eq (header : Text) : requestClientIP remoteAddr header trustedProxies =
    if peerTrusted remoteAddr trustedProxies ∧ forwardedClientIP header ≠ [] then
    forwardedClientIP header else peerAddress remoteAddr := by
  rw [requestClientIP, peerTrusted, peerAddress]
  cases splitHostPort remoteAddr with
  | none => rfl
  | some parts =>
    by_cases trusted : trustedProxies ≠ [] ∧ remoteAddrTrusted parts.1 trustedProxies
    · simp [trusted]
    · simp [trusted]

/-- What stands after a comma does not count. -/
theorem forwardedClientIP_append (sent rest : Text) :
    forwardedClientIP (sent ++ ',' :: rest) = forwardedClientIP sent := by
  have first : ((sent ++ ',' :: rest).splitOn ',').headD [] = (sent.splitOn ',').headD [] := by
    rw [splitOn_append_cons]
    cases pieces : sent.splitOn ',' with
    | nil => exact absurd pieces (List.splitOn_ne_nil _ _)
    | cons piece pieces => rfl
  rw [forwardedClientIP, forwardedClientIP, first]

/-- A header with one address. -/
theorem forwardedClientIP_of_parse {header addr} (single : ',' ∉ header)
    (parses : parseAddr header.trimSpace = some addr) :
    forwardedClientIP header = addr.unmap.string := by
  have whole : header.splitOn ',' = [header] := List.splitOn_eq_singleton single
  have filled : header.trimSpace ≠ [] := by
    intro empty
    rw [empty] at parses
    cases parses
  rw [forwardedClientIP, whole]
  simp [filled, parses]

/-- The address of a client behind a trusted peer that appends to `X-Forwarded-For` is the first one
the client sent, not the appended one; so it is independent of what the client sent exactly if the
peer is not trusted. Then no header has any influence. -/
theorem requestClientIP_independent_iff (req : Request) (remoteAddr : Text)
    (trustedProxies : List Prefix) :
    (∀ rest, (∀ sent sent', requestClientIP remoteAddr (sent ++ ',' :: rest) trustedProxies =
        requestClientIP remoteAddr (sent' ++ ',' :: rest) trustedProxies) ↔
      peerTrusted remoteAddr trustedProxies = false) ∧
    (peerTrusted remoteAddr trustedProxies = false → ∀ header header',
      requestClientIP remoteAddr header trustedProxies =
    requestClientIP remoteAddr header' trustedProxies) ∧
      (∀ sent rest, requestClientIP remoteAddr (sent ++ ',' :: rest) trustedProxies =
    requestClientIP remoteAddr sent trustedProxies) ∧
      (peerTrusted remoteAddr trustedProxies = true → ∀ header addr, ',' ∉ header →
        parseAddr header.trimSpace = some addr → requestClientIP remoteAddr header trustedProxies =
    addr.unmap.string) ∧
        (∀ header header', rateLimitKey (req.received remoteAddr header trustedProxies) =
      rateLimitKey (req.received remoteAddr header' trustedProxies) ↔
        requestClientIP remoteAddr header trustedProxies =
          requestClientIP remoteAddr header' trustedProxies) := by
  have named : peerTrusted remoteAddr trustedProxies = true → ∀ header addr, ',' ∉ header →
      parseAddr header.trimSpace = some addr →
        requestClientIP remoteAddr header trustedProxies = addr.unmap.string := by
    intro trusted header addr single parses
    have forwarded := forwardedClientIP_of_parse single parses
    rw [requestClientIP_eq, forwarded, if_pos ⟨trusted, addr.unmap.string_ne_nil⟩]
  have first : ∀ sent rest, requestClientIP remoteAddr (sent ++ ',' :: rest) trustedProxies =
      requestClientIP remoteAddr sent trustedProxies := by
    intro sent rest
    rw [requestClientIP_eq, requestClientIP_eq, forwardedClientIP_append]
  have ignored : peerTrusted remoteAddr trustedProxies = false → ∀ header header',
      requestClientIP remoteAddr header trustedProxies =
        requestClientIP remoteAddr header' trustedProxies := by
    intro untrusted header header'
    rw [requestClientIP_eq, requestClientIP_eq, untrusted]
    rfl
  refine ⟨fun rest => ⟨fun same => ?_, fun untrusted sent sent' => ignored untrusted _ _⟩,
    ignored, first, named, rateLimitKey_received_iff req⟩
  -- Two clients that send different addresses are told apart behind a trusted peer.
  refine Bool.eq_false_iff.mpr fun trusted => ?_
  have two := same "1.1.1.1".toList "2.2.2.2".toList
  rw [first, first, named trusted "1.1.1.1".toList ⟨false, 0x01010101, []⟩ (by decide)
    (by decide +kernel), named trusted "2.2.2.2".toList ⟨false, 0x02020202, []⟩ (by decide)
      (by decide +kernel)] at two
  exact absurd two (by decide +kernel)

/-- Behind a proxy in `10.0.0.0/8` that appends the address of its client, a client changes its
address by what it sends. -/
theorem spoofedHeader_counts : peerTrusted "10.0.0.1:443" [⟨⟨false, 0x0a000000, []⟩, 8⟩] = true ∧
    requestClientIP "10.0.0.1:443" "1.1.1.1, 203.0.113.9" [⟨⟨false, 0x0a000000, []⟩, 8⟩] =
    "1.1.1.1".toList ∧
    requestClientIP "10.0.0.1:443" "2.2.2.2, 203.0.113.9" [⟨⟨false, 0x0a000000, []⟩, 8⟩] =
      "2.2.2.2".toList := by
  decide +kernel

end Results

end AnoPki.Httpapi
