import Rclweb.Library.Url

/-!
# Where a client connects to

`init` and `connect` are given a host, a host with a port, or a URL, and choose a URL and a
transport: WebTransport for a remote host on the default ports, WebSocket for loopback and for
ports of their own.  A page that is no secure context may not use WebTransport.

Texts are lists of characters.  The URL parser is the one of `Library.Url`; white space is that of
`trim`, and host names are in print, so that lower case is that of letters.
-/

namespace Rclweb

inductive GatewayTransport where
  | websocket
  | webtransport
  deriving DecidableEq, Repr

structure GatewayRuntime where
  webTransport : Bool
  secureContext : Bool
  deriving DecidableEq, Repr

/-- **A URL and a transport.**  The note is set when WebSocket is used instead of WebTransport. -/
structure ResolvedGatewayConnect where
  url : List Char
  transport : GatewayTransport
  note : Option String
  deriving DecidableEq, Repr

/-- What `resolveGatewayConnect` throws. -/
inductive GatewayUrlError where
  | empty
  | invalidUrl
  | intranetQuicRequiresSecureContext
  | webTransportUnavailable
  deriving DecidableEq, Repr

namespace GatewayUrl

open Url

def defaultHttpPort : ℕ := 8794
def defaultWebTransportPort : ℕ := 4433

def noWebTransportApiNote : String :=
  "WebTransport (QUIC) is not available in this runtime. Using WebSocket. Use Chromium with " ++
    "this page at http://127.0.0.1 for QUIC, or pass \x7b transport: \"websocket\" \x7d to " ++
    "silence this."

/-- The white space that `trim` removes. -/
def isWhitespace (c : Char) : Bool :=
  let n := c.toNat
  decide (9 ≤ n ∧ n ≤ 13) || n == 0x20 || n == 0xA0 || n == 0x1680 ||
    decide (0x2000 ≤ n ∧ n ≤ 0x200A) || n == 0x2028 || n == 0x2029 || n == 0x202F || n == 0x205F ||
    n == 0x3000 || n == 0xFEFF

def trim (text : List Char) : List Char := (text.dropWhile isWhitespace).rdropWhile isWhitespace

/-- `/^[a-zA-Z][a-zA-Z0-9+.-]*:/`. -/
def looksLikeScheme (text : List Char) : Bool :=
  text.head?.any Char.isAlpha && (text.dropWhile isSchemeChar).head? == some ':'

/-- `new URL(text)`. -/
def newUrl (parts : UrlParts) (text : List Char) : Except GatewayUrlError Url :=
  match Url.parse parts text with
  | some u => .ok u
  | none => .error .invalidUrl

def parseGatewayInput (parts : UrlParts) (raw : List Char) : Except GatewayUrlError Url :=
  let trimmed := trim raw
  if trimmed = [] then .error .empty
  else if looksLikeScheme trimmed then newUrl parts trimmed
  else if trimmed.head? ≠ some '[' ∧ ':' ∈ trimmed ∧ 2 < trimmed.count ':' + 1 then
    newUrl parts ("http://[".toList ++ trimmed ++ "]".toList)
  else newUrl parts ("http://".toList ++ trimmed)

def wsPath (u : Url) : List Char :=
  if u.pathname = [] ∨ u.pathname = "/".toList then "/ws".toList else u.pathname ++ u.search

def asWebSocketUrl (u : Url) : List Char :=
  if u.scheme = .ws ∨ u.scheme = .wss then u.href
  else if u.scheme = .https then
    let port := u.port.getD 443
    if port = defaultWebTransportPort then
      "ws://".toList ++ withPort u.hostname (some defaultHttpPort) ++ "/ws".toList
    else
      let host := if port = 443 then u.hostname else withPort u.hostname u.port
      "wss://".toList ++ host ++ wsPath u
  else
    "ws://".toList ++ withPort u.hostname (some (u.port.getD defaultHttpPort)) ++ wsPath u

def asWebTransportUrl (u : Url) : List Char :=
  if u.scheme = .https then
    let path := if u.pathname = [] ∨ u.pathname = "/".toList then "/".toList else u.pathname
    "https://".toList ++ u.host ++ path
  else "https://".toList ++ withPort u.hostname (some defaultWebTransportPort) ++ "/".toList

/-- The port 80 of `http:` and `ws:` is never in a URL. -/
def defaultHttpOrWtPort (port : Option ℕ) : Bool :=
  port == none || port == some defaultHttpPort || port == some defaultWebTransportPort ||
    port == some 80

/-- A host without its brackets. -/
def stripBrackets (host : List Char) : List Char :=
  let host := if host.head? = some '[' then host.tail else host
  if host.getLast? = some ']' then host.dropLast else host

/-- Loopback talks to the process on this machine. -/
def isLoopbackHost (hostname : List Char) : Bool :=
  let host := stripBrackets (hostname.map Char.toLower)
  host == "localhost".toList || host == "127.0.0.1".toList || host == "::1".toList

def impliesIntranetWebTransport (u : Url) : Bool :=
  if u.scheme = .wss then false
  else if u.scheme = .https then true
  else if isLoopbackHost u.hostname then false
  else if u.scheme = .ws ∨ u.scheme = .http then defaultHttpOrWtPort u.port
  else false

def canUseWebTransport (runtime : GatewayRuntime) : Bool :=
  runtime.webTransport && runtime.secureContext

/-- What is thrown for a transport that the runtime does not offer. -/
def refuseUnlessWebTransport (runtime : GatewayRuntime) : GatewayUrlError :=
  if runtime.webTransport && !runtime.secureContext then .intranetQuicRequiresSecureContext
  else .webTransportUnavailable

/-- **Resolve the input of `init` and `connect`** to a URL and a transport. -/
def resolveGatewayConnect (parts : UrlParts) (input : List Char)
    (explicit : Option GatewayTransport) (runtime : GatewayRuntime) :
    Except GatewayUrlError ResolvedGatewayConnect := do
  let parsed ← parseGatewayInput parts input
  let canWt := canUseWebTransport runtime
  if explicit = some .websocket then return ⟨asWebSocketUrl parsed, .websocket, none⟩
  else if explicit = some .webtransport then
    if canWt then return ⟨asWebTransportUrl parsed, .webtransport, none⟩
    else throw (refuseUnlessWebTransport runtime)
  else if impliesIntranetWebTransport parsed then
    if canWt then return ⟨asWebTransportUrl parsed, .webtransport, none⟩
    else if runtime.webTransport && !runtime.secureContext then
      throw .intranetQuicRequiresSecureContext
    else return ⟨asWebSocketUrl parsed, .websocket, some noWebTransportApiNote⟩
  else return ⟨asWebSocketUrl parsed, .websocket, none⟩

/-! ## The transport -/

/-- **WebTransport is asked for**, or the input implies it in a runtime that has it. -/
def Quic (implied : Bool) (explicit : Option GatewayTransport) (runtime : GatewayRuntime) : Prop :=
  explicit = some .webtransport ∨ explicit = none ∧ implied = true ∧ runtime.webTransport = true

instance (implied : Bool) (explicit : Option GatewayTransport) (runtime : GatewayRuntime) :
    Decidable (Quic implied explicit runtime) := inferInstanceAs (Decidable (_ ∨ _))

/-- What is chosen for an input: WebTransport where it may be used, else WebSocket. -/
theorem choice_of_resolve {parts : UrlParts} {input : List Char}
    {explicit : Option GatewayTransport} {runtime : GatewayRuntime} {u : Url}
    (hparse : parseGatewayInput parts input = .ok u) {result : ResolvedGatewayConnect}
    (h : resolveGatewayConnect parts input explicit runtime = .ok result) :
    if Quic (impliesIntranetWebTransport u) explicit runtime then
      canUseWebTransport runtime = true ∧ result.transport = .webtransport ∧
        result.url = asWebTransportUrl u
    else result.transport = .websocket ∧ result.url = asWebSocketUrl u := by
  rw [resolveGatewayConnect, hparse] at h
  obtain ⟨webTransport, secureContext⟩ := runtime
  rcases explicit with - | - | - <;> cases himplied : impliesIntranetWebTransport u <;>
    cases webTransport <;> cases secureContext <;>
    simp_all [Quic, canUseWebTransport, bind, Except.bind, pure, Except.pure] <;> subst h <;> simp

/-- Where WebTransport may be used or is not wanted there is a result. -/
theorem exists_resolve {parts : UrlParts} {input : List Char} (explicit : Option GatewayTransport)
    (runtime : GatewayRuntime) {u : Url} (hparse : parseGatewayInput parts input = .ok u)
    (h : Quic (impliesIntranetWebTransport u) explicit runtime →
      canUseWebTransport runtime = true) :
    ∃ result, resolveGatewayConnect parts input explicit runtime = .ok result := by
  rw [resolveGatewayConnect, hparse]
  obtain ⟨webTransport, secureContext⟩ := runtime
  rcases explicit with - | - | - <;> cases himplied : impliesIntranetWebTransport u <;>
    cases webTransport <;> cases secureContext <;>
    simp_all [Quic, canUseWebTransport, bind, Except.bind, pure, Except.pure]

/-- A URL that was resolved is asked for again with its transport. -/
theorem resolve_explicit {parts : UrlParts} {input : List Char} {runtime : GatewayRuntime} {u : Url}
    (hparse : parseGatewayInput parts input = .ok u) {transport : GatewayTransport}
    (h : transport = .webtransport → canUseWebTransport runtime = true) :
    resolveGatewayConnect parts input (some transport) runtime =
      .ok ⟨match transport with
        | .websocket => asWebSocketUrl u
        | .webtransport => asWebTransportUrl u, transport, none⟩ := by
  rw [resolveGatewayConnect, hparse]
  cases transport with
  | websocket => rfl
  | webtransport =>
    have hcan := h rfl
    simp [hcan, bind, Except.bind, pure, Except.pure]

end GatewayUrl
end Rclweb
