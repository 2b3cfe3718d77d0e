import Mathlib
import Rclweb.Client.GatewayUrl

/-!
# Gateway addresses

A client that is given a host and perhaps a port should come to that host and that port.  Two slips
stand in the way.  A name with a port reads like a URL whose scheme is the name, and so does an
IPv6 address that begins with a letter; and the URL parser drops port 80 of `http:`, so that the
client takes the gateway's own port.  `gateway_connects_iff` says that nothing else does.
-/

namespace Rclweb
namespace GatewayUrl

open Url

variable {std : UrlStandard}

/-! ## The URLs that are chosen -/

/-- The path of a WebSocket URL, and its query. -/
def wsTail (u : Url) : List Char × List Char :=
  if u.pathname = "/".toList then ("/ws".toList, []) else (u.pathname, u.search)

/-- The URL whose serialization `asWebSocketUrl` writes. -/
def toWebSocket (u : Url) : Url :=
  if u.scheme = .ws ∨ u.scheme = .wss then u
  else if u.scheme = .https then
    if u.port = some defaultWebTransportPort then
      ⟨.ws, [], u.hostname, some defaultHttpPort, "/ws".toList, [], []⟩
    else ⟨.wss, [], u.hostname, u.port, (wsTail u).1, (wsTail u).2, []⟩
  else
    ⟨.ws, [], u.hostname, some (u.port.getD defaultHttpPort), (wsTail u).1, (wsTail u).2, []⟩

/-- The URL whose serialization `asWebTransportUrl` writes. -/
def toWebTransport (u : Url) : Url :=
  if u.scheme = .https then ⟨.https, [], u.hostname, u.port, u.pathname, [], []⟩
  else ⟨.https, [], u.hostname, some defaultWebTransportPort, "/".toList, [], []⟩

theorem hostname_toWebSocket (u : Url) : (toWebSocket u).hostname = u.hostname := by
  unfold toWebSocket
  split_ifs <;> rfl

theorem hostname_toWebTransport (u : Url) : (toWebTransport u).hostname = u.hostname := by
  unfold toWebTransport
  split_ifs <;> rfl

/-- A name behind a slash is a path. -/
theorem tail_ws (std : UrlStandard) : std.tail "/ws".toList = ("/ws".toList, [], []) :=
  std.tail_name "ws".toList (List.all_iff_forall_prop.mp (by decide))

theorem tail_root (std : UrlStandard) : std.tail "/".toList = ("/".toList, [], []) :=
  std.tail_name [] nofun

theorem normal_of_tail {scheme : UrlScheme} {hostname pathname query : List Char} {port : Option ℕ}
    (hscheme : scheme.isWeb = true) (hhost : std.host hostname = some hostname)
    (hport : ∀ n ∈ port, n ≤ 65535 ∧ scheme.defaultPort ≠ some n)
    (htail : std.tail (pathname ++ query) = (pathname, query, [])) :
    Normal std ⟨scheme, [], hostname, port, pathname, query, []⟩ where
  web := hscheme
  userinfo := rfl
  host := hhost
  port_le := fun n hn => (hport n hn).1
  port_ne := fun n hn => (hport n hn).2
  path := by
    have hslash := std.tail_slash (pathname ++ query)
    rwa [htail] at hslash
  visible := by
    have hvisible := std.tail_printable (pathname ++ query)
    rwa [htail] at hvisible
  tail := by rwa [List.append_nil]

theorem tail_wsTail {u : Url} (h : Normal std u) :
    std.tail ((wsTail u).1 ++ (wsTail u).2) = ((wsTail u).1, (wsTail u).2, []) := by
  have hquery := std.tail_query (u.pathname ++ u.query ++ u.fragment)
  have hpath := std.tail_path (u.pathname ++ u.query ++ u.fragment)
  rw [h.tail] at hquery hpath
  rw [wsTail]
  split_ifs
  · exact tail_ws std
  · rw [search]
    split_ifs
    · rw [List.append_nil]
      exact hpath
    · exact hquery

theorem normal_toWebSocket {u : Url} (h : Normal std u) (hftp : u.scheme = .ftp → u.port = none) :
    Normal std (toWebSocket u) := by
  unfold toWebSocket
  split_ifs with hws hhttps hport
  · exact h
  · refine normal_of_tail rfl h.host ?_ (tail_ws std)
    rintro n ⟨⟩
    decide
  · refine normal_of_tail rfl h.host (fun n hn => ⟨h.port_le n hn, ?_⟩) (tail_wsTail h)
    have hne := h.port_ne n hn
    rwa [hhttps] at hne
  · refine normal_of_tail rfl h.host (fun n hn => ?_) (tail_wsTail h)
    obtain rfl := Option.some.inj hn
    cases hport : u.port with
    | none => decide
    | some k =>
      refine ⟨h.port_le k hport, ?_⟩
      have hne := h.port_ne k hport
      have hweb := h.web
      cases hscheme : u.scheme with
      | http => rwa [hscheme] at hne
      | ftp => rw [hftp hscheme] at hport; cases hport
      | https => exact absurd hscheme hhttps
      | ws => exact absurd (.inl hscheme) hws
      | wss => exact absurd (.inr hscheme) hws
      | file => rw [hscheme] at hweb; cases hweb
      | other name => rw [hscheme] at hweb; cases hweb

theorem normal_toWebTransport {u : Url} (h : Normal std u) : Normal std (toWebTransport u) := by
  unfold toWebTransport
  split_ifs with hhttps
  · refine normal_of_tail rfl h.host (fun n hn => ⟨h.port_le n hn, ?_⟩) ?_
    · have hne := h.port_ne n hn
      rwa [hhttps] at hne
    · have hpath := std.tail_path (u.pathname ++ u.query ++ u.fragment)
      rw [List.append_nil]
      rwa [h.tail] at hpath
  · refine normal_of_tail rfl h.host ?_ (tail_root std)
    rintro n ⟨⟩
    decide

theorem pathname_ne_nil {u : Url} (h : Normal std u) : u.pathname ≠ [] := by
  intro hnil
  have hpath := h.path
  rw [hnil] at hpath
  cases hpath

theorem wsPath_eq {u : Url} (h : Normal std u) : wsPath u = (wsTail u).1 ++ (wsTail u).2 := by
  rw [wsPath, wsTail]
  simp only [pathname_ne_nil h, false_or]
  split_ifs <;> rfl

/-- A serialization without fragment, from its parts. -/
theorem href_mk (scheme : UrlScheme) (hostname pathname query : List Char) (port : Option ℕ) :
    href ⟨scheme, [], hostname, port, pathname, query, []⟩ =
      scheme.name ++ "://".toList ++ withPort hostname port ++ (pathname ++ query) := by
  rw [href, Url.host, List.append_nil, List.append_nil, List.append_assoc _ pathname]

theorem asWebSocketUrl_eq {u : Url} (h : Normal std u) :
    asWebSocketUrl u = (toWebSocket u).href := by
  unfold asWebSocketUrl toWebSocket
  by_cases hws : u.scheme = .ws ∨ u.scheme = .wss
  · rw [if_pos hws, if_pos hws]
  rw [if_neg hws, if_neg hws, wsPath_eq h]
  by_cases hhttps : u.scheme = .https
  · rw [if_pos hhttps, if_pos hhttps]
    cases hport : u.port with
    | none =>
      rw [if_neg (show (none : Option ℕ).getD 443 ≠ defaultWebTransportPort by decide),
        if_neg (show (none : Option ℕ) ≠ some defaultWebTransportPort by decide), href_mk]
      rfl
    | some k =>
      have hne : (443 : ℕ) ≠ k := by
        have hdefault := h.port_ne k hport
        rw [hhttps] at hdefault
        exact fun heq => hdefault (congrArg some heq)
      by_cases hk : k = defaultWebTransportPort
      · rw [if_pos (show (some k).getD 443 = defaultWebTransportPort from hk),
          if_pos (congrArg some hk), href_mk]
        rfl
      · rw [if_neg (show (some k).getD 443 ≠ defaultWebTransportPort from hk),
          if_neg fun heq => hk (Option.some.inj heq), href_mk]
        dsimp only
        rw [if_neg (show (some k).getD 443 ≠ 443 from hne.symm)]
        rfl
  · rw [if_neg hhttps, if_neg hhttps, href_mk]
    rfl

theorem asWebTransportUrl_eq {u : Url} (h : Normal std u) :
    asWebTransportUrl u = (toWebTransport u).href := by
  unfold asWebTransportUrl toWebTransport
  by_cases hhttps : u.scheme = .https
  · rw [if_pos hhttps, if_pos hhttps, href_mk, List.append_nil]
    simp only [pathname_ne_nil h, false_or]
    by_cases hroot : u.pathname = "/".toList
    · rw [if_pos hroot, hroot]
      rfl
    · rw [if_neg hroot]
      rfl
  · rw [if_neg hhttps, if_neg hhttps, href_mk]
    rfl

/-! ## Texts that are taken as they stand -/

theorem trim_append {front : List Char} (hne : front ≠ [])
    (h : ∀ c ∈ front, isWhitespace c = false) (tail : List Char) :
    trim (front ++ tail) = front ++ tail.rdropWhile isWhitespace := by
  rw [trim, dropWhile_append_of_neg hne h, rdropWhile_append_of_neg h]

theorem trim_eq_self {text : List Char} (hne : text ≠ [])
    (h : ∀ c ∈ text, isWhitespace c = false) : trim text = text := by
  have happend := trim_append hne h []
  rwa [List.append_nil, List.rdropWhile_nil, List.append_nil] at happend

theorem isWhitespace_of_isPrintable {c : Char} (h : isPrintable c = true) :
    isWhitespace c = false := by
  rw [isPrintable, Bool.and_eq_true, decide_eq_true_iff, decide_eq_true_iff] at h
  have hlo : 33 ≤ c.toNat := h.1
  have hhi : c.toNat ≤ 126 := h.2
  rw [isWhitespace]
  generalize c.toNat = n at hlo hhi
  rw [Bool.eq_false_iff]
  simp only [ne_eq, Bool.or_eq_true, decide_eq_true_eq, beq_iff_eq]
  omega

theorem looksLikeScheme_web {scheme : UrlScheme} (h : scheme.isWeb = true) (rest : List Char) :
    looksLikeScheme (scheme.name ++ "://".toList ++ rest) = true := by
  cases scheme with
  | http => rfl
  | https => rfl
  | ws => rfl
  | wss => rfl
  | ftp => rfl
  | file => cases h
  | other name => cases h

/-- **A serialization is taken as the URL it is.** -/
theorem parseGatewayInput_href {u : Url} (h : Normal std u) :
    parseGatewayInput std.toUrlParts u.href = .ok u := by
  have hshape : u.href =
      u.scheme.name ++ "://".toList ++
        (u.userinfo ++ u.host ++ u.pathname ++ u.query ++ u.fragment) := by
    rw [href]
    simp only [List.append_assoc]
  have hne : u.href ≠ [] := by
    rw [hshape]
    simp
  have htrim : trim u.href = u.href :=
    trim_eq_self hne fun c hc => isWhitespace_of_isPrintable (h.isPrintable_href c hc)
  have hlooks : looksLikeScheme u.href = true := by
    rw [hshape]
    exact looksLikeScheme_web h.web _
  rw [parseGatewayInput, htrim, if_neg hne, if_pos hlooks, newUrl, h.parse_href]

/-! ## A result is resolved to itself -/

/-- What is resolved once is resolved to itself. -/
theorem asWebSocketUrl_toWebSocket {u : Url} :
    asWebSocketUrl (toWebSocket u) = (toWebSocket u).href := by
  have hscheme : (toWebSocket u).scheme = .ws ∨ (toWebSocket u).scheme = .wss := by
    unfold toWebSocket
    split_ifs with hws
    · exact hws
    · exact .inl rfl
    · exact .inr rfl
    · exact .inl rfl
  exact if_pos hscheme

theorem asWebTransportUrl_toWebTransport {u : Url} (h : Normal std u) :
    asWebTransportUrl (toWebTransport u) = (toWebTransport u).href := by
  rw [asWebTransportUrl_eq (normal_toWebTransport h)]
  congr 1
  unfold toWebTransport
  by_cases hhttps : u.scheme = .https
  · rw [if_pos hhttps, if_pos rfl]
  · rw [if_neg hhttps, if_pos rfl]

/-! ## Inputs -/

/-- Characters of a DNS name or an IPv4 address: any but those that end a host, and white space. -/
def IsNameChar (c : Char) : Prop :=
  endsAuthority c = false ∧ c ≠ '@' ∧ c ≠ ':' ∧ c ≠ '[' ∧ c ≠ ']' ∧ isBlank c = false ∧
    isWhitespace c = false

/-- Characters of an IPv6 address. -/
def IsAddressChar (c : Char) : Prop :=
  c.isDigit = true ∨ c ∈ "abcdefABCDEF".toList ∨ c = ':' ∨ c = '.'

/-- **A host**: a name, or an IPv6 address with or without its brackets, that the URL parser knows
under its host name. -/
inductive GatewayHost (std : UrlStandard) where
  | name (text hostname : List Char) (hne : text ≠ []) (htext : ∀ c ∈ text, IsNameChar c)
    (hhost : std.host text = some hostname)
  | address (bracketed : Bool) (text hostname : List Char)
    (htext : ∀ c ∈ text, IsAddressChar c) (hcolons : 2 ≤ text.count ':')
    (hhost : std.host ('[' :: (text ++ [']'])) = some hostname)

namespace GatewayHost

def text : GatewayHost std → List Char
  | name text _ _ _ _ => text
  | address bracketed text _ _ _ _ => if bracketed then '[' :: (text ++ [']']) else text

def hostname : GatewayHost std → List Char
  | name _ hostname _ _ _ => hostname
  | address _ _ hostname _ _ _ => hostname

end GatewayHost

/-- A port that a server may have. -/
abbrev Port : Type := { n : ℕ // 1 ≤ n ∧ n ≤ 65535 }

/-- The schemes of gateways. -/
abbrev GatewayScheme : Type := { scheme : UrlScheme // scheme ∈ [.http, .https, .ws, .wss] }

/-- **What a client may be given.** -/
inductive GatewayInput (std : UrlStandard) where
  | host (h : GatewayHost std)
  | hostPort (h : GatewayHost std) (port : Port)
  | url (scheme : GatewayScheme) (h : GatewayHost std) (port : Option Port)
    (path : Option (List Char))

namespace GatewayInput

def text : GatewayInput std → List Char
  | host h => h.text
  | hostPort h port => withPort h.text (some port.1)
  | url scheme h port path =>
    address scheme.1 h.text (port.map Subtype.val) ((path.map ('/' :: ·)).getD [])

def hostname : GatewayInput std → List Char
  | host h | hostPort h _ | url _ h _ _ => h.hostname

/-- The port that is asked for; the one of WebTransport stands for that of WebSocket. -/
def port : GatewayInput std → Option ℕ
  | host _ => none
  | hostPort _ port => some port.1
  | url scheme _ port _ => port.map fun p =>
    if scheme.1 = .https ∧ p.1 = defaultWebTransportPort then defaultHttpPort else p.1

end GatewayInput

/-- **The client connects to what it was given**: whatever is returned is a URL with the host name,
a WebSocket has the port, and the result resolves to itself. -/
def Connects (input : GatewayInput std) (explicit : Option GatewayTransport)
    (runtime : GatewayRuntime) : Prop :=
  ∀ result, resolveGatewayConnect std.toUrlParts input.text explicit runtime = .ok result →
    (∃ u, Url.parse std.toUrlParts result.url = some u ∧ u.hostname = input.hostname ∧
      (result.transport = .websocket → ∀ n ∈ input.port, u.effectivePort = some n)) ∧
    ∃ note, resolveGatewayConnect std.toUrlParts result.url (some result.transport) runtime =
      .ok ⟨result.url, result.transport, note⟩

/-- **A result for a normal URL** parses with its host name, and is resolved to itself. -/
theorem result_of_normal {input : List Char} {explicit : Option GatewayTransport}
    {runtime : GatewayRuntime} {u : Url} (hparse : parseGatewayInput std.toUrlParts input = .ok u)
    (h : Normal std u) (hftp : u.scheme = .ftp → u.port = none) {result : ResolvedGatewayConnect}
    (hresult : resolveGatewayConnect std.toUrlParts input explicit runtime = .ok result) :
    ∃ v, Url.parse std.toUrlParts result.url = some v ∧ v.hostname = u.hostname ∧
      (result.transport = .websocket → v = toWebSocket u) ∧
      ∃ note, resolveGatewayConnect std.toUrlParts result.url (some result.transport) runtime =
        .ok ⟨result.url, result.transport, note⟩ := by
  have hchoice := choice_of_resolve hparse hresult
  obtain ⟨url, transport, note⟩ := result
  split_ifs at hchoice with hquic
  · obtain ⟨hcan, rfl, rfl⟩ := hchoice
    have hnormal := normal_toWebTransport h
    rw [asWebTransportUrl_eq h]
    refine ⟨_, hnormal.parse_href, hostname_toWebTransport u, nofun, none, ?_⟩
    rw [resolve_explicit (parseGatewayInput_href hnormal) fun _ => hcan]
    dsimp only
    rw [asWebTransportUrl_toWebTransport h]
  · obtain ⟨rfl, rfl⟩ := hchoice
    have hnormal := normal_toWebSocket h hftp
    rw [asWebSocketUrl_eq h]
    refine ⟨_, hnormal.parse_href, hostname_toWebSocket u, fun _ => rfl, none, ?_⟩
    have hnever : GatewayTransport.websocket = .webtransport →
        canUseWebTransport runtime = true := nofun
    rw [resolve_explicit (parseGatewayInput_href hnormal) hnever]
    dsimp only
    rw [asWebSocketUrl_toWebSocket]

variable (std) in
/-- A URL without a host makes none with one. -/
theorem parse_of_no_hostname {u : Url} (hhost : u.hostname = []) (hport : u.port = none)
    (hweb : u.scheme.isWeb = false)
    (hpath : ∀ c ∈ u.pathname ++ u.query, isBlank c = false ∧ c ≠ '@') :
    Url.parse std.toUrlParts (asWebSocketUrl u) = none ∧
      Url.parse std.toUrlParts (asWebTransportUrl u) = none := by
  have hscheme : u.scheme ≠ .ws ∧ u.scheme ≠ .wss ∧ u.scheme ≠ .https := by
    refine ⟨?_, ?_, ?_⟩ <;>
    · intro heq
      rw [heq] at hweb
      cases hweb
  have hpathname : ∀ c ∈ wsPath u, isBlank c = false ∧ c ≠ '@' := by
    rw [wsPath]
    split_ifs
    · exact List.all_iff_forall_prop.mp (by decide)
    · intro c hc
      refine hpath c ?_
      rw [search] at hc
      split_ifs at hc
      · rw [List.append_nil] at hc
        exact List.mem_append_left _ hc
      · exact hc
  refine ⟨?_, ?_⟩
  · have hshape : asWebSocketUrl u =
        UrlScheme.ws.name ++ "://".toList ++ ':' :: (digits defaultHttpPort ++ wsPath u) := by
      unfold asWebSocketUrl
      rw [if_neg (not_or.mpr ⟨hscheme.1, hscheme.2.1⟩), if_neg hscheme.2.2, hhost, hport]
      rfl
    rw [hshape]
    refine parse_of_no_host rfl (List.forall_mem_append.mpr ⟨fun c hc => ?_, hpathname⟩)
    exact ⟨(plain_of_mem_digits hc).2.2, (plain_of_mem_digits hc).2.1⟩
  · have hshape : asWebTransportUrl u =
        UrlScheme.https.name ++ "://".toList ++
          ':' :: (digits defaultWebTransportPort ++ ['/']) := by
      unfold asWebTransportUrl
      rw [if_neg hscheme.2.2, hhost]
      rfl
    rw [hshape]
    exact parse_of_no_host rfl (List.all_iff_forall_prop.mp (by decide))

/-! ## What is read -/

theorem IsAddressChar.isAlphanum_or {c : Char} (h : IsAddressChar c) :
    c.isAlphanum = true ∨ c = ':' ∨ c = '.' := by
  rcases h with hdigit | hhex | hcolon | hdot
  · exact .inl (by rw [Char.isAlphanum, hdigit, Bool.or_true])
  · have hletters : ∀ c ∈ "abcdefABCDEF".toList, c.isAlphanum = true :=
      List.all_iff_forall_prop.mp (by decide)
    exact .inl (hletters c hhex)
  · exact .inr (.inl hcolon)
  · exact .inr (.inr hdot)

theorem IsAddressChar.plain {c : Char} (h : IsAddressChar c) :
    (endsAuthority c = false ∧ c ≠ '@' ∧ isBlank c = false) ∧ c ≠ '[' ∧ c ≠ ']' ∧
      isWhitespace c = false := by
  rcases h.isAlphanum_or with halnum | rfl | rfl
  · refine ⟨plain_of_isAlphanum halnum, ?_, ?_,
      isWhitespace_of_isPrintable (isPrintable_of_isAlphanum halnum)⟩
    · rintro rfl
      cases halnum
    · rintro rfl
      cases halnum
  · decide
  · decide

variable (std) in
/-- A text that looks like a URL is parsed as one. -/
theorem parseGatewayInput_of_looks {text : List Char} (hlooks : looksLikeScheme text = true)
    (hspace : ∀ c ∈ text, isWhitespace c = false ∧ isBlank c = false) :
    ∃ front rest, text = front ++ ':' :: rest ∧ (∀ c ∈ front, isSchemeChar c = true) ∧
      parseGatewayInput std.toUrlParts text =
        match (if (UrlScheme.ofName (front.map Char.toLower)).isWeb then
          parseWeb std.toUrlParts (.ofName (front.map Char.toLower)) rest
          else std.other (.ofName (front.map Char.toLower)) rest) with
        | some u => .ok u
        | none => .error .invalidUrl := by
  have hsplit := hlooks
  rw [looksLikeScheme, Bool.and_eq_true, beq_iff_eq] at hsplit
  obtain ⟨halpha, hcolon⟩ := hsplit
  obtain ⟨rest, hrest⟩ := List.head?_eq_some_iff.mp hcolon
  have hne : text ≠ [] := by
    rintro rfl
    cases hcolon
  have htext : text = text.takeWhile isSchemeChar ++ ':' :: rest := by
    rw [← hrest, List.takeWhile_append_dropWhile]
  have hclean : clean text = text := by
    have happend := clean_append hne (fun c hc => (hspace c hc).2) []
    rwa [List.append_nil, show cleanEnd [] = [] from rfl, List.append_nil] at happend
  have hscheme : splitScheme text =
      some (.ofName ((text.takeWhile isSchemeChar).map Char.toLower), rest) := by
    rw [splitScheme, hrest]
    exact if_pos halpha
  refine ⟨_, rest, htext, fun c hc => List.mem_takeWhile_imp hc, ?_⟩
  rw [parseGatewayInput, trim_eq_self hne fun c hc => (hspace c hc).1, if_neg hne, if_pos hlooks,
    newUrl, Url.parse, hclean, hscheme]
  rfl

/-- The four bytes of a port that is read as an address. -/
def numberHost (n : ℕ) : List Char := "0.0.".toList ++ digits (n / 256) ++ '.' :: digits (n % 256)

theorem isHost_digits (n : ℕ) : IsHost (digits n) := by
  refine ⟨digits_ne_nil n, fun c hc => plain_of_mem_digits hc, .inl fun c hc => ?_⟩
  have hdigit := isDigit_of_mem_digits hc
  refine ⟨?_, ?_, ?_⟩ <;>
  · rintro rfl
    cases hdigit

/-- What stands in front of the first colon. -/
theorem append_colon_inj {front front' rest rest' : List Char} (h : ':' ∉ front)
    (h' : ':' ∉ front') (heq : front ++ ':' :: rest = front' ++ ':' :: rest') :
    front = front' ∧ rest = rest' := by
  induction front generalizing front' with
  | nil =>
    cases front' with
    | nil => exact ⟨rfl, (List.cons.inj heq).2⟩
    | cons c front' =>
      rw [(List.cons.inj heq).1] at h'
      exact absurd List.mem_cons_self h'
  | cons c front ih =>
    cases front' with
    | nil =>
      rw [← (List.cons.inj heq).1] at h
      exact absurd List.mem_cons_self h
    | cons c' front' =>
      obtain ⟨rfl, htail⟩ := List.cons.inj heq
      obtain ⟨rfl, hrest⟩ := ih (fun hc => h (List.mem_cons_of_mem _ hc))
        (fun hc => h' (List.mem_cons_of_mem _ hc)) htail
      exact ⟨rfl, hrest⟩

variable (std) in
/-- **A name with a port** that looks like a URL: the name is its scheme, and the port its path or
its host. -/
theorem parseGatewayInput_of_name {text : List Char} {n : ℕ} (hn : n ≤ 65535)
    (htext : ∀ c ∈ text, IsNameChar c)
    (hlooks : looksLikeScheme (withPort text (some n)) = true) :
    ∃ u, parseGatewayInput std.toUrlParts (withPort text (some n)) = .ok u ∧
      u.scheme = .ofName (text.map Char.toLower) ∧ u.port = none ∧
      (u.scheme.isWeb = false ∧ u.hostname = [] ∧
          (∀ c ∈ u.pathname ++ u.query, isBlank c = false ∧ c ≠ '@') ∨
        u.hostname = numberHost n ∧ Normal std u) := by
  have hspace : ∀ c ∈ withPort text (some n), isWhitespace c = false ∧ isBlank c = false := by
    refine List.forall_mem_append.mpr ⟨fun c hc => ?_, List.forall_mem_cons.mpr ⟨⟨rfl, rfl⟩, ?_⟩⟩
    · obtain ⟨-, -, -, -, -, hblank, hspace⟩ := htext c hc
      exact ⟨hspace, hblank⟩
    · intro c hc
      refine ⟨isWhitespace_of_isPrintable (isPrintable_of_isAlphanum ?_),
        (plain_of_mem_digits hc).2.2⟩
      rw [Char.isAlphanum, isDigit_of_mem_digits hc, Bool.or_true]
  obtain ⟨front, rest, heq, hfront, hparse⟩ := parseGatewayInput_of_looks std hlooks hspace
  obtain ⟨rfl, rfl⟩ := append_colon_inj (fun hmem => (htext ':' hmem).2.2.1 rfl)
    (fun hmem => by cases hfront ':' hmem) heq
  rw [hparse]
  generalize hscheme : UrlScheme.ofName (text.map Char.toLower) = scheme
  cases hweb : scheme.isWeb with
  | true =>
    have hhost : parseWeb std.toUrlParts scheme (digits n) =
        some (made std scheme (numberHost n) none []) := by
      have hport : ∀ m ∈ (none : Option ℕ), m ≤ 65535 := by simp
      have hslashes : ∀ c ∈ ([] : List Char), isSlash c = true :=
        List.forall_mem_nil _
      have hparts := parseWeb_of_host std scheme (isHost_digits n) hport isTail_nil hslashes
      rw [std.host_number n hn] at hparts
      rwa [List.append_nil, List.nil_append] at hparts
    rw [if_pos rfl, hhost]
    refine ⟨_, rfl, rfl, rfl, .inr ⟨rfl, ?_⟩⟩
    have hport : ∀ m ∈ (none : Option ℕ), m ≤ 65535 := by simp
    exact normal_made std hweb (std.host_number n hn) hport []
  | false =>
    rw [if_neg Bool.false_ne_true]
    cases scheme with
    | file =>
      rw [std.other_file]
      refine ⟨_, rfl, rfl, rfl, .inl ⟨hweb, rfl, ?_⟩⟩
      rw [List.append_nil]
      exact List.forall_mem_cons.mpr ⟨by decide, fun c hc =>
        ⟨(plain_of_mem_digits hc).2.2, (plain_of_mem_digits hc).2.1⟩⟩
    | other name =>
      rw [std.other_plain fun c hc => .inl (by
        rw [Char.isAlphanum, isDigit_of_mem_digits hc, Bool.or_true])]
      refine ⟨_, rfl, rfl, rfl, .inl ⟨hweb, rfl, ?_⟩⟩
      rw [List.append_nil]
      exact fun c hc => ⟨(plain_of_mem_digits hc).2.2, (plain_of_mem_digits hc).2.1⟩
    | http => cases hweb
    | https => cases hweb
    | ws => cases hweb
    | wss => cases hweb
    | ftp => cases hweb

/-- **Nothing is returned**: WebTransport is called for and may not be used. -/
def Refused (implied : Bool) (explicit : Option GatewayTransport) (runtime : GatewayRuntime) :
    Prop := Quic implied explicit runtime ∧ canUseWebTransport runtime = false

/-- A name that, as a scheme, calls for WebTransport. -/
def nameImplies (name : List Char) : Bool :=
  let scheme := UrlScheme.ofName (name.map Char.toLower)
  scheme == .http || scheme == .https || scheme == .ws

theorem no_result_iff {input : List Char} {explicit : Option GatewayTransport}
    {runtime : GatewayRuntime} {u : Url} (hparse : parseGatewayInput std.toUrlParts input = .ok u) :
    (∀ result, resolveGatewayConnect std.toUrlParts input explicit runtime ≠ .ok result) ↔
      Refused (impliesIntranetWebTransport u) explicit runtime := by
  constructor
  · intro hnone
    have hneeds : ¬(Quic (impliesIntranetWebTransport u) explicit runtime →
        canUseWebTransport runtime = true) := by
      intro hcan
      obtain ⟨result, hresult⟩ := exists_resolve explicit runtime hparse hcan
      exact hnone result hresult
    rw [Classical.not_imp, Bool.not_eq_true] at hneeds
    exact hneeds
  · rintro ⟨hquic, hcannot⟩ result hresult
    have hchoice := choice_of_resolve hparse hresult
    rw [if_pos hquic, hcannot] at hchoice
    cases hchoice.1

/-- An input that is misread is refused, or the client does not connect. -/
theorem connects_iff_refused (input : GatewayInput std) {explicit : Option GatewayTransport}
    {runtime : GatewayRuntime} {u : Url}
    (hparse : parseGatewayInput std.toUrlParts input.text = .ok u)
    (hwrong : ∀ result, resolveGatewayConnect std.toUrlParts input.text explicit runtime =
      .ok result → ∀ v, Url.parse std.toUrlParts result.url = some v →
        v.hostname ≠ input.hostname) :
    Connects input explicit runtime ↔
      Refused (impliesIntranetWebTransport u) explicit runtime := by
  rw [← no_result_iff hparse]
  constructor
  · intro hconnects result hresult
    obtain ⟨⟨v, hv, hhost, -⟩, -⟩ := hconnects result hresult
    exact hwrong result hresult v hv hhost
  · intro hnone result hresult
    exact absurd hresult (hnone result)

/-- A URL without a host is no result. -/
theorem parse_of_result_of_no_hostname {input : List Char} {explicit : Option GatewayTransport}
    {runtime : GatewayRuntime} {u : Url} (hparse : parseGatewayInput std.toUrlParts input = .ok u)
    (hhost : u.hostname = []) (hport : u.port = none) (hweb : u.scheme.isWeb = false)
    (hpath : ∀ c ∈ u.pathname ++ u.query, isBlank c = false ∧ c ≠ '@')
    {result : ResolvedGatewayConnect}
    (hresult : resolveGatewayConnect std.toUrlParts input explicit runtime = .ok result) :
    Url.parse std.toUrlParts result.url = none := by
  obtain ⟨hws, hwt⟩ := parse_of_no_hostname std hhost hport hweb hpath
  have hchoice := choice_of_resolve hparse hresult
  split_ifs at hchoice
  · rw [hchoice.2.2]
    exact hwt
  · rw [hchoice.2]
    exact hws

theorem isAlpha_name {scheme : UrlScheme} (h : scheme.isWeb = true) :
    ∀ c ∈ scheme.name, c.isAlpha = true := by
  cases scheme with
  | http => exact List.all_iff_forall_prop.mp (by decide)
  | https => exact List.all_iff_forall_prop.mp (by decide)
  | ws => exact List.all_iff_forall_prop.mp (by decide)
  | wss => exact List.all_iff_forall_prop.mp (by decide)
  | ftp => exact List.all_iff_forall_prop.mp (by decide)
  | file => cases h
  | other name => cases h

/-- The name of a web scheme is its own host name. -/
theorem hostname_of_scheme {text hostname : List Char} (hne : text ≠ [])
    (hhost : std.host text = some hostname)
    (hweb : (UrlScheme.ofName (text.map Char.toLower)).isWeb = true) :
    hostname = text.map Char.toLower ∧ ∀ c ∈ hostname, c.isAlpha = true := by
  have hname := UrlScheme.name_ofName (text.map Char.toLower)
  have hletters := isAlpha_name hweb
  rw [hname] at hletters
  have halpha : ∀ c ∈ text, c.isAlpha = true :=
    fun c hc => c.isAlpha_toLower_eq_isAlpha ▸ hletters _ (List.mem_map_of_mem hc)
  obtain rfl := Option.some.inj (hhost.symm.trans (std.host_letters hne halpha))
  exact ⟨rfl, hletters⟩

theorem isLoopbackHost_numberHost (n : ℕ) : isLoopbackHost (numberHost n) = false := by
  obtain ⟨rest, hrest⟩ : ∃ rest, (numberHost n).map Char.toLower = '0' :: '.' :: rest := ⟨_, rfl⟩
  have hhead : (stripBrackets ('0' :: '.' :: rest)).head? = some '0' := by
    have hopen : ¬('0' :: '.' :: rest).head? = some '[' := nofun
    rw [stripBrackets, if_neg hopen]
    split_ifs
    · rfl
    · rfl
  rw [isLoopbackHost, hrest]
  generalize stripBrackets ('0' :: '.' :: rest) = host at hhead
  rw [Bool.eq_false_iff]
  intro hloop
  simp only [Bool.or_eq_true, beq_iff_eq] at hloop
  rcases hloop with (rfl | rfl) | rfl <;> cases hhead

theorem impliesIntranetWebTransport_of_no_port {u : Url} (hport : u.port = none)
    (hloop : u.scheme.isWeb = true → isLoopbackHost u.hostname = false) :
    impliesIntranetWebTransport u =
      (u.scheme == .http || u.scheme == .https || u.scheme == .ws) := by
  unfold impliesIntranetWebTransport
  cases hscheme : u.scheme with
  | http => simp [hloop (by rw [hscheme]; rfl), hport, defaultHttpOrWtPort]
  | https => simp
  | ws => simp [hloop (by rw [hscheme]; rfl), hport, defaultHttpOrWtPort]
  | wss => simp
  | ftp => simp
  | file => simp
  | other name => simp

/-- **A name that is misread with its port** does not connect. -/
theorem connects_iff_of_name {text hostname : List Char} {hne : text ≠ []}
    {htext : ∀ c ∈ text, IsNameChar c} {hhost : std.host text = some hostname} {port : Port}
    {explicit : Option GatewayTransport} {runtime : GatewayRuntime}
    (hlooks : looksLikeScheme (withPort text (some port.1)) = true) :
    Connects (.hostPort (.name text hostname hne htext hhost) port) explicit runtime ↔
      Refused (nameImplies text) explicit runtime := by
  obtain ⟨u, hparse, hu, hport, hcases⟩ :=
    parseGatewayInput_of_name std port.2.2 htext hlooks
  have himplies : impliesIntranetWebTransport u = nameImplies text := by
    rw [nameImplies, ← hu]
    refine impliesIntranetWebTransport_of_no_port hport fun hweb => ?_
    rcases hcases with ⟨hnot, -, -⟩ | ⟨hnumber, -⟩
    · rw [hweb] at hnot
      cases hnot
    · rw [hnumber]
      exact isLoopbackHost_numberHost port.1
  rw [connects_iff_refused _ hparse, himplies]
  intro result hresult v hv
  rcases hcases with ⟨hweb, hempty, hpath⟩ | ⟨hnumber, hnormal⟩
  · rw [parse_of_result_of_no_hostname hparse hempty hport hweb hpath hresult] at hv
    cases hv
  · obtain ⟨v', hv', hhostname, -⟩ := result_of_normal hparse hnormal (fun _ => hport) hresult
    obtain rfl := Option.some.inj (hv.symm.trans hv')
    rw [hhostname, hnumber]
    intro heq
    have hweb := hnormal.web
    rw [hu] at hweb
    have hletters := (hostname_of_scheme hne hhost hweb).2
    have hzero : '0' ∈ hostname := by
      rw [show hostname = numberHost port.1 from heq.symm]
      exact List.mem_cons_self
    cases hletters '0' hzero

/-- The host parser on names of letters, on numbers, and on numbers with dots. -/
def sampleHost (text : List Char) : Option (List Char) :=
  if text = [] then none
  else if text.all Char.isAlpha then some (text.map Char.toLower)
  else if text.all Char.isDigit then
    if Nat.ofDigitChars 10 text 0 ≤ 65535 then some (numberHost (Nat.ofDigitChars 10 text 0))
    else none
  else if text.all fun c => c.isDigit || c == '.' then some text
  else none

/-- A path of slashes and letters is as it stands. -/
def sampleTail (text : List Char) : List Char :=
  if text.head? = some '/' ∧ text.all fun c => c.isAlpha || c == '/' then text else ['/']

theorem chars_numberHost {n : ℕ} : ∀ c ∈ numberHost n, c.isDigit = true ∨ c = '.' := by
  have hzero : ∀ c ∈ "0.0.".toList, c.isDigit = true ∨ c = '.' :=
    List.all_iff_forall_prop.mp (by decide)
  intro c hc
  rcases List.mem_append.mp hc with hc | hc
  · rcases List.mem_append.mp hc with hc | hc
    · exact hzero c hc
    · exact .inl (isDigit_of_mem_digits hc)
  · rcases List.mem_cons.mp hc with rfl | hc
    · exact .inr rfl
    · exact .inl (isDigit_of_mem_digits hc)

theorem sampleHost_letters {text : List Char} (hne : text ≠ []) (h : ∀ c ∈ text, c.isAlpha = true) :
    sampleHost text = some (text.map Char.toLower) := by
  rw [sampleHost, if_neg hne, if_pos (List.all_eq_true.mpr h)]

theorem not_all_isAlpha {text : List Char} {c : Char} (hc : c ∈ text) (h : c.isAlpha = false) :
    ¬text.all Char.isAlpha = true := by
  intro hall
  rw [List.all_eq_true.mp hall c hc] at h
  cases h

theorem isAlpha_of_isDigit {c : Char} (h : c.isDigit = true) : c.isAlpha = false := by
  rw [Char.isDigit, Bool.and_eq_true, decide_eq_true_iff, decide_eq_true_iff] at h
  have hhi : c.toNat ≤ 57 := h.2
  rw [Bool.eq_false_iff]
  intro halpha
  simp only [Char.isAlpha, Char.isUpper, Char.isLower, Bool.or_eq_true, Bool.and_eq_true,
    decide_eq_true_eq] at halpha
  rcases halpha with ⟨hlo, -⟩ | ⟨hlo, -⟩
  · have hlo : 65 ≤ c.toNat := hlo
    omega
  · have hlo : 97 ≤ c.toNat := hlo
    omega

theorem sampleHost_digits {n : ℕ} (h : n ≤ 65535) :
    sampleHost (digits n) = some (numberHost n) := by
  obtain ⟨c, hc⟩ := List.exists_mem_of_ne_nil _ (digits_ne_nil n)
  have hvalue : Nat.ofDigitChars 10 (digits n) 0 = n := Nat.ofDigitChars_ten_toDigits
  rw [sampleHost, if_neg (digits_ne_nil n),
    if_neg (not_all_isAlpha hc (isAlpha_of_isDigit (isDigit_of_mem_digits hc))),
    if_pos (List.all_eq_true.mpr fun c hc => isDigit_of_mem_digits hc), hvalue, if_pos h]

/-- Numbers with dots are as they stand. -/
theorem sampleHost_dotted {text : List Char} (hdot : '.' ∈ text)
    (h : ∀ c ∈ text, c.isDigit = true ∨ c = '.') : sampleHost text = some text := by
  have hdigits : ¬text.all Char.isDigit = true := by
    intro hall
    cases List.all_eq_true.mp hall '.' hdot
  have hall : (text.all fun c => c.isDigit || c == '.') = true := by
    refine List.all_eq_true.mpr fun c hc => ?_
    rw [Bool.or_eq_true, beq_iff_eq]
    exact h c hc
  rw [sampleHost, if_neg (List.ne_nil_of_mem hdot), if_neg (not_all_isAlpha hdot rfl),
    if_neg hdigits, if_pos hall]

/-- What the host parser knows: names of letters, and numbers with dots. -/
theorem sampleHost_cases {text s : List Char} (h : sampleHost text = some s) :
    (s ≠ [] ∧ (∀ c ∈ s, c.isAlpha = true) ∧ s.map Char.toLower = s) ∨
      '.' ∈ s ∧ ∀ c ∈ s, c.isDigit = true ∨ c = '.' := by
  unfold sampleHost at h
  split_ifs at h with hne halpha hdigit hle hdotted
  · obtain rfl := Option.some.inj h
    refine .inl ⟨fun hnil => hne (List.map_eq_nil_iff.mp hnil), fun c hc => ?_, ?_⟩
    · obtain ⟨d, hd, rfl⟩ := List.mem_map.mp hc
      rw [Char.isAlpha_toLower_eq_isAlpha]
      exact List.all_eq_true.mp halpha d hd
    · rw [List.map_map]
      exact List.map_congr_left fun c _ => c.toLower_toLower_eq_toLower
  · obtain rfl := Option.some.inj h
    refine .inr ⟨List.mem_append_right _ List.mem_cons_self, chars_numberHost⟩
  · obtain rfl := Option.some.inj h
    have hchars : ∀ c ∈ text, c.isDigit = true ∨ c = '.' := by
      intro c hc
      have hc := List.all_eq_true.mp hdotted c hc
      rwa [Bool.or_eq_true, beq_iff_eq] at hc
    refine .inr ⟨?_, hchars⟩
    by_contra hdot
    refine hdigit (List.all_eq_true.mpr fun c hc => ?_)
    rcases hchars c hc with hc' | rfl
    · exact hc'
    · exact absurd hc hdot

theorem isAlphanum_or_of_sampleHost {text s : List Char} (h : sampleHost text = some s) :
    s ≠ [] ∧ ∀ c ∈ s, c.isAlphanum = true ∨ c = '.' := by
  rcases sampleHost_cases h with ⟨hne, halpha, -⟩ | ⟨hdot, hchars⟩
  · exact ⟨hne, fun c hc => .inl (by rw [Char.isAlphanum, halpha c hc, Bool.true_or])⟩
  · refine ⟨List.ne_nil_of_mem hdot, fun c hc => (hchars c hc).imp_left fun hdigit => ?_⟩
    rw [Char.isAlphanum, hdigit, Bool.or_true]

theorem sampleTail_cases (text : List Char) : (sampleTail text).head? = some '/' ∧
    (∀ c ∈ sampleTail text, c.isAlpha = true ∨ c = '/') ∧
    sampleTail (sampleTail text) = sampleTail text := by
  by_cases h : text.head? = some '/' ∧ (text.all fun c => c.isAlpha || c == '/') = true
  · have hsame : sampleTail text = text := if_pos h
    rw [hsame, hsame]
    refine ⟨h.1, fun c hc => ?_, rfl⟩
    have hc := List.all_eq_true.mp h.2 c hc
    rwa [Bool.or_eq_true, beq_iff_eq] at hc
  · have hroot : sampleTail text = ['/'] := if_neg h
    have hchars : ∀ c ∈ ['/'], c.isAlpha = true ∨ c = '/' :=
      List.all_iff_forall_prop.mp (by decide)
    rw [hroot]
    exact ⟨rfl, hchars, rfl⟩

/-- A standard with the hosts and the paths of the example. -/
def sampleStandard : UrlStandard where
  host := sampleHost
  tail := fun text => (sampleTail text, [], [])
  userinfo := fun _ => []
  other := fun scheme rest =>
    match scheme with
    | .file => some ⟨.file, [], [], none, '/' :: rest, [], []⟩
    | .other name => some ⟨.other name, [], [], none, rest, [], []⟩
    | _ => none
  host_isHost := by
    intro text s h
    obtain ⟨hne, hchars⟩ := isAlphanum_or_of_sampleHost h
    refine ⟨hne, fun c hc => ?_, .inl fun c hc => ?_⟩
    · rcases hchars c hc with halnum | rfl
      · exact plain_of_isAlphanum halnum
      · decide
    · rcases hchars c hc with halnum | rfl
      · refine ⟨?_, ?_, ?_⟩ <;>
        · rintro rfl
          cases halnum
      · decide
  host_printable := by
    intro text s h c hc
    rcases (isAlphanum_or_of_sampleHost h).2 c hc with halnum | rfl
    · exact isPrintable_of_isAlphanum halnum
    · rfl
  host_again := by
    intro text s h
    rcases sampleHost_cases h with ⟨hne, halpha, hlower⟩ | ⟨hdot, hchars⟩
    · rw [sampleHost_letters hne halpha, hlower]
    · exact sampleHost_dotted hdot hchars
  host_letters := sampleHost_letters
  host_number := fun _ h => sampleHost_digits h
  host_longer := by
    intro address s s' n _ h _
    have hbracket : sampleHost ('[' :: (address ++ [']'])) = none := by
      have hdotted : ¬(('[' :: (address ++ [']'])).all fun c => c.isDigit || c == '.') = true :=
        nofun
      rw [sampleHost, if_neg (List.cons_ne_nil _ _), if_neg nofun, if_neg nofun, if_neg hdotted]
    rw [hbracket] at h
    cases h
  userinfo_nil := rfl
  tail_slash := fun text => (sampleTail_cases text).1
  tail_printable := by
    intro text c hc
    rw [List.append_nil, List.append_nil] at hc
    rcases (sampleTail_cases text).2.1 c hc with halpha | rfl
    · exact isPrintable_of_isAlphanum (by rw [Char.isAlphanum, halpha, Bool.true_or])
    · rfl
  tail_again := by
    intro text
    rw [List.append_nil, List.append_nil, (sampleTail_cases text).2.2]
  tail_query := by
    intro text
    rw [List.append_nil, (sampleTail_cases text).2.2]
  tail_path := by
    intro text
    rw [(sampleTail_cases text).2.2]
  tail_name := by
    intro name h
    have hall : (('/' :: name).all fun c => c.isAlpha || c == '/') = true := by
      refine List.all_eq_true.mpr (List.forall_mem_cons.mpr ⟨rfl, fun c hc => ?_⟩)
      rw [h c hc, Bool.true_or]
    have hsame : sampleTail ('/' :: name) = '/' :: name := if_pos ⟨rfl, hall⟩
    rw [hsame]
  other_plain := fun _ => rfl
  other_file := rfl

theorem isNameChar_of_isAlpha {c : Char} (h : c.isAlpha = true) : IsNameChar c := by
  have halnum : c.isAlphanum = true := by rw [Char.isAlphanum, h, Bool.true_or]
  obtain ⟨hends, hat, hblank⟩ := plain_of_isAlphanum halnum
  refine ⟨hends, hat, ?_, ?_, ?_, hblank,
    isWhitespace_of_isPrintable (isPrintable_of_isAlphanum halnum)⟩ <;>
  · rintro rfl
    cases h

/-- The host `robot`. -/
def robot : GatewayHost sampleStandard :=
  .name "robot".toList "robot".toList (by decide)
    (fun c hc => isNameChar_of_isAlpha
      (List.all_eq_true.mp (show "robot".toList.all Char.isAlpha = true by decide) c hc))
    (by decide)

/-- **A robot with the port of its gateway** is not reached. -/
theorem not_connects_of_robot :
    ¬∀ (input : GatewayInput sampleStandard) (explicit : Option GatewayTransport)
      (runtime : GatewayRuntime), Connects input explicit runtime := by
  intro hall
  have hlooks : looksLikeScheme (withPort "robot".toList (some 8794)) = true := by decide
  have hconnects := hall (.hostPort robot ⟨8794, by decide⟩) none ⟨true, true⟩
  cases ((connects_iff_of_name hlooks).mp hconnects).2

end GatewayUrl
end Rclweb
