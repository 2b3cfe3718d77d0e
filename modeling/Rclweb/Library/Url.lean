import Mathlib.Data.Bool.AllAny
import Mathlib.Data.List.DropRight

/-!
# Absolute URLs

The parser of the URL standard on texts that stand on their own, as far as the address of a
server needs it: the scheme, the authority with its host and its port, and the serialization.  What
a host is, how a path is normalized, and URLs of other schemes are not written out.  They are the
parts of a `UrlStandard`, with the laws of the standard about them.

A *normal* URL is one that the parser has made of a web address; its serialization parses to the
same URL (`parse_href`).  An `address` is a text with a scheme, a host and perhaps a port in front
of its path, and `parse_address` tells what becomes of it.
-/

namespace Rclweb

/-- The schemes that the parser knows. -/
inductive UrlScheme where
  | http
  | https
  | ws
  | wss
  | ftp
  | file
  | other (name : List Char)
  deriving DecidableEq, Repr

namespace UrlScheme

def name : UrlScheme → List Char
  | http => "http".toList
  | https => "https".toList
  | ws => "ws".toList
  | wss => "wss".toList
  | ftp => "ftp".toList
  | file => "file".toList
  | other name => name

def ofName (name : List Char) : UrlScheme :=
  if name = "http".toList then http
  else if name = "https".toList then https
  else if name = "ws".toList then ws
  else if name = "wss".toList then wss
  else if name = "ftp".toList then ftp
  else if name = "file".toList then file
  else other name

theorem name_ofName (text : List Char) : (ofName text).name = text := by
  unfold ofName
  split_ifs with h h h h h h
  all_goals first
    | exact h.symm
    | rfl

/-- A scheme whose URLs have a host. -/
def isWeb : UrlScheme → Bool
  | http | https | ws | wss | ftp => true
  | file | other _ => false

def defaultPort : UrlScheme → Option ℕ
  | http | ws => some 80
  | https | wss => some 443
  | ftp => some 21
  | file | other _ => none

/-- A port as a URL has it. -/
def portOf (scheme : UrlScheme) (n : ℕ) : Option ℕ :=
  if scheme.defaultPort = some n then none else some n

end UrlScheme

/-- **A URL**, taken apart.  The port is `none` where it is the default one; a query and a fragment
have their mark in front, when they are there. -/
structure Url where
  scheme : UrlScheme
  userinfo : List Char
  hostname : List Char
  port : Option ℕ
  pathname : List Char
  query : List Char
  fragment : List Char
  deriving DecidableEq, Repr

namespace Url

/-! ## Characters -/

def isSchemeChar (c : Char) : Bool := c.isAlphanum || c == '+' || c == '-' || c == '.'

def isSlash (c : Char) : Bool := c == '/' || c == '\\'

/-- The characters behind an authority. -/
def endsAuthority (c : Char) : Bool := isSlash c || c == '?' || c == '#'

/-- C0 controls and the space. -/
def isBlank (c : Char) : Bool := decide (c ≤ ' ')

def isBreak (c : Char) : Bool := c == '\t' || c == '\n' || c == '\r'

/-- The characters of a serialization. -/
def isPrintable (c : Char) : Bool := decide ('!' ≤ c) && decide (c ≤ '~')

/-- Decimal digits. -/
def digits (n : ℕ) : List Char := Nat.toDigits 10 n

/-! ## The parser -/

/-- Blanks around a text are no part of it, nor are tabs and line breaks in it. -/
def clean (text : List Char) : List Char :=
  ((text.dropWhile isBlank).rdropWhile isBlank).filter (!isBreak ·)

/-- A scheme, and what follows its colon. -/
def splitScheme (text : List Char) : Option (UrlScheme × List Char) :=
  match text.dropWhile isSchemeChar with
  | ':' :: rest =>
    if text.head?.any Char.isAlpha then
      some (.ofName ((text.takeWhile isSchemeChar).map Char.toLower), rest)
    else none
  | _ => none

/-- A host, and what follows the colon behind it.  A colon in brackets is part of the host. -/
def splitHost : (inside : Bool) → List Char → List Char × List Char
  | _, [] => ([], [])
  | inside, c :: cs =>
    if c = ':' ∧ inside = false then ([], cs)
    else
      let parts := splitHost (if c = '[' then true else if c = ']' then false else inside) cs
      (c :: parts.1, parts.2)

def readPort (scheme : UrlScheme) (text : List Char) : Option (Option ℕ) :=
  if text = [] then some none
  else if text.all Char.isDigit then
    let n := Nat.ofDigitChars 10 text 0
    if 65535 < n then none else some (scheme.portOf n)
  else none

end Url

/-- **What the parser rests on**: its host parser with the host serializer, the states for a path, a
query and a fragment, credentials, and URLs of the schemes that are no web schemes. -/
structure UrlParts where
  host : List Char → Option (List Char)
  tail : List Char → List Char × List Char × List Char
  userinfo : List Char → List Char
  other : UrlScheme → List Char → Option Url

namespace Url

/-- The rest of a web URL behind the colon of its scheme. -/
def parseWeb (parts : UrlParts) (scheme : UrlScheme) (text : List Char) : Option Url :=
  let text := text.dropWhile isSlash
  let authority := text.takeWhile (!endsAuthority ·)
  let tail := parts.tail (text.dropWhile (!endsAuthority ·))
  let host := splitHost false (authority.rtakeWhile (· != '@'))
  if host.1 = [] then none
  else do
    let hostname ← parts.host host.1
    let port ← readPort scheme host.2
    return {
      scheme, hostname, port
      userinfo := parts.userinfo (authority.rdropWhile (· != '@'))
      pathname := tail.1
      query := tail.2.1
      fragment := tail.2.2 }

/-- **The parser**, on a text without a base URL. -/
def parse (parts : UrlParts) (text : List Char) : Option Url := do
  let (scheme, rest) ← splitScheme (clean text)
  if scheme.isWeb then parseWeb parts scheme rest else parts.other scheme rest

/-! ## The serializer -/

/-- A host and its port. -/
def withPort (host : List Char) : Option ℕ → List Char
  | none => host
  | some n => host ++ ':' :: digits n

def host (u : Url) : List Char := withPort u.hostname u.port

/-- The serialization of a URL with a host. -/
def href (u : Url) : List Char :=
  u.scheme.name ++ "://".toList ++ u.userinfo ++ u.host ++ u.pathname ++ u.query ++ u.fragment

/-- `search`: a query that is only its mark is none. -/
def search (u : Url) : List Char := if u.query = ['?'] then [] else u.query

/-- The port that is connected to. -/
def effectivePort (u : Url) : Option ℕ := u.port.or u.scheme.defaultPort

/-! ## Hosts -/

/-- **A text that is a host**, of a web URL: a name, which has neither colon nor bracket, or an
address in brackets. -/
structure IsHost (text : List Char) : Prop where
  nonempty : text ≠ []
  plain : ∀ c ∈ text, endsAuthority c = false ∧ c ≠ '@' ∧ isBlank c = false
  shape : (∀ c ∈ text, c ≠ ':' ∧ c ≠ '[' ∧ c ≠ ']') ∨
    ∃ address, text = '[' :: (address ++ [']']) ∧ ∀ c ∈ address, c ≠ '[' ∧ c ≠ ']'

end Url

/-- **The laws of the standard.** -/
structure UrlStandard extends UrlParts where
  /-- A host that was parsed is a host in print, and is parsed to itself. -/
  host_isHost {text s : List Char} (h : host text = some s) : Url.IsHost s
  host_printable {text s : List Char} (h : host text = some s) : ∀ c ∈ s, Url.isPrintable c = true
  host_again {text s : List Char} (h : host text = some s) : host s = some s
  /-- Letters are a name. -/
  host_letters {text : List Char} (hne : text ≠ []) (h : ∀ c ∈ text, c.isAlpha = true) :
    host text = some (text.map Char.toLower)
  /-- A number is the address that it is in four bytes. -/
  host_number (n : ℕ) (h : n ≤ 65535) :
    host (Url.digits n) =
      some ("0.0.".toList ++ Url.digits (n / 256) ++ '.' :: Url.digits (n % 256))
  /-- A longer address is another one. -/
  host_longer {address s s' : List Char} {n : ℕ} (hn : n ≠ 0)
    (h : host ('[' :: (address ++ [']'])) = some s)
    (h' : host ('[' :: (address ++ ':' :: Url.digits n ++ [']'])) = some s') : s' ≠ s
  userinfo_nil : userinfo [] = []
  /-- A path begins with a slash and is in print; what was parsed is parsed to itself, and what
  stands in front of a query or a fragment is parsed alone to the same. -/
  tail_slash (text : List Char) : (tail text).1.head? = some '/'
  tail_printable (text : List Char) :
    ∀ c ∈ (tail text).1 ++ (tail text).2.1 ++ (tail text).2.2, Url.isPrintable c = true
  tail_again (text : List Char) :
    tail ((tail text).1 ++ (tail text).2.1 ++ (tail text).2.2) = tail text
  tail_query (text : List Char) :
    tail ((tail text).1 ++ (tail text).2.1) = ((tail text).1, (tail text).2.1, [])
  tail_path (text : List Char) : tail (tail text).1 = ((tail text).1, [], [])
  /-- One name is a path of its own. -/
  tail_name (name : List Char) (h : ∀ c ∈ name, c.isAlpha = true) :
    tail ('/' :: name) = ('/' :: name, [], [])
  /-- A text without slashes behind another scheme is all path. -/
  other_plain {name rest : List Char}
    (h : ∀ c ∈ rest, c.isAlphanum = true ∨ c = ':' ∨ c = '.') :
    other (.other name) rest = some ⟨.other name, [], [], none, rest, [], []⟩
  other_file {n : ℕ} :
    other .file (Url.digits n) = some ⟨.file, [], [], none, '/' :: Url.digits n, [], []⟩

namespace Url

/-! ## What the parser makes of an address -/

/-- **The text of a web address.** -/
def address (scheme : UrlScheme) (host : List Char) (port : Option ℕ) (tail : List Char) :
    List Char := scheme.name ++ "://".toList ++ withPort host port ++ tail

/-- A tail begins where an authority ends. -/
def IsTail (tail : List Char) : Prop := ∀ c ∈ tail.head?, endsAuthority c = true

theorem isTail_nil : IsTail [] := nofun

theorem splitScheme_web {scheme : UrlScheme} (h : scheme.isWeb = true) (rest : List Char) :
    splitScheme (scheme.name ++ ':' :: rest) = some (scheme, rest) := by
  cases scheme with
  | http => rfl
  | https => rfl
  | ws => rfl
  | wss => rfl
  | ftp => rfl
  | file => cases h
  | other name => cases h

theorem isDigit_of_mem_digits {n : ℕ} {c : Char} (h : c ∈ digits n) : c.isDigit = true :=
  Nat.isDigit_of_mem_toDigits (by decide) (by decide) h

theorem digits_ne_nil (n : ℕ) : digits n ≠ [] := Nat.toDigits_ne_nil

theorem readPort_digits (scheme : UrlScheme) {n : ℕ} (h : n ≤ 65535) :
    readPort scheme (digits n) = some (scheme.portOf n) := by
  have hall : (digits n).all Char.isDigit = true :=
    List.all_eq_true.mpr fun c hc => isDigit_of_mem_digits hc
  have hvalue : Nat.ofDigitChars 10 (digits n) 0 = n := Nat.ofDigitChars_ten_toDigits
  rw [readPort, if_neg (digits_ne_nil n), if_pos hall, hvalue]
  exact if_neg (by omega)

theorem splitHost_plain {text : List Char} (h : ∀ c ∈ text, c ≠ ':' ∧ c ≠ '[' ∧ c ≠ ']')
    (rest : List Char) : splitHost false (text ++ rest) =
      (text ++ (splitHost false rest).1, (splitHost false rest).2) := by
  induction text with
  | nil => rfl
  | cons c text ih =>
    obtain ⟨⟨hcolon, hopen, hclose⟩, htext⟩ := List.forall_mem_cons.mp h
    rw [List.cons_append, splitHost, if_neg fun hc => hcolon hc.1, if_neg hopen, if_neg hclose,
      ih htext]
    rfl

theorem splitHost_inside {text : List Char} (h : ∀ c ∈ text, c ≠ '[' ∧ c ≠ ']')
    (rest : List Char) : splitHost true (text ++ ']' :: rest) =
      (text ++ ']' :: (splitHost false rest).1, (splitHost false rest).2) := by
  induction text with
  | nil => rfl
  | cons c text ih =>
    obtain ⟨⟨hopen, hclose⟩, htext⟩ := List.forall_mem_cons.mp h
    rw [List.cons_append, splitHost, if_neg (by simp), if_neg hopen, if_neg hclose, ih htext]
    rfl

theorem IsHost.splitHost_append {text : List Char} (h : IsHost text) (rest : List Char) :
    splitHost false (text ++ rest) =
      (text ++ (splitHost false rest).1, (splitHost false rest).2) := by
  rcases h.shape with hplain | ⟨address, rfl, haddress⟩
  · exact splitHost_plain hplain rest
  · have hbrackets : '[' :: (address ++ [']']) ++ rest = '[' :: (address ++ ']' :: rest) := by
      rw [List.cons_append, List.append_assoc, List.singleton_append]
    rw [hbrackets, splitHost, if_neg (by simp), if_pos rfl, splitHost_inside haddress]
    simp only [List.cons_append, List.append_assoc, List.nil_append]

/-- **A host and its port are told apart.** -/
theorem IsHost.splitHost_withPort {text : List Char} (h : IsHost text) (port : Option ℕ) :
    splitHost false (withPort text port) = (text, (port.map digits).getD []) := by
  cases port with
  | none =>
    have hsplit := h.splitHost_append []
    rwa [List.append_nil, splitHost, List.append_nil] at hsplit
  | some n =>
    rw [withPort, h.splitHost_append, splitHost, if_pos ⟨rfl, rfl⟩, List.append_nil]
    rfl

theorem isAlphanum_iff {c : Char} : c.isAlphanum = true ↔
    ((c ≥ 'A' ∧ c ≤ 'Z') ∨ (c ≥ 'a' ∧ c ≤ 'z')) ∨ (c ≥ '0' ∧ c ≤ '9') := by
  delta Char.isAlphanum Char.isAlpha Char.isUpper Char.isLower Char.isDigit
  simp only [Bool.or_eq_true, Bool.and_eq_true, decide_eq_true_eq]
  rfl

theorem plain_of_isAlphanum {c : Char} (h : c.isAlphanum = true) :
    endsAuthority c = false ∧ c ≠ '@' ∧ isBlank c = false := by
  refine ⟨?_, ?_, ?_⟩
  · rw [Bool.eq_false_iff]
    intro hends
    simp only [endsAuthority, isSlash, Bool.or_eq_true, beq_iff_eq] at hends
    rcases hends with ((rfl | rfl) | rfl) | rfl <;> cases h
  · rintro rfl
    cases h
  · rw [Bool.eq_false_iff]
    intro hblank
    have hle : c.toNat ≤ 32 := of_decide_eq_true hblank
    rw [isAlphanum_iff] at h
    rcases h with (⟨h, -⟩ | ⟨h, -⟩) | ⟨h, -⟩
    · exact absurd (le_trans (show 65 ≤ c.toNat from h) hle) (by decide)
    · exact absurd (le_trans (show 97 ≤ c.toNat from h) hle) (by decide)
    · exact absurd (le_trans (show 48 ≤ c.toNat from h) hle) (by decide)

theorem plain_of_mem_digits {n : ℕ} {c : Char} (h : c ∈ digits n) :
    endsAuthority c = false ∧ c ≠ '@' ∧ isBlank c = false :=
  plain_of_isAlphanum (by rw [Char.isAlphanum, isDigit_of_mem_digits h, Bool.or_true])

theorem IsHost.plain_withPort {text : List Char} (h : IsHost text) (port : Option ℕ) :
    ∀ c ∈ withPort text port, endsAuthority c = false ∧ c ≠ '@' ∧ isBlank c = false := by
  cases port with
  | none => exact h.plain
  | some n =>
    intro c hc
    rcases List.mem_append.mp hc with hc | hc
    · exact h.plain c hc
    · rcases List.mem_cons.mp hc with rfl | hc
      · decide
      · exact plain_of_mem_digits hc

theorem span_authority {authority tail : List Char}
    (h : ∀ c ∈ authority, endsAuthority c = false) (htail : IsTail tail) :
    (authority ++ tail).takeWhile (!endsAuthority ·) = authority ∧
      (authority ++ tail).dropWhile (!endsAuthority ·) = tail := by
  have hpos : ∀ c ∈ authority, (!endsAuthority c) = true := by
    intro c hc
    rw [h c hc]
    rfl
  rw [List.takeWhile_append_of_pos hpos, List.dropWhile_append_of_pos hpos]
  cases tail with
  | nil => exact ⟨List.append_nil _, rfl⟩
  | cons c tail =>
    have hc : ¬ (!endsAuthority c) = true := by
      rw [htail c rfl]
      decide
    rw [List.takeWhile_cons_of_neg (p := fun c => !endsAuthority c) hc,
      List.dropWhile_cons_of_neg (p := fun c => !endsAuthority c) hc, List.append_nil]
    exact ⟨rfl, rfl⟩

theorem dropWhile_append_of_neg {p : Char → Bool} {front : List Char} (hne : front ≠ [])
    (h : ∀ c ∈ front, p c = false) (back : List Char) :
    (front ++ back).dropWhile p = front ++ back := by
  cases front with
  | nil => exact absurd rfl hne
  | cons c front =>
    exact List.dropWhile_cons_of_neg (by rw [h c List.mem_cons_self]; decide)

theorem withPort_ne_nil {text : List Char} (h : text ≠ []) (port : Option ℕ) :
    withPort text port ≠ [] := by
  cases port with
  | none => exact h
  | some n => exact List.append_ne_nil_of_left_ne_nil h _

variable {std : UrlStandard}

/-- The URL that the parts of an address make. -/
def made (std : UrlStandard) (scheme : UrlScheme) (hostname : List Char) (port : Option ℕ)
    (tail : List Char) : Url :=
  ⟨scheme, [], hostname, port.bind scheme.portOf, (std.tail tail).1, (std.tail tail).2.1,
    (std.tail tail).2.2⟩

variable (std) in
/-- **The authority of a web URL**, behind its slashes. -/
theorem parseWeb_of_host {text tail : List Char} {port : Option ℕ} (scheme : UrlScheme)
    (htext : IsHost text) (hport : ∀ n ∈ port, n ≤ 65535) (htail : IsTail tail)
    {slashes : List Char} (hslashes : ∀ c ∈ slashes, isSlash c = true) :
    parseWeb std.toUrlParts scheme (slashes ++ (withPort text port ++ tail)) =
      (std.host text).map (made std scheme · port tail) := by
  have hplain := htext.plain_withPort port
  have hdrop : (slashes ++ (withPort text port ++ tail)).dropWhile isSlash =
      withPort text port ++ tail := by
    rw [List.dropWhile_append_of_pos hslashes]
    refine dropWhile_append_of_neg (withPort_ne_nil htext.nonempty port) (fun c hc => ?_) tail
    have hends := (hplain c hc).1
    rw [endsAuthority, Bool.or_eq_false_iff, Bool.or_eq_false_iff] at hends
    exact hends.1.1
  obtain ⟨htake, hrest⟩ := span_authority (fun c hc => (hplain c hc).1) htail
  have hat : ∀ c ∈ withPort text port, (c != '@') = true :=
    fun c hc => bne_iff_ne.mpr (hplain c hc).2.1
  have huser : (withPort text port).rtakeWhile (· != '@') = withPort text port :=
    List.rtakeWhile_eq_self_iff.mpr hat
  have hnone : (withPort text port).rdropWhile (· != '@') = [] :=
    List.rdropWhile_eq_nil_iff.mpr hat
  have hread : readPort scheme ((port.map digits).getD []) =
      some (port.bind scheme.portOf) := by
    cases port with
    | none => rfl
    | some n => exact readPort_digits scheme (hport n rfl)
  rw [parseWeb]
  simp only [hdrop, htake, hrest, huser, hnone, htext.splitHost_withPort, hread, std.userinfo_nil,
    if_neg htext.nonempty]
  cases std.host text <;> rfl

/-- What is left of a text behind visible characters. -/
def cleanEnd (tail : List Char) : List Char :=
  (tail.rdropWhile isBlank).filter (!isBreak ·)

theorem rdropWhile_append_of_neg {p : Char → Bool} {front : List Char}
    (h : ∀ c ∈ front, p c = false) (back : List Char) :
    (front ++ back).rdropWhile p = front ++ back.rdropWhile p := by
  have hfront : front.reverse.dropWhile p = front.reverse := by
    rcases List.eq_nil_or_concat front with rfl | ⟨front, c, rfl⟩
    · rfl
    · have hc := h c (by simp)
      rw [List.concat_eq_append, List.reverse_append]
      exact List.dropWhile_cons_of_neg (by rw [hc]; decide)
  rw [List.rdropWhile, List.rdropWhile, List.reverse_append, List.dropWhile_append, hfront]
  split_ifs with hempty
  · rw [List.isEmpty_iff.mp hempty, List.reverse_reverse, List.reverse_nil, List.append_nil]
  · rw [List.reverse_append, List.reverse_reverse]

theorem isBreak_of_visible {c : Char} (h : isBlank c = false) : (!isBreak c) = true := by
  rw [Bool.not_eq_true', Bool.eq_false_iff]
  intro heq
  simp only [isBreak, Bool.or_eq_true, beq_iff_eq] at heq
  rcases heq with (rfl | rfl) | rfl <;> cases h

theorem cleanEnd_append {front : List Char} (h : ∀ c ∈ front, isBlank c = false)
    (tail : List Char) : cleanEnd (front ++ tail) = front ++ cleanEnd tail := by
  rw [cleanEnd, rdropWhile_append_of_neg h, List.filter_append,
    List.filter_eq_self.mpr fun c hc => isBreak_of_visible (h c hc)]
  rfl

theorem cleanEnd_of_visible {tail : List Char} (h : ∀ c ∈ tail, isBlank c = false) :
    cleanEnd tail = tail := by
  have happend := cleanEnd_append h []
  rwa [List.append_nil, show cleanEnd [] = [] from rfl, List.append_nil] at happend

theorem clean_append {front : List Char} (hne : front ≠ []) (h : ∀ c ∈ front, isBlank c = false)
    (tail : List Char) : clean (front ++ tail) = front ++ cleanEnd tail := by
  rw [← cleanEnd_append h, cleanEnd, clean, dropWhile_append_of_neg hne h]

/-- A tail keeps its first character. -/
theorem IsTail.cleanEnd {tail : List Char} (h : IsTail tail) : IsTail (cleanEnd tail) := by
  cases tail with
  | nil => exact nofun
  | cons c tail =>
    have hvisible : ∀ d ∈ [c], isBlank d = false := by
      intro d hd
      rw [List.mem_singleton.mp hd]
      have hends := h c rfl
      simp only [endsAuthority, isSlash, Bool.or_eq_true, beq_iff_eq] at hends
      rcases hends with ((rfl | rfl) | rfl) | rfl <;> rfl
    rw [← List.singleton_append, cleanEnd_append hvisible]
    exact h

theorem isBlank_of_mem_name {scheme : UrlScheme} (h : scheme.isWeb = true) :
    ∀ c ∈ scheme.name ++ "://".toList, isBlank c = false := by
  cases scheme with
  | http => exact List.all_iff_forall_prop.mp (by decide)
  | https => exact List.all_iff_forall_prop.mp (by decide)
  | ws => exact List.all_iff_forall_prop.mp (by decide)
  | wss => exact List.all_iff_forall_prop.mp (by decide)
  | ftp => exact List.all_iff_forall_prop.mp (by decide)
  | file => cases h
  | other name => cases h

theorem isBlank_of_mem_address {scheme : UrlScheme} (hscheme : scheme.isWeb = true)
    {text : List Char} (htext : IsHost text) (port : Option ℕ) :
    ∀ c ∈ scheme.name ++ "://".toList ++ withPort text port, isBlank c = false := by
  intro c hc
  rcases List.mem_append.mp hc with hc | hc
  · exact isBlank_of_mem_name hscheme c hc
  · exact (htext.plain_withPort port c hc).2.2

/-- **What an address is parsed to.** -/
theorem parse_address {text tail : List Char} {port : Option ℕ} {scheme : UrlScheme}
    (hscheme : scheme.isWeb = true) (htext : IsHost text) (hport : ∀ n ∈ port, n ≤ 65535)
    (htail : IsTail tail) : parse std.toUrlParts (address scheme text port tail) =
      (std.host text).map (made std scheme · port (cleanEnd tail)) := by
  have hclean : clean (address scheme text port tail) =
      scheme.name ++ ':' :: ("//".toList ++ (withPort text port ++ cleanEnd tail)) := by
    rw [address, clean_append (by simp) (isBlank_of_mem_address hscheme htext port)]
    simp
  rw [parse, hclean, splitScheme_web hscheme, Option.bind_eq_bind, Option.bind_some]
  dsimp only
  rw [if_pos hscheme]
  exact parseWeb_of_host std scheme htext hport htail.cleanEnd
    (List.all_iff_forall_prop.mp (by decide))

/-! ## Normal URLs -/

/-- **A URL as the parser makes it** of a web address. -/
structure Normal (std : UrlStandard) (u : Url) : Prop where
  web : u.scheme.isWeb = true
  userinfo : u.userinfo = []
  host : std.host u.hostname = some u.hostname
  port_le : ∀ n ∈ u.port, n ≤ 65535
  port_ne : ∀ n ∈ u.port, u.scheme.defaultPort ≠ some n
  path : u.pathname.head? = some '/'
  visible : ∀ c ∈ u.pathname ++ u.query ++ u.fragment, isPrintable c = true
  tail : std.tail (u.pathname ++ u.query ++ u.fragment) = (u.pathname, u.query, u.fragment)

theorem isBlank_of_isPrintable {c : Char} (h : isPrintable c = true) : isBlank c = false := by
  rw [isPrintable, Bool.and_eq_true, decide_eq_true_iff] at h
  have hvisible : 33 ≤ c.toNat := h.1
  exact decide_eq_false fun hle => absurd (hvisible.trans (show c.toNat ≤ 32 from hle)) (by decide)

variable (std) in
/-- **What an address is parsed to is normal.** -/
theorem normal_made {text hostname : List Char} {port : Option ℕ} {scheme : UrlScheme}
    (hscheme : scheme.isWeb = true) (hhost : std.host text = some hostname)
    (hport : ∀ n ∈ port, n ≤ 65535) (tail : List Char) :
    Normal std (made std scheme hostname port tail) where
  web := hscheme
  userinfo := rfl
  host := std.host_again hhost
  port_le := by
    intro n hn
    obtain ⟨m, rfl, hm⟩ := Option.bind_eq_some_iff.mp hn
    rw [UrlScheme.portOf] at hm
    split_ifs at hm
    exact Option.some.inj hm ▸ hport m rfl
  port_ne := by
    intro n hn
    obtain ⟨m, rfl, hm⟩ := Option.bind_eq_some_iff.mp hn
    rw [UrlScheme.portOf] at hm
    split_ifs at hm with hdefault
    exact Option.some.inj hm ▸ hdefault
  path := std.tail_slash tail
  visible := std.tail_printable tail
  tail := std.tail_again tail

/-- **The serialization of a normal URL is parsed to it.** -/
theorem Normal.parse_href {u : Url} (h : Normal std u) : parse std.toUrlParts u.href = some u := by
  have htail : IsTail (u.pathname ++ u.query ++ u.fragment) := by
    obtain ⟨path, hpath⟩ := List.head?_eq_some_iff.mp h.path
    intro c hc
    rw [hpath] at hc
    obtain rfl := Option.some.inj hc
    rfl
  have hclean : cleanEnd (u.pathname ++ u.query ++ u.fragment) =
      u.pathname ++ u.query ++ u.fragment :=
    cleanEnd_of_visible fun c hc => isBlank_of_isPrintable (h.visible c hc)
  have hport : u.port.bind u.scheme.portOf = u.port := by
    cases hport : u.port with
    | none => rfl
    | some n => exact if_neg (h.port_ne n hport)
  have hhref : u.href =
      address u.scheme u.hostname u.port (u.pathname ++ u.query ++ u.fragment) := by
    rw [href, h.userinfo, List.append_nil, address, Url.host]
    simp only [List.append_assoc]
  rw [hhref, parse_address h.web (std.host_isHost h.host) h.port_le htail, hclean, h.host,
    Option.map_some, made, h.tail, hport]
  obtain ⟨scheme, userinfo, hostname, port, pathname, query, fragment⟩ := u
  obtain rfl := h.userinfo
  rfl

theorem isPrintable_of_isAlphanum {c : Char} (h : c.isAlphanum = true) : isPrintable c = true := by
  rw [isAlphanum_iff] at h
  have hrange : 33 ≤ c.toNat ∧ c.toNat ≤ 126 := by
    rcases h with (⟨hlo, hhi⟩ | ⟨hlo, hhi⟩) | ⟨hlo, hhi⟩
    · have hlo : 65 ≤ c.toNat := hlo
      have hhi : c.toNat ≤ 90 := hhi
      omega
    · have hlo : 97 ≤ c.toNat := hlo
      have hhi : c.toNat ≤ 122 := hhi
      omega
    · have hlo : 48 ≤ c.toNat := hlo
      have hhi : c.toNat ≤ 57 := hhi
      omega
  rw [isPrintable, Bool.and_eq_true, decide_eq_true_iff, decide_eq_true_iff]
  exact hrange

theorem isPrintable_withPort {text : List Char} (h : ∀ c ∈ text, isPrintable c = true)
    (port : Option ℕ) : ∀ c ∈ withPort text port, isPrintable c = true := by
  cases port with
  | none => exact h
  | some n =>
    rw [withPort, List.forall_mem_append, List.forall_mem_cons]
    refine ⟨h, rfl, fun c hc => isPrintable_of_isAlphanum ?_⟩
    rw [Char.isAlphanum, isDigit_of_mem_digits hc, Bool.or_true]

theorem isPrintable_name {scheme : UrlScheme} (h : scheme.isWeb = true) :
    ∀ c ∈ scheme.name ++ "://".toList, isPrintable c = true := by
  cases scheme with
  | http => exact List.all_iff_forall_prop.mp (by decide)
  | https => exact List.all_iff_forall_prop.mp (by decide)
  | ws => exact List.all_iff_forall_prop.mp (by decide)
  | wss => exact List.all_iff_forall_prop.mp (by decide)
  | ftp => exact List.all_iff_forall_prop.mp (by decide)
  | file => cases h
  | other name => cases h

theorem Normal.isPrintable_href {u : Url} (h : Normal std u) :
    ∀ c ∈ u.href, isPrintable c = true := by
  have hvisible := h.visible
  rw [List.append_assoc] at hvisible
  rw [href, h.userinfo, List.append_nil, List.append_assoc _ _ u.fragment,
    List.append_assoc _ u.pathname, List.forall_mem_append, List.forall_mem_append]
  exact ⟨⟨isPrintable_name h.web, isPrintable_withPort (std.host_printable h.host) u.port⟩,
    hvisible⟩

/-- A web address without a host is none. -/
theorem parse_of_no_host {scheme : UrlScheme} (hscheme : scheme.isWeb = true) {rest : List Char}
    (hrest : ∀ c ∈ rest, isBlank c = false ∧ c ≠ '@') :
    parse std.toUrlParts (scheme.name ++ "://".toList ++ ':' :: rest) = none := by
  have hvisible : ∀ c ∈ ':' :: rest, isBlank c = false :=
    List.forall_mem_cons.mpr ⟨rfl, fun c hc => (hrest c hc).1⟩
  have hclean : clean (scheme.name ++ "://".toList ++ ':' :: rest) =
      scheme.name ++ ':' :: ("//".toList ++ ':' :: rest) := by
    rw [clean_append (by simp) (isBlank_of_mem_name hscheme), cleanEnd_of_visible hvisible]
    simp
  have hdrop : ("//".toList ++ ':' :: rest).dropWhile isSlash = ':' :: rest := rfl
  have htake : (':' :: rest).takeWhile (!endsAuthority ·) =
      ':' :: rest.takeWhile (!endsAuthority ·) := List.takeWhile_cons_of_pos rfl
  have huser : (':' :: rest.takeWhile (!endsAuthority ·)).rtakeWhile (· != '@') =
      ':' :: rest.takeWhile (!endsAuthority ·) := by
    refine List.rtakeWhile_eq_self_iff.mpr (List.forall_mem_cons.mpr ⟨rfl, fun c hc => ?_⟩)
    exact bne_iff_ne.mpr (hrest c ((List.takeWhile_sublist _).subset hc)).2
  rw [parse, hclean, splitScheme_web hscheme, Option.bind_eq_bind, Option.bind_some]
  dsimp only
  rw [if_pos hscheme, parseWeb]
  simp only [hdrop, htake, huser]
  exact if_pos rfl

end Url
end Rclweb
