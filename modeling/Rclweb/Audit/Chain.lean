import Rclweb.Library.BigEndian
import Rclweb.Library.Lines
import Rclweb.Library.SortedMap
import Mathlib.Data.String.Basic

/-!
# The hash chain of an audit file

An audit line is a JSON object with ascending keys.  Its `sha256` is the hash of the hash before it,
a newline and the object without `sha256`, printed compactly.  `nextLine` composes a line,
`verifyLine` checks one, and `verifyFile` checks that each line names the hash of the line before.

JSON texts and SHA-256 come from other crates.
-/

namespace Rclweb
namespace Audit

open BigEndian (utf8 ofUtf8?)

/-- `serde_json::Value`; an object is in the order of its keys. -/
inductive Value where
  | null
  | bool (value : Bool)
  | posInt (value : ℕ)
  | negInt (value : ℤ)
  | float (bits : UInt64)
  | string (value : String)
  | array (items : List Value)
  | object (members : List (String × Value))

/-- The members of an object, in the order of their keys. -/
abbrev Members := List (String × Value)

namespace Value

def asObject : Value → Option Members
  | object members => some members
  | _ => none

def asStr : Value → Option String
  | string value => some value
  | _ => none

def asU64 : Value → Option ℕ
  | posInt value => some value
  | _ => none

theorem asObject_eq_some {value : Value} {members : Members} :
    value.asObject = some members ↔ value = object members := by
  cases value <;> simp [asObject]

theorem asStr_eq_some {value : Value} {text : String} :
    value.asStr = some text ↔ value = string text := by
  cases value <;> simp [asStr]

theorem asU64_eq_some {value : Value} {n : ℕ} : value.asU64 = some n ↔ value = posInt n := by
  cases value <;> simp [asU64]

end Value

/-- **The other crates**: reading and printing JSON, and SHA-256.  An object that is read is a tree
map, so its keys ascend. -/
structure Crates where
  fromStr : String → Option Value
  toString : Value → String
  sha256 : List UInt8 → Vector UInt8 32
  sorted : ∀ text obj, fromStr text = some (.object obj) → SortedMap.Sorted obj

/-! ## Hashes in hex -/

def hexDigit (n : UInt8) : Char :=
  if n < 10 then Char.ofNat (48 + n.toNat) else Char.ofNat (87 + n.toNat)

def hexByte (b : UInt8) : List Char := [hexDigit (b >>> 4), hexDigit (b &&& 0x0f)]

def hexEncode (bytes : List UInt8) : String := String.ofList (bytes.flatMap hexByte)

/-- 64 lowercase hex digits. -/
def isSha256Hex (value : String) : Bool :=
  (utf8 value).length == 64 &&
    (utf8 value).all fun b => (48 ≤ b && b ≤ 57) || (97 ≤ b && b ≤ 102)

def genesisPrev : String := String.ofList (List.replicate 64 '0')

/-- What a line's hash is taken of. -/
def message (prev : String) (canonical : List UInt8) : List UInt8 :=
  utf8 prev ++ Lines.lf :: canonical

def hashRecord (c : Crates) (prev : String) (canonical : List UInt8) : List UInt8 :=
  (c.sha256 (message prev canonical)).toList

/-! ## Composing a line -/

/-- What the next line continues. -/
structure Chain where
  seq : ℕ
  prevHex : String
  deriving DecidableEq

def Chain.genesis : Chain := ⟨0, genesisPrev⟩

/-- The keys that an event does not set. -/
def reserved (key : String) : Bool :=
  key == "seq" || key == "ts" || key == "prev_sha256" || key == "sha256"

/-- The members of the next line, but for its hash. -/
def nextMembers (chain : Chain) (event : Value) (ts : ℕ) : Members :=
  let map : Members := SortedMap.insert "seq" (.posInt (chain.seq + 1)) []
  let map := SortedMap.insert "ts" (.posInt ts) map
  let map := SortedMap.insert "prev_sha256" (.string chain.prevHex) map
  match event with
  | .object obj =>
    (obj.filter fun entry => !reserved entry.1).foldl
      (fun map entry => SortedMap.insert entry.1 entry.2 map) map
  | other => SortedMap.insert "value" other (SortedMap.insert "event" (.string "opaque") map)

/-- The members without their hash, printed. -/
def canonical (c : Crates) (members : Members) : List UInt8 := utf8 (c.toString (.object members))

def digest (c : Crates) (prev : String) (members : Members) : String :=
  hexEncode (hashRecord c prev (canonical c members))

/-- The text of a line with these members. -/
def lineOf (c : Crates) (prev : String) (members : Members) : String :=
  c.toString (.object (SortedMap.insert "sha256" (.string (digest c prev members)) members))

/-- **The next line**, and the chain behind it. -/
def nextLine (c : Crates) (chain : Chain) (event : Value) (ts : ℕ) : String × Chain :=
  let map := nextMembers chain event ts
  (lineOf c chain.prevHex map, ⟨chain.seq + 1, digest c chain.prevHex map⟩)

/-! ## Checking a file -/

/-- Why a line or a file is refused. -/
inductive Reason where
  | notUtf8
  | emptyLine
  | notJson
  | notObject
  | missing (field : String)
  | notHex
  | mismatch
  | unlinked
  | emptyFile
  deriving DecidableEq

def Reason.text : Reason → String
  | notUtf8 => "stream did not contain valid UTF-8"
  | emptyLine => "empty line"
  | notJson => "not JSON"
  | notObject => "audit line is not an object"
  | missing field => "missing " ++ field
  | notHex => "sha256 fields must be 64 lowercase hex digits"
  | mismatch => "sha256 mismatch"
  | unlinked => "prev_sha256 does not match previous sha256"
  | emptyFile => "empty audit file"

def orReason {α : Type} (o : Option α) (reason : Reason) : Except Reason α :=
  match o with
  | some a => .ok a
  | none => .error reason

/-- **One line**: its number, the hash it continues and its own. -/
def verifyLine (c : Crates) (line : String) : Except Reason (ℕ × String × String) := do
  let value ← orReason (c.fromStr line) .notJson
  let obj ← orReason value.asObject .notObject
  let claimed ← orReason ((obj.lookup "sha256").bind Value.asStr) (.missing "sha256")
  let prev ← orReason ((obj.lookup "prev_sha256").bind Value.asStr) (.missing "prev_sha256")
  if !isSha256Hex prev || !isSha256Hex claimed then .error .notHex
  else
    let seq ← orReason ((obj.lookup "seq").bind Value.asU64) (.missing "seq")
    let map := SortedMap.ofEntries (obj.filter fun entry => entry.1 != "sha256")
    if digest c prev map = claimed then .ok (seq, prev, digest c prev map) else .error .mismatch

/-- What the check of a file has found so far. -/
structure Progress where
  records : ℕ
  lastSeq : ℕ
  lastSha256 : String
  firstPrev : Option String
  expectedPrev : Option String
  deriving DecidableEq

def Progress.start : Progress := ⟨0, 0, genesisPrev, none, none⟩

def verifyNext (c : Crates) (p : Progress) (bytes : List UInt8) : Except Reason Progress := do
  let line ← orReason (ofUtf8? bytes) .notUtf8
  if bytes = [] then .error .emptyLine
  else
    let (seq, prev, digest) ← verifyLine c line
    if p.expectedPrev.any (prev ≠ ·) then .error .unlinked
    else .ok ⟨p.records + 1, seq, digest, p.firstPrev.or (some prev), some digest⟩

variable {φ : Type}

/-- A file that is refused, at which line and why. -/
structure VerifyError (φ : Type) where
  path : φ
  line : Option ℕ
  reason : Reason
  deriving DecidableEq

def verifyLines (c : Crates) (path : φ) :
    ℕ → Progress → List (List UInt8) → Except (VerifyError φ) Progress
  | _, p, [] => .ok p
  | idx, p, bytes :: rest =>
    match verifyNext c p bytes with
    | .ok p => verifyLines c path (idx + 1) p rest
    | .error reason => .error ⟨path, some (idx + 1), reason⟩

structure VerifiedFile (φ : Type) where
  path : φ
  records : ℕ
  lastSeq : ℕ
  lastSha256 : String
  firstPrevSha256 : String
  deriving DecidableEq

/-- **The check of a file** with some bytes. -/
def verifyFile (c : Crates) (path : φ) (bytes : List UInt8) :
    Except (VerifyError φ) (VerifiedFile φ) := do
  let p ← verifyLines c path 0 .start (Lines.lines bytes)
  if p.records = 0 then .error ⟨path, none, .emptyFile⟩
  else .ok ⟨path, p.records, p.lastSeq, p.lastSha256, p.firstPrev.getD genesisPrev⟩

/-! ## Two lines of a sample file

The crates on the lines of one event, written twice at one time. -/

def sampleTs : ℕ := 1700000000000

def sampleEvent : Value := .object [("event", .string "authenticate")]

def sampleHash : Vector UInt8 32 :=
  #v[87, 43, 79, 190, 222, 248, 17, 89, 141, 241, 105, 168, 185, 140, 21, 99, 36, 77, 129, 231, 83,
    111, 74, 18, 241, 29, 10, 111, 178, 215, 193, 221]

def sampleHash' : Vector UInt8 32 :=
  #v[98, 106, 252, 188, 152, 87, 125, 149, 134, 84, 157, 213, 191, 197, 188, 147, 188, 121, 12, 49,
    202, 192, 70, 37, 29, 4, 243, 68, 213, 24, 203, 234]

def sampleCanonical (seq : ℕ) (prev : String) : Members :=
  nextMembers ⟨seq, prev⟩ sampleEvent sampleTs

def sampleObject (seq : ℕ) (prev : String) (hash : Vector UInt8 32) : Members :=
  SortedMap.insert "sha256" (.string (hexEncode hash.toList)) (sampleCanonical seq prev)

def sampleObjects : List Members :=
  [sampleObject 0 genesisPrev sampleHash, sampleObject 1 (hexEncode sampleHash.toList) sampleHash']

def sampleMember : String × Value → String
  | (key, .string text) => "\"" ++ key ++ "\":\"" ++ text ++ "\""
  | (key, .posInt n) => "\"" ++ key ++ "\":" ++ toString n
  | (key, _) => "\"" ++ key ++ "\":null"

/-- An object of plain texts and numbers, printed. -/
def sampleText : Value → String
  | .object members => "\x7b" ++ String.intercalate "," (members.map sampleMember) ++ "\x7d"
  | _ => "null"

def sampleSha256 (bytes : List UInt8) : Vector UInt8 32 :=
  if bytes = message genesisPrev (utf8 (sampleText (.object (sampleCanonical 0 genesisPrev)))) then
    sampleHash
  else if bytes = message (hexEncode sampleHash.toList)
      (utf8 (sampleText (.object (sampleCanonical 1 (hexEncode sampleHash.toList))))) then
    sampleHash'
  else Vector.replicate 32 0

def sampleCrates : Crates where
  fromStr text := (sampleObjects.find? fun obj => sampleText (.object obj) = text).map .object
  toString := sampleText
  sha256 := sampleSha256
  sorted := by
    intro text obj h
    obtain ⟨obj', hfind, hobj⟩ := Option.map_eq_some_iff.mp h
    obtain rfl := Value.object.inj hobj
    have hmem := List.mem_of_find?_eq_some hfind
    have hkeys : ∀ obj ∈ sampleObjects,
        obj.map Prod.fst = ["event", "prev_sha256", "seq", "sha256", "ts"] := by
      intro obj hobj
      rcases List.mem_cons.mp hobj with rfl | hobj
      · decide +kernel
      · rw [List.mem_singleton.mp hobj]
        decide +kernel
    have hsorted : (obj'.map Prod.fst).Pairwise (· < ·) := by
      rw [hkeys obj' hmem]
      decide +kernel
    exact List.pairwise_map.mp hsorted

end Audit
end Rclweb
