import Rclweb.Library.BigEndian

/-!
# The deterministic CBOR decoder

The profile of the control plane: shortest-form heads, unsigned map keys in ascending
order without duplicates, no floats, no tags, no indefinite lengths, nesting at most 16.

`decodeValue` recurses on the *levels left* instead of the depth reached: a container
entered with `n + 1` levels left decodes its children with `n` left, and a container
entered with none is `nesting_depth_exceeded`.  That is the source's test
`depth + 1 > 16` read from the other end, and it makes the decoder structural.
-/

namespace Rclweb

open BigEndian

namespace Cbor

/-- Fixed v0 contract: `absolute_limits.cbor_nesting_depth_max`. -/
def maxNestingDepth : ℕ := 16

/-- Fixed v0 contract: `absolute_limits.cbor_map_entries_max`. -/
def maxMapEntries : ℕ := 4096

/-- JavaScript `Number.MAX_SAFE_INTEGER`, the agreement bound on declared lengths. -/
def maxSafeInteger : ℕ := 9007199254740991

/-- A decode failure, with the offset it points at. -/
structure CborError where
  reason : String
  offset : ℕ
  deriving DecidableEq, Repr

end Cbor

/-- **A decoded CBOR value.**  `negative v` carries the value itself, in
`[-2 ^ 64, -1]` when it comes from the decoder. -/
inductive CborValue where
  | null
  | bool (b : Bool)
  | unsigned (v : UInt64)
  | negative (v : ℤ)
  | bytes (b : List UInt8)
  | text (t : String)
  | array (items : List CborValue)
  | map (entries : List (UInt64 × CborValue))
  deriving Repr, Inhabited

namespace Cbor

/-- The bytes not yet read, and the offset of the first of them. -/
structure Reader where
  bytes : List UInt8
  offset : ℕ
  deriving DecidableEq, Repr

namespace Reader

def remaining (r : Reader) : ℕ := r.bytes.length

/-- The reader after `n` more bytes. -/
def advance (r : Reader) (n : ℕ) : Reader := ⟨r.bytes.drop n, r.offset + n⟩

def readSlice (r : Reader) (n : ℕ) : Except CborError (List UInt8 × Reader) :=
  if r.remaining < n then .error ⟨"truncated", r.offset⟩
  else .ok (r.bytes.take n, r.advance n)

end Reader

/-- The head of an item: its major type, the additional information, the argument, and
where the head began. -/
structure Head where
  major : ℕ
  additional : ℕ
  argument : ℕ
  headOffset : ℕ
  deriving DecidableEq, Repr

/-- Read a `width`-byte argument, refused below `shortest` unless the item is a float. -/
def readArgument (r : Reader) (h : Head) (width shortest : ℕ) :
    Except CborError (Head × Reader) :=
  if r.remaining < width then .error ⟨"truncated", h.headOffset⟩
  else
    let argument := ofBytes (r.bytes.take width)
    let integerArgument := !(h.major == 7 && (25 ≤ h.additional && h.additional ≤ 27))
    if integerArgument && argument < shortest then .error ⟨"non_shortest_form", h.headOffset⟩
    else .ok ({ h with argument := argument }, r.advance width)

def readHead (r : Reader) : Except CborError (Head × Reader) :=
  match r.bytes with
  | [] => .error ⟨"truncated", r.offset⟩
  | initial :: _ =>
    let major := initial.toNat / 32
    let additional := initial.toNat % 32
    let h : Head := ⟨major, additional, additional, r.offset⟩
    let r := r.advance 1
    if additional ≤ 23 then .ok (h, r)
    else if additional = 24 then readArgument r h 1 24
    else if additional = 25 then readArgument r h 2 0x100
    else if additional = 26 then readArgument r h 4 0x10000
    else if additional = 27 then readArgument r h 8 0x100000000
    else if additional = 31 then .error ⟨"indefinite_length", h.headOffset⟩
    else .error ⟨"reserved_additional_info", h.headOffset⟩

/-- A declared length; on the 64-bit targets the safe-integer bound is the only one. -/
def lengthToUsize (argument headOffset : ℕ) : Except CborError ℕ :=
  if argument > maxSafeInteger then .error ⟨"length_out_of_range", headOffset⟩
  else .ok argument

/-- Decode `n` items one after the other. -/
def decodeItems (item : Reader → Except CborError (CborValue × Reader)) :
    ℕ → Reader → Except CborError (List CborValue × Reader)
  | 0, r => .ok ([], r)
  | n + 1, r => do
    let (v, r) ← item r
    let (vs, r) ← decodeItems item n r
    return (v :: vs, r)

/-- The checks on a map key, in the source's order: a duplicate of any earlier key is
reported before a descent below the previous one. -/
def checkKey (seen : List UInt64) (prev : Option UInt64) (key : UInt64) (headOffset : ℕ) :
    Except CborError Unit :=
  if seen.contains key then .error ⟨"duplicate_map_key", headOffset⟩
  else
    match prev with
    | some p => if key < p then .error ⟨"map_key_order", headOffset⟩ else .ok ()
    | none => .ok ()

/-- Decode `n` key/value entries one after the other. -/
def decodeEntries (item : Reader → Except CborError (CborValue × Reader)) :
    ℕ → List UInt64 → Option UInt64 → Reader →
      Except CborError (List (UInt64 × CborValue) × Reader)
  | 0, _, _, r => .ok ([], r)
  | n + 1, seen, prev, r => do
    let (h, r) ← readHead r
    if h.major ≠ 0 then .error ⟨"map_key_not_unsigned", h.headOffset⟩
    else
      let key := UInt64.ofNat h.argument
      checkKey seen prev key h.headOffset
      let (v, r) ← item r
      let (vs, r) ← decodeEntries item n (key :: seen) (some key) r
      return ((key, v) :: vs, r)

def decodeSimple (code headOffset : ℕ) : Except CborError CborValue :=
  if code = 20 then .ok (.bool false)
  else if code = 21 then .ok (.bool true)
  else if code = 22 then .ok .null
  else .error ⟨"simple_not_allowed", headOffset⟩

/-- The items that contain no other item. -/
def decodeScalar (h : Head) (r : Reader) : Except CborError (CborValue × Reader) :=
  match h.major with
  | 0 => .ok (.unsigned (UInt64.ofNat h.argument), r)
  | 1 => .ok (.negative (-1 - (h.argument : ℤ)), r)
  | 2 => do
    let len ← lengthToUsize h.argument h.headOffset
    let (slice, r) ← r.readSlice len
    return (.bytes slice, r)
  | 3 => do
    let len ← lengthToUsize h.argument h.headOffset
    let (slice, r) ← r.readSlice len
    match ofUtf8? slice with
    | some t => return (.text t, r)
    | none => .error ⟨"invalid_utf8", h.headOffset⟩
  | 6 => .error ⟨"tag_not_allowed", h.headOffset⟩
  | 7 =>
    if h.additional = 25 ∨ h.additional = 26 ∨ h.additional = 27 then
      .error ⟨"float_not_allowed", h.headOffset⟩
    else do
      let v ← decodeSimple (if h.additional = 24 then h.argument else h.additional) h.headOffset
      return (v, r)
  | _ => .error ⟨"unsupported_major_type", h.headOffset⟩

/-- **Decode one item** with the given number of nesting levels left. -/
def decodeValue : ℕ → Reader → Except CborError (CborValue × Reader)
  | 0, r => do
    let (h, r) ← readHead r
    if h.major = 4 ∨ h.major = 5 then .error ⟨"nesting_depth_exceeded", h.headOffset⟩
    else decodeScalar h r
  | levels + 1, r => do
    let (h, r) ← readHead r
    if h.major = 4 then
      let len ← lengthToUsize h.argument h.headOffset
      if len > r.remaining then .error ⟨"truncated", h.headOffset⟩
      else
        let (items, r) ← decodeItems (decodeValue levels) len r
        return (.array items, r)
    else if h.major = 5 then
      if h.argument > maxMapEntries then .error ⟨"map_entries_exceeded", h.headOffset⟩
      else
        let len ← lengthToUsize h.argument h.headOffset
        if len > 0 ∧ len * 2 > r.remaining then .error ⟨"truncated", h.headOffset⟩
        else
          let (entries, r) ← decodeEntries (decodeValue levels) len [] none r
          return (.map entries, r)
    else decodeScalar h r

/-- **Decode exactly one complete item.** -/
def decodeDeterministicCbor (bytes : List UInt8) : Except CborError CborValue :=
  if bytes.isEmpty then .error ⟨"empty_input", 0⟩
  else do
    let (v, r) ← decodeValue maxNestingDepth ⟨bytes, 0⟩
    if r.bytes.isEmpty then return v else .error ⟨"trailing_data", r.offset⟩

end Cbor
end Rclweb
