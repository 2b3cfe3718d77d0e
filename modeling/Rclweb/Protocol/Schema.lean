import Mathlib.Data.List.Sort
import Rclweb.Protocol.Cbor

/-!
# The control-message schema engine

Static shapes of control payloads and the validator that checks a decoded value against
one.  The validator normalises what it accepts: integers come back unsigned when they are
not negative, and closed maps come back with ascending keys.

## How the recursion is organised

The quality-of-service shapes are chosen by looking at the value (its history kind), so
`validateWith` cannot recurse into them structurally.  It takes the validator for those
shapes as an argument instead.  The shapes nest twice at most (an action record of topic
records, each a closed map of scalars), so three rounds tie the knot: `validatePlain`,
`validateQosLevel` and `validateSchema`.
-/

namespace Rclweb
namespace Control

/-- A validation failure; the offset is relative to the payload. -/
structure ControlError where
  reason : String
  offset : ℕ
  deriving DecidableEq, Repr

/-- Orderings an array of a control message may have to keep. -/
inductive ArrayRule where
  | uniqueAscendingUint
  | uniqueAscendingChannelId
  | graphNodesSorted
  | graphEndpointsSorted
  deriving DecidableEq, Repr

/-- **The shapes of control values.** -/
inductive Schema where
  | bool
  | uint (min max : ℕ)
  | int64
  | text (minBytes maxBytes : ℕ) (oneOf : Option (List String))
  | bytes (min max : ℕ)
  | constU64 (c : ℕ)
  | constBool (c : Bool)
  | array (min max : ℕ) (items : Schema) (rule : Option ArrayRule)
  | mapDyn (fields : List (UInt64 × Bool × Schema))
  | union (variants : List Schema)
  | identity
  | qos
  | effectiveQos
  | effectiveServiceQos
  | actionQos
  | effectiveActionQos

def fail (reason : String) : ControlError := ⟨reason, 0⟩

def uint32Max : ℕ := 0xffffffff
def uint64Max : ℕ := 0xffffffffffffffff
def int64Min : ℤ := -0x8000000000000000
def int64Max : ℤ := 0x7fffffffffffffff

/-- The integer a value denotes, when it is one of the two integer kinds. -/
def asInteger : CborValue → Except ControlError ℤ
  | .unsigned v => .ok v.toNat
  | .negative v => .ok v
  | _ => .error (fail "wrong_type")

def asUint (value : CborValue) (min max : ℕ) : Except ControlError ℕ := do
  let n ← asInteger value
  if n < min ∨ n > max then .error (fail "range_violation") else return n.toNat

def asInt64 (value : CborValue) : Except ControlError ℤ := do
  let n ← asInteger value
  if n < int64Min ∨ int64Max < n then .error (fail "range_violation") else return n

/-- UTF-8 byte length. -/
def textLen (s : String) : ℕ := s.utf8ByteSize

/-- The entries of a map value, refused when a key occurs twice. -/
def mapFromValue : CborValue → Except ControlError (List (UInt64 × CborValue))
  | .map entries =>
    if (entries.map Prod.fst).Nodup then .ok entries else .error (fail "unique_violation")
  | _ => .error (fail "wrong_type")

/-- The value under a key that must be there. -/
def getOr (raw : List (UInt64 × CborValue)) (key : UInt64) (reason : String) :
    Except ControlError CborValue :=
  match raw.lookup key with
  | some v => .ok v
  | none => .error (fail reason)

/-! ## Array rules -/

/-- The comparison both kinds of ordered arrays share: `lt` and `eq` against the element
before. -/
def checkAscending {κ : Type} (eq lt : κ → κ → Bool) (key : CborValue → Except ControlError κ) :
    Option κ → List CborValue → Except ControlError Unit
  | _, [] => .ok ()
  | prev, el :: els => do
    let k ← key el
    match prev with
    | some p =>
      if eq k p then .error (fail "unique_violation")
      else if lt k p then .error (fail "order_violation")
      else checkAscending eq lt key (some k) els
    | none => checkAscending eq lt key (some k) els

def channelIdKey (el : CborValue) : Except ControlError ℕ := do
  let m ← mapFromValue el
  let id ← getOr m 1 "wrong_type"
  asUint id 1 uint32Max

def idBytesKey (key : UInt64) (el : CborValue) : Except ControlError (List UInt8) := do
  let m ← mapFromValue el
  match ← getOr m key "wrong_type" with
  | .bytes b => return b
  | _ => .error (fail "wrong_type")

/-- Lexicographic order on byte strings. -/
def bytesLt : List UInt8 → List UInt8 → Bool
  | [], [] => false
  | [], _ :: _ => true
  | _ :: _, [] => false
  | a :: as, b :: bs => a < b || (a == b && bytesLt as bs)

def applyArrayRule (items : List CborValue) : Option ArrayRule → Except ControlError Unit
  | none => .ok ()
  | some .uniqueAscendingUint =>
    checkAscending (· == ·) (fun a b => decide (a < b)) (asUint · 0 uint64Max) none items
  | some .uniqueAscendingChannelId =>
    checkAscending (· == ·) (fun a b => decide (a < b)) channelIdKey none items
  | some .graphNodesSorted => checkAscending (· == ·) bytesLt (idBytesKey 55) none items
  | some .graphEndpointsSorted => checkAscending (· == ·) bytesLt (idBytesKey 56) none items

/-! ## Schema identities and history kinds -/

def isLowerHex (b : UInt8) : Bool := (48 ≤ b && b ≤ 57) || (97 ≤ b && b ≤ 102)

/-- The two spellings of a schema identity. -/
def identityOk (scheme val : String) : Bool :=
  let bytes := BigEndian.utf8 val
  if scheme = "rep2011-rihs" then
    bytes.length == 71 && bytes.take 7 == BigEndian.utf8 "RIHS01_" &&
      (bytes.drop 7).all isLowerHex
  else if scheme = "rclweb-schema-v1" then bytes.length == 64 && bytes.all isLowerHex
  else false

def validateSchemaIdentity (value : CborValue) : Except ControlError CborValue := do
  let m ← mapFromValue value
  if m.any fun e => e.1 ≠ 1 ∧ e.1 ≠ 2 then .error (fail "unknown_key")
  else
    let scheme ← getOr m 1 "missing_key"
    let val ← getOr m 2 "missing_key"
    match scheme, val with
    | .text a, .text b =>
      if identityOk a b then return .map [(1, scheme), (2, val)]
      else .error (fail "schema_identity")
    | _, _ => .error (fail "wrong_type")

def historyKind (value : CborValue) : Except ControlError ℕ := do
  let raw ← mapFromValue value
  let h ← getOr raw 3 "missing_key"
  asUint h 0 2

/-! ## Schema constructors -/

def utf8TextMax : ℕ := 4096

def u (min max : ℕ) : Schema := .uint min max
def text (min max : ℕ) : Schema := .text min max none
def textOneOf (opts : List String) : Schema := .text 1 utf8TextMax (some opts)
def bytes (min max : ℕ) : Schema := .bytes min max
def arr (min max : ℕ) (items : Schema) (rule : Option ArrayRule) : Schema :=
  .array min max items rule
def map (fields : List (UInt64 × Bool × Schema)) : Schema := .mapDyn fields
def req (s : Schema) : Bool × Schema := (true, s)
def opt (s : Schema) : Bool × Schema := (false, s)

def uint32 : Schema := u 0 uint32Max
def uint64 : Schema := u 0 uint64Max
def positiveDepth : Schema := u 1 uint32Max
def reliability : Schema := u 0 2
def durability : Schema := u 0 2
def liveliness : Schema := u 0 2
/-- A constant out of two. -/
def oneOf (a b : ℕ) : Schema := .union [.constU64 a, .constU64 b]

def qosKeepLast : Schema := map [
  (1, req reliability), (2, req durability), (3, req (.constU64 1)), (4, req positiveDepth),
  (5, opt uint64), (6, opt uint64), (7, opt liveliness), (8, opt uint64)]

def qosNoDepth : Schema := map [
  (1, req reliability), (2, req durability), (3, req (oneOf 0 2)),
  (5, opt uint64), (6, opt uint64), (7, opt liveliness), (8, opt uint64)]

def effectiveQosKeepLast : Schema := map [
  (1, req (oneOf 1 2)), (2, req (oneOf 1 2)), (3, req (.constU64 1)), (4, req positiveDepth),
  (5, opt uint64), (6, opt uint64), (7, req (oneOf 1 2)), (8, opt uint64)]

def effectiveQosKeepAll : Schema := map [
  (1, req (oneOf 1 2)), (2, req (oneOf 1 2)), (3, req (.constU64 2)),
  (5, opt uint64), (6, opt uint64), (7, req (oneOf 1 2)), (8, opt uint64)]

def effectiveServiceQosKeepLast : Schema := map [
  (1, req (.constU64 1)), (2, req (.constU64 2)), (3, req (.constU64 1)),
  (4, req positiveDepth), (5, opt uint64), (6, opt uint64), (7, req (oneOf 1 2)),
  (8, opt uint64)]

def effectiveServiceQosKeepAll : Schema := map [
  (1, req (.constU64 1)), (2, req (.constU64 2)), (3, req (.constU64 2)),
  (5, opt uint64), (6, opt uint64), (7, req (oneOf 1 2)), (8, opt uint64)]

def actionQosMap : Schema := map [
  (1, req .qos), (2, req .qos), (3, req .qos), (4, req .qos), (5, req .qos)]

def effectiveActionQosMap : Schema := map [
  (1, req .effectiveServiceQos), (2, req .effectiveServiceQos), (3, req .effectiveServiceQos),
  (4, req .effectiveQos), (5, req .effectiveQos)]

/-! ## The validator -/

/-- Sorting by key, the order a closed map is returned in. -/
def sortByKey {α : Type} (entries : List (UInt64 × α)) : List (UInt64 × α) :=
  entries.insertionSort fun a b => a.1 ≤ b.1

/-- The topic shapes, chosen by the history kind the value declares. -/
def validateByHistory (inner : Schema → CborValue → Except ControlError CborValue)
    (shape : ℕ → Option Schema) (value : CborValue) : Except ControlError CborValue := do
  let h ← historyKind value
  match shape h with
  | some s => inner s value
  | none => .error (fail "enum_violation")

mutual

/-- **Check a value against a schema**; `inner` checks the shapes that depend on the value. -/
def validateWith (inner : Schema → CborValue → Except ControlError CborValue) :
    Schema → CborValue → Except ControlError CborValue
  | .bool, value =>
    match value with
    | .bool b => .ok (.bool b)
    | _ => .error (fail "wrong_type")
  | .constU64 c, value => do
    let n ← asUint value 0 uint64Max
    if n ≠ c then .error (fail "enum_violation") else return .unsigned (UInt64.ofNat n)
  | .constBool c, value =>
    match value with
    | .bool b => if b = c then .ok (.bool b) else .error (fail "enum_violation")
    | _ => .error (fail "wrong_type")
  | .uint min max, value => do
    let n ← asUint value min max
    -- the wire error codes are 1..28 without 20
    if min = 1 ∧ max = 28 ∧ n = 20 then .error (fail "enum_violation")
    else return .unsigned (UInt64.ofNat n)
  | .int64, value => do
    let n ← asInt64 value
    if 0 ≤ n then return .unsigned (UInt64.ofNat n.toNat) else return .negative n
  | .text minBytes maxBytes oneOf, value =>
    match value with
    | .text t =>
      if textLen t < minBytes ∨ maxBytes < textLen t then .error (fail "text_length")
      else if oneOf.any fun set => !set.contains t then .error (fail "enum_violation")
      else .ok value
    | _ => .error (fail "wrong_type")
  | .bytes min max, value =>
    match value with
    | .bytes b =>
      if b.length < min ∨ max < b.length then .error (fail "bytes_length") else .ok value
    | _ => .error (fail "wrong_type")
  | .array min max items rule, value =>
    match value with
    | .array els =>
      if els.length < min ∨ max < els.length then .error (fail "array_bound")
      else do
        let out ← els.mapM (validateWith inner items)
        applyArrayRule out rule
        return .array out
    | _ => .error (fail "wrong_type")
  | .mapDyn fields, value => do
    let raw ← mapFromValue value
    if raw.any fun e => !fields.any fun f => f.1 == e.1 then .error (fail "unknown_key")
    else
      let out ← validateFields inner fields raw
      return .map (sortByKey out)
  | .union variants, value => validateVariants inner variants value (fail "union_mismatch")
  | .identity, value => validateSchemaIdentity value
  | .qos, value =>
    validateByHistory inner
      (fun h => if h = 1 then some qosKeepLast
        else if h = 0 ∨ h = 2 then some qosNoDepth else none) value
  | .effectiveQos, value =>
    validateByHistory inner
      (fun h => if h = 1 then some effectiveQosKeepLast
        else if h = 2 then some effectiveQosKeepAll else none) value
  | .effectiveServiceQos, value =>
    validateByHistory inner
      (fun h => if h = 1 then some effectiveServiceQosKeepLast
        else if h = 2 then some effectiveServiceQosKeepAll else none) value
  | .actionQos, value => inner actionQosMap value
  | .effectiveActionQos, value => inner effectiveActionQosMap value

/-- The declared fields, in the order of the declaration. -/
def validateFields (inner : Schema → CborValue → Except ControlError CborValue) :
    List (UInt64 × Bool × Schema) → List (UInt64 × CborValue) →
      Except ControlError (List (UInt64 × CborValue))
  | [], _ => .ok []
  | field :: fields, raw => do
    let here ← validateField inner field raw
    let rest ← validateFields inner fields raw
    return here ++ rest

/-- One declared field: nothing when it is absent and optional. -/
def validateField (inner : Schema → CborValue → Except ControlError CborValue) :
    UInt64 × Bool × Schema → List (UInt64 × CborValue) →
      Except ControlError (List (UInt64 × CborValue))
  | (key, rest), raw => validateKeyed inner rest key raw

/-- The field under `key`, given whether it is required and its shape. -/
def validateKeyed (inner : Schema → CborValue → Except ControlError CborValue) :
    Bool × Schema → UInt64 → List (UInt64 × CborValue) →
      Except ControlError (List (UInt64 × CborValue))
  | (required, schema), key, raw =>
    match raw.lookup key with
    | none => if required then .error (fail "missing_key") else .ok []
    | some v => do
      let validated ← validateWith inner schema v
      return [(key, validated)]

/-- The first variant that accepts, else the failure of the last one. -/
def validateVariants (inner : Schema → CborValue → Except ControlError CborValue) :
    List Schema → CborValue → ControlError → Except ControlError CborValue
  | [], _, last => .error last
  | variant :: variants, value, _ =>
    match validateWith inner variant value with
    | .ok v => .ok v
    | .error e => validateVariants inner variants value e

end

/-- Shapes without quality-of-service records in them. -/
def validatePlain : Schema → CborValue → Except ControlError CborValue :=
  validateWith fun _ _ => .error (fail "union_mismatch")

/-- Shapes whose quality-of-service records are plain. -/
def validateQosLevel : Schema → CborValue → Except ControlError CborValue :=
  validateWith validatePlain

/-- **The validator of every control shape.** -/
def validateSchema : Schema → CborValue → Except ControlError CborValue :=
  validateWith validateQosLevel

end Control
end Rclweb
