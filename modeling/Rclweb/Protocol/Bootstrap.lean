import Rclweb.Protocol.Cbor
import Rclweb.Protocol.Error

/-!
# Bootstrap records

The three records exchanged before a wire version is selected, and their parser
(receiver steps 1 to 9).  A decoded map has ascending keys, so the parser's walk over the
map in key order is written below as one field after the other.
-/

namespace Rclweb

open BigEndian

structure TransportCapabilities where
  webtransportHttp3 : Bool
  binaryWss : Bool
  maxDatagramSize : Option UInt32
  deriving DecidableEq, Repr, Inhabited

structure BufferCapabilities where
  transferableArraybuffer : Bool
  sharedArraybuffer : Bool
  deriving DecidableEq, Repr, Inhabited

/-- ClientHello `requested_limits`: every member optional. -/
structure RequestedLimits where
  maxChannels : Option UInt32
  maxSessionBytes : Option UInt64
  maxMessageBytes : Option UInt32
  maxControlPayloadBytes : Option UInt32
  deriving DecidableEq, Repr, Inhabited

/-- ServerHello `effective_limits`: four required members with registry ceilings. -/
structure EffectiveLimits where
  maxChannels : UInt32
  maxSessionBytes : UInt64
  maxMessageBytes : UInt32
  maxControlPayloadBytes : UInt32
  deriving DecidableEq, Repr, Inhabited

structure ClientHello where
  wireVersions : List UInt8
  transportCapabilities : TransportCapabilities
  bufferCapabilities : BufferCapabilities
  requestedLimits : RequestedLimits
  extensionCapabilities : List UInt16
  deriving DecidableEq, Repr, Inhabited

structure ServerHello where
  selectedWireVersion : UInt8
  transportCapabilities : TransportCapabilities
  bufferCapabilities : BufferCapabilities
  effectiveLimits : EffectiveLimits
  extensionCapabilities : List UInt16
  deriving DecidableEq, Repr, Inhabited

structure BootstrapErrorRecord where
  code : UInt8
  message : Option String
  detail : Option String
  deriving DecidableEq, Repr, Inhabited

/-- **A bootstrap record.** -/
inductive BootstrapRecord where
  | clientHello (hello : ClientHello)
  | serverHello (hello : ServerHello)
  | bootstrapError (record : BootstrapErrorRecord)
  deriving DecidableEq, Repr

namespace Bootstrap

def bootstrapPrefixLength : ℕ := 12
/-- Fixed v0 contract: `absolute_limits.bootstrap_payload_max_bytes`. -/
def bootstrapPayloadMaxBytes : ℕ := 65535
/-- The bytes of `R2WP`. -/
def magic : List UInt8 := [0x52, 0x32, 0x57, 0x50]
def bootstrapVersion : UInt8 := 0
def kindClientHello : UInt8 := 1
def kindServerHello : UInt8 := 2
def kindBootstrapError : UInt8 := 3
def utf8TextMaxBytes : ℕ := 4096
def wireVersionsMax : ℕ := 16
def capabilityIdsMax : ℕ := 64
def capabilityIdMin : ℕ := 1
def capabilityIdMax : ℕ := 65535
def effectiveMaxChannels : ℕ := 65535
def effectiveMaxSessionBytes : ℕ := 4294967296
def effectiveMaxMessageBytes : ℕ := 67108864
def effectiveMaxControlPayloadBytes : ℕ := 1048576
def bootstrapErrorCodes : List ℕ := [1, 2, 4, 16, 24, 25]

abbrev Entries := List (UInt64 × CborValue)

def asMap (value : CborValue) (offset : ℕ) : Except ProtocolError Entries :=
  match value with
  | .map m => .ok m
  | _ => .error (.malformedBootstrap "wrong_type" offset 9)

def requireExactKeys (map : Entries) (required optional : List UInt64) (offset : ℕ) :
    Except ProtocolError Unit :=
  if map.any fun e => !required.contains e.1 && !optional.contains e.1 then
    .error (.malformedBootstrap "unknown_key" offset 9)
  else if required.any fun key => !map.any (·.1 == key) then
    .error (.malformedBootstrap "missing_key" offset 9)
  else .ok ()

/-- The value of a key `requireExactKeys` has found. -/
def get (map : Entries) (key : UInt64) : CborValue := (map.lookup key).getD .null

def asBool (value : CborValue) (offset : ℕ) : Except ProtocolError Bool :=
  match value with
  | .bool b => .ok b
  | _ => .error (.malformedBootstrap "wrong_type" offset 9)

def asUintRange (value : CborValue) (offset min max : ℕ) : Except ProtocolError ℕ :=
  let check (n : ℤ) : Except ProtocolError ℕ :=
    if n < min ∨ n > max then .error (.malformedBootstrap "range_violation" offset 9)
    else .ok n.toNat
  match value with
  | .unsigned v => check v.toNat
  | .negative v => check v
  | _ => .error (.malformedBootstrap "wrong_type" offset 9)

def asUint32 (value : CborValue) (offset : ℕ) : Except ProtocolError UInt32 :=
  UInt32.ofNat <$> asUintRange value offset 0 0xffffffff

def asUint8 (value : CborValue) (offset : ℕ) : Except ProtocolError UInt8 :=
  UInt8.ofNat <$> asUintRange value offset 0 255

def asText (value : CborValue) (offset : ℕ) : Except ProtocolError String :=
  match value with
  | .text t =>
    if t.utf8ByteSize > utf8TextMaxBytes then
      .error (.malformedBootstrap "text_too_long" offset 9)
    else .ok t
  | _ => .error (.malformedBootstrap "wrong_type" offset 9)

def asArray (value : CborValue) (offset : ℕ) : Except ProtocolError (List CborValue) :=
  match value with
  | .array a => .ok a
  | _ => .error (.malformedBootstrap "wrong_type" offset 9)

/-- An optional member of a map. -/
def optional {α : Type} (map : Entries) (key : UInt64)
    (decode : CborValue → Except ProtocolError α) : Except ProtocolError (Option α) :=
  match map.lookup key with
  | some v => some <$> decode v
  | none => .ok none

def decodeTransport (value : CborValue) (offset : ℕ) :
    Except ProtocolError TransportCapabilities := do
  let map ← asMap value offset
  requireExactKeys map [1, 2] [3] offset
  let webtransportHttp3 ← asBool (get map 1) offset
  let binaryWss ← asBool (get map 2) offset
  let maxDatagramSize ← optional map 3 (asUint32 · offset)
  return ⟨webtransportHttp3, binaryWss, maxDatagramSize⟩

def decodeBuffer (value : CborValue) (offset : ℕ) : Except ProtocolError BufferCapabilities := do
  let map ← asMap value offset
  requireExactKeys map [1, 2] [] offset
  let transferableArraybuffer ← asBool (get map 1) offset
  let sharedArraybuffer ← asBool (get map 2) offset
  return ⟨transferableArraybuffer, sharedArraybuffer⟩

/-- The versions of a list, each at most once. -/
def decodeVersions (offset : ℕ) :
    List UInt8 → List CborValue → Except ProtocolError (List UInt8)
  | _, [] => .ok []
  | seen, el :: els => do
    let v ← asUint8 el offset
    if seen.contains v then .error (.malformedBootstrap "unique_violation" offset 9)
    else
      let vs ← decodeVersions offset (v :: seen) els
      return v :: vs

def decodeWireVersions (value : CborValue) (offset : ℕ) : Except ProtocolError (List UInt8) := do
  let arr ← asArray value offset
  if arr.isEmpty ∨ arr.length > wireVersionsMax then
    .error (.malformedBootstrap "range_violation" offset 9)
  else decodeVersions offset [] arr

/-- Capability ids in strictly ascending order. -/
def decodeCapabilityIds (offset : ℕ) :
    Option UInt16 → List CborValue → Except ProtocolError (List UInt16)
  | _, [] => .ok []
  | prev, el :: els => do
    let id := UInt16.ofNat (← asUintRange el offset capabilityIdMin capabilityIdMax)
    if prev.any (id == ·) then .error (.malformedBootstrap "unique_violation" offset 9)
    else if prev.any (id < ·) then .error (.malformedBootstrap "order_violation" offset 9)
    else
      let ids ← decodeCapabilityIds offset (some id) els
      return id :: ids

def decodeExtensionCapabilities (value : CborValue) (offset : ℕ) :
    Except ProtocolError (List UInt16) := do
  let arr ← asArray value offset
  if arr.length > capabilityIdsMax then .error (.malformedBootstrap "range_violation" offset 9)
  else decodeCapabilityIds offset none arr

def decodeRequestedLimits (value : CborValue) (offset : ℕ) :
    Except ProtocolError RequestedLimits := do
  let map ← asMap value offset
  requireExactKeys map [] [1, 2, 3, 4] offset
  let maxChannels ← optional map 1 (asUint32 · offset)
  let maxSessionBytes ←
    optional map 2 fun v => UInt64.ofNat <$> asUintRange v offset 0 0xffffffffffffffff
  let maxMessageBytes ← optional map 3 (asUint32 · offset)
  let maxControlPayloadBytes ← optional map 4 (asUint32 · offset)
  return ⟨maxChannels, maxSessionBytes, maxMessageBytes, maxControlPayloadBytes⟩

def decodeEffectiveLimits (value : CborValue) (offset : ℕ) :
    Except ProtocolError EffectiveLimits := do
  let map ← asMap value offset
  requireExactKeys map [1, 2, 3, 4] [] offset
  let maxChannels ← asUintRange (get map 1) offset 0 effectiveMaxChannels
  let maxSessionBytes ← asUintRange (get map 2) offset 0 effectiveMaxSessionBytes
  let maxMessageBytes ← asUintRange (get map 3) offset 0 effectiveMaxMessageBytes
  let maxControl ← asUintRange (get map 4) offset 0 effectiveMaxControlPayloadBytes
  return ⟨UInt32.ofNat maxChannels, UInt64.ofNat maxSessionBytes, UInt32.ofNat maxMessageBytes,
    UInt32.ofNat maxControl⟩

def decodeClientHello (value : CborValue) (offset : ℕ) : Except ProtocolError ClientHello := do
  let map ← asMap value offset
  requireExactKeys map [1, 2, 3, 4, 6] [] offset
  let wire ← decodeWireVersions (get map 1) offset
  let transport ← decodeTransport (get map 2) offset
  let buffer ← decodeBuffer (get map 3) offset
  let requested ← decodeRequestedLimits (get map 4) offset
  let caps ← decodeExtensionCapabilities (get map 6) offset
  return ⟨wire, transport, buffer, requested, caps⟩

def decodeServerHello (value : CborValue) (offset : ℕ) : Except ProtocolError ServerHello := do
  let map ← asMap value offset
  requireExactKeys map [1, 2, 3, 4, 6] [] offset
  let selected ← asUint8 (get map 1) offset
  if selected ≠ 0 then .error (.malformedBootstrap "range_violation" offset 9)
  else
    let transport ← decodeTransport (get map 2) offset
    let buffer ← decodeBuffer (get map 3) offset
    let effective ← decodeEffectiveLimits (get map 4) offset
    let caps ← decodeExtensionCapabilities (get map 6) offset
    return ⟨selected, transport, buffer, effective, caps⟩

def decodeBootstrapError (value : CborValue) (offset : ℕ) :
    Except ProtocolError BootstrapErrorRecord := do
  let map ← asMap value offset
  requireExactKeys map [1] [2, 3] offset
  let code ← asUintRange (get map 1) offset 0 255
  if !bootstrapErrorCodes.contains code then
    .error (.malformedBootstrap "range_violation" offset 9)
  else
    let message ← optional map 2 (asText · offset)
    let detail ← optional map 3 (asText · offset)
    return ⟨UInt8.ofNat code, message, detail⟩

def decodePayloadByKind (kind : UInt8) (value : CborValue) (offset : ℕ) :
    Except ProtocolError BootstrapRecord :=
  if kind = kindClientHello then .clientHello <$> decodeClientHello value offset
  else if kind = kindServerHello then .serverHello <$> decodeServerHello value offset
  else if kind = kindBootstrapError then .bootstrapError <$> decodeBootstrapError value offset
  else .error (.malformedBootstrap "unassigned_kind" 5 5)

/-- **Parse a complete bootstrap record** (receiver steps 1 to 9). -/
def parseBootstrap (bytes : List UInt8) : Except ProtocolError BootstrapRecord :=
  if bytes.length < bootstrapPrefixLength then
    .error (.malformedBootstrap "truncated_prefix" 0 1)
  else if bytes.take 4 ≠ magic then .error (.malformedBootstrap "bad_magic" 0 2)
  else if bytes.getD 4 0 ≠ bootstrapVersion then
    .error (.unsupportedVersionBootstrap "unsupported_bootstrap_version" 4 3)
  else if ofBytes ((bytes.drop 6).take 2) ≠ 0 then
    .error (.malformedBootstrap "nonzero_flags" 6 4)
  else
    let kind := bytes.getD 5 0
    if kind ≠ kindClientHello ∧ kind ≠ kindServerHello ∧ kind ≠ kindBootstrapError then
      .error (.malformedBootstrap "unassigned_kind" 5 5)
    else
      let payloadLen := ofBytes ((bytes.drop 8).take 4)
      if payloadLen > bootstrapPayloadMaxBytes then
        .error (.messageTooLargeBootstrap "payload_too_large" 8 6)
      else if bytes.length ≠ bootstrapPrefixLength + payloadLen then
        .error (.malformedBootstrap "exact_total_mismatch" 0 7)
      else
        match Cbor.decodeDeterministicCbor (bytes.drop bootstrapPrefixLength) with
        | .error e =>
          .error (.malformedBootstrap "cbor_profile" (bootstrapPrefixLength + e.offset) 8)
        | .ok value => decodePayloadByKind kind value bootstrapPrefixLength

end Bootstrap
end Rclweb
