import Mathlib.Data.List.Sort
import Rclweb.Protocol.Bootstrap
import Rclweb.Protocol.Frame

/-!
# The encoders

Deterministic CBOR, bootstrap records, extension areas and frames, with the bounds the
sender enforces.

The source sorts the entries of a map and encodes them in that order.  `encodeValue`
encodes the children first and sorts the finished pieces: the pieces do not depend on the
order, and the recursion stays structural.
-/

namespace Rclweb

open BigEndian

/-- A sender-side encoding failure. -/
structure EncodeError where
  reason : String
  deriving DecidableEq, Repr

/-- Sender-side frame header fields; lengths are derived from the buffers. -/
structure FrameHeader where
  version : UInt8
  opcode : UInt8
  flags : UInt16
  channelId : UInt32
  sequence : UInt64
  sourceTimeNs : Int64
  priority : UInt8
  clockId : UInt8
  deriving DecidableEq, Repr

namespace Encode

/-! ## Deterministic CBOR -/

/-- A shortest-form head of the given major type. -/
def writeHead (major argument : ℕ) : List UInt8 :=
  let mt := major * 32
  if argument ≤ 23 then [UInt8.ofNat (mt + argument)]
  else if argument ≤ 0xff then UInt8.ofNat (mt + 24) :: toBytes 1 argument
  else if argument ≤ 0xffff then UInt8.ofNat (mt + 25) :: toBytes 2 argument
  else if argument ≤ 0xffffffff then UInt8.ofNat (mt + 26) :: toBytes 4 argument
  else UInt8.ofNat (mt + 27) :: toBytes 8 argument

/-- The concatenation of encoded pieces, or the first failure among them. -/
def concatPieces : List (Except EncodeError (List UInt8)) → Except EncodeError (List UInt8)
  | [] => .ok []
  | piece :: pieces => do
    let b ← piece
    let bs ← concatPieces pieces
    return b ++ bs

/-- The entries of a map in ascending key order, as one byte string. -/
def writeEntries (pieces : List (UInt64 × Except EncodeError (List UInt8))) :
    Except EncodeError (List UInt8) :=
  if pieces.length > Cbor.maxMapEntries then .error ⟨"map_entries_exceeded"⟩
  else
    let sorted := Control.sortByKey pieces
    if ¬ (pieces.map Prod.fst).Nodup then .error ⟨"duplicate_map_key"⟩
    else do
      let body ← concatPieces (sorted.map fun e => do
        let v ← e.2
        return writeHead 0 e.1.toNat ++ v)
      return writeHead 5 sorted.length ++ body

mutual

/-- **Encode one value** that stands inside `depth` containers. -/
def encodeValue : CborValue → ℕ → Except EncodeError (List UInt8)
  | .null, _ => .ok [0xf6]
  | .bool false, _ => .ok [0xf4]
  | .bool true, _ => .ok [0xf5]
  | .unsigned v, _ => .ok (writeHead 0 v.toNat)
  | .negative v, _ =>
    if v ≥ 0 then .error ⟨"negative_out_of_range"⟩
    else if -1 - v > 0xffffffffffffffff then .error ⟨"negative_out_of_range"⟩
    else .ok (writeHead 1 (-1 - v).toNat)
  | .bytes b, _ => .ok (writeHead 2 b.length ++ b)
  | .text t, _ => .ok (writeHead 3 (utf8 t).length ++ utf8 t)
  | .array items, depth =>
    if depth + 1 > Cbor.maxNestingDepth then .error ⟨"nesting_depth_exceeded"⟩
    else do
      let body ← concatPieces (encodeItems items (depth + 1))
      return writeHead 4 items.length ++ body
  | .map entries, depth =>
    if depth + 1 > Cbor.maxNestingDepth then .error ⟨"nesting_depth_exceeded"⟩
    else writeEntries (encodeEntries entries (depth + 1))

def encodeItems : List CborValue → ℕ → List (Except EncodeError (List UInt8))
  | [], _ => []
  | item :: items, depth => encodeValue item depth :: encodeItems items depth

def encodeEntries :
    List (UInt64 × CborValue) → ℕ → List (UInt64 × Except EncodeError (List UInt8))
  | [], _ => []
  | entry :: entries, depth => encodeEntry entry depth :: encodeEntries entries depth

def encodeEntry : UInt64 × CborValue → ℕ → UInt64 × Except EncodeError (List UInt8)
  | (key, value), depth => (key, encodeValue value depth)

end

/-- **Encode one value** under the deterministic profile. -/
def encodeDeterministicCbor (value : CborValue) : Except EncodeError (List UInt8) :=
  encodeValue value 0

/-! ## Bootstrap records -/

def ofU8 (v : UInt8) : CborValue := .unsigned v.toUInt64
def ofU16 (v : UInt16) : CborValue := .unsigned v.toUInt64
def ofU32 (v : UInt32) : CborValue := .unsigned v.toUInt64

/-- The entry of an optional member. -/
def optEntry {α : Type} (key : UInt64) (value : Option α) (write : α → CborValue) :
    List (UInt64 × CborValue) :=
  match value with
  | some v => [(key, write v)]
  | none => []

def transportValue (caps : TransportCapabilities) : CborValue :=
  .map ([(1, CborValue.bool caps.webtransportHttp3), (2, CborValue.bool caps.binaryWss)] ++
    optEntry 3 caps.maxDatagramSize ofU32)

def bufferValue (caps : BufferCapabilities) : CborValue :=
  .map [(1, .bool caps.transferableArraybuffer), (2, .bool caps.sharedArraybuffer)]

def capabilityListValue (ids : List UInt16) : CborValue := .array (ids.map ofU16)

def requestedLimitsValue (limits : RequestedLimits) : CborValue :=
  .map (optEntry 1 limits.maxChannels ofU32 ++ optEntry 2 limits.maxSessionBytes .unsigned ++
    optEntry 3 limits.maxMessageBytes ofU32 ++ optEntry 4 limits.maxControlPayloadBytes ofU32)

def effectiveLimitsValue (limits : EffectiveLimits) : CborValue :=
  .map [(1, ofU32 limits.maxChannels), (2, .unsigned limits.maxSessionBytes),
    (3, ofU32 limits.maxMessageBytes), (4, ofU32 limits.maxControlPayloadBytes)]

def bootstrapRecord (kind : UInt8) (payload : CborValue) : Except EncodeError (List UInt8) := do
  let body ← encodeDeterministicCbor payload
  if body.length > Bootstrap.bootstrapPayloadMaxBytes then
    .error ⟨"bootstrap_payload_too_large"⟩
  else
    return Bootstrap.magic ++ [Bootstrap.bootstrapVersion, kind] ++ toBytes 2 0 ++
      toBytes 4 body.length ++ body

def encodeClientHello (hello : ClientHello) : Except EncodeError (List UInt8) :=
  bootstrapRecord Bootstrap.kindClientHello (.map [
    (1, .array (hello.wireVersions.map ofU8)),
    (2, transportValue hello.transportCapabilities),
    (3, bufferValue hello.bufferCapabilities),
    (4, requestedLimitsValue hello.requestedLimits),
    (6, capabilityListValue hello.extensionCapabilities)])

def encodeServerHello (hello : ServerHello) : Except EncodeError (List UInt8) :=
  bootstrapRecord Bootstrap.kindServerHello (.map [
    (1, ofU8 hello.selectedWireVersion),
    (2, transportValue hello.transportCapabilities),
    (3, bufferValue hello.bufferCapabilities),
    (4, effectiveLimitsValue hello.effectiveLimits),
    (6, capabilityListValue hello.extensionCapabilities)])

def encodeBootstrapError (record : BootstrapErrorRecord) : Except EncodeError (List UInt8) :=
  bootstrapRecord Bootstrap.kindBootstrapError (.map ([(1, ofU8 record.code)] ++
    optEntry 2 record.message .text ++ optEntry 3 record.detail .text))

/-! ## Extension areas -/

/-- Zero bytes up to the next multiple of four. -/
def padding (length : ℕ) : List UInt8 := List.replicate (Extension.align4 length - length) 0

/-- The records of an area, each padded on its own. -/
def writeTlvs : Option UInt8 → List R2wpExtension → Except EncodeError (List UInt8)
  | _, [] => .ok []
  | prev, ext :: exts =>
    if prev.any (ext.typeId ≤ ·) then .error ⟨"extension_order"⟩
    else if ext.value.length > 0xffff then .error ⟨"extension_value_too_large"⟩
    else do
      let rest ← writeTlvs (some ext.typeId) exts
      return [ext.typeId, if ext.critical then 0x01 else 0x00] ++
        toBytes 2 ext.value.length ++ ext.value ++
        padding (Extension.tlvHeaderLen + ext.value.length) ++ rest

/-- **Encode an extension area** from strictly ascending records. -/
def encodeExtensionArea (extensions : List R2wpExtension) : Except EncodeError (List UInt8) := do
  let out ← writeTlvs none extensions
  if out.length > Extension.extensionAreaMaxBytes then .error ⟨"extension_area_too_large"⟩
  else return out

/-! ## Frames -/

/-- The 32 header bytes. -/
def headerBytes (header : FrameHeader) (payloadLen : UInt32) (extensionLen : UInt16) :
    List UInt8 :=
  toBytes 1 header.version.toNat ++ toBytes 1 header.opcode.toNat ++
    toBytes 2 header.flags.toNat ++ toBytes 4 header.channelId.toNat ++
    toBytes 8 header.sequence.toNat ++ toBytes 8 header.sourceTimeNs.toUInt64.toNat ++
    toBytes 4 payloadLen.toNat ++ toBytes 2 extensionLen.toNat ++
    toBytes 1 header.priority.toNat ++ toBytes 1 header.clockId.toNat

/-- **Write a header in place** over the first 32 bytes of a buffer. -/
def writeFrameHeader (header : FrameHeader) (payloadLen : UInt32) (extensionLen : UInt16)
    (out : List UInt8) : Except EncodeError (List UInt8) :=
  if out.length < Frame.frameHeaderLength then .error ⟨"header_buffer_too_small"⟩
  else if payloadLen.toNat > Frame.framePayloadMaxBytes then .error ⟨"payload_too_large"⟩
  else if header.opcode = Frame.opcodeControlCbor ∧
      payloadLen.toNat > Control.controlPayloadMaxBytes then
    .error ⟨"control_payload_too_large"⟩
  else .ok (headerBytes header payloadLen extensionLen ++ out.drop Frame.frameHeaderLength)

/-- **Encode one complete frame**: header, extension area, payload. -/
def encodeFrame (header : FrameHeader) (extensionArea payload : List UInt8) :
    Except EncodeError (List UInt8) :=
  if extensionArea.length % 4 ≠ 0 ∨ extensionArea.length > Extension.extensionAreaMaxBytes then
    .error ⟨"extension_area_bounds"⟩
  else if payload.length > Frame.framePayloadMaxBytes then .error ⟨"payload_too_large"⟩
  else
    writeFrameHeader header (UInt32.ofNat payload.length) (UInt16.ofNat extensionArea.length)
      (List.replicate Frame.frameHeaderLength 0 ++ extensionArea ++ payload)

/-- **Encode a control frame** from a control-message map. -/
def encodeControlFrame (version : UInt8) (sequence : UInt64) (message : CborValue) :
    Except EncodeError (List UInt8) := do
  let payload ← encodeDeterministicCbor message
  encodeFrame ⟨version, Frame.opcodeControlCbor, 0, 0, sequence, 0, Frame.priorityControl, 0⟩
    [] payload

end Encode
end Rclweb
