import Rclweb.Library.Checked
import Rclweb.Protocol.Bootstrap
import Rclweb.Protocol.Frame

/-!
# The parsers on words of a machine

The parsers once more, with what they do to the bytes: offsets are words, every sum of theirs may
overflow, and every index and slice may lie outside.  The checks between are those of the parsers
that were written without positions, and `lift` takes them over.

`usize` has 32 or 64 bits, and a slice has at most half as many bytes as there are words.  A loop
that comes back to its start is given rounds, and runs into a fault when they are used up.  Memory
that is asked for is not part of the model.
-/

namespace Rclweb

open BigEndian Checked

/-- The widths of a `usize`. -/
inductive PointerWidth where
  | w32
  | w64

/-- How many words there are. -/
def PointerWidth.size : PointerWidth → ℕ
  | w32 => 2 ^ 32
  | w64 => 2 ^ 64

/-- **A slice in the memory of a machine**: at most `isize::MAX` bytes. -/
abbrev ByteSlice (width : PointerWidth) : Type :=
  { bytes : List UInt8 // bytes.length < width.size / 2 }

namespace Usize

variable (m : ℕ) {ε : Type}

/-- The bytes `o + i`, `o + i + 1`, … of a word that is read in one piece. -/
def bytesAt (bytes : List UInt8) (o : ℕ) : (i n : ℕ) → Checked ε (List UInt8)
  | _, 0 => pure []
  | i, n + 1 => do
    let at' ← add m o i
    let b ← index bytes at'
    let rest ← bytesAt bytes o (i + 1) n
    return b :: rest

/-- `read_u16_be`, `read_u32_be` and `read_u64_be`. -/
def readBe (bytes : List UInt8) (o width : ℕ) : Checked ε ℕ := do
  let raw ← bytesAt m bytes o 0 width
  return ofBytes raw

/-! ## Deterministic CBOR -/

open Cbor (CborError Head)

structure Reader where
  bytes : List UInt8
  offset : ℕ

namespace Reader

/-- `saturating_sub`. -/
def remaining (r : Reader) : ℕ := r.bytes.length - r.offset

def readByte (r : Reader) : Checked CborError (UInt8 × Reader) :=
  if r.bytes.length ≤ r.offset then raise ⟨"truncated", r.offset⟩
  else do
    let b ← index r.bytes r.offset
    let offset ← add m r.offset 1
    return (b, { r with offset })

def readSlice (r : Reader) (n : ℕ) : Checked CborError (List UInt8 × Reader) :=
  if r.remaining < n then raise ⟨"truncated", r.offset⟩
  else do
    let stop ← add m r.offset n
    let raw ← slice r.bytes r.offset stop
    return (raw, { r with offset := stop })

/-- The bytes of an argument, the first ones shifted up. -/
def readBytes : (n argument : ℕ) → Reader → Checked CborError (ℕ × Reader)
  | 0, argument, r => pure (argument, r)
  | n + 1, argument, r => do
    let (b, r) ← r.readByte m
    readBytes n (argument * 256 + b.toNat) r

end Reader

/-- The argument of a head, of one of the four widths. -/
def readArgument (r : Reader) (h : Head) (width shortest : ℕ) :
    Checked CborError (Head × Reader) :=
  if r.remaining < width then raise ⟨"truncated", h.headOffset⟩
  else do
    let (argument, r) ← Reader.readBytes m width 0 r
    let integerArgument := !(h.major == 7 && (25 ≤ h.additional && h.additional ≤ 27))
    if integerArgument && argument < shortest then raise ⟨"non_shortest_form", h.headOffset⟩
    else return ({ h with argument := argument }, r)

def readHead (r : Reader) : Checked CborError (Head × Reader) :=
  let headOffset := r.offset
  if r.remaining = 0 then raise ⟨"truncated", headOffset⟩
  else do
    let (initial, r) ← r.readByte m
    let additional := initial.toNat % 32
    let h : Head := ⟨initial.toNat / 32, additional, additional, headOffset⟩
    if additional ≤ 23 then return (h, r)
    else if additional = 24 then readArgument m r h 1 24
    else if additional = 25 then readArgument m r h 2 0x100
    else if additional = 26 then readArgument m r h 4 0x10000
    else if additional = 27 then readArgument m r h 8 0x100000000
    else if additional = 31 then raise ⟨"indefinite_length", headOffset⟩
    else raise ⟨"reserved_additional_info", headOffset⟩

/-- A declared length, when it is a word. -/
def lengthToUsize (argument headOffset : ℕ) : Checked CborError ℕ :=
  if argument > Cbor.maxSafeInteger then raise ⟨"length_out_of_range", headOffset⟩
  else if argument < m then return argument
  else raise ⟨"length_out_of_range", headOffset⟩

/-- `-1 - argument` in 128 bits. -/
def negative (argument : ℕ) : Checked CborError ℤ :=
  if -2 ^ 127 ≤ -1 - (argument : ℤ) then return -1 - (argument : ℤ) else stuck .overflow

def decodeScalar (h : Head) (r : Reader) : Checked CborError (CborValue × Reader) :=
  match h.major with
  | 0 => return (.unsigned (UInt64.ofNat h.argument), r)
  | 1 => do
    let v ← negative h.argument
    return (.negative v, r)
  | 2 => do
    let len ← lengthToUsize m h.argument h.headOffset
    let (slice, r) ← r.readSlice m len
    return (.bytes slice, r)
  | 3 => do
    let len ← lengthToUsize m h.argument h.headOffset
    let (slice, r) ← r.readSlice m len
    match ofUtf8? slice with
    | some t => return (.text t, r)
    | none => raise ⟨"invalid_utf8", h.headOffset⟩
  | 6 => raise ⟨"tag_not_allowed", h.headOffset⟩
  | 7 =>
    if h.additional = 25 ∨ h.additional = 26 ∨ h.additional = 27 then
      raise ⟨"float_not_allowed", h.headOffset⟩
    else do
      let code := if h.additional = 24 then h.argument else h.additional
      let v ← lift (Cbor.decodeSimple code h.headOffset)
      return (v, r)
  | _ => raise ⟨"unsupported_major_type", h.headOffset⟩

def decodeItems (item : Reader → Checked CborError (CborValue × Reader)) :
    ℕ → Reader → Checked CborError (List CborValue × Reader)
  | 0, r => pure ([], r)
  | n + 1, r => do
    let (v, r) ← item r
    let (vs, r) ← decodeItems item n r
    return (v :: vs, r)

def decodeEntries (item : Reader → Checked CborError (CborValue × Reader)) :
    ℕ → List UInt64 → Option UInt64 → Reader →
      Checked CborError (List (UInt64 × CborValue) × Reader)
  | 0, _, _, r => pure ([], r)
  | n + 1, seen, prev, r => do
    let (h, r) ← readHead m r
    if h.major ≠ 0 then raise ⟨"map_key_not_unsigned", h.headOffset⟩
    else
      let key := UInt64.ofNat h.argument
      let _ ← lift (Cbor.checkKey seen prev key h.headOffset)
      let (v, r) ← item r
      let (vs, r) ← decodeEntries item n (key :: seen) (some key) r
      return ((key, v) :: vs, r)

/-- `decode_value` at a depth.  Each level of nesting takes a round. -/
def decodeValue : (rounds depth : ℕ) → Reader → Checked CborError (CborValue × Reader)
  | 0, _, _ => stuck .endless
  | rounds + 1, depth, r => do
    let (h, r) ← readHead m r
    if h.major = 4 then
      let next ← add m depth 1
      if next > Cbor.maxNestingDepth then raise ⟨"nesting_depth_exceeded", h.headOffset⟩
      else
        let len ← lengthToUsize m h.argument h.headOffset
        if len > r.remaining then raise ⟨"truncated", h.headOffset⟩
        else
          let (items, r) ← decodeItems (decodeValue rounds next) len r
          return (.array items, r)
    else if h.major = 5 then
      let next ← add m depth 1
      if next > Cbor.maxNestingDepth then raise ⟨"nesting_depth_exceeded", h.headOffset⟩
      else if h.argument > Cbor.maxMapEntries then raise ⟨"map_entries_exceeded", h.headOffset⟩
      else
        let len ← lengthToUsize m h.argument h.headOffset
        if len > 0 ∧ saturatingMul m len 2 > r.remaining then raise ⟨"truncated", h.headOffset⟩
        else
          let (entries, r) ← decodeEntries m (decodeValue rounds next) len [] none r
          return (.map entries, r)
    else decodeScalar m h r

def decodeDeterministicCbor (bytes : List UInt8) : Checked CborError CborValue :=
  if bytes.isEmpty then raise ⟨"empty_input", 0⟩
  else do
    let (v, r) ← decodeValue m (Cbor.maxNestingDepth + 1) 0 ⟨bytes, 0⟩
    if r.offset = bytes.length then return v else raise ⟨"trailing_data", r.offset⟩

/-! ## Extension areas -/

open Extension (malformed tlvHeaderLen ParsedTlv)

/-- `align4`, with its mask. -/
def align4 (n : ℕ) : Checked ε ℕ := do
  let sum ← add m n 3
  return sum / 4 * 4

/-- The bytes `start + i`, `start + i + 1`, … are zero. -/
def zeros (bytes : List UInt8) (start : ℕ) (nonzero : ℕ → Checked ε Unit) :
    (i n : ℕ) → Checked ε Unit
  | _, 0 => pure ()
  | i, n + 1 => do
    let at' ← add m start i
    let b ← index bytes at'
    if b ≠ 0 then nonzero i else zeros bytes start nonzero (i + 1) n

def assertTraceReservedZero (value : List UInt8) (valueOffset : ℕ) : Checked ExtensionError Unit :=
  zeros m value Extension.traceReservedOffset (fun i => do
    let base ← add m valueOffset Extension.traceReservedOffset
    let at' ← add m base i
    raise (malformed "reserved_nonzero" at')) 0 Extension.traceReservedSize

/-- One round of the structural pass. -/
def parseTlv (bytes : List UInt8) (offset : ℕ) (prev : Option UInt8) :
    Checked ExtensionError (ParsedTlv × ℕ) := do
  let remaining ← sub bytes.length offset
  if remaining < tlvHeaderLen then raise (malformed "truncated_header" offset)
  else
    let typeId ← index bytes offset
    let flagsAt ← add m offset 1
    let flags ← index bytes flagsAt
    let lenAt ← add m offset 2
    let valueLen ← readBe m bytes lenAt 2
    if flags &&& 0xfe ≠ 0 then
      let at' ← add m offset 1
      raise (malformed "reserved_flag_bits" at')
    else
      let critical := flags &&& 0x01 != 0
      let assigned := Extension.isAssigned typeId
      if (Extension.fixedValueLen typeId).any (· != valueLen) then
        let at' ← add m offset 2
        raise (malformed "fixed_length_mismatch" at')
      else
        let contentLen := saturatingAdd m tlvHeaderLen valueLen
        if remaining < contentLen then
          raise (malformed "truncated_value" (saturatingAdd m offset tlvHeaderLen))
        else
          let padded ← align4 m contentLen
          if remaining < padded then
            raise (malformed "truncated_padding" (saturatingAdd m offset contentLen))
          else
            let _ ← zeros m bytes offset (fun p => do
              let at' ← add m offset p
              raise (malformed "nonzero_padding" at')) contentLen (padded - contentLen)
            let valueOffset ← add m offset tlvHeaderLen
            let stop ← add m valueOffset valueLen
            let value ← slice bytes valueOffset stop
            let _ ← if assigned && typeId == Extension.traceContextExtensionType then
              assertTraceReservedZero m value valueOffset else pure ()
            let _ ← lift (Extension.checkTypeOrder prev typeId offset)
            return (⟨typeId, critical, value, assigned⟩, padded)

/-- The structural pass.  Each record takes a round. -/
def decodeTlvs (bytes : List UInt8) : (rounds offset : ℕ) → Option UInt8 → Option ℕ →
    Checked ExtensionError (List ParsedTlv × Option ℕ)
  | 0, _, _, _ => stuck .endless
  | rounds + 1, offset, prev, firstUnknownCritical =>
    if bytes.length ≤ offset then pure ([], firstUnknownCritical)
    else do
      let (tlv, padded) ← parseTlv m bytes offset prev
      let firstUnknownCritical :=
        if !tlv.assigned && tlv.critical then firstUnknownCritical.or (some offset)
        else firstUnknownCritical
      let next ← add m offset padded
      let (parsed, first) ← decodeTlvs bytes rounds next (some tlv.typeId) firstUnknownCritical
      return (tlv :: parsed, first)

def decodeExtensionArea (bytes : List UInt8) : Checked ExtensionError (List R2wpExtension) :=
  if bytes.length > Extension.extensionAreaMaxBytes then
    raise (Extension.messageTooLarge "area_too_large" 0)
  else if bytes.length % Extension.extensionAlignment ≠ 0 then raise (malformed "area_alignment" 0)
  else do
    let (parsed, firstUnknownCritical) ← decodeTlvs m bytes (bytes.length + 1) 0 none none
    match firstUnknownCritical with
    | some off => raise (Extension.unsupported "unknown_critical" off)
    | none => return (parsed.filter (·.assigned)).map fun t => ⟨t.typeId, t.critical, t.value⟩

/-! ## Frames -/

open Rclweb.Frame

/-- Header-declared size: `32 + extension_len + payload_len`, when it is a word. -/
def frameDeclaredTotal (bytes : List UInt8) : Checked ProtocolError (Option ℕ) :=
  if bytes.length < frameHeaderLength then return none
  else do
    let payloadLen ← slice bytes 24 28
    let extensionLen ← slice bytes 28 30
    return (checkedAdd m frameHeaderLength (ofBytes extensionLen)).bind
      (checkedAdd m · (ofBytes payloadLen))

def retainDeclaredLen (bytes : List UInt8) : Checked ProtocolError ℕ := do
  let declared ← frameDeclaredTotal m bytes
  match declared with
  | none => return bytes.length
  | some total =>
    if bytes.length = total then return total
    else
      let high ← index bytes 28
      let low ← index bytes 29
      let front ← add m frameHeaderLength (ofBytes [high, low])
      if bytes.length = front then return total else return bytes.length

/-- The fixed header fields. -/
def readHeader (bytes : List UInt8) : Checked ProtocolError DecodedFrame := do
  let version ← index bytes 0
  let opcode ← index bytes 1
  let flags ← readBe m bytes 2 2
  let channelId ← readBe m bytes 4 4
  let sequence ← readBe m bytes 8 8
  let sourceTimeNs ← readBe m bytes 16 8
  let payloadLen ← readBe m bytes 24 4
  let extensionLen ← readBe m bytes 28 2
  let priority ← index bytes 30
  let clockId ← index bytes 31
  return {
    version, opcode, priority, clockId
    flags := UInt16.ofNat flags
    channelId := UInt32.ofNat channelId
    sequence := UInt64.ofNat sequence
    sourceTimeNs := (UInt64.ofNat sourceTimeNs).toInt64
    payloadLen := UInt32.ofNat payloadLen
    extensionLen := UInt16.ofNat extensionLen
    extensions := []
    payload := .application [] }

/-- `checked_add`, with the error of a sum that is no word. -/
def addTotal (a b : ℕ) : Checked ProtocolError ℕ :=
  match checkedAdd m a b with
  | some sum => return sum
  | none => raise (.messageTooLargeFrame "payload_too_large" 0 4)

/-- Steps 13 and 14. -/
def parseExtensions (h : DecodedFrame) (bytes : List UInt8) (extEnd : ℕ) :
    Checked ProtocolError (List R2wpExtension) :=
  if h.extensionLen.toNat > 0 then do
    let area ← slice bytes frameHeaderLength extEnd
    Checked.mapError (fun e => Extension.mapExtensionError e frameHeaderLength
      (if e.reason = "unknown_critical" then 14 else 13)) (decodeExtensionArea m area)
  else return []

/-- The shape of a control message is checked on its value. -/
def decodeControlMessage (bytes : List UInt8) : Checked Control.ControlError ControlMessage :=
  if bytes.length > Control.controlPayloadMaxBytes then raise ⟨"payload_too_large", 0⟩
  else do
    let decoded ← Checked.mapError (fun e => ⟨"cbor_profile", e.offset⟩)
      (decodeDeterministicCbor m bytes)
    lift (Control.validateControlMessage decoded)

/-- Step 16. -/
def parsePayload (h : DecodedFrame) (bytes : List UInt8) (hostRetainPrefix : Bool)
    (payloadStart payloadEnd : ℕ) : Checked ProtocolError FramePayload :=
  if h.opcode = opcodeControlCbor then do
    let raw ← slice bytes payloadStart payloadEnd
    let msg ← Checked.mapError (Control.mapControlError · payloadStart) (decodeControlMessage m raw)
    return .control msg
  else if hostRetainPrefix then return .application []
  else do
    let raw ← slice bytes payloadStart payloadEnd
    return .application raw

def parseFrameDeclared (bytes : List UInt8) (declaredTotal : ℕ) (options : Option FrameOptions) :
    Checked ProtocolError DecodedFrame :=
  let opts := options.getD defaultOptions
  if bytes.length < frameHeaderLength then raise (.malformedFrame "truncated_header" 0 1)
  else do
    let h ← readHeader m bytes
    let _ ← lift (checkLengths h opts)
    let afterHeader ← addTotal m frameHeaderLength h.extensionLen.toNat
    let expectedTotal ← addTotal m afterHeader h.payloadLen.toNat
    if declaredTotal ≠ expectedTotal then raise (.malformedFrame "exact_total_mismatch" 0 4)
    else
      let hostRetainPrefix := bytes.length == afterHeader && decide (0 < h.payloadLen.toNat) &&
        opcodeAllowsHostRetain h.opcode
      if bytes.length ≠ expectedTotal ∧ !hostRetainPrefix then
        raise (.malformedFrame "exact_total_mismatch" 0 4)
      else
        let _ ← lift (checkOpcode h opts)
        let _ ← lift (checkFlags h)
        let _ ← lift (checkChannelClass h)
        let _ ← lift (checkClock h opts)
        let extEnd ← add m frameHeaderLength h.extensionLen.toNat
        let payloadEnd ← add m extEnd h.payloadLen.toNat
        let extensions ← parseExtensions m h bytes extEnd
        let _ ← lift (checkTrace h extensions)
        let payload ← parsePayload m h bytes hostRetainPrefix extEnd payloadEnd
        return { h with extensions, payload }

def parseFrame (bytes : List UInt8) (options : Option FrameOptions) :
    Checked ProtocolError DecodedFrame := parseFrameDeclared m bytes bytes.length options

/-! ## Bootstrap records -/

open Bootstrap

/-- The value of a key that a map must have. -/
def member (map : Entries) (key : UInt64) : Checked ProtocolError CborValue :=
  unwrap (map.lookup key)

def decodeTransport (value : CborValue) (offset : ℕ) :
    Checked ProtocolError TransportCapabilities := do
  let map ← lift (asMap value offset)
  let _ ← lift (requireExactKeys map [1, 2] [3] offset)
  let v ← member map 1
  let webtransportHttp3 ← lift (asBool v offset)
  let v ← member map 2
  let binaryWss ← lift (asBool v offset)
  let maxDatagramSize ← lift (optional map 3 (asUint32 · offset))
  return ⟨webtransportHttp3, binaryWss, maxDatagramSize⟩

def decodeBuffer (value : CborValue) (offset : ℕ) : Checked ProtocolError BufferCapabilities := do
  let map ← lift (asMap value offset)
  let _ ← lift (requireExactKeys map [1, 2] [] offset)
  let v ← member map 1
  let transferableArraybuffer ← lift (asBool v offset)
  let v ← member map 2
  let sharedArraybuffer ← lift (asBool v offset)
  return ⟨transferableArraybuffer, sharedArraybuffer⟩

def decodeEffectiveLimits (value : CborValue) (offset : ℕ) :
    Checked ProtocolError EffectiveLimits := do
  let map ← lift (asMap value offset)
  let _ ← lift (requireExactKeys map [1, 2, 3, 4] [] offset)
  let v ← member map 1
  let maxChannels ← lift (asUintRange v offset 0 effectiveMaxChannels)
  let v ← member map 2
  let maxSessionBytes ← lift (asUintRange v offset 0 effectiveMaxSessionBytes)
  let v ← member map 3
  let maxMessageBytes ← lift (asUintRange v offset 0 effectiveMaxMessageBytes)
  let v ← member map 4
  let maxControl ← lift (asUintRange v offset 0 effectiveMaxControlPayloadBytes)
  return ⟨UInt32.ofNat maxChannels, UInt64.ofNat maxSessionBytes, UInt32.ofNat maxMessageBytes,
    UInt32.ofNat maxControl⟩

def decodeClientHello (value : CborValue) (offset : ℕ) : Checked ProtocolError ClientHello := do
  let map ← lift (asMap value offset)
  let _ ← lift (requireExactKeys map [1, 2, 3, 4, 6] [] offset)
  let v ← member map 1
  let wire ← lift (decodeWireVersions v offset)
  let v ← member map 2
  let transport ← decodeTransport v offset
  let v ← member map 3
  let buffer ← decodeBuffer v offset
  let v ← member map 4
  let requested ← lift (decodeRequestedLimits v offset)
  let v ← member map 6
  let caps ← lift (decodeExtensionCapabilities v offset)
  return ⟨wire, transport, buffer, requested, caps⟩

def decodeServerHello (value : CborValue) (offset : ℕ) : Checked ProtocolError ServerHello := do
  let map ← lift (asMap value offset)
  let _ ← lift (requireExactKeys map [1, 2, 3, 4, 6] [] offset)
  let v ← member map 1
  let selected ← lift (asUint8 v offset)
  if selected ≠ 0 then raise (.malformedBootstrap "range_violation" offset 9)
  else
    let v ← member map 2
    let transport ← decodeTransport v offset
    let v ← member map 3
    let buffer ← decodeBuffer v offset
    let v ← member map 4
    let effective ← decodeEffectiveLimits v offset
    let v ← member map 6
    let caps ← lift (decodeExtensionCapabilities v offset)
    return ⟨selected, transport, buffer, effective, caps⟩

def decodeBootstrapError (value : CborValue) (offset : ℕ) :
    Checked ProtocolError BootstrapErrorRecord := do
  let map ← lift (asMap value offset)
  let _ ← lift (requireExactKeys map [1] [2, 3] offset)
  let v ← member map 1
  let code ← lift (asUintRange v offset 0 255)
  if !bootstrapErrorCodes.contains code then
    raise (.malformedBootstrap "range_violation" offset 9)
  else
    let message ← lift (optional map 2 (asText · offset))
    let detail ← lift (optional map 3 (asText · offset))
    return ⟨UInt8.ofNat code, message, detail⟩

def decodePayloadByKind (kind : UInt8) (value : CborValue) (offset : ℕ) :
    Checked ProtocolError BootstrapRecord :=
  if kind = kindClientHello then .clientHello <$> decodeClientHello value offset
  else if kind = kindServerHello then .serverHello <$> decodeServerHello value offset
  else if kind = kindBootstrapError then .bootstrapError <$> decodeBootstrapError value offset
  else raise (.malformedBootstrap "unassigned_kind" 5 5)

def parseBootstrap (bytes : List UInt8) : Checked ProtocolError BootstrapRecord :=
  if bytes.length < bootstrapPrefixLength then
    raise (.malformedBootstrap "truncated_prefix" 0 1)
  else do
    let start ← slice bytes 0 4
    if start ≠ magic then raise (.malformedBootstrap "bad_magic" 0 2)
    else
      let version ← index bytes 4
      if version ≠ bootstrapVersion then
        raise (.unsupportedVersionBootstrap "unsupported_bootstrap_version" 4 3)
      else
        let flags ← readBe m bytes 6 2
        if flags ≠ 0 then raise (.malformedBootstrap "nonzero_flags" 6 4)
        else
          let kind ← index bytes 5
          if kind ≠ kindClientHello ∧ kind ≠ kindServerHello ∧ kind ≠ kindBootstrapError then
            raise (.malformedBootstrap "unassigned_kind" 5 5)
          else
            let payloadLen ← readBe m bytes 8 4
            if payloadLen > bootstrapPayloadMaxBytes then
              raise (.messageTooLargeBootstrap "payload_too_large" 8 6)
            else
              match checkedAdd m bootstrapPrefixLength payloadLen with
              | none => raise (.malformedBootstrap "exact_total_mismatch" 0 7)
              | some expectedTotal =>
                if bytes.length ≠ expectedTotal then
                  raise (.malformedBootstrap "exact_total_mismatch" 0 7)
                else do
                  let payload ← slice bytes bootstrapPrefixLength expectedTotal
                  let value ← Checked.mapError (fun e => .malformedBootstrap "cbor_profile"
                    (saturatingAdd m bootstrapPrefixLength e.offset) 8)
                      (decodeDeterministicCbor m payload)
                  decodePayloadByKind kind value bootstrapPrefixLength

end Usize
end Rclweb
