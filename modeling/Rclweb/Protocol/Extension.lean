import Rclweb.Library.BigEndian
import Rclweb.Protocol.Error

/-!
# Extension areas

The TLV area between a frame header and its payload.  The structural pass runs to the
end of the area before an unknown critical type is reported, so the loop carries the
offset of the first such type along instead of stopping at it.

`decodeTlvs` is the source's `while offset < len` with a bound on the number of rounds;
every round consumes a four-byte header at least, so the area's own length is always
bound enough.
-/

namespace Rclweb

open BigEndian

/-- An assigned extension record. -/
structure R2wpExtension where
  typeId : UInt8
  critical : Bool
  value : List UInt8
  deriving DecidableEq, Repr

/-- An extension-area failure, offsets relative to the start of the area. -/
structure ExtensionError where
  code : ℕ
  name : String
  reason : String
  offset : ℕ
  deriving DecidableEq, Repr

namespace Extension

/-- Fixed v0 contract: `absolute_limits.extension_area_max_bytes`. -/
def extensionAreaMaxBytes : ℕ := 4096

def extensionAlignment : ℕ := 4

/-- Assigned extension types and their fixed value lengths. -/
def traceContextExtensionType : UInt8 := 1
def operationIdExtensionType : UInt8 := 2
def traceContextValueLength : ℕ := 32
def operationIdValueLength : ℕ := 16

def tlvHeaderLen : ℕ := 4
def traceReservedOffset : ℕ := 25
def traceReservedSize : ℕ := 7

def malformed (reason : String) (offset : ℕ) : ExtensionError :=
  ⟨3, "malformed_frame", reason, offset⟩

def messageTooLarge (reason : String) (offset : ℕ) : ExtensionError :=
  ⟨24, "message_too_large", reason, offset⟩

def unsupported (reason : String) (offset : ℕ) : ExtensionError :=
  ⟨22, "unsupported_extension", reason, offset⟩

def align4 (n : ℕ) : ℕ := (n + 3) / 4 * 4

def isAssigned (typeId : UInt8) : Bool :=
  typeId == traceContextExtensionType || typeId == operationIdExtensionType

def fixedValueLen (typeId : UInt8) : Option ℕ :=
  if typeId = traceContextExtensionType then some traceContextValueLength
  else if typeId = operationIdExtensionType then some operationIdValueLength
  else none

/-- The position, from `start` on, of the first nonzero byte of a region of `size` bytes. -/
def firstNonzero (bytes : List UInt8) (start size : ℕ) : Option ℕ :=
  (((bytes.drop start).take size).findIdx? (· != 0)).map (start + ·)

def assertTraceReservedZero (value : List UInt8) (valueOffset : ℕ) :
    Except ExtensionError Unit :=
  match firstNonzero value traceReservedOffset traceReservedSize with
  | some i => .error (malformed "reserved_nonzero" (valueOffset + i))
  | none => .ok ()

structure ParsedTlv where
  typeId : UInt8
  critical : Bool
  value : List UInt8
  assigned : Bool
  deriving DecidableEq, Repr

def checkTypeOrder (prev : Option UInt8) (typeId : UInt8) (offset : ℕ) :
    Except ExtensionError Unit :=
  match prev with
  | some p =>
    if typeId = p then .error (malformed "duplicate_type" offset)
    else if typeId < p then .error (malformed "order_violation" offset)
    else .ok ()
  | none => .ok ()

/-- One round of the structural pass: the record at the front of `bytes`, which begins at
`offset` of the area, and its padded length. -/
def parseTlv (bytes : List UInt8) (offset : ℕ) (prev : Option UInt8) :
    Except ExtensionError (ParsedTlv × ℕ) :=
  match bytes with
  | typeId :: flags :: len0 :: len1 :: _ =>
    let remaining := bytes.length
    let valueLen := ofBytes [len0, len1]
    if flags &&& 0xfe ≠ 0 then .error (malformed "reserved_flag_bits" (offset + 1))
    else
      let critical := flags &&& 0x01 != 0
      let assigned := isAssigned typeId
      if (fixedValueLen typeId).any (· != valueLen) then
        .error (malformed "fixed_length_mismatch" (offset + 2))
      else
        let contentLen := tlvHeaderLen + valueLen
        let padded := align4 contentLen
        if remaining < contentLen then
          .error (malformed "truncated_value" (offset + tlvHeaderLen))
        else if remaining < padded then
          .error (malformed "truncated_padding" (offset + contentLen))
        else
          match firstNonzero bytes contentLen (padded - contentLen) with
          | some p => .error (malformed "nonzero_padding" (offset + p))
          | none => do
            let value := (bytes.drop tlvHeaderLen).take valueLen
            if assigned && typeId == traceContextExtensionType then
              assertTraceReservedZero value (offset + tlvHeaderLen)
            checkTypeOrder prev typeId offset
            return (⟨typeId, critical, value, assigned⟩, padded)
  | _ => .error (malformed "truncated_header" offset)

/-- **The structural pass**: all records of the area, and the offset of the first unknown
critical one. -/
def decodeTlvs : ℕ → List UInt8 → ℕ → Option UInt8 → Option ℕ →
    Except ExtensionError (List ParsedTlv × Option ℕ)
  | 0, _, _, _, firstUnknownCritical => .ok ([], firstUnknownCritical)
  | rounds + 1, bytes, offset, prev, firstUnknownCritical =>
    if bytes.isEmpty then .ok ([], firstUnknownCritical)
    else do
      let (tlv, padded) ← parseTlv bytes offset prev
      let firstUnknownCritical :=
        if !tlv.assigned && tlv.critical then firstUnknownCritical.or (some offset)
        else firstUnknownCritical
      let (parsed, first) ←
        decodeTlvs rounds (bytes.drop padded) (offset + padded) (some tlv.typeId)
          firstUnknownCritical
      return (tlv :: parsed, first)

/-- **Decode a complete extension area**; unknown noncritical records are skipped. -/
def decodeExtensionArea (bytes : List UInt8) : Except ExtensionError (List R2wpExtension) :=
  if bytes.length > extensionAreaMaxBytes then .error (messageTooLarge "area_too_large" 0)
  else if bytes.length % extensionAlignment ≠ 0 then .error (malformed "area_alignment" 0)
  else do
    let (parsed, firstUnknownCritical) ← decodeTlvs bytes.length bytes 0 none none
    match firstUnknownCritical with
    | some off => .error (unsupported "unknown_critical" off)
    | none =>
      return (parsed.filter (·.assigned)).map fun t => ⟨t.typeId, t.critical, t.value⟩

/-- An extension-area error on the selected-frame surface. -/
def mapExtensionError (err : ExtensionError) (areaBase step : ℕ) : ProtocolError :=
  let offset := areaBase + err.offset
  match err.code with
  | 24 => .messageTooLargeFrame "extension_too_large" offset step
  | 22 => .unsupportedExtension "unknown_critical" offset step
  | _ => .malformedFrame "extension_structural" offset step

end Extension
end Rclweb
