import Rclweb.Protocol.Control
import Rclweb.Protocol.Extension

/-!
# Selected-version frames

The 32-byte frame header and the receiver's validation steps 1 to 16, in the order the
source runs them: the first failing step is the one reported.

`parseFrameDeclared` is also given the size the header claims, which exceeds the bytes at
hand when a browser host keeps the body of an application frame for itself; the gateway
and `parseFrame` pass the length of the bytes.
-/

namespace Rclweb

open BigEndian

/-- The payload of a frame: application bytes, or a validated control message. -/
inductive FramePayload where
  | application (bytes : List UInt8)
  | control (msg : ControlMessage)
  deriving Repr, Inhabited

/-- **A decoded selected-version frame.** -/
structure DecodedFrame where
  version : UInt8
  opcode : UInt8
  flags : UInt16
  channelId : UInt32
  sequence : UInt64
  sourceTimeNs : Int64
  payloadLen : UInt32
  extensionLen : UInt16
  priority : UInt8
  clockId : UInt8
  extensions : List R2wpExtension
  payload : FramePayload
  deriving Repr, Inhabited

/-- Receiver options. -/
structure FrameOptions where
  selectedVersion : UInt8
  experimentalOpcodesEnabled : Bool
  availableClockIds : List UInt8
  deriving DecidableEq, Repr

namespace Frame

def frameHeaderLength : ℕ := 32
/-- Fixed v0 contract: `absolute_limits.frame_payload_max_bytes`. -/
def framePayloadMaxBytes : ℕ := 67108864
def frameExtensionMaxBytes : ℕ := Extension.extensionAreaMaxBytes
def defaultSelectedVersion : UInt8 := 0

def opcodeControlCbor : UInt8 := 1
def opcodeRosSample : UInt8 := 2
def opcodeServiceRequest : UInt8 := 3
def opcodeServiceResponse : UInt8 := 4
def opcodeActionGoal : UInt8 := 5
def opcodeActionFeedback : UInt8 := 6
def opcodeActionResult : UInt8 := 7
def opcodeActionStatus : UInt8 := 8
def opcodeActionCancel : UInt8 := 9
def opcodeMediaChunk : UInt8 := 10
def opcodeRecordingChunk : UInt8 := 11
def opcodeAssetChunk : UInt8 := 12

def flagRosReliable : UInt16 := 0x0001
def flagKeyframe : UInt16 := 0x0002
def flagTracePresent : UInt16 := 0x0004
def flagRetained : UInt16 := 0x0008
def flagFragment : UInt16 := 0x0010
def flagAssignedMask : UInt16 := 0x001f

def priorityControl : UInt8 := 0
def clockNone : UInt8 := 0

/-- The options of a receiver that was given none. -/
def defaultOptions : FrameOptions := ⟨defaultSelectedVersion, false, [0, 1, 2, 3, 4]⟩

def isAssignedOpcode (opcode : UInt8) : Bool :=
  opcodeControlCbor ≤ opcode && opcode ≤ opcodeAssetChunk

def isExperimentalOpcode (opcode : UInt8) : Bool := 128 ≤ opcode

def opcodeAllowsRosReliable (opcode : UInt8) : Bool :=
  opcode == opcodeRosSample || opcode == opcodeServiceRequest ||
    opcode == opcodeServiceResponse || opcode == opcodeActionGoal ||
    opcode == opcodeActionFeedback || opcode == opcodeActionResult ||
    opcode == opcodeActionStatus || opcode == opcodeActionCancel

/-- Application opcodes whose body may stay on the host. -/
def opcodeAllowsHostRetain (opcode : UInt8) : Bool :=
  opcodeRosSample ≤ opcode && opcode ≤ opcodeAssetChunk

/-- The big-endian number in `width` bytes from `offset` on. -/
def readBe (bytes : List UInt8) (offset width : ℕ) : ℕ :=
  ofBytes ((bytes.drop offset).take width)

/-- The fixed header fields, as they stand in the first 32 bytes. -/
def readHeader (bytes : List UInt8) : DecodedFrame where
  version := UInt8.ofNat (readBe bytes 0 1)
  opcode := UInt8.ofNat (readBe bytes 1 1)
  flags := UInt16.ofNat (readBe bytes 2 2)
  channelId := UInt32.ofNat (readBe bytes 4 4)
  sequence := UInt64.ofNat (readBe bytes 8 8)
  sourceTimeNs := (UInt64.ofNat (readBe bytes 16 8)).toInt64
  payloadLen := UInt32.ofNat (readBe bytes 24 4)
  extensionLen := UInt16.ofNat (readBe bytes 28 2)
  priority := UInt8.ofNat (readBe bytes 30 1)
  clockId := UInt8.ofNat (readBe bytes 31 1)
  extensions := []
  payload := .application []

/-- Steps 2 and 3: version, then the length limits. -/
def checkLengths (h : DecodedFrame) (opts : FrameOptions) : Except ProtocolError Unit :=
  if h.version ≠ opts.selectedVersion then
    .error (.unsupportedVersionFrame "unsupported_version" 0 2)
  else if h.extensionLen.toNat > frameExtensionMaxBytes then
    .error (.messageTooLargeFrame "extension_too_large" 28 3)
  else if h.payloadLen.toNat > framePayloadMaxBytes then
    .error (.messageTooLargeFrame "payload_too_large" 24 3)
  else if h.opcode = opcodeControlCbor ∧ h.payloadLen.toNat > Control.controlPayloadMaxBytes then
    .error (.messageTooLargeFrame "control_payload_too_large" 24 3)
  else .ok ()

/-- Where the payload begins. -/
def payloadStart (h : DecodedFrame) : ℕ := frameHeaderLength + h.extensionLen.toNat

/-- Whether the bytes are just header and extensions of a frame whose body the host keeps. -/
def hostRetainPrefix (h : DecodedFrame) (length : ℕ) : Bool :=
  length == payloadStart h && decide (0 < h.payloadLen.toNat) && opcodeAllowsHostRetain h.opcode

/-- Step 4: the declared size and the size at hand. -/
def checkTotal (h : DecodedFrame) (length declaredTotal : ℕ) : Except ProtocolError Unit :=
  let expectedTotal := payloadStart h + h.payloadLen.toNat
  if declaredTotal ≠ expectedTotal then .error (.malformedFrame "exact_total_mismatch" 0 4)
  else if length ≠ expectedTotal ∧ !hostRetainPrefix h length then
    .error (.malformedFrame "exact_total_mismatch" 0 4)
  else .ok ()

/-- Step 5: the opcode is assigned, or experimental and enabled. -/
def checkOpcode (h : DecodedFrame) (opts : FrameOptions) : Except ProtocolError Unit :=
  if isAssignedOpcode h.opcode then .ok ()
  else if isExperimentalOpcode h.opcode && opts.experimentalOpcodesEnabled then .ok ()
  else .error (.unsupportedOpcode "unsupported_opcode" 1 5)

/-- Steps 6 and 7: flags. -/
def checkFlags (h : DecodedFrame) : Except ProtocolError Unit :=
  if h.flags &&& ~~~flagAssignedMask ≠ 0 then .error (.unsupportedFlags "unknown_flag_bits" 2 6)
  else if h.flags &&& flagFragment ≠ 0 then .error (.unsupportedFlags "fragment_prohibited" 2 7)
  else if h.flags &&& flagKeyframe ≠ 0 ∧ h.opcode ≠ opcodeMediaChunk then
    .error (.unsupportedFlags "keyframe_opcode" 2 7)
  else if h.flags &&& flagRetained ≠ 0 ∧ h.opcode ≠ opcodeRosSample then
    .error (.unsupportedFlags "ros_flag_opcode" 2 7)
  else if h.flags &&& flagRosReliable ≠ 0 ∧ !opcodeAllowsRosReliable h.opcode then
    .error (.unsupportedFlags "ros_flag_opcode" 2 7)
  else .ok ()

/-- Steps 8 and 9: channel class and priority. -/
def checkChannelClass (h : DecodedFrame) : Except ProtocolError Unit :=
  if h.opcode = opcodeControlCbor ∧ h.channelId ≠ 0 then
    .error (.protocolViolation "channel_class" 4 8)
  else if h.opcode ≠ opcodeControlCbor ∧ h.channelId = 0 then
    .error (.protocolViolation "channel_class" 4 8)
  else if h.priority > 4 then .error (.protocolViolation "unassigned_priority" 30 9)
  else if h.opcode = opcodeControlCbor ∧ h.priority ≠ priorityControl then
    .error (.protocolViolation "control_priority" 30 9)
  else .ok ()

/-- Steps 10 to 12: the clock. -/
def checkClock (h : DecodedFrame) (opts : FrameOptions) : Except ProtocolError Unit :=
  if h.clockId > 4 then .error (.protocolViolation "unassigned_clock" 31 10)
  else if h.clockId = clockNone ∧ h.sourceTimeNs ≠ 0 then
    .error (.protocolViolation "none_requires_zero_time" 16 11)
  else if h.clockId ≠ clockNone ∧ !opts.availableClockIds.contains h.clockId then
    .error (.clockUnavailable "clock_unavailable" 31 12)
  else .ok ()

/-- Steps 13 and 14: the extension area. -/
def parseExtensions (h : DecodedFrame) (bytes : List UInt8) :
    Except ProtocolError (List R2wpExtension) :=
  if h.extensionLen.toNat > 0 then
    match Extension.decodeExtensionArea
        ((bytes.drop frameHeaderLength).take h.extensionLen.toNat) with
    | .ok exts => .ok exts
    | .error e =>
      .error (Extension.mapExtensionError e frameHeaderLength
        (if e.reason = "unknown_critical" then 14 else 13))
  else .ok []

/-- Step 15: the trace flag agrees with the extensions. -/
def checkTrace (h : DecodedFrame) (extensions : List R2wpExtension) : Except ProtocolError Unit :=
  let traceFlag := h.flags &&& flagTracePresent != 0
  let hasTraceCtx := extensions.any (·.typeId == Extension.traceContextExtensionType)
  if traceFlag ≠ hasTraceCtx then
    .error (.protocolViolation "trace_consistency" (if traceFlag then 2 else frameHeaderLength) 15)
  else .ok ()

/-- Step 16: the payload. -/
def parsePayload (h : DecodedFrame) (bytes : List UInt8) : Except ProtocolError FramePayload :=
  let raw := (bytes.drop (payloadStart h)).take h.payloadLen.toNat
  if h.opcode = opcodeControlCbor then
    match Control.decodeControlMessage raw with
    | .ok msg => .ok (.control msg)
    | .error e => .error (Control.mapControlError e (payloadStart h))
  else if hostRetainPrefix h bytes.length then .ok (.application [])
  else .ok (.application raw)

/-- **Parse a frame whose declared size is given.** -/
def parseFrameDeclared (bytes : List UInt8) (declaredTotal : ℕ) (opts : FrameOptions) :
    Except ProtocolError DecodedFrame :=
  if bytes.length < frameHeaderLength then .error (.malformedFrame "truncated_header" 0 1)
  else do
    let h := readHeader bytes
    checkLengths h opts
    checkTotal h bytes.length declaredTotal
    checkOpcode h opts
    checkFlags h
    checkChannelClass h
    checkClock h opts
    let extensions ← parseExtensions h bytes
    checkTrace h extensions
    let payload ← parsePayload h bytes
    return { h with extensions := extensions, payload := payload }

/-- **Parse a complete frame** (receiver steps 1 to 16). -/
def parseFrame (bytes : List UInt8) (opts : FrameOptions) : Except ProtocolError DecodedFrame :=
  parseFrameDeclared bytes bytes.length opts

end Frame
end Rclweb
