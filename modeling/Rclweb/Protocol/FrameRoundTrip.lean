import Rclweb.Protocol.EncodedSize

/-!
# Encoded frames parse

What the receiver's validation steps see of a frame the encoder wrote: the header fields as
they were given, the extension area and the payload.  `parseFrame_encodeFrame` says so once for
every frame; control frames and operation frames are its two instances.
-/

namespace Rclweb

open BigEndian

/-! ## The extension area of an operation -/

namespace Extension

/-- The record of an operation id. -/
theorem encodeExtensionArea_operationId {value : List UInt8} (h : value.length = 16) :
    Encode.encodeExtensionArea [⟨operationIdExtensionType, true, value⟩] =
      .ok ([operationIdExtensionType, 1, 0, 16] ++ value) := by
  have hpad : Encode.padding (tlvHeaderLen + value.length) = [] := by rw [h]; rfl
  have hlen : toBytes 2 value.length = [0, 16] := by rw [h]; rfl
  simp only [Encode.encodeExtensionArea, Encode.writeTlvs, hpad, hlen]
  simp [h, bind, Except.bind, pure, Except.pure, extensionAreaMaxBytes]

theorem decodeExtensionArea_operationId {value : List UInt8} (h : value.length = 16) :
    decodeExtensionArea ([operationIdExtensionType, 1, 0, 16] ++ value) =
      .ok [⟨operationIdExtensionType, true, value⟩] := by
  have htlv : parseTlv (2 :: 1 :: 0 :: 16 :: value) 0 none =
      .ok (⟨2, true, value, true⟩, 20) := by
    have hfirst : firstNonzero (2 :: 1 :: 0 :: 16 :: value) 20 0 = none := by
      simp [firstNonzero]
    have htake : value.take 16 = value := by rw [← h, List.take_length]
    simp only [parseTlv, List.length_cons, h]
    simp only [show ofBytes [0, 16] = 16 from rfl, show tlvHeaderLen + 16 = 20 from rfl,
      show align4 20 = 20 from rfl, hfirst]
    simp [isAssigned, fixedValueLen, operationIdExtensionType, traceContextExtensionType,
      operationIdValueLength, htake, tlvHeaderLen, checkTypeOrder, bind, Except.bind, pure,
      Except.pure, show (1 : UInt8) &&& 254 = 0 by decide]
  have hdrop : (2 :: 1 :: 0 :: 16 :: value : List UInt8).drop 20 = [] := by
    apply List.drop_eq_nil_of_le
    simp [h]
  have hall : decodeTlvs 20 (2 :: 1 :: 0 :: 16 :: value) 0 none none =
      .ok ([⟨2, true, value, true⟩], none) := by
    rw [decodeTlvs]
    simp [htlv, hdrop, decodeTlvs, bind, Except.bind, pure, Except.pure]
  simp [decodeExtensionArea, h, extensionAreaMaxBytes, extensionAlignment, operationIdExtensionType,
    hall, bind, Except.bind, pure, Except.pure]

end Extension

namespace Frame

/-! ## Header fields -/

theorem readBe_append_right {front rest : List UInt8} {offset width : ℕ}
    (h : front.length ≤ offset) :
    readBe (front ++ rest) offset width = readBe rest (offset - front.length) width := by
  rw [readBe, List.drop_append, List.drop_eq_nil_of_le h, List.nil_append, readBe]

theorem readBe_toBytes (width n : ℕ) (rest : List UInt8) :
    readBe (toBytes width n ++ rest) 0 width = n % 256 ^ width := by
  rw [readBe, List.drop_zero, List.take_left' (length_toBytes width n), ofBytes_toBytes]

theorem readBe_one (bytes : List UInt8) (offset : ℕ) :
    UInt8.ofNat (readBe bytes offset 1) = bytes.getD offset 0 := by
  rw [readBe, List.getD_eq_getElem?_getD, ← List.head?_drop]
  cases bytes.drop offset with
  | nil => rfl
  | cons b rest => simp [ofBytes]

theorem readBe_lt (bytes : List UInt8) (offset width : ℕ) :
    readBe bytes offset width < 256 ^ width :=
  (ofBytes_lt _).trans_le (Nat.pow_le_pow_right (by norm_num) (List.length_take_le ..))

theorem toNat_readHeader_extensionLen (bytes : List UInt8) :
    (readHeader bytes).extensionLen.toNat = readBe bytes 28 2 := by
  rw [readHeader, UInt16.toNat_ofNat', Nat.mod_eq_of_lt]
  exact (readBe_lt bytes 28 2).trans_eq (by norm_num)

theorem toNat_readHeader_payloadLen (bytes : List UInt8) :
    (readHeader bytes).payloadLen.toNat = readBe bytes 24 4 := by
  rw [readHeader, UInt32.toNat_ofNat', Nat.mod_eq_of_lt]
  exact (readBe_lt bytes 24 4).trans_eq (by norm_num)

/-- The fields of a received header, with the lengths the sender derived. -/
def received (header : FrameHeader) (payloadLen : UInt32) (extensionLen : UInt16) :
    DecodedFrame where
  version := header.version
  opcode := header.opcode
  flags := header.flags
  channelId := header.channelId
  sequence := header.sequence
  sourceTimeNs := header.sourceTimeNs
  payloadLen := payloadLen
  extensionLen := extensionLen
  priority := header.priority
  clockId := header.clockId
  extensions := []
  payload := .application []

@[simp] theorem length_headerBytes (header : FrameHeader) (payloadLen : UInt32)
    (extensionLen : UInt16) :
    (Encode.headerBytes header payloadLen extensionLen).length = frameHeaderLength := by
  simp [Encode.headerBytes, frameHeaderLength]

/-- **The header fields are read back** as they were written. -/
theorem readHeader_headerBytes (header : FrameHeader) (payloadLen : UInt32)
    (extensionLen : UInt16) (rest : List UInt8) :
    readHeader (Encode.headerBytes header payloadLen extensionLen ++ rest) =
      received header payloadLen extensionLen := by
  have h8 (v : UInt8) : UInt8.ofNat (v.toNat % 256 ^ 1) = v := by
    rw [Nat.mod_eq_of_lt (v.toNat_lt.trans_eq (by norm_num)), UInt8.ofNat_toNat]
  have h16 (v : UInt16) : UInt16.ofNat (v.toNat % 256 ^ 2) = v := by
    rw [Nat.mod_eq_of_lt (v.toNat_lt.trans_eq (by norm_num)), UInt16.ofNat_toNat]
  have h32 (v : UInt32) : UInt32.ofNat (v.toNat % 256 ^ 4) = v := by
    rw [Nat.mod_eq_of_lt (v.toNat_lt.trans_eq (by norm_num)), UInt32.ofNat_toNat]
  have h64 (v : UInt64) : UInt64.ofNat (v.toNat % 256 ^ 8) = v := by
    rw [Nat.mod_eq_of_lt (v.toNat_lt.trans_eq (by norm_num)), UInt64.ofNat_toNat]
  simp only [readHeader, received, Encode.headerBytes, List.append_assoc]
  congr 1 <;>
    simp (disch := simp) only [readBe_append_right, length_toBytes, Nat.reduceSub, readBe_toBytes,
      h8, h16, h32, h64, Int64.toInt64_toUInt64]

/-! ## Whole frames -/

/-- **What an encoded frame is made of**, and the bounds it keeps. -/
structure EncodesFrame (header : FrameHeader) (area payload bytes : List UInt8) : Prop where
  area_aligned : area.length % 4 = 0
  area_le : area.length ≤ Extension.extensionAreaMaxBytes
  payload_le : payload.length ≤ framePayloadMaxBytes
  control_le : header.opcode = opcodeControlCbor → payload.length ≤ Control.controlPayloadMaxBytes
  eq : bytes = Encode.headerBytes header (UInt32.ofNat payload.length)
    (UInt16.ofNat area.length) ++ (area ++ payload)

theorem toNat_payloadLen {n : ℕ} (h : n ≤ framePayloadMaxBytes) : (UInt32.ofNat n).toNat = n := by
  rw [UInt32.toNat_ofNat', Nat.mod_eq_of_lt]
  unfold framePayloadMaxBytes at h
  omega

theorem toNat_extensionLen {n : ℕ} (h : n ≤ Extension.extensionAreaMaxBytes) :
    (UInt16.ofNat n).toNat = n := by
  rw [UInt16.toNat_ofNat', Nat.mod_eq_of_lt]
  unfold Extension.extensionAreaMaxBytes at h
  omega

/-- **When a frame is encoded.** -/
theorem encodeFrame_eq_ok_iff {header : FrameHeader} {area payload bytes : List UInt8} :
    Encode.encodeFrame header area payload = .ok bytes ↔
      EncodesFrame header area payload bytes := by
  have hdrop : (List.replicate frameHeaderLength (0 : UInt8) ++ area ++ payload).drop
      frameHeaderLength = area ++ payload := by
    rw [List.append_assoc]
    exact List.drop_left' (List.length_replicate ..)
  constructor
  · intro h
    unfold Encode.encodeFrame at h
    split_ifs at h with harea hpayload
    have hle : payload.length ≤ framePayloadMaxBytes := by omega
    unfold Encode.writeFrameHeader at h
    rw [toNat_payloadLen hle, hdrop] at h
    split_ifs at h with hlen hcontrol
    exact ⟨by omega, by omega, hle, fun hop => by grind, (Except.ok.inj h).symm⟩
  · rintro ⟨haligned, harea, hpayload, hcontrol, rfl⟩
    unfold Encode.encodeFrame
    rw [if_neg (by omega), if_neg (by omega)]
    unfold Encode.writeFrameHeader
    rw [toNat_payloadLen hpayload, if_neg (by simp), if_neg (by omega), if_neg (by grind), hdrop]

/-- The last step, on the payload of a frame. -/
def partsPayload (h : DecodedFrame) (payload : List UInt8) : Except ProtocolError FramePayload :=
  if h.opcode = opcodeControlCbor then
    match Control.decodeControlMessage payload with
    | .ok msg => .ok (.control msg)
    | .error e => .error (Control.mapControlError e (payloadStart h))
  else .ok (.application payload)

/-- The validation steps of a frame whose parts are known: header, extension area and
payload. -/
def parseParts (h : DecodedFrame) (area payload : List UInt8) (opts : FrameOptions) :
    Except ProtocolError DecodedFrame := do
  checkLengths h opts
  checkOpcode h opts
  checkFlags h
  checkChannelClass h
  checkClock h opts
  let extensions ← parseExtensions h (List.replicate frameHeaderLength 0 ++ area)
  checkTrace h extensions
  let payload ← partsPayload h payload
  return { h with extensions := extensions, payload := payload }

/-- **Parsing an encoded frame** is checking the parts it was made of. -/
theorem parseFrame_encodeFrame {header : FrameHeader} {area payload bytes : List UInt8}
    (h : EncodesFrame header area payload bytes) (opts : FrameOptions) :
    parseFrame bytes opts =
      parseParts (received header (UInt32.ofNat payload.length) (UInt16.ofNat area.length)) area
        payload opts := by
  obtain ⟨_, harea, hpayload, _, rfl⟩ := h
  set hd := Encode.headerBytes header (UInt32.ofNat payload.length) (UInt16.ofNat area.length)
    with hhd
  set rh := received header (UInt32.ofNat payload.length) (UInt16.ofNat area.length) with hrh
  have hplen : rh.payloadLen.toNat = payload.length := toNat_payloadLen hpayload
  have helen : rh.extensionLen.toNat = area.length := toNat_extensionLen harea
  have hdlen : hd.length = frameHeaderLength := length_headerBytes ..
  have hlen : (hd ++ (area ++ payload)).length =
      frameHeaderLength + area.length + payload.length := by
    rw [List.length_append, List.length_append, hdlen, Nat.add_assoc]
  have hstart : payloadStart rh = frameHeaderLength + area.length := by rw [payloadStart, helen]
  have hread : readHeader (hd ++ (area ++ payload)) = rh := readHeader_headerBytes ..
  have htotal : checkTotal rh (hd ++ (area ++ payload)).length (hd ++ (area ++ payload)).length =
      .ok () := by
    simp only [checkTotal, hstart, hplen, hlen]
    simp
  have hexts : parseExtensions rh (hd ++ (area ++ payload)) =
      parseExtensions rh (List.replicate frameHeaderLength 0 ++ area) := by
    rw [parseExtensions, parseExtensions, helen, List.drop_left' hdlen,
      List.drop_left' (List.length_replicate ..), List.take_left' rfl, List.take_length]
  have hpay : parsePayload rh (hd ++ (area ++ payload)) = partsPayload rh payload := by
    have hdrop : ((hd ++ (area ++ payload)).drop (payloadStart rh)).take payload.length =
        payload := by
      rw [← List.append_assoc, List.drop_left' (by rw [hstart, List.length_append, hdlen]),
        List.take_length]
    have hstart : hostRetainPrefix rh (hd ++ (area ++ payload)).length = false := by
      simp only [hostRetainPrefix, hstart, hplen, hlen]
      cases payload with
      | nil => simp
      | cons => simp
    simp only [parsePayload, hplen, hdrop, hstart]
    rfl
  have hshort : ¬ (hd ++ (area ++ payload)).length < frameHeaderLength := by omega
  rw [parseFrame, parseFrameDeclared, if_neg hshort]
  simp only [hread, htotal, hexts, hpay]
  rw [parseParts]
  cases checkLengths rh opts <;> rfl

/-- What an encoded frame parses to has the header it was encoded with. -/
theorem header_of_parse {header : FrameHeader} {area payload bytes : List UInt8}
    {frame : DecodedFrame} {opts : FrameOptions}
    (hbytes : Encode.encodeFrame header area payload = .ok bytes)
    (hparse : parseFrame bytes opts = .ok frame) :
    ∃ extensions p, frame =
      { received header (UInt32.ofNat payload.length) (UInt16.ofNat area.length) with
        extensions := extensions
        payload := p } := by
  rw [parseFrame_encodeFrame (encodeFrame_eq_ok_iff.mp hbytes), parseParts] at hparse
  simp only [bind_eq_ok] at hparse
  obtain ⟨_, -, _, -, _, -, _, -, _, -, exts, -, _, -, p, -, hframe⟩ := hparse
  exact ⟨exts, p, (Except.ok.inj hframe).symm⟩

theorem opcode_of_parse {header : FrameHeader} {area payload bytes : List UInt8}
    {frame : DecodedFrame} {opts : FrameOptions}
    (hbytes : Encode.encodeFrame header area payload = .ok bytes)
    (hparse : parseFrame bytes opts = .ok frame) : frame.opcode = header.opcode := by
  obtain ⟨_, _, rfl⟩ := header_of_parse hbytes hparse
  rfl

/-- Away from control frames, the payload is the bytes that were sent. -/
theorem payload_of_parse {header : FrameHeader} {area payload bytes : List UInt8}
    {frame : DecodedFrame} {opts : FrameOptions}
    (hbytes : Encode.encodeFrame header area payload = .ok bytes)
    (hopcode : header.opcode ≠ opcodeControlCbor) (hparse : parseFrame bytes opts = .ok frame) :
    frame.payload = .application payload := by
  rw [parseFrame_encodeFrame (encodeFrame_eq_ok_iff.mp hbytes), parseParts] at hparse
  simp only [bind_eq_ok] at hparse
  obtain ⟨_, -, _, -, _, -, _, -, _, -, _, -, _, -, p, hp, hframe⟩ := hparse
  obtain rfl : p = .application payload := Except.ok.inj (hp.symm.trans (if_neg hopcode))
  rw [← Except.ok.inj hframe]

/-- **The payload of an application frame** is all that follows the extensions, unless only the
frame up to there is at hand. -/
theorem payload_of_parseDeclared {bytes : List UInt8} {declaredTotal : ℕ} {opts : FrameOptions}
    {frame : DecodedFrame} (hparse : parseFrameDeclared bytes declaredTotal opts = .ok frame)
    (hopcode : frame.opcode ≠ opcodeControlCbor) :
    bytes.length = payloadStart frame + frame.payloadLen.toNat ∧
        frame.payload =
          .application ((bytes.drop (payloadStart frame)).take frame.payloadLen.toNat) ∨
      bytes.length = payloadStart frame ∧ 0 < frame.payloadLen.toNat ∧
        frame.payload = .application [] := by
  unfold parseFrameDeclared at hparse
  split_ifs at hparse
  simp only [bind_eq_ok] at hparse
  obtain ⟨_, -, _, htotal, _, -, _, -, _, -, _, -, exts, -, _, -, payload, hp, hframe⟩ := hparse
  obtain rfl := Except.ok.inj hframe
  have hstart : payloadStart { readHeader bytes with extensions := exts, payload := payload } =
      payloadStart (readHeader bytes) := rfl
  rw [hstart]
  unfold checkTotal at htotal
  dsimp only at htotal
  split_ifs at htotal with hdeclared hlength
  unfold parsePayload at hp
  rw [if_neg hopcode] at hp
  split_ifs at hp with hretained
  · obtain rfl := Except.ok.inj hp
    simp only [hostRetainPrefix, Bool.and_eq_true, beq_iff_eq, decide_eq_true_eq] at hretained
    exact .inr ⟨hretained.1.1, hretained.1.2, rfl⟩
  · obtain rfl := Except.ok.inj hp
    rw [not_and_or, not_not] at hlength
    refine .inl ⟨hlength.resolve_right ?_, rfl⟩
    simpa using hretained

/-! ## Flags -/

theorem checkFlags_zero {h : DecodedFrame} (hflags : h.flags = 0) : checkFlags h = .ok () := by
  simp [checkFlags, hflags]

theorem checkFlags_reliable {h : DecodedFrame} (hflags : h.flags = flagRosReliable)
    (hopcode : opcodeAllowsRosReliable h.opcode = true) : checkFlags h = .ok () := by
  have h1 : flagRosReliable &&& ~~~flagAssignedMask = 0 := by decide
  have h2 : flagRosReliable &&& flagFragment = 0 := by decide
  have h3 : flagRosReliable &&& flagKeyframe = 0 := by decide
  have h4 : flagRosReliable &&& flagRetained = 0 := by decide
  simp [checkFlags, hflags, hopcode, h1, h2, h3, h4]

/-- Neither a trace flag nor a trace context. -/
theorem checkTrace_untraced {h : DecodedFrame} {extensions : List R2wpExtension}
    (hflags : h.flags &&& flagTracePresent = 0)
    (hexts : extensions.any (·.typeId == Extension.traceContextExtensionType) = false) :
    checkTrace h extensions = .ok () := by
  simp [checkTrace, hflags, hexts]

/-! ## Control frames -/

/-- The header of a control frame. -/
def controlHeader (sequence : UInt64) : FrameHeader :=
  ⟨0, opcodeControlCbor, 0, 0, sequence, 0, priorityControl, 0⟩

/-- A received control frame. -/
def ofControl (sequence : UInt64) (payloadLen : UInt32) (msg : ControlMessage) : DecodedFrame :=
  { received (controlHeader sequence) payloadLen 0 with payload := .control msg }

/-- **When a control frame is encoded**: the message encodes, within the payload limit. -/
theorem encodeControlFrame_eq_ok {sequence : UInt64} {message : CborValue} {bytes : List UInt8}
    (h : Encode.encodeControlFrame 0 sequence message = .ok bytes) :
    ∃ payload, Encode.encodeDeterministicCbor message = .ok payload ∧
      EncodesFrame (controlHeader sequence) [] payload bytes := by
  unfold Encode.encodeControlFrame at h
  cases hpayload : Encode.encodeDeterministicCbor message with
  | error e => rw [hpayload] at h; cases h
  | ok payload =>
    rw [hpayload] at h
    exact ⟨payload, rfl, encodeFrame_eq_ok_iff.mp h⟩

/-- **A control frame that was encoded parses** exactly when its message, in canonical form,
is valid. -/
theorem parseFrame_encodeControlFrame {sequence : UInt64} {message : CborValue}
    {bytes : List UInt8} (h : Encode.encodeControlFrame 0 sequence message = .ok bytes) :
    ∃ payloadLen, parseFrame bytes defaultOptions =
      (match Control.validateControlMessage message.canon with
      | .ok msg => .ok (ofControl sequence payloadLen msg)
      | .error e => .error (Control.mapControlError e frameHeaderLength)) := by
  obtain ⟨payload, hpayload, hframe⟩ := encodeControlFrame_eq_ok h
  have hle : payload.length ≤ Control.controlPayloadMaxBytes := hframe.control_le rfl
  refine ⟨UInt32.ofNat payload.length, ?_⟩
  rw [parseFrame_encodeFrame hframe, List.length_nil]
  set rh := received (controlHeader sequence) (UInt32.ofNat payload.length) (UInt16.ofNat 0)
    with hrh
  have hdecode : Cbor.decodeDeterministicCbor payload = .ok message.canon :=
    Encode.decode_encode hpayload (by
      unfold Control.controlPayloadMaxBytes at hle
      unfold Cbor.maxSafeInteger
      omega)
  have hlengths : checkLengths rh defaultOptions = .ok () := by
    have hplen := toNat_payloadLen hframe.payload_le
    have hmax := hframe.payload_le
    simp only [hrh, checkLengths, received, controlHeader, hplen]
    simp [defaultOptions, defaultSelectedVersion, frameExtensionMaxBytes, hmax.not_gt, hle.not_gt]
  have hopcode : checkOpcode rh defaultOptions = .ok () := rfl
  have hflags : checkFlags rh = .ok () := checkFlags_zero rfl
  have hclass : checkChannelClass rh = .ok () := rfl
  have hclock : checkClock rh defaultOptions = .ok () := rfl
  have hexts : parseExtensions rh (List.replicate frameHeaderLength 0 ++ []) = .ok [] := rfl
  have htrace : checkTrace rh [] = .ok () :=
    checkTrace_untraced (by simp [hrh, received, controlHeader]) rfl
  have hlimit : ¬ payload.length > Control.controlPayloadMaxBytes := by omega
  have hpay : partsPayload rh payload =
      (match Control.validateControlMessage message.canon with
      | .ok msg => .ok (.control msg)
      | .error e => .error (Control.mapControlError e frameHeaderLength)) := by
    rw [partsPayload, if_pos (by rfl), Control.decodeControlMessage, if_neg hlimit, hdecode]
    rfl
  rw [parseParts]
  simp only [hlengths, hopcode, hflags, hclass, hclock, hexts, htrace, hpay, bind, Except.bind]
  cases Control.validateControlMessage message.canon <;> rfl

/-! ## Application frames -/

/-- The header of an application frame: a sample, or a frame of an operation. -/
def applicationHeader (opcode : UInt8) (reliable : Bool) (channelId : UInt32) (sequence : UInt64)
    (priority : UInt8) : FrameHeader :=
  ⟨0, opcode, if reliable then flagRosReliable else 0, channelId, sequence, 0, priority, 0⟩

/-- A received application frame. -/
def ofApplication (opcode : UInt8) (reliable : Bool) (channelId : UInt32) (sequence : UInt64)
    (priority : UInt8) (extensions : List R2wpExtension) (areaLen : ℕ) (payload : List UInt8) :
    DecodedFrame :=
  { received (applicationHeader opcode reliable channelId sequence priority)
      (UInt32.ofNat payload.length) (UInt16.ofNat areaLen) with
    extensions := extensions
    payload := .application payload }

/-- **An application frame that was encoded parses**, on a channel, with an assigned priority
and an opcode that may be reliable. -/
theorem parseFrame_application {opcode : UInt8} {reliable : Bool} {channelId : UInt32}
    {sequence : UInt64} {priority : UInt8} {area payload bytes : List UInt8}
    {extensions : List R2wpExtension}
    (h : EncodesFrame (applicationHeader opcode reliable channelId sequence priority) area payload
      bytes)
    (hopcode : opcodeAllowsRosReliable opcode = true) (hchannel : channelId ≠ 0)
    (hpriority : priority ≤ 4)
    (harea : area = [] ∧ extensions = [] ∨
      Extension.decodeExtensionArea area = .ok extensions ∧ area ≠ [])
    (htrace : extensions.any (·.typeId == Extension.traceContextExtensionType) = false) :
    parseFrame bytes defaultOptions =
      .ok (ofApplication opcode reliable channelId sequence priority extensions area.length
        payload) := by
  rw [parseFrame_encodeFrame h]
  set rh := received (applicationHeader opcode reliable channelId sequence priority)
    (UInt32.ofNat payload.length) (UInt16.ofNat area.length) with hrh
  have hflags_eq : rh.flags = if reliable then flagRosReliable else 0 := rfl
  have hdata : opcode ≠ opcodeControlCbor := by
    rintro rfl
    contradiction
  have hassigned : isAssignedOpcode opcode = true := by
    simp only [opcodeAllowsRosReliable, Bool.or_eq_true, beq_iff_eq] at hopcode
    rcases hopcode with ((((((rfl | rfl) | rfl) | rfl) | rfl) | rfl) | rfl) | rfl <;> decide
  have hlengths : checkLengths rh defaultOptions = .ok () := by
    have hplen : rh.payloadLen.toNat = payload.length := toNat_payloadLen h.payload_le
    have helen : rh.extensionLen.toNat = area.length := toNat_extensionLen h.area_le
    have hop : rh.opcode = opcode := rfl
    have hversion : rh.version = 0 := rfl
    have hmax := h.payload_le
    have hmax' := h.area_le
    simp [checkLengths, hplen, helen, hop, hversion, hdata, defaultOptions, defaultSelectedVersion,
      frameExtensionMaxBytes, hmax.not_gt, hmax'.not_gt]
  have hop : checkOpcode rh defaultOptions = .ok () := if_pos hassigned
  have hflags : checkFlags rh = .ok () := by
    cases reliable with
    | false => exact checkFlags_zero hflags_eq
    | true => exact checkFlags_reliable hflags_eq hopcode
  have hclass : checkChannelClass rh = .ok () := by
    have hop : rh.opcode = opcode := rfl
    have hch : rh.channelId = channelId := rfl
    have hpr : rh.priority = priority := rfl
    simp [checkChannelClass, hop, hch, hpr, hdata, hchannel, UInt8.not_lt.mpr hpriority]
  have hclock : checkClock rh defaultOptions = .ok () := rfl
  have hexts : parseExtensions rh (List.replicate frameHeaderLength 0 ++ area) =
      .ok extensions := by
    have helen : rh.extensionLen.toNat = area.length := toNat_extensionLen h.area_le
    rw [parseExtensions, helen, List.drop_left' (List.length_replicate ..), List.take_length]
    rcases harea with ⟨rfl, rfl⟩ | ⟨hdecode, hne⟩
    · rfl
    · rw [if_pos (List.length_pos_iff.mpr hne), hdecode]
  have htr : checkTrace rh extensions = .ok () := by
    refine checkTrace_untraced ?_ htrace
    rw [hflags_eq]
    cases reliable <;> decide
  have hpay : partsPayload rh payload = .ok (.application payload) := if_neg hdata
  rw [parseParts]
  simp only [hlengths, hop, hflags, hclass, hclock, hexts, htr, hpay, bind, Except.bind]
  rfl

/-- **A frame of an operation that was encoded parses**, with its operation id. -/
theorem parseFrame_operation {opcode : UInt8} {reliable : Bool} {channelId : UInt32}
    {sequence : UInt64} {priority : UInt8} {operationId payload bytes : List UInt8}
    (hid : operationId.length = 16)
    (h : EncodesFrame (applicationHeader opcode reliable channelId sequence priority)
      ([Extension.operationIdExtensionType, 1, 0, 16] ++ operationId) payload bytes)
    (hopcode : opcodeAllowsRosReliable opcode = true) (hchannel : channelId ≠ 0)
    (hpriority : priority ≤ 4) :
    parseFrame bytes defaultOptions =
      .ok (ofApplication opcode reliable channelId sequence priority
        [⟨Extension.operationIdExtensionType, true, operationId⟩] 20 payload) := by
  have hlen : ([Extension.operationIdExtensionType, 1, 0, 16] ++ operationId).length = 20 := by
    simp [hid]
  rw [← hlen]
  exact parseFrame_application h hopcode hchannel hpriority
    (.inr ⟨Extension.decodeExtensionArea_operationId hid, by simp⟩) rfl

end Frame
end Rclweb
