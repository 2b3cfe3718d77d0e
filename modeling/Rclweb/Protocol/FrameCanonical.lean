import Rclweb.Protocol.FrameRoundTrip

/-!
# Frames and bytes

Encoding and parsing frames are inverse to each other.  What an encoded frame parses to has the
header, extensions and payload it was encoded from; and bytes that parse are the encoding of the
header that was read and the two areas behind it (`encodeFrame_of_parse`), since every bound of
the encoder is checked by the parser as well.
-/

namespace Rclweb

open BigEndian Rclweb.Frame

/-- The sender's part of a header. -/
def DecodedFrame.header (f : DecodedFrame) : FrameHeader :=
  ⟨f.version, f.opcode, f.flags, f.channelId, f.sequence, f.sourceTimeNs, f.priority, f.clockId⟩

/-! ## The header is read and written back -/

/-- A number that was read is written back as the bytes it was read from. -/
theorem toBytes_readBe {bytes : List UInt8} {offset width : ℕ}
    (h : offset + width ≤ bytes.length) :
    toBytes width (readBe bytes offset width) = (bytes.drop offset).take width := by
  have hlength : ((bytes.drop offset).take width).length = width := by
    rw [List.length_take, List.length_drop]
    omega
  have hback := toBytes_ofBytes ((bytes.drop offset).take width)
  rwa [hlength] at hback

/-- **The first 32 bytes are the header that was read.** -/
theorem headerBytes_readHeader {bytes : List UInt8} (h : frameHeaderLength ≤ bytes.length) :
    Encode.headerBytes (readHeader bytes).header (readHeader bytes).payloadLen
      (readHeader bytes).extensionLen = bytes.take frameHeaderLength := by
  have h32 : 32 ≤ bytes.length := h
  have h8 (o : ℕ) : (UInt8.ofNat (readBe bytes o 1)).toNat = readBe bytes o 1 := by
    rw [UInt8.toNat_ofNat', Nat.mod_eq_of_lt ((readBe_lt bytes o 1).trans_eq (by norm_num))]
  have h16 (o : ℕ) : (UInt16.ofNat (readBe bytes o 2)).toNat = readBe bytes o 2 := by
    rw [UInt16.toNat_ofNat', Nat.mod_eq_of_lt ((readBe_lt bytes o 2).trans_eq (by norm_num))]
  have h32' (o : ℕ) : (UInt32.ofNat (readBe bytes o 4)).toNat = readBe bytes o 4 := by
    rw [UInt32.toNat_ofNat', Nat.mod_eq_of_lt ((readBe_lt bytes o 4).trans_eq (by norm_num))]
  have h64 (o : ℕ) : (UInt64.ofNat (readBe bytes o 8)).toNat = readBe bytes o 8 := by
    rw [UInt64.toNat_ofNat', Nat.mod_eq_of_lt ((readBe_lt bytes o 8).trans_eq (by norm_num))]
  show toBytes 1 (UInt8.ofNat (readBe bytes 0 1)).toNat ++
      toBytes 1 (UInt8.ofNat (readBe bytes 1 1)).toNat ++
      toBytes 2 (UInt16.ofNat (readBe bytes 2 2)).toNat ++
      toBytes 4 (UInt32.ofNat (readBe bytes 4 4)).toNat ++
      toBytes 8 (UInt64.ofNat (readBe bytes 8 8)).toNat ++
      toBytes 8 (UInt64.ofNat (readBe bytes 16 8)).toInt64.toUInt64.toNat ++
      toBytes 4 (UInt32.ofNat (readBe bytes 24 4)).toNat ++
      toBytes 2 (UInt16.ofNat (readBe bytes 28 2)).toNat ++
      toBytes 1 (UInt8.ofNat (readBe bytes 30 1)).toNat ++
      toBytes 1 (UInt8.ofNat (readBe bytes 31 1)).toNat = bytes.take 32
  rw [UInt64.toUInt64_toInt64, h8, h8, h16, h32', h64, h64, h32', h16, h8, h8]
  simp (disch := omega) only [toBytes_readBe]
  rw [List.drop_zero]
  simp only [← List.take_add, Nat.reduceAdd]

/-! ## Bytes that parse -/

/-- The area of a frame that parses is a whole number of words. -/
theorem aligned_of_parseExtensions {h : DecodedFrame} {bytes : List UInt8}
    {exts : List R2wpExtension} (hexts : parseExtensions h bytes = .ok exts)
    (hlength : frameHeaderLength + h.extensionLen.toNat ≤ bytes.length) :
    h.extensionLen.toNat % 4 = 0 := by
  have harea : ((bytes.drop frameHeaderLength).take h.extensionLen.toNat).length =
      h.extensionLen.toNat := by
    rw [List.length_take, List.length_drop]
    omega
  unfold parseExtensions at hexts
  split_ifs at hexts with hpos
  · split at hexts
    · next decoded hdecoded =>
      unfold Extension.decodeExtensionArea at hdecoded
      split_ifs at hdecoded with hlarge haligned
      rw [harea] at haligned
      exact not_not.mp haligned
    · cases hexts
  · omega

/-- **Bytes that parse are an encoded frame.** -/
theorem encodesFrame_of_parse {bytes : List UInt8} {opts : FrameOptions} {frame : DecodedFrame}
    (h : parseFrame bytes opts = .ok frame) :
    EncodesFrame frame.header ((bytes.drop frameHeaderLength).take frame.extensionLen.toNat)
      (bytes.drop (payloadStart frame)) bytes := by
  unfold parseFrame parseFrameDeclared at h
  split_ifs at h with hshort
  simp only [bind_eq_ok] at h
  obtain ⟨_, hlengths, _, htotal, _, -, _, -, _, -, _, -, exts, hexts, _, -, payload, -, hframe⟩ := h
  obtain rfl := Except.ok.inj hframe
  set head := readHeader bytes with hhead
  have hheader : frameHeaderLength ≤ bytes.length := Nat.le_of_not_lt hshort
  have htotal : bytes.length = payloadStart head + head.payloadLen.toNat := by
    unfold checkTotal at htotal
    dsimp only at htotal
    split_ifs at htotal with hdeclared
    exact not_not.mp hdeclared
  have hstart : payloadStart head = frameHeaderLength + head.extensionLen.toNat := rfl
  have harea : ((bytes.drop frameHeaderLength).take head.extensionLen.toNat).length =
      head.extensionLen.toNat := by
    rw [List.length_take, List.length_drop]
    omega
  have hpayload : (bytes.drop (payloadStart head)).length = head.payloadLen.toNat := by
    rw [List.length_drop]
    omega
  unfold checkLengths at hlengths
  split_ifs at hlengths with hversion hext hlarge hcontrol
  constructor
  · rw [harea]
    exact aligned_of_parseExtensions hexts (by omega)
  · rw [harea]
    exact Nat.le_of_not_lt hext
  · exact hpayload.trans_le (Nat.le_of_not_lt hlarge)
  · intro hopcode
    exact hpayload.trans_le (Nat.le_of_not_lt fun hlt => hcontrol ⟨hopcode, hlt⟩)
  · show bytes = Encode.headerBytes head.header
      (UInt32.ofNat (bytes.drop (payloadStart head)).length)
      (UInt16.ofNat ((bytes.drop frameHeaderLength).take head.extensionLen.toNat).length) ++
        ((bytes.drop frameHeaderLength).take head.extensionLen.toNat ++
          bytes.drop (payloadStart head))
    rw [hpayload, harea, UInt32.ofNat_toNat, UInt16.ofNat_toNat, headerBytes_readHeader hheader, hstart,
      ← List.drop_drop, List.take_append_drop, List.take_append_drop]

/-! ## The codec -/

/-- What the parts of an encoded frame parse to. -/
theorem parts_of_parse {header : FrameHeader} {area payload bytes : List UInt8}
    {frame : DecodedFrame} {opts : FrameOptions}
    (hbytes : Encode.encodeFrame header area payload = .ok bytes)
    (hparse : parseFrame bytes opts = .ok frame) :
    frame.header = header ∧ frame.payloadLen.toNat = payload.length ∧
      frame.extensionLen.toNat = area.length ∧
      Extension.decodeExtensionArea area = .ok frame.extensions ∧
      if header.opcode = opcodeControlCbor then
        ∃ msg, Control.decodeControlMessage payload = .ok msg ∧ frame.payload = .control msg
      else frame.payload = .application payload := by
  have hencodes := encodeFrame_eq_ok_iff.mp hbytes
  have hplen := toNat_payloadLen hencodes.payload_le
  have helen := toNat_extensionLen hencodes.area_le
  rw [parseFrame_encodeFrame hencodes, parseParts] at hparse
  simp only [bind_eq_ok] at hparse
  obtain ⟨_, -, _, -, _, -, _, -, _, -, exts, hexts, _, -, p, hp, hframe⟩ := hparse
  obtain rfl := Except.ok.inj hframe
  refine ⟨rfl, hplen, helen, ?_, ?_⟩
  · have hlen : (received header (UInt32.ofNat payload.length)
        (UInt16.ofNat area.length)).extensionLen.toNat = area.length := helen
    unfold parseExtensions at hexts
    rw [hlen, List.drop_left' (List.length_replicate ..), List.take_length] at hexts
    split_ifs at hexts with hpos
    · split at hexts
      · next decoded hdecoded =>
        rw [hdecoded, Except.ok.inj hexts]
      · cases hexts
    · obtain rfl := List.length_eq_zero_iff.mp (Nat.eq_zero_of_not_pos hpos)
      rw [← Except.ok.inj hexts]
      rfl
  · unfold partsPayload at hp
    split_ifs at hp with hopcode
    · rw [if_pos (show header.opcode = opcodeControlCbor from hopcode)]
      split at hp
      · next msg hmsg => exact ⟨msg, hmsg, (Except.ok.inj hp).symm⟩
      · cases hp
    · rw [if_neg (show ¬ header.opcode = opcodeControlCbor from hopcode)]
      exact (Except.ok.inj hp).symm

/-- **Encoding and parsing frames are inverse to each other.** -/
theorem frame_codec :
    (∀ (header : FrameHeader) (area payload bytes : List UInt8) (opts : FrameOptions)
        (frame : DecodedFrame), Encode.encodeFrame header area payload = .ok bytes →
      parseFrame bytes opts = .ok frame →
      frame.header = header ∧ frame.payloadLen.toNat = payload.length ∧
        frame.extensionLen.toNat = area.length ∧
        Extension.decodeExtensionArea area = .ok frame.extensions ∧
        if header.opcode = opcodeControlCbor then
          ∃ msg, Control.decodeControlMessage payload = .ok msg ∧ frame.payload = .control msg
        else frame.payload = .application payload) ∧
      ∀ (bytes : List UInt8) (opts : FrameOptions) (frame : DecodedFrame),
        parseFrame bytes opts = .ok frame →
        Encode.encodeFrame frame.header
          ((bytes.drop frameHeaderLength).take frame.extensionLen.toNat)
          (bytes.drop (frameHeaderLength + frame.extensionLen.toNat)) = .ok bytes :=
  ⟨fun _ _ _ _ _ _ hbytes hparse => parts_of_parse hbytes hparse,
    fun _ _ _ hparse => encodeFrame_eq_ok_iff.mpr (encodesFrame_of_parse hparse)⟩

/-- A sample on channel 7. -/
theorem frame_codec_of_sample :
    ∃ bytes frame, Encode.encodeFrame ⟨0, opcodeRosSample, 1, 7, 3, 0, 2, 0⟩ [] [1, 2] = .ok bytes ∧
      parseFrame bytes defaultOptions = .ok frame ∧ frame.payload = .application [1, 2] ∧
      frame.header = ⟨0, opcodeRosSample, 1, 7, 3, 0, 2, 0⟩ := by
  obtain ⟨bytes, hbytes⟩ : ∃ bytes, Encode.encodeFrame ⟨0, opcodeRosSample, 1, 7, 3, 0, 2, 0⟩ []
      [1, 2] = .ok bytes := ⟨_, rfl⟩
  have hok : ((Encode.encodeFrame ⟨0, opcodeRosSample, 1, 7, 3, 0, 2, 0⟩ [] [1, 2]).toOption.any
      fun bytes => (parseFrame bytes defaultOptions).isOk) = true := by decide +kernel
  rw [hbytes] at hok
  cases hparse : parseFrame bytes defaultOptions with
  | error err =>
    have hfalse : (parseFrame bytes defaultOptions).isOk = true := hok
    rw [hparse] at hfalse
    cases hfalse
  | ok frame =>
    obtain ⟨hheader, -, -, -, hpayload⟩ := frame_codec.1 _ _ _ _ _ _ hbytes hparse
    exact ⟨bytes, frame, hbytes, hparse, hpayload, hheader⟩

end Rclweb
