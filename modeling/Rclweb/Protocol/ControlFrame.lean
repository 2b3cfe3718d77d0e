import Rclweb.Protocol.EncodedSize
import Rclweb.Protocol.FrameRoundTrip
import Rclweb.Protocol.Validation

/-!
# Control frames, from the message to the parsed frame

`Sendable` is what a message has to satisfy for its frame to be encoded and to parse again:
it encodes, within the payload limit, and its canonical form is valid.
-/

namespace Rclweb

open Control Encode Rclweb.Frame

/-- **A message that survives its own check**: it encodes within the limit of a control payload,
and what the receiver decodes is the valid message `msg`. -/
structure Sendable (message : CborValue) (msg : ControlMessage) : Prop where
  encodes : Encodes 0 message
  size_le : message.size ≤ controlPayloadMaxBytes
  valid : validateControlMessage message.canon = .ok msg

theorem encodeControlFrame_isOk_iff {sequence : UInt64} {message : CborValue} :
    (∃ bytes, encodeControlFrame 0 sequence message = .ok bytes) ↔
      Encodes 0 message ∧ message.size ≤ controlPayloadMaxBytes := by
  rw [← encodeDeterministicCbor_ok_iff]
  constructor
  · rintro ⟨bytes, h⟩
    obtain ⟨payload, hpayload, hframe⟩ := encodeControlFrame_eq_ok h
    exact ⟨payload, hpayload, hframe.control_le rfl⟩
  · rintro ⟨payload, hpayload, hle⟩
    have hframe : EncodesFrame (controlHeader sequence) [] payload _ :=
      { area_aligned := rfl
        area_le := Nat.zero_le _
        payload_le := hle.trans (by decide)
        control_le := fun _ => hle
        eq := rfl }
    exact ⟨_, by rw [encodeControlFrame, hpayload]; exact encodeFrame_eq_ok_iff.mpr hframe⟩

/-- **A sendable message is encoded, and parses again.** -/
theorem Sendable.parse {message : CborValue} {msg : ControlMessage} (h : Sendable message msg)
    (sequence : UInt64) :
    ∃ bytes payloadLen, encodeControlFrame 0 sequence message = .ok bytes ∧
      parseFrame bytes defaultOptions = .ok (ofControl sequence payloadLen msg) := by
  obtain ⟨bytes, hbytes⟩ := encodeControlFrame_isOk_iff.mpr ⟨h.encodes, h.size_le⟩
  obtain ⟨payloadLen, hparse⟩ := parseFrame_encodeControlFrame hbytes
  rw [h.valid] at hparse
  exact ⟨bytes, payloadLen, hbytes, hparse⟩

/-- What parses of an encoded message is a sendable one. -/
theorem sendable_of_parse {sequence : UInt64} {message : CborValue} {bytes : List UInt8}
    {frame : DecodedFrame} (hbytes : encodeControlFrame 0 sequence message = .ok bytes)
    (hparse : parseFrame bytes defaultOptions = .ok frame) :
    ∃ msg payloadLen, Sendable message msg ∧ frame = ofControl sequence payloadLen msg := by
  obtain ⟨hencodes, hsize⟩ := encodeControlFrame_isOk_iff.mp ⟨bytes, hbytes⟩
  obtain ⟨payloadLen, heq⟩ := parseFrame_encodeControlFrame hbytes
  rw [hparse] at heq
  cases hvalid : validateControlMessage message.canon with
  | error e => rw [hvalid] at heq; cases heq
  | ok msg =>
    rw [hvalid] at heq
    exact ⟨msg, payloadLen, ⟨hencodes, hsize, hvalid⟩, Except.ok.inj heq⟩

/-- The canonical form of a map holds the numbers of the map. -/
theorem fieldsKept_canon {raw : List (UInt64 × CborValue)} (hnodup : (raw.map Prod.fst).Nodup) :
    FieldsKept raw (sortByKey (CborValue.canonEntries raw)) := by
  rw [CborValue.canonEntries_eq, sortByKey_map]
  have hmem {key : UInt64} {v : CborValue} :
      (key, v) ∈ (sortByKey raw).map (fun e => (e.1, e.2.canon)) ↔
        ∃ w, (key, w) ∈ raw ∧ w.canon = v := by
    simp
  refine fun key => ⟨fun hnone => ?_, fun n hn => ?_⟩
  · by_contra hsome
    obtain ⟨v, hv⟩ := Option.ne_none_iff_exists'.mp hsome
    obtain ⟨w, hw, -⟩ := hmem.mp (mem_of_lookup hv)
    obtain ⟨u, hu⟩ := lookup_isSome_of_mem hw
    rw [hnone] at hu
    cases hu
  · obtain ⟨v, hv⟩ := lookup_isSome_of_mem (hmem.mpr ⟨_, mem_of_lookup hn, rfl⟩)
    obtain ⟨w, hw, rfl⟩ := hmem.mp (mem_of_lookup hv)
    obtain rfl : w = .unsigned n := by
      have := List.inj_on_of_nodup_map hnodup hw (mem_of_lookup hn) rfl
      exact (Prod.mk.inj this).2
    exact hv

/-- **What a sendable message says** to the receiver: its kind and its numbers. -/
theorem Sendable.keeps {raw : List (UInt64 × CborValue)} {msg : ControlMessage}
    (h : Sendable (.map raw) msg) {k : UInt64} (hk : raw.lookup 1 = some (.unsigned k)) :
    msg.kind = k.toUInt8 ∧ FieldsKept raw msg.fields := by
  have hcanon := fieldsKept_canon (encodes_map_iff.mp h.encodes).2.2.1
  obtain ⟨hkind, hkept⟩ := validateControlMessage_keeps ((hcanon 1).2 k hk) h.valid
  exact ⟨hkind, hcanon.trans hkept⟩

/-- **A control frame that was parsed carries a valid message.** -/
theorem valid_of_parse {bytes : List UInt8} {declaredTotal : ℕ} {opts : FrameOptions}
    {frame : DecodedFrame} {msg : ControlMessage}
    (hparse : parseFrameDeclared bytes declaredTotal opts = .ok frame)
    (hpayload : frame.payload = .control msg) :
    frame.opcode = opcodeControlCbor ∧ ∃ value, validateControlMessage value = .ok msg := by
  unfold parseFrameDeclared at hparse
  split_ifs at hparse
  simp only [bind_eq_ok] at hparse
  obtain ⟨_, -, _, -, _, -, _, -, _, -, _, -, exts, -, _, -, payload, hp, hframe⟩ := hparse
  obtain rfl := Except.ok.inj hframe
  obtain rfl : payload = .control msg := hpayload
  unfold parsePayload at hp
  split_ifs at hp with hopcode
  · refine ⟨hopcode, ?_⟩
    dsimp only at hp
    split at hp
    · next m hm =>
      obtain rfl : m = msg := FramePayload.control.inj (Except.ok.inj hp)
      unfold decodeControlMessage at hm
      split_ifs at hm
      split at hm
      · cases hm
      · next decoded _ => exact ⟨decoded, hm⟩
    · cases hp
  · cases hp
  · cases hp

/-! ## Heartbeats -/

/-- The heartbeat both peers send. -/
def heartbeatMessage (counter : UInt64) : CborValue :=
  .map [(1, .unsigned 12), (2, .bytes (List.replicate 16 0)), (40, .unsigned counter)]

theorem sendable_heartbeat (counter : UInt64) :
    ∃ msg, Sendable (heartbeatMessage counter) msg ∧ msg.kind = kindHeartbeat := by
  have hnodup : ([1, 2, 40] : List UInt64).Nodup := by decide
  have hk : List.lookup 1 [((1 : UInt64), CborValue.unsigned 12),
      (2, .bytes (List.replicate 16 0)), (40, .unsigned counter)] = some (.unsigned 12) := rfl
  have haccepts : Accepts (validateSchema heartbeatSchema) (heartbeatMessage counter) := by
    rw [validateSchema, heartbeatSchema, heartbeatMessage, map, accepts_mapDyn]
    refine ⟨hnodup, by simp, ?_⟩
    simp [AcceptsField, req, opt, bytes16, bytes, uint64, u, toNat_le_uint64Max, List.lookup_cons]
  obtain ⟨msg, hmsg⟩ := (validateControlMessage_accepts hk (by decide) rfl (by decide)
    (by decide)).mpr ⟨hnodup, haccepts⟩
  refine ⟨msg, ⟨?_, ?_, hmsg⟩, (validateControlMessage_keeps hk hmsg).1⟩
  · rw [heartbeatMessage, encodes_map_iff]
    exact ⟨by decide, by simp [Cbor.maxMapEntries], hnodup, by simp⟩
  · have := CborValue.headSize_le counter.toNat
    simp [heartbeatMessage, CborValue.size, CborValue.sizeEntries, CborValue.sizeEntry,
      controlPayloadMaxBytes, CborValue.headSize] at this ⊢
    omega

/-- **The bytes of a heartbeat**: they parse as one, under some declared size. -/
def IsHeartbeat (bytes : List UInt8) : Prop :=
  ∃ declaredTotal frame msg, parseFrameDeclared bytes declaredTotal defaultOptions = .ok frame ∧
    frame.payload = .control msg ∧ msg.kind = kindHeartbeat

/-- What is parsed does not depend on the declared size. -/
theorem parseFrameDeclared_unique {bytes : List UInt8} {d d' : ℕ} {opts : FrameOptions}
    {f f' : DecodedFrame} (h : parseFrameDeclared bytes d opts = .ok f)
    (h' : parseFrameDeclared bytes d' opts = .ok f') : f = f' := by
  unfold parseFrameDeclared at h h'
  split_ifs at h with hshort
  rw [if_neg hshort] at h'
  simp only [bind_eq_ok] at h h'
  obtain ⟨_, -, _, -, _, -, _, -, _, -, _, -, exts, hexts, _, -, payload, hpayload, h⟩ := h
  obtain ⟨_, -, _, -, _, -, _, -, _, -, _, -, exts', hexts', _, -, payload', hpayload', h'⟩ := h'
  obtain rfl := Except.ok.inj (hexts.symm.trans hexts')
  obtain rfl := Except.ok.inj (hpayload.symm.trans hpayload')
  exact Except.ok.inj (h.symm.trans h')

/-- A frame that is something else is not a heartbeat. -/
theorem not_isHeartbeat_of_parse {bytes : List UInt8} {frame : DecodedFrame}
    (hparse : parseFrame bytes defaultOptions = .ok frame)
    (hframe : ∀ msg, frame.payload = .control msg → msg.kind ≠ kindHeartbeat) :
    ¬ IsHeartbeat bytes := by
  rintro ⟨d, f, msg, h, hpayload, hkind⟩
  obtain rfl := parseFrameDeclared_unique hparse h
  exact hframe msg hpayload hkind

/-- A bootstrap record is no frame of the selected version. -/
theorem parse_ne_ok_of_bootstrap {kind : UInt8} {payload : CborValue} {bytes : List UInt8}
    (h : bootstrapRecord kind payload = .ok bytes) (declaredTotal : ℕ) (frame : DecodedFrame) :
    parseFrameDeclared bytes declaredTotal defaultOptions ≠ .ok frame := by
  unfold bootstrapRecord at h
  obtain ⟨body, -, h⟩ := bind_eq_ok.mp h
  split_ifs at h
  obtain rfl := Except.ok.inj h
  intro hparse
  unfold parseFrameDeclared at hparse
  split_ifs at hparse
  obtain ⟨_, hlengths, -⟩ := bind_eq_ok.mp hparse
  cases hlengths

theorem not_isHeartbeat_of_bootstrap {kind : UInt8} {payload : CborValue} {bytes : List UInt8}
    (h : bootstrapRecord kind payload = .ok bytes) : ¬ IsHeartbeat bytes := by
  rintro ⟨d, f, msg, hparse, -⟩
  exact parse_ne_ok_of_bootstrap h d f hparse

end Rclweb
