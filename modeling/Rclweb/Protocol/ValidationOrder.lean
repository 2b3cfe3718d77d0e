import Rclweb.Library.Checklist
import Rclweb.Protocol.ExtensionRoundTrip
import Rclweb.Protocol.ShapeFaults

/-!
# The published order of the checks

The protocol numbers the checks of a receiver and fixes the error code of each.  Here every check
is a condition on the bytes alone, whatever the checks before it say; a check whose field lies
outside the bytes does not fail.  Both parsers report the least check that fails, with its code,
and accept exactly what fails none (`reports_first_failing_check`).

The tables let `ROS_RELIABLE` be set on samples only.  The parser lets services and actions set it
as well, so `frameChecks` is given the opcodes that may.
-/

namespace Rclweb

open BigEndian Checklist

/-! ## Extension areas -/

namespace Extension

/-- **An area of records**: each as its type wants it and padded on its own, with strictly
ascending types. -/
structure Holds (area : List UInt8) (exts : List R2wpExtension) : Prop where
  bytes : area = exts.flatMap tlvBytes
  wellFormed : ∀ ext ∈ exts, WellFormed ext
  length : ∀ ext ∈ exts, ext.value.length ≤ 0xffff
  ascending : (exts.map (·.typeId)).IsChain (· < ·)

/-- A fault in the structure of an area, which is not an unknown critical record. -/
def IsStructural (e : ExtensionError) : Prop := e.code = 3 ∧ e.reason ≠ "unknown_critical"

/-- Flags without reserved bits are those of a written record. -/
theorem flags_eq {flags : UInt8} (h : flags &&& 0xfe = 0) :
    flags = if (flags &&& 0x01 != 0) = true then 0x01 else 0x00 := by
  have hlow : flags = flags &&& 0x01 := by
    have hsplit : flags = flags &&& (0xfe ||| 0x01) := by
      rw [show (0xfe ||| 0x01 : UInt8) = -1 from rfl, UInt8.and_neg_one]
    have hdistrib : flags &&& (0xfe ||| 0x01) = (flags &&& 0xfe) ||| (flags &&& 0x01) :=
      UInt8.toBitVec_inj.mp BitVec.and_or_distrib_left
    rwa [hdistrib, h, UInt8.zero_or] at hsplit
  have hlt : flags.toNat < 2 := by
    rw [hlow, UInt8.toNat_and, show (0x01 : UInt8).toNat = 1 from rfl, Nat.and_one_is_mod]
    exact Nat.mod_lt _ (by decide)
  rw [← hlow]
  by_cases hzero : flags = 0
  · rw [hzero]
    rfl
  · rw [if_pos (by simpa using hzero)]
    have hne : flags.toNat ≠ 0 := fun heq => hzero (UInt8.toNat_inj.mp heq)
    exact UInt8.toNat_inj.mp (show flags.toNat = 1 by omega)

theorem checkTypeOrder_eq_ok {prev : Option UInt8} {typeId : UInt8} {offset : ℕ}
    (h : checkTypeOrder prev typeId offset = .ok ()) : ∀ p ∈ prev, p < typeId := by
  rintro p rfl
  rw [checkTypeOrder] at h
  split_ifs at h with heq hlt
  exact UInt8.lt_of_le_of_ne (UInt8.not_lt.mp hlt) (Ne.symm heq)

/-- The bytes of a record that was taken apart are those of a written record. -/
theorem eq_tlvBytes {typeId flags len0 len1 : UInt8} {rest bytes : List UInt8}
    (hbytes : bytes = typeId :: flags :: len0 :: len1 :: rest) (hflags : flags &&& 0xfe = 0)
    (hpadded : align4 (tlvHeaderLen + ofBytes [len0, len1]) ≤ bytes.length)
    (hzero : firstNonzero bytes (tlvHeaderLen + ofBytes [len0, len1])
      (align4 (tlvHeaderLen + ofBytes [len0, len1]) - (tlvHeaderLen + ofBytes [len0, len1])) =
        none) :
    bytes = tlvBytes ⟨typeId, flags &&& 0x01 != 0,
        (bytes.drop tlvHeaderLen).take (ofBytes [len0, len1])⟩ ++
      bytes.drop (align4 (tlvHeaderLen + ofBytes [len0, len1])) := by
  have hle := le_align4 (tlvHeaderLen + ofBytes [len0, len1])
  generalize hcontent : tlvHeaderLen + ofBytes [len0, len1] = content at hpadded hzero hle ⊢
  have hlen : ((bytes.drop tlvHeaderLen).take (ofBytes [len0, len1])).length =
      ofBytes [len0, len1] := by
    rw [List.length_take, List.length_drop]
    omega
  have hpadding : (bytes.drop content).take (align4 content - content) =
      Encode.padding content := by
    rw [Encode.padding, List.eq_replicate_iff]
    refine ⟨?_, firstNonzero_eq_none_iff.mp hzero⟩
    rw [List.length_take, List.length_drop]
    omega
  have htail : bytes.drop content = Encode.padding content ++ bytes.drop (align4 content) := by
    rw [← hpadding, show bytes.drop (align4 content) =
      (bytes.drop content).drop (align4 content - content) by
        rw [List.drop_drop, Nat.add_sub_cancel' hle], List.take_append_drop]
  have hvalue : bytes.drop tlvHeaderLen =
      (bytes.drop tlvHeaderLen).take (ofBytes [len0, len1]) ++ bytes.drop content := by
    rw [← hcontent, ← List.drop_drop, List.take_append_drop]
  have hhead : [typeId, flags] ++ toBytes 2 (ofBytes [len0, len1]) = bytes.take tlvHeaderLen := by
    rw [show toBytes 2 (ofBytes [len0, len1]) = [len0, len1] from toBytes_ofBytes [len0, len1],
      hbytes]
    rfl
  conv_lhs => rw [← List.take_append_drop tlvHeaderLen bytes, hvalue, htail, ← hhead]
  rw [tlvBytes, ← flags_eq hflags, hlen, hcontent]
  simp only [List.append_assoc]

/-- **A record that is taken is a written record**, at the front of the bytes. -/
theorem exists_of_parseTlv {bytes : List UInt8} {offset padded : ℕ} {prev : Option UInt8}
    {tlv : ParsedTlv} (h : parseTlv bytes offset prev = .ok (tlv, padded)) :
    ∃ ext, WellFormed ext ∧ ext.value.length ≤ 0xffff ∧ (∀ p ∈ prev, p < ext.typeId) ∧
      tlv = parsed ext ∧ bytes = tlvBytes ext ++ bytes.drop padded := by
  unfold parseTlv at h
  split at h
  · next typeId flags len0 len1 rest =>
    dsimp only at h
    generalize hbytes : typeId :: flags :: len0 :: len1 :: rest = bytes at h ⊢
    have hvalue : ((bytes.drop tlvHeaderLen).take (ofBytes [len0, len1])).length ≤ 0xffff := by
      have hlt := ofBytes_lt [len0, len1]
      rw [List.length_take]
      simp only [List.length_cons, List.length_nil] at hlt
      omega
    split_ifs at h with hflags hfixed hcontent hpadded hassigned
    all_goals
      have hflags := not_not.mp hflags
      have hlength : ∀ n ∈ fixedValueLen typeId,
          ((bytes.drop tlvHeaderLen).take (ofBytes [len0, len1])).length = n := by
        intro n hn
        have hcount : ofBytes [len0, len1] = n := by
          by_contra hne
          refine hfixed ?_
          rw [Option.any_eq_true]
          exact ⟨n, hn, by simpa using Ne.symm hne⟩
        rw [List.length_take, List.length_drop, ← hcount]
        exact Nat.min_eq_left (by omega)
      split at h
      · cases h
    · next hzero =>
      obtain ⟨_, hreserved, h⟩ := bind_eq_ok.mp h
      obtain ⟨_, horder, h⟩ := bind_eq_ok.mp h
      obtain ⟨rfl, rfl⟩ := Prod.mk.inj (Except.ok.inj h)
      refine ⟨_, ⟨hlength, fun _ => ?_⟩, hvalue, checkTypeOrder_eq_ok horder, rfl,
        eq_tlvBytes hbytes.symm hflags (Nat.not_lt.mp hpadded) hzero⟩
      rw [assertTraceReservedZero] at hreserved
      split at hreserved
      · cases hreserved
      · next hnone => exact firstNonzero_eq_none_iff.mp hnone
    · next hzero =>
      obtain ⟨_, horder, h⟩ := bind_eq_ok.mp h
      obtain ⟨rfl, rfl⟩ := Prod.mk.inj (Except.ok.inj h)
      refine ⟨_, ⟨hlength, fun htype => ?_⟩, hvalue, checkTypeOrder_eq_ok horder, rfl,
        eq_tlvBytes hbytes.symm hflags (Nat.not_lt.mp hpadded) hzero⟩
      refine absurd ?_ hassigned
      rw [isAssigned, show typeId = traceContextExtensionType from htype]
      rfl
  · cases h

theorem isStructural_malformed {reason : String} (offset : ℕ)
    (h : reason ≠ "unknown_critical") : IsStructural (malformed reason offset) :=
  ⟨rfl, h⟩

theorem isStructural_of_checkTypeOrder {prev : Option UInt8} {typeId : UInt8} {offset : ℕ}
    {e : ExtensionError} (h : checkTypeOrder prev typeId offset = .error e) : IsStructural e := by
  unfold checkTypeOrder at h
  split at h
  · split_ifs at h
    all_goals
      cases h
      exact isStructural_malformed _ (by decide)
  · cases h

/-- **A record that is not taken** has a fault in its structure. -/
theorem isStructural_of_parseTlv {bytes : List UInt8} {offset : ℕ} {prev : Option UInt8}
    {e : ExtensionError} (h : parseTlv bytes offset prev = .error e) : IsStructural e := by
  unfold parseTlv at h
  split at h
  · dsimp only at h
    split at h
    · cases h
      exact isStructural_malformed _ (by decide)
    split_ifs at h
    · cases h
      exact isStructural_malformed _ (by decide)
    · cases h
      exact isStructural_malformed _ (by decide)
    · cases h
      exact isStructural_malformed _ (by decide)
    all_goals
      split at h
      · cases h
        exact isStructural_malformed _ (by decide)
    · rcases bind_eq_error.mp h with hreserved | ⟨_, -, h⟩
      · rw [assertTraceReservedZero] at hreserved
        split at hreserved
        · cases hreserved
          exact isStructural_malformed _ (by decide)
        · cases hreserved
      · rcases bind_eq_error.mp h with horder | ⟨_, -, h⟩
        · exact isStructural_of_checkTypeOrder horder
        · cases h
    · rcases bind_eq_error.mp h with horder | ⟨_, -, h⟩
      · exact isStructural_of_checkTypeOrder horder
      · cases h
  · cases h
    exact isStructural_malformed _ (by decide)

/-- **The structural pass takes areas of records only.** -/
theorem records_of_decodeTlvs {rounds offset : ℕ} {bytes : List UInt8} {prev : Option UInt8}
    {first : Option ℕ} (hrounds : bytes.length ≤ rounds) {found : List ParsedTlv × Option ℕ}
    (h : decodeTlvs rounds bytes offset prev first = .ok found) :
    ∃ exts : List R2wpExtension, bytes = exts.flatMap tlvBytes ∧ (∀ ext ∈ exts, WellFormed ext) ∧
      (∀ ext ∈ exts, ext.value.length ≤ 0xffff) ∧
      (prev.toList ++ exts.map (·.typeId)).IsChain (· < ·) := by
  have hnone : bytes = [] → ∃ exts : List R2wpExtension, bytes = exts.flatMap tlvBytes ∧
      (∀ ext ∈ exts, WellFormed ext) ∧ (∀ ext ∈ exts, ext.value.length ≤ 0xffff) ∧
      (prev.toList ++ exts.map (·.typeId)).IsChain (· < ·) := by
    rintro rfl
    refine ⟨[], rfl, nofun, nofun, ?_⟩
    cases prev <;> simp
  induction rounds generalizing offset bytes prev first found with
  | zero => exact hnone (List.length_eq_zero_iff.mp (Nat.le_zero.mp hrounds))
  | succ rounds ih =>
    rw [decodeTlvs] at h
    split_ifs at h with hempty
    · exact hnone (List.isEmpty_iff.mp hempty)
    · obtain ⟨⟨tlv, padded⟩, hparse, h⟩ := bind_eq_ok.mp h
      obtain ⟨tail, htail, -⟩ := bind_eq_ok.mp h
      obtain ⟨ext, hwell, hlen, hprev, rfl, hbytes⟩ := exists_of_parseTlv hparse
      have hpos : 0 < (tlvBytes ext).length := by
        simp [tlvBytes]
      have hleft : (bytes.drop padded).length ≤ rounds := by
        have hsum := congrArg List.length hbytes
        rw [List.length_append] at hsum
        omega
      obtain ⟨exts, hrest, hwells, hlens, hchain⟩ := ih hleft htail fun hnil => by
        refine ⟨[], hnil, nofun, nofun, ?_⟩
        simp
      refine ⟨ext :: exts, ?_, List.forall_mem_cons.mpr ⟨hwell, hwells⟩,
        List.forall_mem_cons.mpr ⟨hlen, hlens⟩, ?_⟩
      · rw [List.flatMap_cons, ← hrest]
        exact hbytes
      · cases prev with
        | none => exact hchain
        | some p => exact List.isChain_cons_cons.mpr ⟨hprev p rfl, hchain⟩

theorem isStructural_of_decodeTlvs {rounds offset : ℕ} {bytes : List UInt8}
    {prev : Option UInt8} {first : Option ℕ} {e : ExtensionError}
    (h : decodeTlvs rounds bytes offset prev first = .error e) : IsStructural e := by
  induction rounds generalizing offset bytes prev first with
  | zero => cases h
  | succ rounds ih =>
    rw [decodeTlvs] at h
    split_ifs at h
    · rcases bind_eq_error.mp h with hparse | ⟨⟨tlv, padded⟩, -, h⟩
      · exact isStructural_of_parseTlv hparse
      · rcases bind_eq_error.mp h with hrest | ⟨_, -, h⟩
        · exact ih hrest
        · cases h

theorem Holds.decodeTlvs {area : List UInt8} {exts : List R2wpExtension} (h : Holds area exts) :
    ∃ found, decodeTlvs area.length area 0 none none = .ok (exts.map parsed, found) ∧
      found.isSome = exts.any isUnknownCritical := by
  have hchain : ((none : Option UInt8).toList ++ exts.map (·.typeId)).IsChain (· < ·) :=
    h.ascending
  have hpass := decodeTlvs_of_wellFormed 0 none
    (Nat.le_of_eq (congrArg List.length h.bytes.symm)) h.length hchain h.wellFormed
  rw [← h.bytes] at hpass
  exact hpass

/-- An area has one reading. -/
theorem Holds.unique {area : List UInt8} {exts exts' : List R2wpExtension} (h : Holds area exts)
    (h' : Holds area exts') : exts = exts' := by
  obtain ⟨found, hdecode, -⟩ := h.decodeTlvs
  obtain ⟨found', hdecode', -⟩ := h'.decodeTlvs
  rw [hdecode] at hdecode'
  have hparsed : Function.Injective parsed := by
    rintro ⟨typeId, critical, value⟩ ⟨typeId', critical', value'⟩ heq
    obtain ⟨rfl, rfl, rfl, -⟩ := ParsedTlv.mk.inj heq
    rfl
  exact List.map_injective_iff.mpr hparsed (Prod.mk.inj (Except.ok.inj hdecode')).1

/-- **What a receiver makes of an area**: it decodes exactly when it is an area of records and no
unknown one is critical, and the errors tell the two faults apart. -/
theorem decodeExtensionArea_cases {area : List UInt8}
    (hlarge : area.length ≤ extensionAreaMaxBytes) :
    (∃ e, decodeExtensionArea area = .error e ∧ IsStructural e ∧ ¬ ∃ exts, Holds area exts) ∨
      (∃ offset exts, decodeExtensionArea area = .error (unsupported "unknown_critical" offset) ∧
        Holds area exts ∧ exts.any isUnknownCritical = true) ∨
      ∃ exts, decodeExtensionArea area = .ok (exts.filter (isAssigned ·.typeId)) ∧
        Holds area exts ∧ exts.any isUnknownCritical = false := by
  rw [decodeExtensionArea, if_neg (Nat.not_lt.mpr hlarge)]
  split_ifs with haligned
  · refine .inl ⟨_, rfl, isStructural_malformed _ (by decide), ?_⟩
    rintro ⟨exts, h⟩
    exact haligned (h.bytes ▸ length_flatMap_tlvBytes_mod exts)
  cases hdecode : Extension.decodeTlvs area.length area 0 none none with
  | error e =>
    refine .inl ⟨e, rfl, isStructural_of_decodeTlvs hdecode, ?_⟩
    rintro ⟨exts, h⟩
    obtain ⟨found, hok, -⟩ := h.decodeTlvs
    rw [hdecode] at hok
    cases hok
  | ok result =>
    obtain ⟨exts, hbytes, hwell, hlen, hchain⟩ := records_of_decodeTlvs le_rfl hdecode
    have hholds : Holds area exts := ⟨hbytes, hwell, hlen, hchain⟩
    obtain ⟨found, hok, hfound⟩ := hholds.decodeTlvs
    obtain rfl := Except.ok.inj (hdecode.symm.trans hok)
    cases found with
    | some offset => exact .inr (.inl ⟨offset, exts, rfl, hholds, hfound.symm⟩)
    | none =>
      refine .inr (.inr ⟨exts, congrArg Except.ok ?_, hholds, hfound.symm⟩)
      rw [List.filter_map, List.map_map]
      exact List.map_id _

end Extension

/-! ## The checks of a frame -/

namespace Frame

open Extension

/-- The code that is published for a check of a frame. -/
def checkCode : ℕ → ℕ
  | 1 | 4 | 13 => 3
  | 2 => 4
  | 3 => 24
  | 5 => 5
  | 6 | 7 => 6
  | 12 => 28
  | 14 => 22
  | 16 => 23
  | _ => 25

/-- The extension area of a frame with a header. -/
def extensionArea (h : DecodedFrame) (bytes : List UInt8) : List UInt8 :=
  (bytes.drop frameHeaderLength).take h.extensionLen.toNat

/-- The payload of a frame with a header. -/
def payloadBytes (h : DecodedFrame) (bytes : List UInt8) : List UInt8 :=
  (bytes.drop (payloadStart h)).take h.payloadLen.toNat

/-- **The sixteen checks of a frame**, for the opcodes on which `ROS_RELIABLE` may be set. -/
def Fails (reliable : UInt8 → Bool) (opts : FrameOptions) (bytes : List UInt8) : ℕ → Prop :=
  let h := readHeader bytes
  fun
  | 1 => bytes.length < 32
  | 2 => 1 ≤ bytes.length ∧ h.version ≠ opts.selectedVersion
  | 3 => (30 ≤ bytes.length ∧ 4096 < h.extensionLen.toNat) ∨
      (28 ≤ bytes.length ∧ (67108864 < h.payloadLen.toNat ∨
        h.opcode = opcodeControlCbor ∧ 1048576 < h.payloadLen.toNat))
  | 4 => 30 ≤ bytes.length ∧ bytes.length ≠ 32 + h.extensionLen.toNat + h.payloadLen.toNat
  | 5 => 2 ≤ bytes.length ∧ ¬ (1 ≤ h.opcode ∧ h.opcode ≤ 12) ∧
      ¬ (128 ≤ h.opcode ∧ opts.experimentalOpcodesEnabled = true)
  | 6 => 4 ≤ bytes.length ∧ h.flags &&& ~~~flagAssignedMask ≠ 0
  | 7 => 4 ≤ bytes.length ∧ (h.flags &&& flagFragment ≠ 0 ∨
      (h.flags &&& flagKeyframe ≠ 0 ∧ h.opcode ≠ opcodeMediaChunk) ∨
      (h.flags &&& flagRetained ≠ 0 ∧ h.opcode ≠ opcodeRosSample) ∨
      (h.flags &&& flagRosReliable ≠ 0 ∧ reliable h.opcode = false))
  | 8 => 8 ≤ bytes.length ∧ ¬ (h.opcode = opcodeControlCbor ↔ h.channelId = 0)
  | 9 => 31 ≤ bytes.length ∧
      (4 < h.priority ∨ h.opcode = opcodeControlCbor ∧ h.priority ≠ priorityControl)
  | 10 => 32 ≤ bytes.length ∧ 4 < h.clockId
  | 11 => 32 ≤ bytes.length ∧ h.clockId = clockNone ∧ h.sourceTimeNs ≠ 0
  | 12 => 32 ≤ bytes.length ∧ h.clockId ≠ clockNone ∧ h.clockId ≤ 4 ∧
      h.clockId ∉ opts.availableClockIds
  | 13 => payloadStart h ≤ bytes.length ∧ ¬ ∃ exts, Holds (extensionArea h bytes) exts
  | 14 => payloadStart h ≤ bytes.length ∧
      ∃ exts, Holds (extensionArea h bytes) exts ∧ exts.any isUnknownCritical = true
  | 15 => payloadStart h ≤ bytes.length ∧
      ∃ exts, Holds (extensionArea h bytes) exts ∧
        ¬ (h.flags &&& flagTracePresent ≠ 0 ↔
          ∃ ext ∈ exts, ext.typeId = traceContextExtensionType)
  | 16 => payloadStart h + h.payloadLen.toNat ≤ bytes.length ∧ h.opcode = opcodeControlCbor ∧
      ¬ ∃ msg, Control.decodeControlMessage (payloadBytes h bytes) = .ok msg
  | _ => False

/-- The published order of the checks of a frame. -/
def frameChecks (reliable : UInt8 → Bool) (opts : FrameOptions) (bytes : List UInt8) :
    Published ProtocolError where
  fails := Fails reliable opts bytes
  step e := e.step
  agrees e := e.code = checkCode e.step

/-- Where the tables let `ROS_RELIABLE` be set: on samples. -/
def publishedReliable (opcode : UInt8) : Bool := opcode == opcodeRosSample

/-! ### The parser runs them in order -/

section Order

variable {opts : FrameOptions} {bytes : List UInt8}

/-- The checks of the parser: services and actions may set `ROS_RELIABLE` as well. -/
abbrev parserChecks (opts : FrameOptions) (bytes : List UInt8) : Published ProtocolError :=
  frameChecks opcodeAllowsRosReliable opts bytes

theorem reports_checkLengths (hlen : 32 ≤ bytes.length) :
    Reports (parserChecks opts bytes) 2 4 (checkLengths (readHeader bytes) opts) := by
  unfold checkLengths
  split_ifs with hversion hext hpayload hcontrol
  · exact .fail rfl (by decide) ⟨by omega, hversion⟩ rfl
  all_goals refine .next (fun h => hversion h.2) ?_
  · exact .fail rfl (by decide) (.inl ⟨by omega, hext⟩) rfl
  · exact .fail rfl (by decide) (.inr ⟨by omega, .inl hpayload⟩) rfl
  · exact .fail rfl (by decide) (.inr ⟨by omega, .inr hcontrol⟩) rfl
  · refine .next ?_ (.done ())
    rintro (h | ⟨-, h | h⟩)
    · exact hext h.2
    · exact hpayload h
    · exact hcontrol h

theorem reports_checkTotal (hlen : 32 ≤ bytes.length) :
    Reports (parserChecks opts bytes) 4 5
      (checkTotal (readHeader bytes) bytes.length bytes.length) := by
  unfold checkTotal
  dsimp only
  split_ifs with htotal hretain
  · exact .fail rfl (by decide) ⟨by omega, htotal⟩ rfl
  · exact absurd hretain.1 htotal
  · exact .next (fun h => htotal h.2) (.done ())

theorem reports_checkOpcode (hlen : 32 ≤ bytes.length) :
    Reports (parserChecks opts bytes) 5 6 (checkOpcode (readHeader bytes) opts) := by
  unfold checkOpcode
  split_ifs with hassigned hexperimental
  all_goals
    simp only [isAssignedOpcode, Bool.and_eq_true, decide_eq_true_eq] at hassigned
  · exact .next (fun h => h.2.1 hassigned) (.done ())
  all_goals
    simp only [isExperimentalOpcode, Bool.and_eq_true, decide_eq_true_eq] at hexperimental
  · exact .next (fun h => h.2.2 hexperimental) (.done ())
  · exact .fail rfl (by decide) ⟨by omega, hassigned, hexperimental⟩ rfl

theorem reports_checkFlags (hlen : 32 ≤ bytes.length) :
    Reports (parserChecks opts bytes) 6 8 (checkFlags (readHeader bytes)) := by
  unfold checkFlags
  split_ifs with hunknown hfragment hkeyframe hretained hreliable
  · exact .fail rfl (by decide) ⟨by omega, hunknown⟩ rfl
  all_goals refine .next (fun h => hunknown h.2) ?_
  · exact .fail rfl (by decide) ⟨by omega, .inl hfragment⟩ rfl
  · exact .fail rfl (by decide) ⟨by omega, .inr (.inl hkeyframe)⟩ rfl
  · exact .fail rfl (by decide) ⟨by omega, .inr (.inr (.inl hretained))⟩ rfl
  · exact .fail rfl (by decide) ⟨by omega, .inr (.inr (.inr ⟨hreliable.1, by
      simpa using hreliable.2⟩))⟩ rfl
  · refine .next ?_ (.done ())
    rintro ⟨-, h | h | h | h⟩
    · exact hfragment h
    · exact hkeyframe h
    · exact hretained h
    · exact hreliable ⟨h.1, by simpa using h.2⟩

theorem reports_checkChannelClass (hlen : 32 ≤ bytes.length) :
    Reports (parserChecks opts bytes) 8 10 (checkChannelClass (readHeader bytes)) := by
  unfold checkChannelClass
  split_ifs with hcontrol happlication hpriority hfirst
  · exact .fail rfl (by decide) ⟨by omega, fun h => hcontrol.2 (h.mp hcontrol.1)⟩ rfl
  · exact .fail rfl (by decide) ⟨by omega, fun h => happlication.1 (h.mpr happlication.2)⟩ rfl
  all_goals
    have hclass : ¬ (parserChecks opts bytes).fails 8 := by
      rintro ⟨-, h⟩
      refine h ⟨fun heq => ?_, fun heq => ?_⟩
      · by_contra hne
        exact hcontrol ⟨heq, hne⟩
      · by_contra hne
        exact happlication ⟨hne, heq⟩
    refine .next hclass ?_
  · exact .fail rfl (by decide) ⟨by omega, .inl hpriority⟩ rfl
  · exact .fail rfl (by decide) ⟨by omega, .inr hfirst⟩ rfl
  · refine .next ?_ (.done ())
    rintro ⟨-, h | h⟩
    · exact hpriority h
    · exact hfirst h

theorem reports_checkClock (hlen : 32 ≤ bytes.length) :
    Reports (parserChecks opts bytes) 10 13 (checkClock (readHeader bytes) opts) := by
  unfold checkClock
  refine .check rfl (by decide) rfl (fun h => ⟨hlen, h⟩) (fun h hfails => h hfails.2)
    fun hclock => ?_
  refine .check rfl (by decide) rfl (fun h => ⟨hlen, h⟩) (fun h hfails => h hfails.2)
    fun _ => ?_
  refine .check rfl (by decide) rfl (fun h => ?_) (fun h hfails => h ?_) fun _ => .done ()
  · exact ⟨hlen, h.1, UInt8.not_lt.mp hclock, by simpa using h.2⟩
  · exact ⟨hfails.2.1, by simpa using hfails.2.2.2⟩

theorem reports_parseExtensions (hstart : payloadStart (readHeader bytes) ≤ bytes.length)
    (hlarge : (readHeader bytes).extensionLen.toNat ≤ frameExtensionMaxBytes) :
    Reports (parserChecks opts bytes) 13 15 (parseExtensions (readHeader bytes) bytes) := by
  have hnone : ∀ {exts}, Holds (extensionArea (readHeader bytes) bytes) exts →
      exts.any isUnknownCritical = false →
      Reports (parserChecks opts bytes) 13 15 (.ok (exts.filter (isAssigned ·.typeId)) :
        Except ProtocolError (List R2wpExtension)) := by
    intro exts hholds hcritical
    refine .next (fun h => h.2 ⟨exts, hholds⟩) (.next ?_ (.done _))
    rintro ⟨-, exts', hholds', hcritical'⟩
    rw [hholds'.unique hholds, hcritical] at hcritical'
    cases hcritical'
  unfold parseExtensions
  split_ifs with hpos
  · have harea : (extensionArea (readHeader bytes) bytes).length ≤ extensionAreaMaxBytes := by
      refine le_trans ?_ hlarge
      rw [extensionArea, List.length_take]
      exact Nat.min_le_left _ _
    rcases decodeExtensionArea_cases harea with
      ⟨e, hdecode, ⟨hcode, hreason⟩, hbad⟩ | ⟨offset, exts, hdecode, hholds, hcritical⟩ |
        ⟨exts, hdecode, hholds, hcritical⟩
    all_goals
      rw [extensionArea] at hdecode
      rw [hdecode]
      dsimp only
    · have hmap : ∀ step, mapExtensionError e frameHeaderLength step =
          .malformedFrame "extension_structural" (frameHeaderLength + e.offset) step := by
        intro step
        rw [mapExtensionError, hcode]
        rfl
      rw [if_neg hreason, hmap]
      exact .fail rfl (by decide) ⟨hstart, hbad⟩ rfl
    · refine .next (fun h => h.2 ⟨exts, hholds⟩) ?_
      exact .fail rfl (by decide) ⟨hstart, exts, hholds, hcritical⟩ rfl
    · exact hnone hholds hcritical
  · have hempty : Holds (extensionArea (readHeader bytes) bytes) [] := by
      refine ⟨?_, nofun, nofun, .nil⟩
      rw [extensionArea, Nat.eq_zero_of_not_pos hpos, List.take_zero]
      rfl
    exact hnone hempty rfl

/-- What a parser keeps of the records of an area. -/
theorem holds_of_parseExtensions (hlarge :
      (readHeader bytes).extensionLen.toNat ≤ frameExtensionMaxBytes)
    {extensions : List R2wpExtension}
    (h : parseExtensions (readHeader bytes) bytes = .ok extensions) :
    ∃ exts, Holds (extensionArea (readHeader bytes) bytes) exts ∧
      extensions = exts.filter (isAssigned ·.typeId) := by
  unfold parseExtensions at h
  split_ifs at h with hpos
  · have harea : (extensionArea (readHeader bytes) bytes).length ≤ extensionAreaMaxBytes := by
      refine le_trans ?_ hlarge
      rw [extensionArea, List.length_take]
      exact Nat.min_le_left _ _
    rcases decodeExtensionArea_cases harea with
      ⟨e, hdecode, -, -⟩ | ⟨offset, exts, hdecode, -, -⟩ | ⟨exts, hdecode, hholds, -⟩
    all_goals
      rw [extensionArea] at hdecode
      rw [hdecode] at h
      cases h
    exact ⟨exts, hholds, rfl⟩
  · obtain rfl := Except.ok.inj h
    refine ⟨[], ⟨?_, nofun, nofun, .nil⟩, rfl⟩
    rw [extensionArea, Nat.eq_zero_of_not_pos hpos, List.take_zero]
    rfl

theorem reports_checkTrace (hstart : payloadStart (readHeader bytes) ≤ bytes.length)
    {exts : List R2wpExtension} (hholds : Holds (extensionArea (readHeader bytes) bytes) exts) :
    Reports (parserChecks opts bytes) 15 16
      (checkTrace (readHeader bytes) (exts.filter (isAssigned ·.typeId))) := by
  have hcontext : (exts.filter (isAssigned ·.typeId)).any
      (·.typeId == traceContextExtensionType) = true ↔
        ∃ ext ∈ exts, ext.typeId = traceContextExtensionType := by
    rw [List.any_eq_true]
    constructor
    · rintro ⟨ext, hext, htype⟩
      exact ⟨ext, List.mem_of_mem_filter hext, beq_iff_eq.mp htype⟩
    · rintro ⟨ext, hext, htype⟩
      refine ⟨ext, List.mem_filter.mpr ⟨hext, ?_⟩, beq_iff_eq.mpr htype⟩
      rw [htype]
      rfl
  have hflag : ((readHeader bytes).flags &&& flagTracePresent != 0) = true ↔
      (readHeader bytes).flags &&& flagTracePresent ≠ 0 := bne_iff_ne
  unfold checkTrace
  dsimp only
  split_ifs with hdiffer
  all_goals rw [Ne, Bool.eq_iff_iff, hflag, hcontext] at hdiffer
  · exact .fail rfl (by decide) ⟨hstart, exts, hholds, hdiffer⟩ rfl
  · exact .fail rfl (by decide) ⟨hstart, exts, hholds, hdiffer⟩ rfl
  · refine .next ?_ (.done ())
    rintro ⟨-, exts', hholds', hdiffer'⟩
    rw [hholds'.unique hholds] at hdiffer'
    exact hdiffer hdiffer'

theorem reports_parsePayload
    (htotal : bytes.length = payloadStart (readHeader bytes) + (readHeader bytes).payloadLen.toNat)
    (hsize : (readHeader bytes).opcode = opcodeControlCbor →
      (readHeader bytes).payloadLen.toNat ≤ Control.controlPayloadMaxBytes) :
    Reports (parserChecks opts bytes) 16 17 (parsePayload (readHeader bytes) bytes) := by
  unfold parsePayload
  dsimp only
  split_ifs with hcontrol hretain
  · split
    · next msg hdecode => exact .next (fun h => h.2.2 ⟨msg, hdecode⟩) (.done _)
    · next e hdecode =>
      have hlength : (payloadBytes (readHeader bytes) bytes).length ≤
          Control.controlPayloadMaxBytes := by
        rw [payloadBytes, List.length_take]
        exact (Nat.min_le_left _ _).trans (hsize hcontrol)
      rw [Control.mapControlError, if_neg (Control.reason_of_decodeControlMessage hlength hdecode)]
      refine .fail rfl (by decide) ⟨htotal.ge, hcontrol, ?_⟩ rfl
      rintro ⟨msg, hmsg⟩
      rw [payloadBytes, hdecode] at hmsg
      cases hmsg
  all_goals exact .next (fun h => hcontrol h.2.1) (.done _)

/-- **The parser runs the checks in order.** -/
theorem reports_parseFrame (bytes : List UInt8) (opts : FrameOptions) :
    Reports (parserChecks opts bytes) 1 17 (parseFrame bytes opts) := by
  unfold parseFrame parseFrameDeclared
  split_ifs with hshort
  · exact .fail rfl (by decide) hshort rfl
  · have hlen : 32 ≤ bytes.length := Nat.not_lt.mp hshort
    refine .next hshort ?_
    refine .bind (by decide) (by decide) (reports_checkLengths hlen) fun _ hlengths => ?_
    refine .bind (by decide) (by decide) (reports_checkTotal hlen) fun _ htotal => ?_
    have hlarge : (readHeader bytes).extensionLen.toNat ≤ frameExtensionMaxBytes ∧
        ((readHeader bytes).opcode = opcodeControlCbor →
          (readHeader bytes).payloadLen.toNat ≤ Control.controlPayloadMaxBytes) := by
      unfold checkLengths at hlengths
      split_ifs at hlengths with _ hext _ hcontrol
      refine ⟨Nat.not_lt.mp hext, fun heq => ?_⟩
      by_contra hgt
      exact hcontrol ⟨heq, Nat.not_le.mp hgt⟩
    have hexact : bytes.length =
        payloadStart (readHeader bytes) + (readHeader bytes).payloadLen.toNat := by
      unfold checkTotal at htotal
      dsimp only at htotal
      split_ifs at htotal with hdiffer
      exact not_not.mp hdiffer
    have hstart : payloadStart (readHeader bytes) ≤ bytes.length :=
      hexact ▸ Nat.le_add_right _ _
    refine .bind (by decide) (by decide) (reports_checkOpcode hlen) fun _ _ => ?_
    refine .bind (by decide) (by decide) (reports_checkFlags hlen) fun _ _ => ?_
    refine .bind (by decide) (by decide) (reports_checkChannelClass hlen) fun _ _ => ?_
    refine .bind (by decide) (by decide) (reports_checkClock hlen) fun _ _ => ?_
    refine .bind (by decide) (by decide) (reports_parseExtensions hstart hlarge.1)
      fun extensions hextensions => ?_
    obtain ⟨exts, hholds, rfl⟩ := holds_of_parseExtensions hlarge.1 hextensions
    refine .bind (by decide) (by decide) (reports_checkTrace hstart hholds) fun _ _ => ?_
    exact .bind (by decide) le_rfl (reports_parsePayload hexact hlarge.2) fun _ _ => .done _

end Order

end Frame

/-! ## The checks of a bootstrap record -/

namespace Bootstrap

/-- The code that is published for a check of a bootstrap record. -/
def checkCode : ℕ → ℕ
  | 3 => 4
  | 6 => 24
  | _ => 1

/-- The payload length a record declares. -/
def declaredLength (bytes : List UInt8) : ℕ := ofBytes ((bytes.drop 8).take 4)

/-- The payload of a record. -/
def payloadBytes (bytes : List UInt8) : List UInt8 :=
  (bytes.drop bootstrapPrefixLength).take (declaredLength bytes)

/-- **The nine checks of a bootstrap record.** -/
def Fails (bytes : List UInt8) : ℕ → Prop
  | 1 => bytes.length < 12
  | 2 => 4 ≤ bytes.length ∧ bytes.take 4 ≠ magic
  | 3 => 5 ≤ bytes.length ∧ bytes.getD 4 0 ≠ 0
  | 4 => 8 ≤ bytes.length ∧ ofBytes ((bytes.drop 6).take 2) ≠ 0
  | 5 => 6 ≤ bytes.length ∧ bytes.getD 5 0 ∉ [kindClientHello, kindServerHello, kindBootstrapError]
  | 6 => 12 ≤ bytes.length ∧ 65535 < declaredLength bytes
  | 7 => 12 ≤ bytes.length ∧ bytes.length ≠ 12 + declaredLength bytes
  | 8 => 12 + declaredLength bytes ≤ bytes.length ∧
      ¬ ∃ value, Cbor.decodeDeterministicCbor (payloadBytes bytes) = .ok value
  | 9 => 12 + declaredLength bytes ≤ bytes.length ∧
      ∃ value, Cbor.decodeDeterministicCbor (payloadBytes bytes) = .ok value ∧
        ¬ ∃ record, decodePayloadByKind (bytes.getD 5 0) value bootstrapPrefixLength = .ok record
  | _ => False

/-- The published order of the checks of a bootstrap record. -/
def recordChecks (bytes : List UInt8) : Published ProtocolError where
  fails := Fails bytes
  step e := e.step
  agrees e := e.code = checkCode e.step

/-- **The parser runs the checks in order.** -/
theorem reports_parseBootstrap (bytes : List UInt8) :
    Reports (recordChecks bytes) 1 10 (parseBootstrap bytes) := by
  unfold parseBootstrap
  refine .check rfl (by decide) rfl id id fun hshort => ?_
  have hlen : 12 ≤ bytes.length := Nat.not_lt.mp hshort
  refine .check rfl (by decide) rfl (fun h => ⟨by omega, h⟩) (fun h hfails => h hfails.2)
    fun _ => ?_
  refine .check rfl (by decide) rfl (fun h => ⟨by omega, h⟩) (fun h hfails => h hfails.2)
    fun _ => ?_
  refine .check rfl (by decide) rfl (fun h => ⟨by omega, h⟩) (fun h hfails => h hfails.2)
    fun _ => ?_
  have hlisted : (bytes.getD 5 0 ≠ kindClientHello ∧ bytes.getD 5 0 ≠ kindServerHello ∧
      bytes.getD 5 0 ≠ kindBootstrapError) ↔
        bytes.getD 5 0 ∉ [kindClientHello, kindServerHello, kindBootstrapError] := by simp
  refine .check rfl (by decide) rfl (fun h => ⟨by omega, hlisted.mp h⟩)
    (fun h hfails => h (hlisted.mpr hfails.2)) fun hkind => ?_
  have hassigned : bytes.getD 5 0 ∈ [kindClientHello, kindServerHello, kindBootstrapError] :=
    not_not.mp (mt hlisted.mpr hkind)
  refine .check rfl (by decide) rfl (fun h => ⟨hlen, h⟩) (fun h hfails => h hfails.2) fun _ => ?_
  refine .check rfl (by decide) rfl (fun h => ⟨hlen, h⟩) (fun h hfails => h hfails.2)
    fun htotal => ?_
  have hexact : bytes.length = 12 + declaredLength bytes := not_not.mp htotal
  have hpayload : payloadBytes bytes = bytes.drop bootstrapPrefixLength := by
    refine List.take_of_length_le ?_
    rw [List.length_drop, hexact]
    exact Nat.le_of_eq (Nat.add_sub_cancel_left 12 _)
  cases hdecode : Cbor.decodeDeterministicCbor (bytes.drop bootstrapPrefixLength) with
  | error e =>
    refine .fail rfl (by decide) ⟨hexact.ge, ?_⟩ rfl
    rintro ⟨value, hvalue⟩
    rw [hpayload, hdecode] at hvalue
    cases hvalue
  | ok value =>
    refine .next (fun h => h.2 ⟨value, hpayload ▸ hdecode⟩) ?_
    dsimp only
    cases hrecord : decodePayloadByKind (bytes.getD 5 0) value bootstrapPrefixLength with
    | error e =>
      have hfault := faultsInShape_decodePayloadByKind value bootstrapPrefixLength
        (by simpa using hassigned) e hrecord
      refine .fail hfault.1 (by decide) ⟨hexact.ge, value, hpayload ▸ hdecode, ?_⟩ ?_
      · rintro ⟨record, hok⟩
        rw [hrecord] at hok
        cases hok
      · exact hfault.2.trans (hfault.1 ▸ rfl)
    | ok record =>
      refine .next ?_ (.done record)
      rintro ⟨-, value', hvalue', hnone⟩
      rw [hpayload, hdecode] at hvalue'
      obtain rfl := Except.ok.inj hvalue'
      exact hnone ⟨record, hrecord⟩

end Bootstrap

/-! ## The first check that fails is reported -/

/-- **Both parsers report the least check that fails.**  Every frame and every bootstrap record is
refused with the step and the code of the first published check that it fails, each check taken on
its own, and is accepted when it fails none. -/
theorem reports_first_failing_check :
    (∀ (bytes : List UInt8) (opts : FrameOptions),
      FirstReported (Frame.frameChecks Frame.opcodeAllowsRosReliable opts bytes) 16
        (Frame.parseFrame bytes opts)) ∧
      ∀ bytes : List UInt8,
        FirstReported (Bootstrap.recordChecks bytes) 9 (Bootstrap.parseBootstrap bytes) :=
  ⟨fun bytes opts => (Frame.reports_parseFrame bytes opts).firstReported,
    fun bytes => (Bootstrap.reports_parseBootstrap bytes).firstReported⟩

/-- A service request on channel 1 that sets `ROS_RELIABLE`. -/
def reliableRequest : List UInt8 :=
  [0, 3, 0, 1, 0, 0, 0, 1] ++ List.replicate 22 0 ++ [1, 0]

/-- The parser takes a request with the flag that the tables keep for samples. -/
theorem not_reports_first_failing_check :
    ¬ ∀ (bytes : List UInt8) (opts : FrameOptions),
      FirstReported (Frame.frameChecks Frame.publishedReliable opts bytes) 16
        (Frame.parseFrame bytes opts) := by
  intro h
  have haccepted : ∃ frame, Frame.parseFrame reliableRequest Frame.defaultOptions = .ok frame :=
    ⟨_, rfl⟩
  have hnone := (h reliableRequest Frame.defaultOptions).accepts.mp haccepted
  exact hnone 7 (by decide) (by decide)
    ⟨by decide, .inr (.inr (.inr ⟨by decide, by decide⟩))⟩

end Rclweb
