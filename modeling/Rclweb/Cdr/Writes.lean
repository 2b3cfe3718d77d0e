import Rclweb.Cdr.Fields

/-!
# What a write does

Every write appends zero padding and the body of its field, when the field is `Writable` and
padding and body fit the capacity; otherwise it fails (`write_ok_iff`).
-/

namespace Rclweb

open BigEndian Attempts

namespace Cdr
namespace CdrWriter

/-- **The invariant of a writer.** -/
structure Valid (w : CdrWriter) : Prop where
  limits : w.limits.Valid
  capacity : w.capacity = writerCapacity w.limits
  length_le : w.buf.length ≤ w.capacity

variable {w w' : CdrWriter} {u : Unit}

theorem Valid.capacity_lt (hw : w.Valid) : w.capacity < 2 ^ 32 := by
  have hle : w.capacity ≤ w.limits.maxStreamBytes := hw.capacity ▸ Nat.min_le_left _ _
  have hstream := hw.limits.stream_le
  unfold defaultMaxStreamBytes at hstream
  omega

/-- The writer with padding and bytes appended. -/
def put (w : CdrWriter) (pad : ℕ) (bytes : List UInt8) : CdrWriter :=
  { w with buf := w.buf ++ (List.replicate pad 0 ++ bytes) }

@[simp] theorem emit_ok_iff {bytes : List UInt8} :
    emit bytes w = .ok u w' ↔ { w with buf := w.buf ++ bytes } = w' := by
  simp [emit]

@[simp] theorem writeRaw_ok_iff {k n : ℕ} :
    writeRaw k n w = .ok u w' ↔ { w with buf := w.buf ++ w.endian.toBytes k n } = w' := by
  simp [writeRaw, bind_ok_iff]

theorem alignAndReserve_ok_iff (hw : w.Valid) {align size : ℕ} :
    alignAndReserve align size w = .ok u w' ↔
      w.buf.length + (paddingFor w.buf.length align + size) ≤ w.capacity ∧
        { w with buf := w.buf ++ List.replicate (paddingFor w.buf.length align) 0 } = w' := by
  have hcap := hw.capacity_lt
  simp only [alignAndReserve, position, bind_ok_iff, get_ok_iff, orFail_ok_iff,
    checkedAddUsize_eq_some_iff, refuse_ok_iff, emit_ok_iff]
  constructor
  · rintro ⟨_, _, ⟨rfl, rfl⟩, _, _, ⟨⟨-, rfl⟩, rfl⟩, _, _, ⟨⟨-, rfl⟩, rfl⟩, _, _, ⟨hfits, rfl⟩, rfl⟩
    exact ⟨by omega, rfl⟩
  · rintro ⟨hfits, rfl⟩
    exact ⟨_, _, ⟨rfl, rfl⟩, _, _, ⟨⟨by omega, rfl⟩, rfl⟩, _, _, ⟨⟨by omega, rfl⟩, rfl⟩, (), _,
      ⟨by omega, rfl⟩, rfl⟩

theorem writeUnsigned_ok_iff (hw : w.Valid) {k n : ℕ} :
    writeUnsigned k n w = .ok u w' ↔
      w.buf.length + (paddingFor w.buf.length k + k) ≤ w.capacity ∧
        w.put (paddingFor w.buf.length k) (w.endian.toBytes k n) = w' := by
  simp [writeUnsigned, bind_ok_iff, alignAndReserve_ok_iff hw, put, and_assoc]

theorem writeBytes_ok_iff (hw : w.Valid) {data : List UInt8} :
    writeBytes data w = .ok u w' ↔
      w.buf.length + (paddingFor w.buf.length 1 + data.length) ≤ w.capacity ∧
        w.put (paddingFor w.buf.length 1) data = w' := by
  simp [writeBytes, bind_ok_iff, alignAndReserve_ok_iff hw, put, and_assoc]

/-- The payload check passes whenever the whole field fits. -/
theorem checkPayload_ok (fieldStart remCap payloadLen : ℕ)
    (hfits : paddingFor fieldStart 4 + (5 + payloadLen) ≤ remCap) :
    checkPayload fieldStart remCap (paddingFor fieldStart 4) payloadLen w = .ok () w := by
  have hcap : maxPayloadForWriter fieldStart remCap
      = ((remCap - paddingFor fieldStart 4 - 5 : ℕ) : ℤ) := by
    unfold maxPayloadForWriter
    exact (if_neg (by omega)).trans (if_neg (by omega))
  unfold checkPayload
  simp only [hcap]
  rw [if_neg (by omega), refuse_ok_iff]
  exact ⟨by omega, rfl⟩

theorem checkPayload_state {fieldStart remCap pad payloadLen : ℕ}
    (h : checkPayload fieldStart remCap pad payloadLen w = .ok u w') : w = w' := by
  unfold checkPayload at h
  split_ifs at h
  · exact (refuse_ok_iff.mp h).2
  · exact (refuse_ok_iff.mp h).2

theorem writeString_ok_iff (hw : w.Valid) {value : String} {maxBytes : Option UInt32} :
    writeString value maxBytes w = .ok u w' ↔
      WithinBound maxBytes (utf8 value).length ∧
        w.buf.length + (paddingFor w.buf.length 4 + (4 + ((utf8 value).length + 1)))
            ≤ w.capacity ∧
          w.put (paddingFor w.buf.length 4)
            (w.endian.toBytes 4 ((utf8 value).length + 1) ++ (utf8 value ++ [0])) = w' := by
  have hcap := hw.capacity_lt
  simp only [writeString, position, remainingCapacity, bind_ok_iff, get_ok_iff, orFail_ok_iff,
    checkedAddUsize_eq_some_iff, refuse_ok_iff, checkBound_ok_iff, writeRaw_ok_iff, emit_ok_iff]
  constructor
  · rintro ⟨_, _, ⟨rfl, rfl⟩, _, _, ⟨hbound, rfl⟩, _, _, hpayload, _, _, ⟨⟨-, rfl⟩, rfl⟩, _, _,
      ⟨⟨-, rfl⟩, rfl⟩, _, _, halign, _, _, ⟨-, rfl⟩, _, _, rfl, _, _, rfl, rfl⟩
    obtain rfl := checkPayload_state hpayload
    obtain ⟨hfits, rfl⟩ := (alignAndReserve_ok_iff hw).mp halign
    exact ⟨hbound, hfits, by simp [put]⟩
  · rintro ⟨hbound, hfits, rfl⟩
    refine ⟨_, _, ⟨rfl, rfl⟩, (), _, ⟨hbound, rfl⟩, (), _,
      checkPayload_ok _ _ _ (by omega), _, _, ⟨⟨by omega, rfl⟩, rfl⟩, _, _,
      ⟨⟨by omega, rfl⟩, rfl⟩, (), _, (alignAndReserve_ok_iff hw).mpr ⟨by omega, rfl⟩, (), _,
      ⟨by omega, rfl⟩, (), _, rfl, (), _, rfl, ?_⟩
    simp [put]

theorem isAcceptedWstringScalar_val (ch : Char) : isAcceptedWstringScalar ch.val = true := by
  have hvalid : ch.val.toNat.isValidChar := ch.valid
  simp only [isAcceptedWstringScalar, Bool.or_eq_true, Bool.and_eq_true, decide_eq_true_eq,
    UInt32.le_iff_toNat_le]
  simp only [Nat.isValidChar] at hvalid
  simp only [UInt32.reduceToNat]
  omega

/-- The counting loop counts every scalar, when each count on the way is allowed. -/
theorem countScalars_ok_iff {fieldStart remCap pad : ℕ} {bound : Option UInt32} {capMax : ℤ}
    {chars : List Char} {count total : ℕ} :
    countScalars fieldStart remCap pad (typeBoundCeiling bound) capMax chars count w = .ok total w' ↔
      (chars ≠ [] → WithinBound bound (count + chars.length) ∧
        ((count + chars.length : ℕ) : ℤ) ≤ capMax) ∧
        count + chars.length = total ∧ w = w' := by
  induction chars generalizing count with
  | nil => simp [countScalars]
  | cons ch chars ih =>
    simp only [countScalars, bind_ok_iff, refuse_ok_iff, checkBound_ok_iff,
      isAcceptedWstringScalar_val, List.length_cons, ne_eq, reduceCtorEq, not_false_eq_true,
      true_implies]
    constructor
    · rintro ⟨_, _, ⟨-, rfl⟩, _, _, ⟨hbound, rfl⟩, _, _, ⟨hcap, rfl⟩, hrest⟩
      obtain ⟨hchars, htotal, hstate⟩ := ih.mp hrest
      refine ⟨?_, by omega, hstate⟩
      rw [show count + (chars.length + 1) = count + 1 + chars.length by omega]
      cases chars with
      | nil => exact ⟨hbound, by simp at hcap ⊢; omega⟩
      | cons ch' chars => exact hchars (List.cons_ne_nil _ _)
    · rintro ⟨⟨hbound, hcap⟩, htotal, rfl⟩
      have hle : count + 1 ≤ count + (chars.length + 1) := by omega
      refine ⟨(), _, ⟨trivial, rfl⟩, (), _, ⟨fun b hb => hle.trans (hbound b hb), rfl⟩, (), _,
        ⟨by push_cast at hcap; omega, rfl⟩, ih.mpr ⟨fun _ => ?_, by omega, rfl⟩⟩
      rw [show count + 1 + chars.length = count + (chars.length + 1) by omega]
      exact ⟨hbound, hcap⟩

theorem writeSlots_ok_iff {chars : List Char} :
    writeSlots chars w = .ok u w' ↔
      { w with buf := w.buf ++ CdrField.slots w.endian chars } = w' := by
  induction chars generalizing w with
  | nil => simp [writeSlots, CdrField.slots]
  | cons ch chars ih =>
    simp [writeSlots, bind_ok_iff, ih, CdrField.slots]

theorem maxScalarsForWriter_ge {fieldStart remCap count : ℕ}
    (hfits : paddingFor fieldStart 4 + (4 + count * 4) ≤ remCap) :
    (count : ℤ) ≤ maxScalarsForWriter fieldStart remCap := by
  have hcap : maxScalarsForWriter fieldStart remCap
      = (((remCap - paddingFor fieldStart 4 - 4) / 4 : ℕ) : ℤ) := by
    unfold maxScalarsForWriter
    exact (if_neg (by omega)).trans (if_neg (by omega))
  rw [hcap]
  omega

theorem writeWstring_ok_iff (hw : w.Valid) {value : String} {maxScalars : Option UInt32} :
    writeWstring value maxScalars w = .ok u w' ↔
      WithinBound maxScalars value.toList.length ∧
        w.buf.length + (paddingFor w.buf.length 4 + (4 + value.toList.length * 4))
            ≤ w.capacity ∧
          w.put (paddingFor w.buf.length 4)
            (w.endian.toBytes 4 value.toList.length ++ CdrField.slots w.endian value.toList)
            = w' := by
  have hcap := hw.capacity_lt
  have hmul (a b c : ℕ) : checkedMulUsize a b = some c ↔ a * b < 2 ^ 64 ∧ a * b = c := by
    unfold checkedMulUsize
    by_cases h : a * b < 2 ^ 64
    · rw [if_pos h, Option.some.injEq]
      exact ⟨fun hc => ⟨h, hc⟩, fun hc => hc.2⟩
    · rw [if_neg h]
      exact ⟨nofun, fun hc => absurd hc.1 h⟩
  simp only [writeWstring, position, remainingCapacity, bind_ok_iff, get_ok_iff, orFail_ok_iff,
    checkedAddUsize_eq_some_iff, hmul, refuse_ok_iff, countScalars_ok_iff, writeRaw_ok_iff,
    writeSlots_ok_iff]
  constructor
  · rintro ⟨_, _, ⟨rfl, rfl⟩, _, _, ⟨hcount, rfl, rfl⟩, _, _, ⟨⟨-, rfl⟩, rfl⟩, _, _,
      ⟨⟨-, rfl⟩, rfl⟩, _, _, halign, _, _, ⟨-, rfl⟩, _, _, rfl, rfl⟩
    obtain ⟨hfits, rfl⟩ := (alignAndReserve_ok_iff hw).mp halign
    rw [Nat.zero_add] at hcount hfits
    refine ⟨?_, hfits, by simp [put]⟩
    by_cases hempty : value.toList = []
    · rw [hempty]
      exact fun b _ => Nat.zero_le _
    · exact (hcount hempty).1
  · rintro ⟨hbound, hfits, rfl⟩
    refine ⟨_, _, ⟨rfl, rfl⟩, _, _, ⟨fun _ => ⟨?_, ?_⟩, rfl, rfl⟩, _, _, ⟨⟨by omega, rfl⟩, rfl⟩,
      _, _, ⟨⟨by omega, rfl⟩, rfl⟩, (), _, (alignAndReserve_ok_iff hw).mpr ⟨by omega, rfl⟩, (), _,
      ⟨by omega, rfl⟩, (), _, rfl, ?_⟩
    · rwa [Nat.zero_add]
    · rw [Nat.zero_add]
      exact maxScalarsForWriter_ge (by omega)
    · simp [put]

theorem writeSequenceLength_ok_iff (hw : w.Valid) {length : UInt32} {maxElements : Option UInt32} :
    writeSequenceLength length maxElements w = .ok u w' ↔
      (WithinBound maxElements length.toNat ∧ length.toNat ≤ w.limits.maxStreamBytes) ∧
        w.buf.length + (paddingFor w.buf.length 4 + 4) ≤ w.capacity ∧
          w.put (paddingFor w.buf.length 4) (w.endian.toBytes 4 length.toNat) = w' := by
  simp only [writeSequenceLength, position, bind_ok_iff, get_ok_iff, checkBound_map_ok_iff,
    refuse_ok_iff, writeRaw_ok_iff]
  constructor
  · rintro ⟨_, _, ⟨rfl, rfl⟩, _, _, ⟨hbound, rfl⟩, _, _, ⟨hstream, rfl⟩, _, _, halign, rfl⟩
    obtain ⟨hfits, rfl⟩ := (alignAndReserve_ok_iff hw).mp halign
    exact ⟨⟨hbound, by omega⟩, hfits, by simp [put]⟩
  · rintro ⟨⟨hbound, hstream⟩, hfits, rfl⟩
    refine ⟨_, _, ⟨rfl, rfl⟩, (), _, ⟨hbound, rfl⟩, (), _, ⟨by omega, rfl⟩, (), _,
      (alignAndReserve_ok_iff hw).mpr ⟨hfits, rfl⟩, ?_⟩
    simp [put]

theorem writeByteSequence_ok_iff (hw : w.Valid) {value : List UInt8}
    {maxElements : Option UInt32} :
    writeByteSequence value maxElements w = .ok u w' ↔
      (WithinBound maxElements value.length ∧ value.length ≤ w.limits.maxStreamBytes) ∧
        w.buf.length + (paddingFor w.buf.length 4 + (4 + value.length)) ≤ w.capacity ∧
          w.put (paddingFor w.buf.length 4) (w.endian.toBytes 4 value.length ++ value) = w' := by
  have hcap := hw.capacity_lt
  simp only [writeByteSequence, position, remainingCapacity, bind_ok_iff, get_ok_iff,
    checkBound_map_ok_iff, refuse_ok_iff, orFail_ok_iff, checkedAddUsize_eq_some_iff,
    writeRaw_ok_iff, emit_ok_iff]
  constructor
  · rintro ⟨_, _, ⟨rfl, rfl⟩, _, _, ⟨hbound, rfl⟩, _, _, ⟨hstream, rfl⟩, _, _,
      ⟨⟨-, rfl⟩, rfl⟩, _, _, halign, _, _, ⟨-, rfl⟩, _, _, rfl, rfl⟩
    obtain ⟨hfits, rfl⟩ := (alignAndReserve_ok_iff hw).mp halign
    exact ⟨⟨hbound, by omega⟩, hfits, by simp [put]⟩
  · rintro ⟨⟨hbound, hstream⟩, hfits, rfl⟩
    refine ⟨_, _, ⟨rfl, rfl⟩, (), _, ⟨hbound, rfl⟩, (), _, ⟨by omega, rfl⟩, _, _,
      ⟨⟨by omega, rfl⟩, rfl⟩, (), _, (alignAndReserve_ok_iff hw).mpr ⟨by omega, rfl⟩, (), _,
      ⟨by omega, rfl⟩, (), _, rfl, ?_⟩
    simp [put]

end CdrWriter

/-- **A write succeeds exactly when the field is allowed and fits**, and then appends zero padding
and the body of the field. -/
theorem CdrField.write_ok_iff {w w' : CdrWriter} {u : Unit} (hw : w.Valid) (f : CdrField) :
    f.write w = .ok u w' ↔ f.Writable w.limits ∧
      w.buf.length + (f.padding w.buf.length + f.width) ≤ w.capacity ∧
        w.put (f.padding w.buf.length) (f.body w.endian) = w' := by
  cases f with
  | bytes data =>
    rw [write, CdrWriter.writeBytes_ok_iff hw]
    exact (and_iff_right trivial).symm
  | string value maxBytes => exact CdrWriter.writeString_ok_iff hw
  | wstring value maxScalars => exact CdrWriter.writeWstring_ok_iff hw
  | sequenceLength length maxElements => exact CdrWriter.writeSequenceLength_ok_iff hw
  | byteSequence value maxElements => exact CdrWriter.writeByteSequence_ok_iff hw
  | bool v =>
    have hnum : (if v then (1 : UInt8) else 0).toNat = if v then 1 else 0 := by cases v <;> rfl
    rw [write, CdrWriter.writeBool, CdrWriter.writeU8, CdrWriter.writeUnsigned_ok_iff hw, hnum]
    exact (and_iff_right trivial).symm
  | u8 | u16 | u32 | u64 | i8 | i16 | i32 | i64 | f32 | f64 | char8 | char16 =>
    exact (CdrWriter.writeUnsigned_ok_iff hw).trans (and_iff_right trivial).symm

end Cdr
end Rclweb
