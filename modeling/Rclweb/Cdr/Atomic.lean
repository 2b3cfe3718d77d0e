import Rclweb.Cdr.Streams

/-!
# Fault atomicity

A write that fails leaves the writer it met, whatever the write is and wherever it fails: every
check stands before the first byte, but for the checks of a count against 32 bits, which no field
within the capacity fails.  A read that fails leaves the reader it met: every check puts the cursor
back to where the field started before it fails.
-/

namespace Rclweb

open BigEndian Attempts

namespace Cdr

/-! ## Writes -/

namespace CdrWriter

variable {w w' w₀ : CdrWriter} {u : Unit}

theorem restores_checkBound {bound : Option ℕ} {n offset : ℕ} :
    Restores w (checkBound bound n offset : CdrWrite Unit) w := by
  unfold checkBound
  cases bound with
  | none => exact restores_pure _
  | some b => exact restores_refuse fun _ => rfl

theorem restores_checkPayload {fieldStart remCap pad payloadLen : ℕ} :
    Restores w (checkPayload fieldStart remCap pad payloadLen) w := by
  unfold checkPayload
  dsimp only
  split_ifs
  · exact restores_refuse fun _ => rfl
  · exact restores_refuse fun _ => rfl

theorem restores_emit {bytes : List UInt8} : Restores w₀ (emit bytes) w := restores_modify _

theorem restores_writeRaw {k n : ℕ} : Restores w₀ (writeRaw k n) w :=
  restores_get.bind fun _ _ _ => restores_emit

theorem restores_alignAndReserve {align size : ℕ} :
    Restores w (alignAndReserve align size) w := by
  unfold alignAndReserve
  refine restores_get.bind fun w₁ w₂ hget => ?_
  obtain ⟨rfl, rfl⟩ := get_ok_iff.mp hget
  refine (restores_orFail rfl).bind fun needed w₂ h => ?_
  obtain ⟨-, rfl⟩ := orFail_ok_iff.mp h
  refine (restores_orFail rfl).bind fun stop w₂ h => ?_
  obtain ⟨-, rfl⟩ := orFail_ok_iff.mp h
  refine (restores_refuse fun _ => rfl).bind fun _ w₂ h => ?_
  exact restores_emit

theorem restores_writeUnsigned {k n : ℕ} : Restores w (writeUnsigned k n) w :=
  restores_alignAndReserve.bind fun _ _ _ => restores_writeRaw

theorem restores_writeBytes {data : List UInt8} : Restores w (writeBytes data) w :=
  restores_alignAndReserve.bind fun _ _ _ => restores_emit

/-- What is reserved is within the capacity, and counts that fit it have 32 bits. -/
theorem size_lt_of_alignAndReserve (hw : w.Valid) {align size : ℕ}
    (h : alignAndReserve align size w = .ok u w') : size < 2 ^ 32 := by
  have hfits := ((alignAndReserve_ok_iff hw).mp h).1
  have hcap := hw.capacity_lt
  omega

theorem restores_writeString (hw : w.Valid) {value : String} {maxBytes : Option UInt32} :
    Restores w (writeString value maxBytes) w := by
  unfold writeString
  refine restores_get.bind fun w₁ w₂ hget => ?_
  obtain ⟨rfl, rfl⟩ := get_ok_iff.mp hget
  refine restores_checkBound.bind fun _ w₂ h => ?_
  obtain ⟨-, rfl⟩ := checkBound_ok_iff.mp h
  refine restores_checkPayload.bind fun _ w₂ h => ?_
  obtain rfl := checkPayload_state h
  refine (restores_orFail rfl).bind fun wireLen w₂ h => ?_
  obtain ⟨-, rfl⟩ := orFail_ok_iff.mp h
  refine (restores_orFail rfl).bind fun bodySize w₂ h => ?_
  obtain ⟨hbody, rfl⟩ := orFail_ok_iff.mp h
  obtain ⟨-, hsum⟩ := checkedAddUsize_eq_some_iff.mp hbody
  refine restores_alignAndReserve.bind fun _ w₂ h => ?_
  have hsize := size_lt_of_alignAndReserve hw h
  refine (restores_refuse fun hlong => ?_).bind fun _ w₃ _ => ?_
  · omega
  refine restores_writeRaw.bind fun _ w₄ _ => ?_
  exact restores_emit.bind fun _ _ _ => restores_emit

theorem restores_countScalars {fieldStart remCap pad : ℕ} {typeMax : Option ℕ} {capMax : ℤ}
    (chars : List Char) (count : ℕ) :
    Restores w (countScalars fieldStart remCap pad typeMax capMax chars count) w ∧
      ∀ n t, countScalars fieldStart remCap pad typeMax capMax chars count w = .ok n t → t = w := by
  induction chars generalizing count with
  | nil =>
    refine ⟨restores_pure _, ?_⟩
    intro n t h
    exact (pure_ok_iff.mp h).2.symm
  | cons ch chars ih =>
    have hbound : ∀ n t, (checkBound typeMax n fieldStart : CdrWrite Unit) w = .ok () t → t = w := by
      intro n t h
      unfold checkBound at h
      cases typeMax with
      | none => exact (pure_ok_iff.mp h).2.symm
      | some b => exact (refuse_ok_iff.mp h).2.symm
    obtain ⟨hrestores, hstate⟩ := ih (count + 1)
    constructor
    · unfold countScalars
      refine (restores_refuse fun _ => rfl).bind fun _ w₁ h => ?_
      obtain ⟨-, rfl⟩ := refuse_ok_iff.mp h
      refine restores_checkBound.bind fun _ w₁ h => ?_
      obtain rfl := hbound _ _ h
      refine (restores_refuse fun _ => rfl).bind fun _ w₂ h => ?_
      obtain ⟨-, rfl⟩ := refuse_ok_iff.mp h
      exact hrestores
    · intro n t h
      unfold countScalars at h
      obtain ⟨_, w₁, hfirst, h₁⟩ := bind_ok_iff.mp h
      obtain ⟨-, rfl⟩ := refuse_ok_iff.mp hfirst
      obtain ⟨_, w₁, hsecond, h₂⟩ := bind_ok_iff.mp h₁
      obtain rfl := hbound _ _ hsecond
      obtain ⟨_, w₂, hthird, h₃⟩ := bind_ok_iff.mp h₂
      obtain ⟨-, rfl⟩ := refuse_ok_iff.mp hthird
      exact hstate n t h₃

theorem restores_writeSlots (chars : List Char) : Restores w₀ (writeSlots chars) w := by
  induction chars generalizing w with
  | nil => exact restores_pure _
  | cons ch chars ih => exact restores_writeRaw.bind fun _ _ _ => ih

theorem restores_writeWstring (hw : w.Valid) {value : String} {maxScalars : Option UInt32} :
    Restores w (writeWstring value maxScalars) w := by
  unfold writeWstring
  refine restores_get.bind fun w₁ w₂ hget => ?_
  obtain ⟨rfl, rfl⟩ := get_ok_iff.mp hget
  refine (restores_countScalars _ _).1.bind fun count w₂ h => ?_
  obtain rfl := (restores_countScalars _ _).2 _ _ h
  refine (restores_orFail rfl).bind fun payload w₁ h => ?_
  obtain ⟨hpayload, rfl⟩ := orFail_ok_iff.mp h
  refine (restores_orFail rfl).bind fun bodySize w₁ h => ?_
  obtain ⟨hbody, rfl⟩ := orFail_ok_iff.mp h
  obtain ⟨-, hsum⟩ := checkedAddUsize_eq_some_iff.mp hbody
  refine restores_alignAndReserve.bind fun _ w₁ h => ?_
  have hsize := size_lt_of_alignAndReserve hw h
  refine (restores_refuse fun hlong => ?_).bind fun _ w₃ _ => ?_
  · unfold checkedMulUsize at hpayload
    split_ifs at hpayload
    have := Option.some.inj hpayload
    omega
  exact restores_writeRaw.bind fun _ _ _ => restores_writeSlots _

theorem restores_writeSequenceLength {length : UInt32} {maxElements : Option UInt32} :
    Restores w (writeSequenceLength length maxElements) w := by
  unfold writeSequenceLength
  refine restores_get.bind fun w₁ w₂ hget => ?_
  obtain ⟨rfl, rfl⟩ := get_ok_iff.mp hget
  refine restores_checkBound.bind fun _ w₂ h => ?_
  obtain ⟨-, rfl⟩ := checkBound_map_ok_iff.mp h
  refine (restores_refuse fun _ => rfl).bind fun _ w₂ h => ?_
  obtain ⟨-, rfl⟩ := refuse_ok_iff.mp h
  exact restores_alignAndReserve.bind fun _ _ _ => restores_writeRaw

theorem restores_writeByteSequence (hw : w.Valid) {value : List UInt8}
    {maxElements : Option UInt32} : Restores w (writeByteSequence value maxElements) w := by
  unfold writeByteSequence
  refine restores_get.bind fun w₁ w₂ hget => ?_
  obtain ⟨rfl, rfl⟩ := get_ok_iff.mp hget
  refine restores_checkBound.bind fun _ w₂ h => ?_
  obtain ⟨-, rfl⟩ := checkBound_map_ok_iff.mp h
  refine (restores_refuse fun _ => rfl).bind fun _ w₂ h => ?_
  obtain ⟨-, rfl⟩ := refuse_ok_iff.mp h
  refine (restores_orFail rfl).bind fun bodySize w₂ h => ?_
  obtain ⟨hbody, rfl⟩ := orFail_ok_iff.mp h
  obtain ⟨-, hsum⟩ := checkedAddUsize_eq_some_iff.mp hbody
  refine restores_alignAndReserve.bind fun _ w₂ h => ?_
  have hsize := size_lt_of_alignAndReserve hw h
  refine (restores_refuse fun hlong => ?_).bind fun _ w₃ _ => ?_
  · omega
  exact restores_writeRaw.bind fun _ _ _ => restores_emit

end CdrWriter

/-- **A write that fails leaves the writer as it was.** -/
theorem CdrField.restores_write {w : CdrWriter} (hw : w.Valid) (f : CdrField) :
    Restores w f.write w := by
  cases f with
  | u8 | u16 | u32 | u64 | i8 | i16 | i32 | i64 | bool | f32 | f64 | char8 | char16 =>
    exact CdrWriter.restores_writeUnsigned
  | bytes data => exact CdrWriter.restores_writeBytes
  | string value maxBytes => exact CdrWriter.restores_writeString hw
  | wstring value maxScalars => exact CdrWriter.restores_writeWstring hw
  | sequenceLength length maxElements => exact CdrWriter.restores_writeSequenceLength
  | byteSequence value maxElements => exact CdrWriter.restores_writeByteSequence hw

/-! ## Reads -/

namespace CdrReader

variable {r r' r₀ : CdrReader} {u : Unit}

theorem restores_seek {offset : ℕ} : Restores r₀ (seek offset) r := restores_modify _

/-- A rejection leaves the reader with its cursor at the start of the field. -/
theorem restores_rejectIf {c : Prop} [Decidable c] {fieldStart : ℕ} {e : CdrError}
    (hr : { r with offset := fieldStart } = r₀) : Restores r₀ (rejectIf c fieldStart e) r := by
  intro e' t h
  unfold rejectIf at h
  split_ifs at h with hc
  · cases h
    exact hr
  · cases h

theorem restores_orReject {α : Type} {o : Option α} {fieldStart : ℕ} {e : CdrError}
    (hr : { r with offset := fieldStart } = r₀) : Restores r₀ (orReject o fieldStart e) r := by
  intro e' t h
  cases o with
  | some a => cases h
  | none =>
    cases h
    exact hr

theorem restores_preflight {align size : ℕ} :
    Restores r (preflight r.offset align size) r := by
  unfold preflight
  refine restores_get.bind fun r₁ r₂ hget => ?_
  obtain ⟨rfl, rfl⟩ := get_ok_iff.mp hget
  refine (restores_orReject rfl).bind fun needed r₁ h => ?_
  obtain ⟨-, rfl⟩ := orReject_ok_iff.mp h
  refine (restores_rejectIf rfl).bind fun _ r₁ h => ?_
  obtain ⟨-, rfl⟩ := rejectIf_ok_iff.mp h
  refine (restores_rejectIf rfl).bind fun _ r₁ _ => ?_
  exact restores_pure _

theorem state_of_preflight {fieldStart align size pad : ℕ}
    (h : preflight fieldStart align size r = .ok pad r') : r' = r := by
  simp only [preflight, bind_ok_iff, get_ok_iff, orReject_ok_iff, rejectIf_ok_iff,
    pure_ok_iff] at h
  obtain ⟨_, _, ⟨rfl, rfl⟩, _, _, ⟨-, rfl⟩, _, _, ⟨-, rfl⟩, _, _, ⟨-, rfl⟩, -, rfl⟩ := h
  rfl

theorem restores_alignTo {align size : ℕ} : Restores r (alignTo align size) r := by
  unfold alignTo
  refine restores_get.bind fun r₁ r₂ hget => ?_
  obtain ⟨rfl, rfl⟩ := get_ok_iff.mp hget
  exact restores_preflight.bind fun _ _ _ => restores_seek

theorem restores_readUnsigned {k : ℕ} : Restores r (readUnsigned k) r := by
  unfold readUnsigned
  refine restores_alignTo.bind fun _ r₁ _ => ?_
  refine restores_get.bind fun r₂ r₃ _ => ?_
  exact restores_seek.bind fun _ _ _ => restores_pure _

theorem restores_readBytes {n : ℕ} : Restores r (readBytes n) r := by
  unfold readBytes
  refine restores_alignTo.bind fun _ r₁ _ => ?_
  refine restores_get.bind fun r₂ r₃ _ => ?_
  exact restores_seek.bind fun _ _ _ => restores_pure _

/-- Only the cursor of a reader moves. -/
theorem seek_of_readUnsigned {k n : ℕ} (h : readUnsigned k r = .ok n r') :
    { r' with offset := r.offset } = r := by
  simp only [readUnsigned, alignTo, bind_ok_iff, get_ok_iff, seek_ok_iff, pure_ok_iff] at h
  obtain ⟨_, _, ⟨_, _, ⟨rfl, rfl⟩, _, _, hpre, rfl⟩, _, _, ⟨rfl, rfl⟩, _, _, rfl, -, rfl⟩ := h
  rw [state_of_preflight hpre]

/-- A boolean is rejected behind its byte, and the cursor goes back. -/
theorem restores_readBool : Restores r readBool r := by
  unfold readBool
  refine restores_get.bind fun r₁ r₂ hget => ?_
  obtain ⟨rfl, rfl⟩ := get_ok_iff.mp hget
  refine (restores_readUnsigned.map _).bind fun b r₁ h => ?_
  obtain ⟨n, hread, -⟩ := map_ok_iff.mp h
  refine (restores_rejectIf (seek_of_readUnsigned hread)).bind fun _ _ _ => ?_
  exact restores_pure _

theorem restores_readString {maxBytes : Option UInt32} : Restores r (readString maxBytes) r := by
  unfold readString
  refine restores_get.bind fun r₁ r₂ hget => ?_
  obtain ⟨rfl, rfl⟩ := get_ok_iff.mp hget
  refine restores_preflight.bind fun pad r₁ h => ?_
  obtain rfl := state_of_preflight h
  refine (restores_rejectIf rfl).bind fun _ r₂ h => ?_
  obtain ⟨-, rfl⟩ := rejectIf_ok_iff.mp h
  refine (restores_rejectIf rfl).bind fun _ r₂ h => ?_
  obtain ⟨-, rfl⟩ := rejectIf_ok_iff.mp h
  refine (restores_rejectIf rfl).bind fun _ r₂ h => ?_
  obtain ⟨-, rfl⟩ := rejectIf_ok_iff.mp h
  refine (restores_orReject rfl).bind fun _ r₂ h => ?_
  obtain ⟨-, rfl⟩ := orReject_ok_iff.mp h
  refine (restores_orReject rfl).bind fun _ r₂ h => ?_
  obtain ⟨-, rfl⟩ := orReject_ok_iff.mp h
  refine (restores_rejectIf rfl).bind fun _ r₂ h => ?_
  obtain ⟨-, rfl⟩ := rejectIf_ok_iff.mp h
  refine (restores_rejectIf rfl).bind fun _ r₂ h => ?_
  obtain ⟨-, rfl⟩ := rejectIf_ok_iff.mp h
  refine (restores_rejectIf rfl).bind fun _ r₂ h => ?_
  obtain ⟨-, rfl⟩ := rejectIf_ok_iff.mp h
  refine (restores_orReject rfl).bind fun _ r₂ _ => ?_
  exact restores_seek.bind fun _ _ _ => restores_pure _

theorem restores_readWstring {maxScalars : Option UInt32} :
    Restores r (readWstring maxScalars) r := by
  unfold readWstring
  refine restores_get.bind fun r₁ r₂ hget => ?_
  obtain ⟨rfl, rfl⟩ := get_ok_iff.mp hget
  refine restores_preflight.bind fun pad r₁ h => ?_
  obtain rfl := state_of_preflight h
  refine (restores_rejectIf rfl).bind fun _ r₂ h => ?_
  obtain ⟨-, rfl⟩ := rejectIf_ok_iff.mp h
  refine (restores_rejectIf rfl).bind fun _ r₂ h => ?_
  obtain ⟨-, rfl⟩ := rejectIf_ok_iff.mp h
  refine (restores_orReject rfl).bind fun _ r₂ h => ?_
  obtain ⟨-, rfl⟩ := orReject_ok_iff.mp h
  refine (restores_orReject rfl).bind fun _ r₂ h => ?_
  obtain ⟨-, rfl⟩ := orReject_ok_iff.mp h
  refine (restores_rejectIf rfl).bind fun _ r₂ h => ?_
  obtain ⟨-, rfl⟩ := rejectIf_ok_iff.mp h
  refine (restores_rejectIf rfl).bind fun _ r₂ h => ?_
  obtain ⟨-, rfl⟩ := rejectIf_ok_iff.mp h
  refine (restores_orReject rfl).bind fun _ r₂ _ => ?_
  exact restores_seek.bind fun _ _ _ => restores_pure _

theorem restores_sequenceCount {maxElements : Option UInt32} :
    Restores r (sequenceCount maxElements) r := by
  unfold sequenceCount
  refine restores_get.bind fun r₁ r₂ hget => ?_
  obtain ⟨rfl, rfl⟩ := get_ok_iff.mp hget
  refine restores_preflight.bind fun pad r₁ h => ?_
  obtain rfl := state_of_preflight h
  refine (restores_rejectIf rfl).bind fun _ r₂ h => ?_
  obtain ⟨-, rfl⟩ := rejectIf_ok_iff.mp h
  refine (restores_rejectIf rfl).bind fun _ r₂ _ => ?_
  exact restores_pure _

theorem state_of_sequenceCount {maxElements : Option UInt32} {p : UInt32 × ℕ}
    (h : sequenceCount maxElements r = .ok p r') : r' = r := by
  simp only [sequenceCount, bind_ok_iff, get_ok_iff, rejectIf_ok_iff, pure_ok_iff] at h
  obtain ⟨_, _, ⟨rfl, rfl⟩, _, _, hpre, _, _, ⟨-, rfl⟩, _, _, ⟨-, rfl⟩, -, rfl⟩ := h
  exact state_of_preflight hpre

theorem restores_readSequenceLength {maxElements : Option UInt32} :
    Restores r (readSequenceLength maxElements) r := by
  unfold readSequenceLength
  refine restores_sequenceCount.bind fun p _ _ => ?_
  exact restores_seek.bind fun _ _ _ => restores_pure _

theorem restores_readByteSequence {maxElements : Option UInt32} :
    Restores r (readByteSequence maxElements) r := by
  unfold readByteSequence
  refine restores_get.bind fun r₁ r₂ hget => ?_
  obtain ⟨rfl, rfl⟩ := get_ok_iff.mp hget
  refine restores_sequenceCount.bind fun p r₁ h => ?_
  obtain rfl := state_of_sequenceCount h
  refine (restores_orReject rfl).bind fun _ r₂ h => ?_
  obtain ⟨-, rfl⟩ := orReject_ok_iff.mp h
  refine (restores_rejectIf rfl).bind fun _ r₂ _ => ?_
  exact restores_seek.bind fun _ _ _ => restores_pure _

end CdrReader

/-- **A read that fails leaves the reader as it was.** -/
theorem CdrFieldKind.restores_read {r : CdrReader} (kind : CdrFieldKind) :
    Restores r kind.read r := by
  cases kind with
  | u8 | u16 | u32 | u64 | f32 | f64 | char8 | char16 =>
    exact (CdrReader.restores_readUnsigned.map _).map _
  | i8 | i16 | i32 | i64 =>
    exact ((CdrReader.restores_readUnsigned.map _).map _).map _
  | bool => exact CdrReader.restores_readBool.map _
  | bytes n => exact CdrReader.restores_readBytes.map _
  | string maxBytes => exact CdrReader.restores_readString.map _
  | wstring maxScalars => exact CdrReader.restores_readWstring.map _
  | sequenceLength maxElements => exact CdrReader.restores_readSequenceLength.map _
  | byteSequence maxElements => exact CdrReader.restores_readByteSequence.map _

end Cdr
end Rclweb
