import Rclweb.Cdr.Presented

/-!
# Encode and decode bodies

What the bodies of message codecs are built from: the typed reads as reads of fields, loops, the
nesting token, the completion of a decode and the frame of an encode.
-/

namespace Rclweb

open BigEndian Attempts Aligned

namespace Cdr

open CdrReader CdrWriter

section Wrappers

variable {r r' : CdrReader}

@[simp] theorem didRead_u8 {v : UInt8} : DidRead (.u8 v) r r' ↔ readU8 r = .ok v r' :=
  map_injective_ok_iff fun _ _ => CdrField.u8.inj

@[simp] theorem didRead_u16 {v : UInt16} : DidRead (.u16 v) r r' ↔ readU16 r = .ok v r' :=
  map_injective_ok_iff fun _ _ => CdrField.u16.inj

@[simp] theorem didRead_u32 {v : UInt32} : DidRead (.u32 v) r r' ↔ readU32 r = .ok v r' :=
  map_injective_ok_iff fun _ _ => CdrField.u32.inj

@[simp] theorem didRead_u64 {v : UInt64} : DidRead (.u64 v) r r' ↔ readU64 r = .ok v r' :=
  map_injective_ok_iff fun _ _ => CdrField.u64.inj

@[simp] theorem didRead_i8 {v : Int8} : DidRead (.i8 v) r r' ↔ readI8 r = .ok v r' :=
  map_injective_ok_iff fun _ _ => CdrField.i8.inj

@[simp] theorem didRead_i16 {v : Int16} : DidRead (.i16 v) r r' ↔ readI16 r = .ok v r' :=
  map_injective_ok_iff fun _ _ => CdrField.i16.inj

@[simp] theorem didRead_i32 {v : Int32} : DidRead (.i32 v) r r' ↔ readI32 r = .ok v r' :=
  map_injective_ok_iff fun _ _ => CdrField.i32.inj

@[simp] theorem didRead_i64 {v : Int64} : DidRead (.i64 v) r r' ↔ readI64 r = .ok v r' :=
  map_injective_ok_iff fun _ _ => CdrField.i64.inj

@[simp] theorem didRead_bool {v : Bool} : DidRead (.bool v) r r' ↔ readBool r = .ok v r' :=
  map_injective_ok_iff fun _ _ => CdrField.bool.inj

@[simp] theorem didRead_f32 {v : UInt32} : DidRead (.f32 v) r r' ↔ readF32 r = .ok v r' :=
  map_injective_ok_iff fun _ _ => CdrField.f32.inj

@[simp] theorem didRead_f64 {v : UInt64} : DidRead (.f64 v) r r' ↔ readF64 r = .ok v r' :=
  map_injective_ok_iff fun _ _ => CdrField.f64.inj

@[simp] theorem didRead_string {s : String} {maxBytes : Option UInt32} :
    DidRead (.string s maxBytes) r r' ↔ readString maxBytes r = .ok s r' :=
  map_injective_ok_iff fun _ _ h => (CdrField.string.inj h).1

@[simp] theorem didRead_wstring {s : String} {maxScalars : Option UInt32} :
    DidRead (.wstring s maxScalars) r r' ↔ readWstring maxScalars r = .ok s r' :=
  map_injective_ok_iff fun _ _ h => (CdrField.wstring.inj h).1

@[simp] theorem didRead_sequenceLength {n : UInt32} {maxElements : Option UInt32} :
    DidRead (.sequenceLength n maxElements) r r' ↔ readSequenceLength maxElements r = .ok n r' :=
  map_injective_ok_iff fun _ _ h => (CdrField.sequenceLength.inj h).1

/-- The view a byte sequence is read as is forgotten by its field. -/
@[simp] theorem didRead_byteSequence {data : List UInt8} {maxElements : Option UInt32} :
    DidRead (.byteSequence data maxElements) r r' ↔
      ∃ span, readByteSequence maxElements r = .ok span r' ∧ span.bytes = data := by
  rw [DidRead, CdrField.kind, CdrFieldKind.read, map_ok_iff]
  constructor
  · rintro ⟨span, hread, heq⟩
    exact ⟨span, hread, (CdrField.byteSequence.inj heq).1⟩
  · rintro ⟨span, hread, rfl⟩
    exact ⟨span, hread, rfl⟩

/-- A repeated read is the run of reads of its values. -/
theorem repeated_ok_iff {α : Type} {read : CdrRead α} {field : α → CdrField}
    (hfield : ∀ a r r', DidRead (field a) r r' ↔ read r = .ok a r') {n : ℕ} {values : List α} :
    repeated read n r = .ok values r' ↔
      values.length = n ∧ Chain DidRead (values.map field) r r' := by
  induction n generalizing r r' values with
  | zero =>
    rw [repeated, pure_ok_iff, List.length_eq_zero_iff]
    constructor
    · rintro ⟨rfl, rfl⟩
      exact ⟨rfl, rfl⟩
    · rintro ⟨rfl, rfl⟩
      exact ⟨rfl, rfl⟩
  | succ n ih =>
    simp only [repeated, bind_ok_iff, pure_ok_iff, ih]
    constructor
    · rintro ⟨a, s, ha, rest, _, ⟨rfl, hrest⟩, rfl, rfl⟩
      exact ⟨rfl, s, (hfield a r s).mpr ha, hrest⟩
    · rintro ⟨hlen, hchain⟩
      cases values with
      | nil => cases hlen
      | cons a values =>
        obtain ⟨s, ha, hrest⟩ := hchain
        exact ⟨a, s, (hfield a r s).mp ha, values, r', ⟨Nat.succ.inj hlen, hrest⟩, rfl, rfl⟩

theorem reader_enterNested_ok_iff {parent n : CdrNesting} :
    CdrReader.enterNested parent r = .ok n r' ↔
      parent.depth + 1 ≤ r.limits.maxNestingDepth ∧ ⟨parent.depth + 1⟩ = n ∧ r = r' := by
  simp only [CdrReader.enterNested, bind_ok_iff, get_ok_iff, refuse_ok_iff, pure_ok_iff, not_lt]
  constructor
  · rintro ⟨_, _, ⟨rfl, rfl⟩, _, _, ⟨hdepth, rfl⟩, rfl, rfl⟩
    exact ⟨hdepth, rfl, rfl⟩
  · rintro ⟨hdepth, rfl, rfl⟩
    exact ⟨_, _, ⟨rfl, rfl⟩, (), _, ⟨hdepth, rfl⟩, rfl, rfl⟩

theorem writer_enterNested_ok_iff {w w' : CdrWriter} {parent n : CdrNesting} :
    CdrWriter.enterNested parent w = .ok n w' ↔
      parent.depth + 1 ≤ w.limits.maxNestingDepth ∧ ⟨parent.depth + 1⟩ = n ∧ w = w' := by
  simp only [CdrWriter.enterNested, bind_ok_iff, get_ok_iff, refuse_ok_iff, pure_ok_iff, not_lt]
  constructor
  · rintro ⟨_, _, ⟨rfl, rfl⟩, _, _, ⟨hdepth, rfl⟩, rfl, rfl⟩
    exact ⟨hdepth, rfl, rfl⟩
  · rintro ⟨hdepth, rfl, rfl⟩
    exact ⟨_, _, ⟨rfl, rfl⟩, (), _, ⟨hdepth, rfl⟩, rfl, rfl⟩

theorem DidRead.limits_eq {f : CdrField} (h : DidRead f r r') (hr : r.Valid) :
    r'.limits = r.limits := by
  obtain ⟨-, -, -, rfl⟩ := (f.read_ok_iff hr).mp h
  rfl

/-- Reads keep the reader valid and its limits. -/
theorem reads_keep {fields : List CdrField} (h : Chain DidRead fields r r') (hr : r.Valid) :
    r'.Valid ∧ r'.limits = r.limits := by
  induction fields generalizing r with
  | nil => exact h ▸ ⟨hr, rfl⟩
  | cons f fields ih =>
    obtain ⟨s, hread, hrest⟩ := h
    obtain ⟨hvalid, hlimits⟩ := ih hrest (hread.valid hr)
    exact ⟨hvalid, hlimits.trans (hread.limits_eq hr)⟩

end Wrappers

/-- A default reader over a stream that opens. -/
theorem openDefault_ok {bytes : List UInt8} {r : CdrReader} (hopen : openDefault bytes = .ok r) :
    r.Valid ∧ r.limits = .defaults ∧ r.offset = bodyOrigin := by
  obtain ⟨hvalid, hlen, endian, options, rest, hbytes, rfl⟩ := openWith_ok_iff.mp hopen
  refine ⟨⟨hvalid, le_refl _, ?_, hlen⟩, rfl, rfl⟩
  rw [hbytes, List.length_append, length_header]
  exact Nat.le_add_right _ _

theorem length_unread (r : CdrReader) : r.unread.length = r.remaining := List.length_drop

/-- **A declared zero tail is complete** at the exact end, or when the rest is that many zeros. -/
theorem zeroTail_complete_iff {r : CdrReader} {n : ℕ} :
    (∃ r', ensureCompleteWithZeroTail n r = .ok () r') ↔
      n ≤ r.limits.maxStreamBytes ∧ (r.remaining = 0 ∨ r.remaining = n) ∧
        r.unread = List.replicate r.remaining 0 := by
  have hslice : r.slice r.offset r.remaining = r.unread := by
    rw [slice, ← unread, ← length_unread, List.take_length]
  have hzeros : ¬ r.unread.any (· != 0) = true ↔ r.unread = List.replicate r.remaining 0 := by
    rw [List.eq_replicate_iff, length_unread, and_iff_right rfl]
    simp
  by_cases hzero : r.remaining = 0
  · have hunread : r.unread = List.replicate r.remaining 0 := by
      rw [hzero]
      exact List.eq_nil_of_length_eq_zero ((length_unread r).trans hzero)
    simp only [ensureCompleteWithZeroTail, bind_ok_iff, get_ok_iff, refuse_ok_iff, not_lt]
    constructor
    · rintro ⟨r', _, _, ⟨rfl, rfl⟩, _, _, ⟨hn, rfl⟩, -⟩
      exact ⟨hn, .inl hzero, hunread⟩
    · rintro ⟨hn, -, -⟩
      exact ⟨r, _, _, ⟨rfl, rfl⟩, (), _, ⟨hn, rfl⟩, by rw [if_pos hzero, pure_ok_iff]; simp⟩
  · simp only [ensureCompleteWithZeroTail, bind_ok_iff, get_ok_iff, refuse_ok_iff, not_lt]
    constructor
    · rintro ⟨r', _, _, ⟨rfl, rfl⟩, _, _, ⟨hn, rfl⟩, h⟩
      rw [if_neg hzero] at h
      simp only [bind_ok_iff, refuse_ok_iff, seek_ok_iff, not_not, hslice, hzeros] at h
      obtain ⟨_, _, ⟨hrem, rfl⟩, _, _, ⟨hall, rfl⟩, -⟩ := h
      exact ⟨hn, .inr hrem, hall⟩
    · rintro ⟨hn, hrem, hall⟩
      refine ⟨{ r with offset := r.offset + r.remaining }, _, _, ⟨rfl, rfl⟩, (), _, ⟨hn, rfl⟩, ?_⟩
      rw [if_neg hzero]
      simp only [bind_ok_iff, refuse_ok_iff, seek_ok_iff, not_not, hslice, hzeros]
      exact ⟨(), _, ⟨hrem.resolve_left hzero, rfl⟩, (), _, ⟨hall, rfl⟩, rfl⟩

/-- A decode body reads the fields of what it returns. -/
def ReadsFields {α : Type} (body : CdrNesting → CdrRead α) (sized : α → Prop)
    (fields : α → List CdrField) : Prop :=
  ∀ r, r.Valid → r.limits = .defaults → ∀ v r',
    body .root r = .ok v r' ↔ sized v ∧ Chain DidRead (fields v) r r'

theorem forEach_eq {α : Type} {write : α → CdrWrite Unit} {field : α → CdrField}
    (hfield : ∀ a, (field a).write = write a) (values : List α) :
    forEach write values = writeAll (values.map field) := by
  induction values with
  | nil => rfl
  | cons a values ih => simp [forEach, writeAll, ih, hfield]

/-- An encode body writes a list of fields. -/
def WritesFields (body : CdrNesting → CdrWrite Unit) (fields : List CdrField) : Prop :=
  ∀ w, w.Valid → w.limits = .defaults → ∀ w', body .root w = .ok () w' ↔ Chain Wrote fields w w'

/-- **What the default little-endian writer makes of an encode body**: the canonical stream. -/
theorem encodeWith_ok_iff {body : CdrNesting → CdrWrite Unit} {fields : List CdrField}
    (hbody : WritesFields body fields) {bytes : List UInt8} :
    encodeWith .little body = .ok bytes ↔ (∀ f ∈ fields, f.Writable .defaults) ∧
      bytes.length ≤ defaultMaxStreamBytes ∧ bytes = canonical fields := by
  obtain ⟨w, hnew⟩ : ∃ w, CdrWriter.new .little .defaults = .ok w := ⟨_, rfl⟩
  obtain ⟨hw, hlimits, -, -⟩ := writer_new_ok hnew
  have hrun : encodeWith .little body = .ok bytes ↔ ∃ w', body .root w = .ok () w' ∧ w'.buf = bytes := by
    have hdefault : CdrWriter.newDefault .little = .ok w := hnew
    simp only [encodeWith, bind_eq_ok, hdefault, Except.ok.injEq, exists_eq_left']
    rcases body .root w with ⟨u, w'⟩ | ⟨e, w'⟩
    · constructor
      · exact fun h => ⟨w', rfl, Except.ok.inj h⟩
      · rintro ⟨_, h, rfl⟩
        obtain ⟨-, rfl⟩ := EStateM.Result.ok.inj h
        rfl
    · exact ⟨nofun, fun ⟨_, h, _⟩ => nomatch h⟩
  rw [hrun, ← encoded_iff hnew]
  exact exists_congr fun w' => and_congr_left fun _ => hbody w hw hlimits w'

end Cdr
end Rclweb
