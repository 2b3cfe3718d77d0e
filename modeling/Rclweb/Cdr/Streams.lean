import Rclweb.Cdr.Reads
import Rclweb.Protocol.Error

/-!
# Streams of fields

Runs of writes and of reads.  A run of writes lays its fields behind the header with zero
padding (`writes_iff`), a run of reads takes fields laid with any padding (`reads_iff`).  A reader
over bytes that begin with what a writer wrote follows the writer write by write
(`Follows.step`, `Follows.run`), and `written_stream_reads_back` is the round trip.
-/

namespace Rclweb

open BigEndian Attempts Aligned

namespace Cdr

/-- The encapsulation header: representation and options in network order. -/
def header (endian : CdrEndian) (options : UInt16) : List UInt8 :=
  BigEndian.toBytes 2 endian.representation.toNat ++ BigEndian.toBytes 2 options.toNat

@[simp] theorem length_header (endian : CdrEndian) (options : UInt16) :
    (header endian options).length = 4 := by
  simp [header]

/-- The writes of a list of fields, in order. -/
def writeAll : List CdrField → CdrWrite Unit
  | [] => pure ()
  | f :: fields => do
    f.write
    writeAll fields

theorem writeAll_append (front back : List CdrField) :
    writeAll (front ++ back) = writeAll front >>= fun _ => writeAll back := by
  induction front with
  | nil => simp [writeAll]
  | cons f front ih => simp [writeAll, ih]

/-- The reads of a list of kinds, in order, with the fields they return. -/
def readAll : List CdrFieldKind → CdrRead (List CdrField)
  | [] => pure []
  | k :: kinds => do
    let f ← k.read
    let fields ← readAll kinds
    pure (f :: fields)

/-- One write that succeeds. -/
def Wrote (f : CdrField) (w w' : CdrWriter) : Prop := f.write w = .ok () w'

/-- One read that returns a field. -/
def DidRead (f : CdrField) (r r' : CdrReader) : Prop := f.kind.read r = .ok f r'

theorem writeAll_ok_iff {fields : List CdrField} {w w' : CdrWriter} {u : Unit} :
    writeAll fields w = .ok u w' ↔ Chain Wrote fields w w' := by
  induction fields generalizing w with
  | nil => simp [writeAll]
  | cons f fields ih =>
    simp only [writeAll, bind_ok_iff, chain_cons, ih, Wrote]
    exact ⟨fun ⟨_, v, h⟩ => ⟨v, h⟩, fun ⟨v, h⟩ => ⟨(), v, h⟩⟩

theorem readAll_ok_iff {fields : List CdrField} {r r' : CdrReader} :
    readAll (fields.map CdrField.kind) r = .ok fields r' ↔ Chain DidRead fields r r' := by
  induction fields generalizing r with
  | nil => simp [readAll]
  | cons f fields ih =>
    simp only [List.map_cons, readAll, bind_ok_iff, pure_ok_iff, chain_cons, DidRead]
    constructor
    · rintro ⟨g, v, hread, gs, _, hrest, heq, rfl⟩
      obtain ⟨rfl, rfl⟩ := List.cons.inj heq
      exact ⟨v, hread, ih.mp hrest⟩
    · rintro ⟨v, hread, hrest⟩
      exact ⟨f, v, hread, fields, r', ih.mpr hrest, rfl, rfl⟩

/-! ## The writer -/

theorem writer_new_ok {endian : CdrEndian} {limits : CdrLimits} {w : CdrWriter}
    (h : CdrWriter.new endian limits = .ok w) :
    w.Valid ∧ w.limits = limits ∧ w.endian = endian ∧ w.buf = header endian 0 := by
  simp only [CdrWriter.new, bind_eq_ok] at h
  obtain ⟨_, hvalid, h⟩ := h
  by_cases hcap : writerCapacity limits < headerLength
  · rw [if_pos hcap] at h
    cases h
  · rw [if_neg hcap] at h
    obtain rfl := Except.ok.inj h
    have hfour : 4 ≤ writerCapacity limits := not_lt.mp hcap
    refine ⟨⟨CdrLimits.validate_eq_ok_iff.mp hvalid, rfl, ?_⟩, rfl, rfl, ?_⟩
    · cases endian <;> exact hfour
    · cases endian <;> rfl

theorem CdrWriter.Valid.put {w : CdrWriter} (hw : w.Valid) {pad : ℕ} {bytes : List UInt8}
    (hfits : w.buf.length + (pad + bytes.length) ≤ w.capacity) : (w.put pad bytes).Valid where
  limits := hw.limits
  capacity := hw.capacity
  length_le := by simpa [CdrWriter.put] using hfits

theorem Wrote.valid {f : CdrField} {w w' : CdrWriter} (h : Wrote f w w') (hw : w.Valid) :
    w'.Valid := by
  obtain ⟨-, hfits, rfl⟩ := (f.write_ok_iff hw).mp h
  exact hw.put (by rwa [f.length_body])

/-- **What a run of writes does**: it lays the fields with zero padding, and fails when one is
refused or the whole does not fit. -/
theorem writes_iff {fields : List CdrField} {w w' : CdrWriter} (hw : w.Valid) :
    Chain Wrote fields w w' ↔ (∀ f ∈ fields, f.Writable w.limits) ∧
      w.buf.length + extent CdrField.padding CdrField.width w.buf.length fields ≤ w.capacity ∧
        { w with
          buf := w.buf ++ lay CdrField.padding (CdrField.body w.endian) 0 w.buf.length fields }
          = w' := by
  induction fields generalizing w with
  | nil => simp [extent, lay, hw.length_le]
  | cons f fields ih =>
    have hlen : (w.put (f.padding w.buf.length) (f.body w.endian)).buf.length
        = w.buf.length + (f.padding w.buf.length + f.width) := by
      simp [CdrWriter.put]
    rw [chain_cons]
    constructor
    · rintro ⟨v, hwrote, hrest⟩
      obtain ⟨hwritable, hfits, rfl⟩ := (f.write_ok_iff hw).mp hwrote
      obtain ⟨hall, hcap, rfl⟩ := (ih (hwrote.valid hw)).mp hrest
      rw [hlen] at hcap
      refine ⟨List.forall_mem_cons.mpr ⟨hwritable, hall⟩, ?_, ?_⟩
      · simp only [extent]
        simp only [CdrWriter.put] at hcap
        omega
      · rw [hlen]
        simp [lay, CdrWriter.put]
    · rintro ⟨hall, hcap, rfl⟩
      obtain ⟨hwritable, hall⟩ := List.forall_mem_cons.mp hall
      simp only [extent] at hcap
      have hwrote : Wrote f w (w.put (f.padding w.buf.length) (f.body w.endian)) :=
        (f.write_ok_iff hw).mpr ⟨hwritable, by omega, rfl⟩
      refine ⟨_, hwrote, (ih (hwrote.valid hw)).mpr ⟨hall, ?_, ?_⟩⟩
      · rw [hlen]
        simp only [CdrWriter.put]
        omega
      · rw [hlen]
        simp [lay, CdrWriter.put]

/-! ## The reader -/

/-- Two bytes are a network-order number in exactly one way. -/
theorem u16_eq_iff {b₀ b₁ : UInt8} {v : UInt16} :
    UInt16.ofNat (BigEndian.ofBytes [b₀, b₁]) = v ↔ [b₀, b₁] = BigEndian.toBytes 2 v.toNat := by
  have hlt : BigEndian.ofBytes [b₀, b₁] < 2 ^ 16 := by
    have := BigEndian.ofBytes_lt [b₀, b₁]
    simpa using this
  have hv : v.toNat < 256 ^ 2 := v.toNat_lt
  rw [← UInt16.toNat_inj, UInt16.toNat_ofNat_of_lt' hlt]
  exact ((CdrEndian.big.eq_toBytes_iff hv).trans (and_iff_right rfl)).symm

/-- **What opens as a stream**: a header of either byte order with any options, and any body. -/
theorem openWith_ok_iff {bytes : List UInt8} {limits : CdrLimits} {r : CdrReader} :
    CdrReader.openWith bytes limits = .ok r ↔
      limits.Valid ∧ bytes.length ≤ limits.maxStreamBytes ∧
        ∃ endian options body, bytes = header endian options ++ body ∧
          r = ⟨bytes, bodyOrigin, limits, ⟨endian.representation, options, endian⟩⟩ := by
  simp only [CdrReader.openWith, bind_eq_ok]
  constructor
  · rintro ⟨_, hvalid, h⟩
    refine ⟨CdrLimits.validate_eq_ok_iff.mp hvalid, ?_⟩
    by_cases hlen : limits.maxStreamBytes < bytes.length
    · rw [if_pos hlen] at h
      cases h
    rw [if_neg hlen] at h
    refine ⟨not_lt.mp hlen, ?_⟩
    match bytes, h with
    | b₀ :: b₁ :: b₂ :: b₃ :: body, h =>
      have hheader (endian : CdrEndian)
          (hrepr : UInt16.ofNat (BigEndian.ofBytes [b₀, b₁]) = endian.representation) :
          b₀ :: b₁ :: b₂ :: b₃ :: body
            = header endian (UInt16.ofNat (BigEndian.ofBytes [b₂, b₃])) ++ body := by
        rw [header, ← u16_eq_iff.mp hrepr, ← u16_eq_iff.mp rfl]
        rfl
      simp only at h
      by_cases hle : UInt16.ofNat (BigEndian.ofBytes [b₀, b₁]) = representationCdrLe
      · rw [if_pos hle] at h
        refine ⟨.little, _, body, hheader .little hle, ?_⟩
        rw [← Except.ok.inj h, hle]
        rfl
      rw [if_neg hle] at h
      by_cases hbe : UInt16.ofNat (BigEndian.ofBytes [b₀, b₁]) = representationCdrBe
      · rw [if_pos hbe] at h
        refine ⟨.big, _, body, hheader .big hbe, ?_⟩
        rw [← Except.ok.inj h, hbe]
        rfl
      · rw [if_neg hbe] at h
        cases h
    | [], h | [_], h | [_, _], h | [_, _, _], h => cases h
  · rintro ⟨hvalid, hlen, endian, options, body, rfl, rfl⟩
    refine ⟨(), CdrLimits.validate_eq_ok_iff.mpr hvalid, ?_⟩
    rw [if_neg (not_lt.mpr hlen)]
    obtain ⟨b₂, b₃, hlast⟩ : ∃ b₂ b₃, [b₂, b₃] = BigEndian.toBytes 2 options.toNat := ⟨_, _, rfl⟩
    have hoptions := u16_eq_iff.mpr hlast
    cases endian with
    | little =>
      have hheader : header .little options = [0, 1, b₂, b₃] := by
        rw [header, ← hlast]
        rfl
      rw [hheader]
      show (if _ then _ else _) = _
      rw [if_pos (by decide), hoptions]
      rfl
    | big =>
      have hheader : header .big options = [0, 0, b₂, b₃] := by
        rw [header, ← hlast]
        rfl
      rw [hheader]
      show (if _ then _ else if _ then _ else _) = _
      rw [if_neg (by decide), if_pos (by decide), hoptions]
      rfl

theorem CdrReader.Takes.valid {r r' : CdrReader} {pad : ℕ} {body : List UInt8}
    (h : r.Takes pad body r') (hr : r.Valid) : r'.Valid := by
  obtain ⟨hfits, -, rfl⟩ := h
  exact ⟨hr.limits, hr.origin_le.trans (Nat.le_add_right _ _), hfits, hr.length_le⟩

theorem DidRead.valid {f : CdrField} {r r' : CdrReader} (h : DidRead f r r') (hr : r.Valid) :
    r'.Valid :=
  ((f.read_ok_iff hr).mp h).2.valid hr

/-- **What a run of reads does**: it takes the fields laid from the cursor, with anything in the
gaps, and fails when one is refused or does not stand there. -/
theorem reads_iff {fields : List CdrField} {r r' : CdrReader} (hr : r.Valid) :
    Chain DidRead fields r r' ↔ (∀ f ∈ fields, f.Readable r.limits) ∧
      ∃ laid, Lays CdrField.padding (CdrField.body r.endian) (fun _ => True) r.offset fields laid ∧
        r.offset + laid.length ≤ r.bytes.length ∧ r.slice r.offset laid.length = laid ∧
          { r with offset := r.offset + laid.length } = r' := by
  induction fields generalizing r r' with
  | nil =>
    have hoffset := hr.offset_le
    simp [CdrReader.slice, hoffset]
  | cons f fields ih =>
    rw [chain_cons]
    constructor
    · rintro ⟨v, hread, hrest⟩
      obtain ⟨hreadable, htakes⟩ := (f.read_ok_iff hr).mp hread
      obtain ⟨hall, laid, hlaid, hfits, hslice, rfl⟩ := (ih (hread.valid hr)).mp hrest
      obtain ⟨hfirst, hbody, rfl⟩ := htakes
      refine ⟨List.forall_mem_cons.mpr ⟨hreadable, hall⟩,
        r.slice r.offset (f.padding r.offset) ++ (f.body r.endian ++ laid), ?_⟩
      have hgap : (r.slice r.offset (f.padding r.offset)).length = f.padding r.offset :=
        CdrReader.length_slice (by omega)
      have hlen : (r.slice r.offset (f.padding r.offset) ++ (f.body r.endian ++ laid)).length
          = f.padding r.offset + ((f.body r.endian).length + laid.length) := by
        rw [List.length_append, List.length_append, hgap]
      rw [hlen]
      refine ⟨⟨_, laid, hgap, fun _ _ => trivial, rfl, hlaid⟩, ?_, ?_, ?_⟩
      · simp only at hfits
        omega
      · rw [CdrReader.slice_add, CdrReader.slice_add, hbody, Nat.add_assoc]
        congr 2
      · simp only [Nat.add_assoc]
    · rintro ⟨hall, _, ⟨front, laid, hfront, -, rfl, hlaid⟩, hfits, hslice, rfl⟩
      obtain ⟨hreadable, hall⟩ := List.forall_mem_cons.mp hall
      have hlen : (front ++ (f.body r.endian ++ laid)).length
          = f.padding r.offset + ((f.body r.endian).length + laid.length) := by
        rw [List.length_append, List.length_append, hfront]
      rw [hlen] at hfits hslice ⊢
      rw [CdrReader.slice_add, CdrReader.slice_add] at hslice
      obtain ⟨-, hslice⟩ := List.append_inj hslice
        (by rw [CdrReader.length_slice (by omega), hfront])
      obtain ⟨hbody, hrest⟩ := List.append_inj hslice (CdrReader.length_slice (by omega))
      have hread : DidRead f r { r with
          offset := r.offset + (f.padding r.offset + (f.body r.endian).length) } :=
        (f.read_ok_iff hr).mpr ⟨hreadable, ⟨by omega, hbody, rfl⟩⟩
      refine ⟨_, hread, (ih (hread.valid hr)).mpr ⟨hall, laid, hlaid, ?_, ?_, ?_⟩⟩
      · simp only
        omega
      · rw [Nat.add_assoc] at hrest
        exact hrest
      · simp only [Nat.add_assoc]

/-! ## A reader behind a writer -/

/-- **A reader follows a writer**: it stands where the writer stood, over bytes that begin with
what the writer had written by then. -/
structure Follows (r : CdrReader) (w : CdrWriter) : Prop where
  reader : r.Valid
  writer : w.Valid
  endian : r.endian = w.endian
  position : r.offset = w.position
  written : w.buf <+: r.bytes

/-- What the reader charges a field for owned storage: twice a string's payload, the slots of a
wide string. -/
def CdrField.storage : CdrField → ℕ
  | .string value _ => (utf8 value).length * 2
  | .wstring value _ => value.toList.length * 4
  | _ => 0

theorem CdrField.storage_le (f : CdrField) : f.storage ≤ 2 * f.stringPayload := by
  cases f <;> simp only [storage, stringPayload] <;> omega

/-- A field the writer takes is one the reader takes, when the reader's storage suffices. -/
theorem CdrField.Writable.readable {limits readLimits : CdrLimits} {f : CdrField}
    (h : f.Writable limits) (hstream : readLimits.maxStreamBytes = limits.maxStreamBytes)
    (hwidth : f.width ≤ limits.maxStreamBytes)
    (hstorage : f.storage ≤ readLimits.maxTemporaryAllocation) : f.Readable readLimits := by
  cases f with
  | string value maxBytes =>
    simp only [width] at hwidth
    exact ⟨h, by omega, hstorage⟩
  | wstring value maxScalars =>
    simp only [width] at hwidth
    exact ⟨h, by omega, hstorage⟩
  | sequenceLength length maxElements => exact ⟨h.1, by rw [hstream]; exact h.2⟩
  | byteSequence value maxElements => exact ⟨h.1, by rw [hstream]; exact h.2⟩
  | u8 | u16 | u32 | u64 | i8 | i16 | i32 | i64 | bool | f32 | f64 | char8 | char16 | bytes =>
    trivial

theorem CdrField.Readable.storage_le {limits : CdrLimits} {f : CdrField}
    (h : f.Readable limits) : f.storage ≤ limits.maxTemporaryAllocation := by
  cases f with
  | string value maxBytes => exact h.2.2
  | wstring value maxScalars => exact h.2.2
  | _ => exact Nat.zero_le _

theorem CdrField.Readable.writable {limits : CdrLimits} {f : CdrField} (h : f.Readable limits) :
    f.Writable limits := by
  cases f with
  | string value maxBytes => exact h.1
  | wstring value maxScalars => exact h.1
  | sequenceLength length maxElements => exact h
  | byteSequence value maxElements => exact h
  | _ => trivial

theorem Wrote.width_le {f : CdrField} {w w' : CdrWriter} (h : Wrote f w w') (hw : w.Valid) :
    f.width ≤ writerCapacity w.limits := by
  obtain ⟨-, hfits, -⟩ := (f.write_ok_iff hw).mp h
  rw [← hw.capacity]
  omega

/-- Writes append and change nothing else. -/
theorem Wrote.appends {f : CdrField} {w w' : CdrWriter} (h : Wrote f w w') (hw : w.Valid) :
    w.buf <+: w'.buf ∧ w'.limits = w.limits ∧ w'.endian = w.endian := by
  obtain ⟨-, -, rfl⟩ := (f.write_ok_iff hw).mp h
  exact ⟨List.prefix_append _ _, rfl, rfl⟩

theorem writes_append {fields : List CdrField} {w w' : CdrWriter} (h : Chain Wrote fields w w')
    (hw : w.Valid) :
    w'.Valid ∧ w.buf <+: w'.buf ∧ w'.limits = w.limits ∧ w'.endian = w.endian := by
  induction fields generalizing w with
  | nil => exact h ▸ ⟨hw, List.prefix_refl _, rfl, rfl⟩
  | cons f fields ih =>
    obtain ⟨v, hwrote, hrest⟩ := h
    obtain ⟨hstart, hlimits, hendian⟩ := hwrote.appends hw
    obtain ⟨hvalid, hstart', hlimits', hendian'⟩ := ih hrest (hwrote.valid hw)
    exact ⟨hvalid, hstart.trans hstart', hlimits'.trans hlimits, hendian'.trans hendian⟩

/-- **Where a write was, the matching read returns the field** and follows. -/
theorem Follows.step {f : CdrField} {r : CdrReader} {w w' : CdrWriter} (h : Follows r w)
    (hwrote : Wrote f w w') (hwritten : w'.buf <+: r.bytes) (hreadable : f.Readable r.limits) :
    ∃ r', DidRead f r r' ∧ Follows r' w' ∧ r'.bytes = r.bytes ∧ r'.limits = r.limits := by
  have hvalid := hwrote.valid h.writer
  obtain ⟨-, -, rfl⟩ := (f.write_ok_iff h.writer).mp hwrote
  obtain ⟨rest, hbytes⟩ := hwritten
  have hposition : r.offset = w.buf.length := h.position
  have hlen : r.bytes.length
      = w.buf.length + (f.padding w.buf.length + (f.body w.endian).length) + rest.length := by
    rw [← hbytes]
    simp only [CdrWriter.put, List.length_append, List.length_replicate]
  have hslice : r.slice (r.offset + f.padding r.offset) (f.body r.endian).length
      = f.body r.endian := by
    rw [h.endian, hposition, CdrReader.slice, ← hbytes]
    have hskip : w.buf.length + f.padding w.buf.length
        = (w.buf ++ List.replicate (f.padding w.buf.length) 0).length := by simp
    have hassoc : (w.put (f.padding w.buf.length) (f.body w.endian)).buf ++ rest
        = (w.buf ++ List.replicate (f.padding w.buf.length) 0) ++ (f.body w.endian ++ rest) := by
      simp [CdrWriter.put]
    rw [hassoc, hskip, List.drop_left, List.take_left]
  have hread : DidRead f r { r with
      offset := r.offset + (f.padding r.offset + (f.body r.endian).length) } := by
    refine (f.read_ok_iff h.reader).mpr ⟨hreadable, ⟨?_, hslice, rfl⟩⟩
    rw [h.endian, hposition]
    omega
  refine ⟨_, hread, ⟨hread.valid h.reader, hvalid, h.endian, ?_, ⟨rest, hbytes⟩⟩, rfl, rfl⟩
  simp [CdrWriter.position, CdrWriter.put, hposition]

/-- **A reader follows a whole run of writes.** -/
theorem Follows.run {fields : List CdrField} {r : CdrReader} {w w' : CdrWriter} (h : Follows r w)
    (hwrites : Chain Wrote fields w w') (hwritten : w'.buf <+: r.bytes)
    (hreadable : ∀ f ∈ fields, f.Readable r.limits) :
    ∃ r', Chain DidRead fields r r' ∧ Follows r' w' ∧ r'.bytes = r.bytes ∧
      r'.limits = r.limits := by
  induction fields generalizing r w with
  | nil => exact ⟨r, rfl, hwrites ▸ h, rfl, rfl⟩
  | cons f fields ih =>
    obtain ⟨v, hwrote, hrest⟩ := hwrites
    obtain ⟨hhead, htail⟩ := List.forall_mem_cons.mp hreadable
    have hstart := (writes_append hrest (hwrote.valid h.writer)).2.1
    obtain ⟨s, hread, hfollows, hbytes, hlimits⟩ := h.step hwrote (hstart.trans hwritten) hhead
    obtain ⟨r', hreads, hfollows', hbytes', hlimits'⟩ :=
      ih hfollows hrest (hbytes ▸ hwritten) (hlimits ▸ htail)
    exact ⟨r', ⟨s, hread, hreads⟩, hfollows', hbytes'.trans hbytes, hlimits'.trans hlimits⟩

end Cdr
end Rclweb
