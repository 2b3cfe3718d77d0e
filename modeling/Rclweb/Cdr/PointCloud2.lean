import Rclweb.Cdr.Bodies

/-!
# The PointCloud2 codec

Metadata is read field by field, and the point payload is a borrowed span of the input.  A view
keeps the span; encoding writes its bytes.
-/

namespace Rclweb

open BigEndian Attempts Aligned

namespace Cdr

/-- One `sensor_msgs/msg/PointField` entry. -/
structure PointField where
  name : String
  offset : UInt32
  datatype : UInt8
  count : UInt32
  deriving DecidableEq, Repr

/-- `std_msgs/msg/Header`. -/
structure Header where
  stampSec : Int32
  stampNanosec : UInt32
  frameId : String
  deriving DecidableEq, Repr

/-- **A PointCloud2 view**: metadata and the borrowed point payload. -/
structure PointCloud2View where
  header : Header
  height : UInt32
  width : UInt32
  fields : List PointField
  isBigendian : Bool
  pointStep : UInt32
  rowStep : UInt32
  data : Span
  isDense : Bool
  deriving DecidableEq, Repr

def decodeHeader (parent : CdrNesting) : CdrRead Header := do
  let current ← CdrReader.enterNested parent
  let _time ← CdrReader.enterNested current
  let stampSec ← CdrReader.readI32
  let stampNanosec ← CdrReader.readU32
  let frameId ← CdrReader.readString none
  pure ⟨stampSec, stampNanosec, frameId⟩

def decodePointField : CdrRead PointField := do
  let name ← CdrReader.readString none
  let offset ← CdrReader.readU32
  let datatype ← CdrReader.readU8
  let count ← CdrReader.readU32
  pure ⟨name, offset, datatype, count⟩

def decodePointCloud2Nested (parent : CdrNesting) : CdrRead PointCloud2View := do
  let header ← decodeHeader parent
  let height ← CdrReader.readU32
  let width ← CdrReader.readU32
  let fieldCount ← CdrReader.readSequenceLength none
  let fields ← repeated (do
    let _nest ← CdrReader.enterNested parent
    decodePointField) fieldCount.toNat
  let isBigendian ← CdrReader.readBool
  let pointStep ← CdrReader.readU32
  let rowStep ← CdrReader.readU32
  let data ← CdrReader.readByteSequence none
  let isDense ← CdrReader.readBool
  pure { header, height, width, fields, isBigendian, pointStep, rowStep, data, isDense }

/-- Decodes PointCloud2 from an open reader. -/
def decodePointCloud2 : CdrRead PointCloud2View := decodePointCloud2Nested .root

def encodeHeader (header : Header) (parent : CdrNesting) : CdrWrite Unit := do
  let current ← CdrWriter.enterNested parent
  let _time ← CdrWriter.enterNested current
  CdrWriter.writeI32 header.stampSec
  CdrWriter.writeU32 header.stampNanosec
  CdrWriter.writeString header.frameId none

def encodePointField (field : PointField) : CdrWrite Unit := do
  CdrWriter.writeString field.name none
  CdrWriter.writeU32 field.offset
  CdrWriter.writeU8 field.datatype
  CdrWriter.writeU32 field.count

def encodePointCloud2Nested (view : PointCloud2View) (parent : CdrNesting) : CdrWrite Unit := do
  encodeHeader view.header parent
  CdrWriter.writeU32 view.height
  CdrWriter.writeU32 view.width
  CdrWriter.writeSequenceLength (UInt32.ofNat view.fields.length) none
  CdrWriter.forEach (fun field => do
    let _nest ← CdrWriter.enterNested parent
    encodePointField field) view.fields
  CdrWriter.writeBool view.isBigendian
  CdrWriter.writeU32 view.pointStep
  CdrWriter.writeU32 view.rowStep
  CdrWriter.writeByteSequence view.data.bytes none
  CdrWriter.writeBool view.isDense

/-- Encodes PointCloud2 with an open writer. -/
def encodePointCloud2 (view : PointCloud2View) : CdrWrite Unit :=
  encodePointCloud2Nested view .root

/-- **Opens a stream and decodes PointCloud2**; nothing may be left. -/
def decodePointCloud2Le (bytes : List UInt8) : Except CdrError PointCloud2View := do
  let r ← CdrReader.openDefault bytes
  match decodePointCloud2 r with
  | .error e _ => .error e
  | .ok view r =>
    match CdrReader.ensureCompleteWithZeroTail 0 r with
    | .error e _ => .error e
    | .ok _ _ => .ok view

/-- **Encodes a PointCloud2 view as little-endian CDR.** -/
def encodePointCloud2Le (view : PointCloud2View) : Except CdrError (List UInt8) :=
  CdrWriter.encodeWith .little fun _ => encodePointCloud2 view

/-! ## Fields -/

def Header.cdrFields (header : Header) : List CdrField :=
  [.i32 header.stampSec, .u32 header.stampNanosec, .string header.frameId none]

def PointField.cdrFields (field : PointField) : List CdrField :=
  [.string field.name none, .u32 field.offset, .u8 field.datatype, .u32 field.count]

namespace PointCloud2View

/-- The fields in front of the point payload. -/
def frontFields (view : PointCloud2View) : List CdrField :=
  view.header.cdrFields ++
    ([CdrField.u32 view.height, CdrField.u32 view.width,
        CdrField.sequenceLength (UInt32.ofNat view.fields.length) none] ++
      (view.fields.flatMap PointField.cdrFields ++
        [CdrField.bool view.isBigendian, CdrField.u32 view.pointStep, CdrField.u32 view.rowStep]))

/-- **The fields of a view**, in stream order. -/
def cdrFields (view : PointCloud2View) : List CdrField :=
  view.frontFields ++ [CdrField.byteSequence view.data.bytes none, CdrField.bool view.isDense]

/-- A field count that `u32` holds. -/
def Sized (view : PointCloud2View) : Prop := view.fields.length < 2 ^ 32

/-- **Where the point payload stands** in a stream: behind the fields in front of it, the padding
and the four bytes of its length. -/
def dataStart (view : PointCloud2View) : ℕ :=
  let pos := bodyOrigin + laidLength view.frontFields
  pos + paddingFor pos 4 + 4

end PointCloud2View

/-! ## Decoding -/

section Decode

variable {r r' : CdrReader}

/-- A header is two levels deep, and reads its fields. -/
theorem decodeHeader_root_ok_iff {v : Header} :
    decodeHeader .root r = .ok v r' ↔
      2 ≤ r.limits.maxNestingDepth ∧ Chain DidRead v.cdrFields r r' := by
  simp only [decodeHeader, Header.cdrFields, bind_ok_iff, reader_enterNested_ok_iff, pure_ok_iff,
    chain_cons, chain_nil, didRead_i32, didRead_u32, didRead_string]
  constructor
  · rintro ⟨_, _, ⟨-, rfl, rfl⟩, _, _, ⟨htwo, -, rfl⟩, _, _, h₁, _, _, h₂, _, _, h₃, rfl, rfl⟩
    exact ⟨htwo, _, h₁, _, h₂, _, h₃, rfl⟩
  · rintro ⟨htwo, _, h₁, _, h₂, _, h₃, rfl⟩
    exact ⟨_, _, ⟨(Nat.le_succ 1).trans htwo, rfl, rfl⟩, _, _, ⟨htwo, rfl, rfl⟩, _, _, h₁, _, _, h₂,
      _, _, h₃, rfl, rfl⟩

theorem decodeHeader_ok_iff (hlimits : r.limits = .defaults) {v : Header} :
    decodeHeader .root r = .ok v r' ↔ Chain DidRead v.cdrFields r r' := by
  have htwo : 2 ≤ r.limits.maxNestingDepth := by
    rw [hlimits]
    decide
  exact decodeHeader_root_ok_iff.trans (and_iff_right htwo)

theorem decodePointField_ok_iff {v : PointField} :
    decodePointField r = .ok v r' ↔ Chain DidRead v.cdrFields r r' := by
  simp only [decodePointField, PointField.cdrFields, bind_ok_iff, pure_ok_iff, chain_cons,
    chain_nil, didRead_u8, didRead_u32, didRead_string]
  constructor
  · rintro ⟨_, _, h₁, _, _, h₂, _, _, h₃, _, _, h₄, rfl, rfl⟩
    exact ⟨_, h₁, _, h₂, _, h₃, _, h₄, rfl⟩
  · rintro ⟨_, h₁, _, h₂, _, h₃, _, h₄, rfl⟩
    exact ⟨_, _, h₁, _, _, h₂, _, _, h₃, _, _, h₄, rfl, rfl⟩

/-- The loop over the entries reads the fields of each. -/
theorem repeated_pointField_ok_iff (hr : r.Valid) (hlimits : r.limits = .defaults) {n : ℕ}
    {values : List PointField} :
    repeated (do
      let _nest ← CdrReader.enterNested .root
      decodePointField) n r = .ok values r' ↔
      values.length = n ∧ Chain DidRead (values.flatMap PointField.cdrFields) r r' := by
  induction n generalizing r r' values with
  | zero =>
    rw [repeated, pure_ok_iff, List.length_eq_zero_iff]
    constructor
    · rintro ⟨rfl, rfl⟩
      exact ⟨rfl, rfl⟩
    · rintro ⟨rfl, rfl⟩
      exact ⟨rfl, rfl⟩
  | succ n ih =>
    have hone : (0 : ℕ) + 1 ≤ r.limits.maxNestingDepth := by
      rw [hlimits]
      decide
    simp only [repeated, bind_ok_iff, pure_ok_iff, reader_enterNested_ok_iff,
      decodePointField_ok_iff]
    constructor
    · rintro ⟨a, s, ⟨_, _, ⟨-, -, rfl⟩, ha⟩, rest, _, hrest, rfl, rfl⟩
      obtain ⟨hs, hslimits⟩ := reads_keep ha hr
      obtain ⟨rfl, hchain⟩ := (ih hs (hslimits.trans hlimits)).mp hrest
      exact ⟨rfl, chain_append.mpr ⟨s, ha, hchain⟩⟩
    · rintro ⟨hlen, hchain⟩
      cases values with
      | nil => cases hlen
      | cons a values =>
        obtain ⟨s, ha, hrest⟩ := chain_append.mp hchain
        obtain ⟨hs, hslimits⟩ := reads_keep ha hr
        exact ⟨a, s, ⟨_, _, ⟨hone, rfl, rfl⟩, ha⟩, values, r',
          (ih hs (hslimits.trans hlimits)).mpr ⟨Nat.succ.inj hlen, hrest⟩, rfl, rfl⟩

/-- The position behind a run of reads from the start of the body. -/
theorem offset_of_reads {fields : List CdrField} (h : Chain DidRead fields r r') (hr : r.Valid)
    (horigin : r.offset = bodyOrigin) : r'.offset = bodyOrigin + laidLength fields := by
  obtain ⟨-, laid, hlaid, -, -, rfl⟩ := (reads_iff hr).mp h
  rw [horigin] at hlaid ⊢
  rw [hlaid.length_eq fun f => f.length_body r.endian]
  rfl

/-- **A decoded view reads its fields, and its payload is where they put it.** -/
theorem decodePointCloud2_ok_iff (hr : r.Valid) (hlimits : r.limits = .defaults)
    (horigin : r.offset = bodyOrigin) {v : PointCloud2View} :
    decodePointCloud2 r = .ok v r' ↔
      v.Sized ∧ v.data.start = v.dataStart ∧ Chain DidRead v.cdrFields r r' := by
  have hstart {s t : CdrReader} {front : List CdrField} {data : Span}
      (hfront : Chain DidRead front r s)
      (hdata : CdrReader.readByteSequence none s = .ok data t) :
      data.start = bodyOrigin + laidLength front
        + paddingFor (bodyOrigin + laidLength front) 4 + 4 := by
    obtain ⟨hs, -⟩ := reads_keep hfront hr
    obtain ⟨-, hstart, -⟩ := (CdrReader.readByteSequence_ok_iff hs).mp hdata
    rwa [offset_of_reads hfront hr horigin] at hstart
  have hcloud : decodePointCloud2 r = .ok v r' ↔ v.Sized ∧ ∃ s t,
      Chain DidRead v.frontFields r s ∧ CdrReader.readByteSequence none s = .ok v.data t ∧
        CdrReader.readBool t = .ok v.isDense r' := by
    simp only [decodePointCloud2, decodePointCloud2Nested, bind_ok_iff, pure_ok_iff,
      decodeHeader_ok_iff hlimits, PointCloud2View.frontFields, chain_append, chain_cons,
      chain_nil, didRead_u32, didRead_bool, didRead_sequenceLength]
    constructor
    · rintro ⟨header, s₁, hheader, _, _, hheight, _, _, hwidth, count, s₂, hcount, fields, s₃,
        hfields, _, _, hbig, _, _, hstep, _, _, hrow, data, _, hdata, _, _, hdense, rfl, rfl⟩
      obtain ⟨hs₁, hl₁⟩ := reads_keep hheader hr
      have hmid := chain_cons.mpr ⟨_, didRead_u32.mpr hheight, chain_cons.mpr ⟨_,
        didRead_u32.mpr hwidth, chain_singleton.mpr (didRead_sequenceLength.mpr hcount)⟩⟩
      obtain ⟨hs₂, hl₂⟩ := reads_keep hmid hs₁
      obtain ⟨hlen, hentries⟩ := (repeated_pointField_ok_iff hs₂
        (hl₂.trans (hl₁.trans hlimits))).mp hfields
      have hcount' : UInt32.ofNat fields.length = count := by rw [hlen, UInt32.ofNat_toNat]
      refine ⟨?_, _, _, ⟨s₁, hheader, s₂, ⟨_, hheight, _, hwidth, _, ?_, rfl⟩, s₃, hentries, _, hbig,
        _, hstep, _, hrow, rfl⟩, hdata, hdense⟩
      · show fields.length < 2 ^ 32
        rw [hlen]
        exact count.toNat_lt
      · rwa [hcount']
    · rintro ⟨hsized, s, t, ⟨s₁, hheader, s₂, ⟨_, hheight, _, hwidth, _, hcount, rfl⟩, s₃, hentries,
        _, hbig, _, hstep, _, hrow, rfl⟩, hdata, hdense⟩
      obtain ⟨hs₁, hl₁⟩ := reads_keep hheader hr
      have hmid := chain_cons.mpr ⟨_, didRead_u32.mpr hheight, chain_cons.mpr ⟨_,
        didRead_u32.mpr hwidth, chain_singleton.mpr (didRead_sequenceLength.mpr hcount)⟩⟩
      obtain ⟨hs₂, hl₂⟩ := reads_keep hmid hs₁
      have hlen : (UInt32.ofNat v.fields.length).toNat = v.fields.length :=
        UInt32.toNat_ofNat_of_lt' hsized
      exact ⟨_, _, hheader, _, _, hheight, _, _, hwidth, _, _, hcount, _, _,
        (repeated_pointField_ok_iff hs₂ (hl₂.trans (hl₁.trans hlimits))).mpr ⟨hlen.symm, hentries⟩,
        _, _, hbig, _, _, hstep, _, _, hrow, _, _, hdata, _, _, hdense, rfl, rfl⟩
  rw [hcloud, PointCloud2View.cdrFields, chain_append]
  constructor
  · rintro ⟨hsized, s, t, hfront, hdata, hdense⟩
    exact ⟨hsized, hstart hfront hdata, s, hfront, t, didRead_byteSequence.mpr ⟨_, hdata, rfl⟩, r',
      didRead_bool.mpr hdense, rfl⟩
  · rintro ⟨hsized, hposition, s, hfront, t, hdata, u, hdense, rfl⟩
    obtain ⟨data, hdata, hbytes⟩ := didRead_byteSequence.mp hdata
    have heq : data = v.data := by
      have hdataStart := hstart hfront hdata
      cases data
      cases hv : v.data
      rw [hv] at hposition hbytes
      simp only at hposition hbytes hdataStart
      rw [hbytes, hdataStart, hposition]
      rfl
    exact ⟨hsized, s, t, hfront, heq ▸ hdata, didRead_bool.mp hdense⟩

end Decode

/-! ## Encoding -/

section Encode

variable {w w' : CdrWriter} {u : Unit}

theorem encodeHeader_ok_iff (hlimits : w.limits = .defaults) {v : Header} :
    encodeHeader v .root w = .ok u w' ↔ Chain Wrote v.cdrFields w w' := by
  have hone : (0 : ℕ) + 1 ≤ w.limits.maxNestingDepth := by
    rw [hlimits]
    decide
  have htwo : (0 : ℕ) + 1 + 1 ≤ w.limits.maxNestingDepth := by
    rw [hlimits]
    decide
  simp only [encodeHeader, Header.cdrFields, bind_ok_iff, writer_enterNested_ok_iff, chain_cons,
    chain_nil, Wrote, CdrField.write]
  constructor
  · rintro ⟨_, _, ⟨-, -, rfl⟩, _, _, ⟨-, -, rfl⟩, _, _, h₁, _, _, h₂, h₃⟩
    exact ⟨_, h₁, _, h₂, _, h₃, rfl⟩
  · rintro ⟨_, h₁, _, h₂, _, h₃, rfl⟩
    exact ⟨_, _, ⟨hone, rfl, rfl⟩, _, _, ⟨htwo, rfl, rfl⟩, (), _, h₁, (), _, h₂, h₃⟩

theorem encodePointField_ok_iff {v : PointField} :
    encodePointField v w = .ok u w' ↔ Chain Wrote v.cdrFields w w' := by
  have heq : encodePointField v = writeAll v.cdrFields := by
    simp [encodePointField, PointField.cdrFields, writeAll, CdrField.write]
  rw [heq]
  exact writeAll_ok_iff

/-- The loop over the entries writes the fields of each. -/
theorem forEach_pointField_ok_iff (hw : w.Valid) (hlimits : w.limits = .defaults)
    {values : List PointField} :
    CdrWriter.forEach (fun field => do
      let _nest ← CdrWriter.enterNested .root
      encodePointField field) values w = .ok u w' ↔
      Chain Wrote (values.flatMap PointField.cdrFields) w w' := by
  induction values generalizing w with
  | nil => simp [CdrWriter.forEach]
  | cons a values ih =>
    have hone : (0 : ℕ) + 1 ≤ w.limits.maxNestingDepth := by
      rw [hlimits]
      decide
    simp only [CdrWriter.forEach, bind_ok_iff, writer_enterNested_ok_iff, encodePointField_ok_iff,
      List.flatMap_cons, chain_append]
    constructor
    · rintro ⟨_, s, ⟨_, _, ⟨-, -, rfl⟩, ha⟩, hrest⟩
      obtain ⟨hs, -, hslimits, -⟩ := writes_append ha hw
      exact ⟨s, ha, (ih hs (hslimits.trans hlimits)).mp hrest⟩
    · rintro ⟨s, ha, hrest⟩
      obtain ⟨hs, -, hslimits, -⟩ := writes_append ha hw
      exact ⟨(), s, ⟨_, _, ⟨hone, rfl, rfl⟩, ha⟩, (ih hs (hslimits.trans hlimits)).mpr hrest⟩

theorem encodePointCloud2_ok_iff (hw : w.Valid) (hlimits : w.limits = .defaults)
    {v : PointCloud2View} :
    encodePointCloud2 v w = .ok u w' ↔ Chain Wrote v.cdrFields w w' := by
  have hmid {s₁ s₂ : CdrWriter} : Chain Wrote [.u32 v.height, .u32 v.width,
      .sequenceLength (UInt32.ofNat v.fields.length) none] s₁ s₂ ↔
      ∃ a, CdrWriter.writeU32 v.height s₁ = .ok () a ∧
        ∃ b, CdrWriter.writeU32 v.width a = .ok () b ∧
          CdrWriter.writeSequenceLength (UInt32.ofNat v.fields.length) none b = .ok () s₂ := by
    simp only [chain_cons, chain_nil, Wrote, CdrField.write, exists_eq_right]
  simp only [encodePointCloud2, encodePointCloud2Nested, PointCloud2View.cdrFields,
    PointCloud2View.frontFields, bind_ok_iff, encodeHeader_ok_iff hlimits, chain_append, hmid]
  simp only [chain_cons, chain_nil, Wrote, CdrField.write]
  constructor
  · rintro ⟨_, s₁, hheader, _, a, hheight, _, b, hwidth, _, s₂, hcount, _, s₃, hfields, _, _, hbig,
      _, _, hstep, _, _, hrow, _, _, hdata, hdense⟩
    obtain ⟨hs₁, -, hl₁, -⟩ := writes_append hheader hw
    obtain ⟨hs₂, -, hl₂, -⟩ := writes_append (hmid.mpr ⟨a, hheight, b, hwidth, hcount⟩) hs₁
    have hentries := (forEach_pointField_ok_iff hs₂ (hl₂.trans (hl₁.trans hlimits))).mp hfields
    exact ⟨_, ⟨s₁, hheader, s₂, ⟨a, hheight, b, hwidth, hcount⟩, s₃, hentries, _, hbig, _, hstep, _,
      hrow, rfl⟩, _, hdata, _, hdense, rfl⟩
  · rintro ⟨_, ⟨s₁, hheader, s₂, ⟨a, hheight, b, hwidth, hcount⟩, s₃, hentries, _, hbig, _, hstep, _,
      hrow, rfl⟩, _, hdata, _, hdense, rfl⟩
    obtain ⟨hs₁, -, hl₁, -⟩ := writes_append hheader hw
    obtain ⟨hs₂, -, hl₂, -⟩ := writes_append (hmid.mpr ⟨a, hheight, b, hwidth, hcount⟩) hs₁
    exact ⟨(), s₁, hheader, (), a, hheight, (), b, hwidth, (), s₂, hcount, (), s₃,
      (forEach_pointField_ok_iff hs₂ (hl₂.trans (hl₁.trans hlimits))).mpr hentries, (), _, hbig,
      (), _, hstep, (), _, hrow, (), _, hdata, hdense⟩

end Encode

/-! ## Streams -/

/-- **What decodes to a view**: the streams of at most 64 MiB that present its fields and nothing
else, when it is one the reader takes; the payload is the span where the fields put it. -/
theorem decodePointCloud2Le_iff {bytes : List UInt8} {v : PointCloud2View} :
    decodePointCloud2Le bytes = .ok v ↔ v.Sized ∧ v.data.start = v.dataStart ∧
      bytes.length ≤ defaultMaxStreamBytes ∧ (∀ f ∈ v.cdrFields, f.Readable .defaults) ∧
        ∃ endian options, Presents v.cdrFields endian options 0 bytes := by
  constructor
  · intro h
    simp only [decodePointCloud2Le, bind_eq_ok] at h
    obtain ⟨r, hopen, h⟩ := h
    obtain ⟨hr, hlimits, horigin⟩ := openDefault_ok hopen
    rcases hrun : decodePointCloud2 r with ⟨v', r'⟩ | ⟨e, r'⟩
    swap
    · rw [hrun] at h
      cases h
    rw [hrun] at h
    rcases hcomplete : CdrReader.ensureCompleteWithZeroTail 0 r' with ⟨u, r''⟩ | ⟨e, r''⟩
    swap
    · simp only [hcomplete] at h
      cases h
    simp only [hcomplete] at h
    obtain rfl := Except.ok.inj h
    obtain ⟨hsized, hstart, hreads⟩ := (decodePointCloud2_ok_iff hr hlimits horigin).mp hrun
    obtain ⟨-, hrem, hzeros⟩ := zeroTail_complete_iff.mp ⟨r'', hcomplete⟩
    rw [hrem.elim id id] at hzeros
    obtain ⟨-, hlen, hreadable, hpresents⟩ := opens_and_reads_iff.mp ⟨r, r', hopen, hreads, hzeros⟩
    exact ⟨hsized, hstart, hlen, hreadable, hpresents⟩
  · rintro ⟨hsized, hstart, hlen, hreadable, hpresents⟩
    obtain ⟨r, r', hopen, hreads, hrest⟩ := opens_and_reads_iff.mpr
      ⟨CdrLimits.defaults_valid, hlen, hreadable, hpresents⟩
    obtain ⟨hr, hlimits, horigin⟩ := openDefault_ok hopen
    have hrun := (decodePointCloud2_ok_iff hr hlimits horigin).mpr ⟨hsized, hstart, hreads⟩
    have hrem : r'.remaining = 0 := by rw [← length_unread, hrest, List.length_replicate]
    obtain ⟨r'', hcomplete⟩ := zeroTail_complete_iff.mpr
      ⟨Nat.zero_le _, .inl hrem, hrem.symm ▸ hrest⟩
    have hopen' : CdrReader.openDefault bytes = .ok r := hopen
    simp only [decodePointCloud2Le, bind_eq_ok]
    exact ⟨r, hopen', by simp only [hrun, hcomplete]⟩

/-- **What encodes**: views whose fields the writer takes and whose canonical stream is at most
64 MiB long. -/
theorem encodePointCloud2Le_iff {bytes : List UInt8} {v : PointCloud2View} :
    encodePointCloud2Le v = .ok bytes ↔ (∀ f ∈ v.cdrFields, f.Writable .defaults) ∧
      bytes.length ≤ defaultMaxStreamBytes ∧ bytes = canonical v.cdrFields :=
  encodeWith_ok_iff fun _ hw hlimits _ => encodePointCloud2_ok_iff hw hlimits

theorem PointCloud2View.ne_bytes {v : PointCloud2View} {f : CdrField} (hf : f ∈ v.cdrFields)
    (data : List UInt8) : f ≠ .bytes data := by
  rintro rfl
  simp [cdrFields, frontFields, Header.cdrFields, PointField.cdrFields] at hf

theorem PointCloud2View.length_fields_le (v : PointCloud2View) :
    v.fields.length ≤ v.cdrFields.length := by
  have hentries : (v.fields.flatMap PointField.cdrFields).length = v.fields.length * 4 := by
    simp [List.length_flatMap, PointField.cdrFields]
  simp only [cdrFields, frontFields, List.length_append]
  omega

/-- A view that encodes has a field count that `u32` holds. -/
theorem sized_of_encodePointCloud2Le {v : PointCloud2View} {bytes : List UInt8}
    (h : encodePointCloud2Le v = .ok bytes) : v.Sized := by
  obtain ⟨-, hlen, rfl⟩ := encodePointCloud2Le_iff.mp h
  have hbytes := length_le_canonical fun f hf => CdrField.one_le_width (v.ne_bytes hf)
  have hfields := v.length_fields_le
  unfold defaultMaxStreamBytes at hlen
  unfold PointCloud2View.Sized
  omega

end Cdr
end Rclweb
