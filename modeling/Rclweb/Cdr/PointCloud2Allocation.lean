import Rclweb.Cdr.PointCloud2

/-!
# What the PointCloud2 decoder allocates

The decoder once more, with the slots that `Vec::with_capacity` asks for written down where it asks:
behind the field count, before a single field is read.  The count has only been compared with
`max_stream_bytes` then, so that the allocation is within the input and the declared budget exactly
for the inputs whose declared count is (`slots_within_budget`).
-/

namespace Rclweb

open BigEndian Attempts Aligned

namespace Cdr

/-- Slots for entries that were asked for at once, with the input left at that moment. -/
structure SlotAllocation where
  slots : ℕ
  remaining : ℕ
  deriving DecidableEq, Repr

/-- A read that writes its allocations down. -/
abbrev AllocatingRead := EStateM CdrError (CdrReader × List SlotAllocation)

namespace AllocatingRead

/-- A read that allocates no slots. -/
def onReader {α : Type} (x : CdrRead α) : AllocatingRead α := fun s =>
  match x s.1 with
  | .ok a r => .ok a (r, s.2)
  | .error e r => .error e (r, s.2)

/-- `Vec::with_capacity`. -/
def withCapacity (n : ℕ) : AllocatingRead Unit :=
  modify fun s => (s.1, s.2 ++ [⟨n, s.1.remaining⟩])

def decodePointCloud2Nested (parent : CdrNesting) : AllocatingRead PointCloud2View := do
  let header ← onReader (decodeHeader parent)
  let height ← onReader CdrReader.readU32
  let width ← onReader CdrReader.readU32
  let fieldCount ← onReader (CdrReader.readSequenceLength none)
  withCapacity fieldCount.toNat
  let fields ← onReader (repeated (do
    let _nest ← CdrReader.enterNested parent
    decodePointField) fieldCount.toNat)
  let isBigendian ← onReader CdrReader.readBool
  let pointStep ← onReader CdrReader.readU32
  let rowStep ← onReader CdrReader.readU32
  let data ← onReader (CdrReader.readByteSequence none)
  let isDense ← onReader CdrReader.readBool
  pure { header, height, width, fields, isBigendian, pointStep, rowStep, data, isDense }

/-- The allocations of an operation, whether it fails or not. -/
def made {α : Type} (x : AllocatingRead α) (s : CdrReader × List SlotAllocation) :
    List SlotAllocation :=
  match x s with
  | .ok _ s => s.2
  | .error _ s => s.2

/-- What an operation does to the reader. -/
def onlyReader {α : Type} :
    EStateM.Result CdrError (CdrReader × List SlotAllocation) α →
      EStateM.Result CdrError CdrReader α
  | .ok a s => .ok a s.1
  | .error e s => .error e s.1

variable {α β : Type} {r : CdrReader} {s : CdrReader × List SlotAllocation}

/-! ## The decoder underneath -/

theorem onlyReader_onReader (x : CdrRead α) : onlyReader (onReader x s) = x s.1 := by
  unfold onReader
  cases x s.1 <;> rfl

theorem onlyReader_bind {x : CdrRead α} {y : AllocatingRead α} {f : α → CdrRead β}
    {g : α → AllocatingRead β} (hx : onlyReader (y s) = x s.1)
    (hf : ∀ a s, onlyReader (g a s) = f a s.1) : onlyReader ((y >>= g) s) = (x >>= f) s.1 := by
  cases hy : y s with
  | ok a t =>
    rw [hy] at hx
    rw [bind_of_ok hy, bind_of_ok hx.symm]
    exact hf a t
  | error e t =>
    rw [hy] at hx
    rw [bind_of_error hy, bind_of_error hx.symm]
    rfl

/-- **Without the record it is the decoder.** -/
theorem onlyReader_decode (parent : CdrNesting) :
    onlyReader (decodePointCloud2Nested parent s) = Cdr.decodePointCloud2Nested parent s.1 := by
  refine onlyReader_bind (onlyReader_onReader _) fun _ s => ?_
  refine onlyReader_bind (onlyReader_onReader _) fun _ s => ?_
  refine onlyReader_bind (onlyReader_onReader _) fun _ s => ?_
  refine onlyReader_bind (onlyReader_onReader _) fun _ s => ?_
  show onlyReader (EStateM.bind _ _ s) = _
  refine onlyReader_bind (onlyReader_onReader _) fun _ s => ?_
  refine onlyReader_bind (onlyReader_onReader _) fun _ s => ?_
  refine onlyReader_bind (onlyReader_onReader _) fun _ s => ?_
  refine onlyReader_bind (onlyReader_onReader _) fun _ s => ?_
  refine onlyReader_bind (onlyReader_onReader _) fun _ s => ?_
  refine onlyReader_bind (onlyReader_onReader _) fun _ s => ?_
  rfl

/-! ## The record -/

/-- An operation that allocates nothing. -/
def Silent (x : AllocatingRead α) : Prop := ∀ s, made x s = s.2

theorem silent_pure (a : α) : Silent (pure a : AllocatingRead α) := fun _ => rfl

theorem made_onReader_bind {x : CdrRead α} {f : α → AllocatingRead β} :
    made (onReader x >>= f) s =
      match x s.1 with
      | .ok a r => made (f a) (r, s.2)
      | .error _ _ => s.2 := by
  cases hx : x s.1 with
  | ok a r =>
    have hon : onReader x s = .ok a (r, s.2) := by rw [onReader, hx]
    unfold made
    rw [bind_of_ok hon]
  | error e r =>
    have hon : onReader x s = .error e (r, s.2) := by rw [onReader, hx]
    unfold made
    rw [bind_of_error hon]

theorem Silent.onReader_bind {x : CdrRead α} {f : α → AllocatingRead β} (hf : ∀ a, Silent (f a)) :
    Silent (onReader x >>= f) := by
  intro s
  rw [made_onReader_bind]
  cases x s.1 with
  | ok a r => exact hf a (r, s.2)
  | error e r => rfl

/-- What is allocated behind a read is allocated where the read succeeds. -/
theorem mem_made_onReader_bind {x : CdrRead α} {f : α → AllocatingRead β} {a : SlotAllocation} :
    a ∈ made (onReader x >>= f) (r, []) ↔ ∃ v r', x r = .ok v r' ∧ a ∈ made (f v) (r', []) := by
  rw [made_onReader_bind]
  cases hx : x r with
  | ok v r' =>
    constructor
    · intro h
      exact ⟨v, r', rfl, h⟩
    · rintro ⟨v', r'', heq, h⟩
      obtain ⟨rfl, rfl⟩ := EStateM.Result.ok.inj heq
      exact h
  | error e r' =>
    constructor
    · intro h
      exact (List.not_mem_nil h).elim
    · rintro ⟨v', r'', heq, -⟩
      cases heq

theorem mem_made_withCapacity_bind {n : ℕ} {f : Unit → AllocatingRead β} (hf : ∀ u, Silent (f u))
    {a : SlotAllocation} :
    a ∈ made (withCapacity n >>= f) (r, []) ↔ a = ⟨n, r.remaining⟩ := by
  have hmade : made (withCapacity n >>= f) (r, []) = [⟨n, r.remaining⟩] :=
    hf () (r, [⟨n, r.remaining⟩])
  rw [hmade, List.mem_singleton]

end AllocatingRead

/-- The slots that the decoder asks for, from an open reader. -/
def slotAllocations (r : CdrReader) : List SlotAllocation :=
  AllocatingRead.made (AllocatingRead.decodePointCloud2Nested .root) (r, [])

/-- The fields up to the field count. -/
def countFields (header : Header) (height width count : UInt32) : List CdrField :=
  header.cdrFields ++
    [CdrField.u32 height, CdrField.u32 width, CdrField.sequenceLength count none]

open AllocatingRead in
/-- **The decoder allocates once, behind the field count**, as many slots as it declares. -/
theorem mem_slotAllocations_iff {r : CdrReader} {a : SlotAllocation} :
    a ∈ slotAllocations r ↔ 2 ≤ r.limits.maxNestingDepth ∧ ∃ header height width count r',
      Chain DidRead (countFields header height width count) r r' ∧
        a = ⟨count.toNat, r'.remaining⟩ := by
  have hsilent : ∀ header height width (count : UInt32), Silent (do
      let fields ← onReader (repeated (do
        let _nest ← CdrReader.enterNested .root
        decodePointField) count.toNat)
      let isBigendian ← onReader CdrReader.readBool
      let pointStep ← onReader CdrReader.readU32
      let rowStep ← onReader CdrReader.readU32
      let data ← onReader (CdrReader.readByteSequence none)
      let isDense ← onReader CdrReader.readBool
      pure (⟨header, height, width, fields, isBigendian, pointStep, rowStep, data, isDense⟩ :
        PointCloud2View)) := by
    intro header height width count
    refine Silent.onReader_bind fun _ => Silent.onReader_bind fun _ => ?_
    refine Silent.onReader_bind fun _ => Silent.onReader_bind fun _ => ?_
    refine Silent.onReader_bind fun _ => Silent.onReader_bind fun _ => ?_
    exact silent_pure _
  unfold slotAllocations AllocatingRead.decodePointCloud2Nested
  simp only [mem_made_onReader_bind, mem_made_withCapacity_bind fun _ => hsilent _ _ _ _,
    decodeHeader_root_ok_iff, countFields, chain_append, chain_cons, chain_nil, didRead_u32,
    didRead_sequenceLength]
  constructor
  · rintro ⟨header, r₁, ⟨hdepth, hheader⟩, height, r₂, hheight, width, r₃, hwidth, count, r₄,
      hcount, rfl⟩
    exact ⟨hdepth, header, height, width, count, r₄,
      ⟨r₁, hheader, r₂, hheight, r₃, hwidth, _, hcount, rfl⟩, rfl⟩
  · rintro ⟨hdepth, header, height, width, count, r', ⟨r₁, hheader, r₂, hheight, r₃, hwidth, _,
      hcount, rfl⟩, rfl⟩
    exact ⟨header, r₁, ⟨hdepth, hheader⟩, height, r₂, hheight, width, r₃, hwidth, count, _, hcount,
      rfl⟩

/-! ## The budget -/

/-- The smallest CDR size of a PointField. -/
def smallestPointField : ℕ := 20

/-- A PointField takes twenty bytes at least, and with an empty name no more. -/
theorem isLeast_pointField {pos : ℕ} (horigin : bodyOrigin ≤ pos) (hpos : paddingFor pos 4 = 0) :
    IsLeast {n | ∃ field : PointField,
      n = extent CdrField.padding CdrField.width pos field.cdrFields} smallestPointField := by
  have hextent : ∀ field : PointField,
      extent CdrField.padding CdrField.width pos field.cdrFields =
        20 + (utf8 field.name).length / 4 * 4 := by
    intro field
    have halign : ∀ x, bodyOrigin ≤ x → (x + paddingFor x 4 - bodyOrigin) % 4 = 0 ∧
        paddingFor x 4 < 4 := fun x hx =>
      ⟨paddingFor_aligned hx (by decide), paddingFor_lt (by decide) x⟩
    have hfirst := halign pos horigin
    simp only [PointField.cdrFields, extent, CdrField.padding, CdrField.width, CdrField.align,
      paddingFor_one, hpos]
    have hsecond := halign (pos + (0 + (4 + ((utf8 field.name).length + 1)))) (by omega)
    have hthird := halign (pos + (0 + (4 + ((utf8 field.name).length + 1))) +
      (paddingFor (pos + (0 + (4 + ((utf8 field.name).length + 1)))) 4 + 4) + (0 + 1)) (by omega)
    unfold bodyOrigin at horigin hfirst hsecond hthird
    omega
  constructor
  · exact ⟨⟨"", 0, 0, 0⟩, (hextent ⟨"", 0, 0, 0⟩).symm⟩
  · rintro n ⟨field, rfl⟩
    rw [hextent]
    exact Nat.le_add_right _ _

/-- **An allocation within the budget**: slots for what the input can hold, of `slotSize` bytes each
within the temporary allocation. -/
def SlotAllocation.WithinBudget (limits : CdrLimits) (slotSize : ℕ) (a : SlotAllocation) : Prop :=
  a.slots * smallestPointField ≤ a.remaining ∧ a.slots * slotSize ≤ limits.maxTemporaryAllocation

/-- **The input declares `count` fields, with `rest` bytes behind the count.** -/
def DeclaresFields (limits : CdrLimits) (bytes : List UInt8) (count rest : ℕ) : Prop :=
  ∃ (endian : CdrEndian) (options : UInt16) (laid behind : List UInt8) (head : Header)
    (height width n : UInt32),
    bytes = header endian options ++ (laid ++ behind) ∧
    Lays CdrField.padding (CdrField.body endian) (fun _ => True) bodyOrigin
      (countFields head height width n) laid ∧
    (∀ f ∈ countFields head height width n, f.Readable limits) ∧
    n.toNat = count ∧ behind.length = rest

/-- What the decoder asks for is what the input declares. -/
theorem mem_slotAllocations_iff_declares {limits : CdrLimits} {bytes : List UInt8}
    {count rest : ℕ} :
    (∃ r, CdrReader.openWith bytes limits = .ok r ∧ ⟨count, rest⟩ ∈ slotAllocations r) ↔
      limits.Valid ∧ bytes.length ≤ limits.maxStreamBytes ∧ 2 ≤ limits.maxNestingDepth ∧
        DeclaresFields limits bytes count rest := by
  constructor
  · rintro ⟨r, hopen, hmem⟩
    obtain ⟨hdepth, head, height, width, n, r', hchain, heq⟩ := mem_slotAllocations_iff.mp hmem
    obtain ⟨rfl, rfl⟩ := SlotAllocation.mk.inj heq
    obtain ⟨hvalid, hlength, hreadable, endian, options, laid, hlaid, hbytes⟩ :=
      opens_and_reads_rest_iff.mp ⟨r, r', hopen, hchain, rfl⟩
    obtain ⟨-, -, _, _, _, -, rfl⟩ := openWith_ok_iff.mp hopen
    exact ⟨hvalid, hlength, hdepth, endian, options, laid, r'.unread, head, height, width, n, hbytes,
      hlaid, hreadable, rfl, length_unread r'⟩
  · rintro ⟨hvalid, hlength, hdepth, endian, options, laid, behind, head, height, width, n, hbytes,
      hlaid, hreadable, hslots, hremaining⟩
    obtain ⟨r, r', hopen, hchain, hunread⟩ := opens_and_reads_rest_iff.mpr
      ⟨hvalid, hlength, hreadable, endian, options, laid, hlaid, hbytes⟩
    refine ⟨r, hopen, mem_slotAllocations_iff.mpr ⟨?_, head, height, width, n, r', hchain, ?_⟩⟩
    · obtain ⟨-, -, _, _, _, -, rfl⟩ := openWith_ok_iff.mp hopen
      exact hdepth
    · rw [← length_unread, hunread, hslots, hremaining]

/-- **When the decoder's allocation is within its budget**, for every input, all limits and every
size of a slot: exactly when the declared count is one that the bytes behind it and the temporary
allocation have room for. -/
theorem slots_within_budget (limits : CdrLimits) (bytes : List UInt8) (slotSize : ℕ) :
    (∀ r, CdrReader.openWith bytes limits = .ok r →
      ∀ a ∈ slotAllocations r, a.WithinBudget limits slotSize) ↔
    (limits.Valid → bytes.length ≤ limits.maxStreamBytes → 2 ≤ limits.maxNestingDepth →
      ∀ count rest, DeclaresFields limits bytes count rest →
        count * smallestPointField ≤ rest ∧ count * slotSize ≤ limits.maxTemporaryAllocation) := by
  constructor
  · intro h hlimits hlength hdepth count rest hdeclares
    obtain ⟨r, hopen, hmem⟩ := mem_slotAllocations_iff_declares.mpr
      ⟨hlimits, hlength, hdepth, hdeclares⟩
    exact h r hopen ⟨count, rest⟩ hmem
  · intro h r hopen a ha
    obtain ⟨count, rest⟩ := a
    obtain ⟨hlimits, hlength, hdepth, hdeclares⟩ :=
      mem_slotAllocations_iff_declares.mp ⟨r, hopen, ha⟩
    exact h hlimits hlength hdepth _ _ hdeclares

/-- Forty bytes that declare 67108864 fields and end there. -/
def bareCount : List UInt8 :=
  header .little 0 ++ ([0, 0, 0, 0, 0, 0, 0, 0, 1, 0, 0, 0, 0, 0, 0, 0, 0, 0, 0, 0, 0, 0, 0, 0] ++
    [0, 0, 0, 4])

/-- Sixty-four million slots are asked for, with no byte left. -/
theorem not_within_budget_of_bareCount :
    ¬ ∀ (limits : CdrLimits) (bytes : List UInt8) (slotSize : ℕ) (r : CdrReader),
      CdrReader.openWith bytes limits = .ok r → ∀ a ∈ slotAllocations r,
        a.WithinBudget limits slotSize := by
  intro h
  have hdeclares : DeclaresFields .defaults bareCount 67108864 0 := by
    refine ⟨.little, 0, bareCount.drop 4, [], ⟨0, 0, ""⟩, 0, 0, 67108864, rfl, ?_, ?_, rfl, rfl⟩
    · exact ⟨[], _, rfl, fun _ _ => trivial, rfl, [], _, rfl, fun _ _ => trivial, rfl, [], _, rfl,
        fun _ _ => trivial, rfl, [0, 0, 0], _, rfl, fun _ _ => trivial, rfl, [], _, rfl,
        fun _ _ => trivial, rfl, [], _, rfl, fun _ _ => trivial, rfl, rfl⟩
    · intro f hf
      simp only [countFields, Header.cdrFields, List.cons_append, List.nil_append, List.mem_cons,
        List.not_mem_nil, or_false] at hf
      rcases hf with rfl | rfl | rfl | rfl | rfl | rfl
      · trivial
      · trivial
      · exact ⟨by simp [WithinBound], by decide, by decide⟩
      · trivial
      · trivial
      · exact ⟨by simp [WithinBound], by decide⟩
  obtain ⟨r, hopen, hmem⟩ := mem_slotAllocations_iff_declares.mpr
    ⟨CdrLimits.defaults_valid, by decide, by decide, hdeclares⟩
  exact absurd (h .defaults bareCount 40 r hopen ⟨67108864, 0⟩ hmem).1 (by decide)

end Cdr
end Rclweb
