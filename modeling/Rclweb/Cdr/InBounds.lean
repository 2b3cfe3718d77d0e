import Rclweb.Cdr.Atomic

/-!
# Reads stay inside the input

The reads again, with every slice of the input a step that can go outside: the ends of a slice are
computed with the wrapping additions of a release build, and a slice whose ends are not in order or
not in the input is a fault of its own.  From every state that the reader can be in the guarded
reads are the reads (`readGuarded_eq`), so that the fault does not occur.
-/

namespace Rclweb

open BigEndian Attempts

namespace Cdr

/-- How a guarded read fails: with an error, or by an access outside the input. -/
inductive CdrFault where
  | error (e : CdrError)
  | outside
  deriving DecidableEq, Repr

/-- A read whose accesses are guarded. -/
abbrev GuardedRead := EStateM CdrFault CdrReader

namespace GuardedRead

/-- A read without accesses, or whose accesses are guarded. -/
def lift {α : Type} (x : CdrRead α) : GuardedRead α := fun r =>
  match x r with
  | .ok a r => .ok a r
  | .error e r => .error (.error e) r

/-- `a + b` in a `usize`. -/
def wrappingAdd (a b : ℕ) : ℕ := (a + b) % 2 ^ 64

/-- `&self.bytes[start..stop]`. -/
def slice (start stop : ℕ) : GuardedRead (List UInt8) := do
  let r ← get
  if start ≤ stop ∧ stop ≤ r.bytes.length then pure (r.slice start (stop - start))
  else throw .outside

/-- `span[i]`. -/
def index (span : List UInt8) (i : ℕ) : GuardedRead UInt8 :=
  match span[i]? with
  | some b => pure b
  | none => throw .outside

/-- `&span[..n]`. -/
def front (span : List UInt8) (n : ℕ) : GuardedRead (List UInt8) :=
  if n ≤ span.length then pure (span.take n) else throw .outside

/-! ## The reads -/

def readU32At (pos : ℕ) : GuardedRead UInt32 := do
  let r ← get
  let b ← slice pos (wrappingAdd pos 4)
  pure (UInt32.ofNat (r.endian.ofBytes b))

def readUnsigned (k : ℕ) : GuardedRead ℕ := do
  lift (CdrReader.alignTo k k)
  let r ← get
  let b ← slice r.offset (wrappingAdd r.offset k)
  lift (CdrReader.seek (wrappingAdd r.offset k))
  pure (r.endian.ofBytes b)

def readBool : GuardedRead Bool := do
  let r ← get
  let b ← UInt8.ofNat <$> readUnsigned 1
  lift (CdrReader.rejectIf (b ≠ 0 ∧ b ≠ 1) r.offset (.invalidBoolean r.offset r.remaining))
  pure (b == 1)

def readBytes (n : ℕ) : GuardedRead Span := do
  lift (CdrReader.alignTo 1 n)
  let r ← get
  let stop := wrappingAdd r.offset n
  lift (CdrReader.seek stop)
  let b ← slice r.offset stop
  pure ⟨r.offset, b⟩

def readString (maxBytes : Option UInt32) : GuardedRead String := do
  let r ← get
  let fieldStart := r.offset
  let remAtStart := r.remaining
  let maxStream := r.limits.maxStreamBytes
  let pad ← lift (CdrReader.preflight fieldStart 4 4)
  let lenPos := wrappingAdd fieldStart pad
  let lenU ← readU32At lenPos
  let len := lenU.toNat
  lift (CdrReader.rejectIf (len = 0) fieldStart (.missingStringTerminator fieldStart 1 remAtStart))
  let payload := len - 1
  lift (CdrReader.rejectIf (¬ WithinBound maxBytes payload) fieldStart
    (.boundsExceeded fieldStart (sizeFieldU64 payload)
      (sizeFieldU64 ((typeBoundCeiling maxBytes).getD 0))))
  lift (CdrReader.rejectIf (maxStream < len) fieldStart (.lengthOverflow fieldStart len maxStream))
  let headerAndPad ← lift (CdrReader.orReject (checkedAddUsize pad 4) fieldStart
    (.lengthOverflow fieldStart 0 remAtStart))
  let totalNeeded ← lift (CdrReader.orReject (checkedAddUsize headerAndPad len) fieldStart
    (.lengthOverflow fieldStart 0 remAtStart))
  lift (CdrReader.rejectIf (remAtStart < totalNeeded) fieldStart
    (.truncated fieldStart totalNeeded remAtStart))
  let worst := payload * 2
  let tempCap := r.limits.maxTemporaryAllocation
  lift (CdrReader.rejectIf (tempCap < worst) fieldStart (.boundsExceeded fieldStart worst tempCap))
  let dataStart := wrappingAdd lenPos 4
  let dataEnd := wrappingAdd dataStart len
  let span ← slice dataStart dataEnd
  let last ← index span payload
  lift (CdrReader.rejectIf (last ≠ 0) fieldStart
    (.missingStringTerminator fieldStart len remAtStart))
  let text ← front span payload
  let s ← lift (CdrReader.orReject (ofUtf8? text) fieldStart
    (.invalidUtf8 fieldStart len remAtStart))
  lift (CdrReader.seek dataEnd)
  pure s

/-- The slots of a wstring, each read as the loop comes to it. -/
def readSlots (fieldStart remAtStart dataStart : ℕ) : (k count : ℕ) → GuardedRead (List Char)
  | _, 0 => pure []
  | k, count + 1 => do
    let slot ← readU32At (wrappingAdd dataStart (k * 4))
    lift (CdrReader.rejectIf (isAcceptedWstringScalar slot = false) fieldStart
      (.invalidWstringScalar fieldStart remAtStart))
    let rest ← readSlots fieldStart remAtStart dataStart (k + 1) count
    pure (Char.ofNat slot.toNat :: rest)

def readWstring (maxScalars : Option UInt32) : GuardedRead String := do
  let r ← get
  let fieldStart := r.offset
  let remAtStart := r.remaining
  let maxStream := r.limits.maxStreamBytes
  let pad ← lift (CdrReader.preflight fieldStart 4 4)
  let countPos := wrappingAdd fieldStart pad
  let countU ← readU32At countPos
  let count := countU.toNat
  lift (CdrReader.rejectIf (¬ WithinBound maxScalars count) fieldStart
    (.boundsExceeded fieldStart (sizeFieldU64 count)
      (sizeFieldU64 ((typeBoundCeiling maxScalars).getD 0))))
  let payload := count * 4
  lift (CdrReader.rejectIf (maxStream < payload) fieldStart
    (.lengthOverflow fieldStart payload maxStream))
  let headerAndPad ← lift (CdrReader.orReject (checkedAddUsize pad 4) fieldStart
    (.lengthOverflow fieldStart 0 remAtStart))
  let totalNeeded ← lift (CdrReader.orReject (checkedAddUsize headerAndPad payload) fieldStart
    (.lengthOverflow fieldStart 0 remAtStart))
  lift (CdrReader.rejectIf (remAtStart < totalNeeded) fieldStart
    (.truncated fieldStart totalNeeded remAtStart))
  let tempCap := r.limits.maxTemporaryAllocation
  lift (CdrReader.rejectIf (tempCap < payload) fieldStart
    (.boundsExceeded fieldStart payload tempCap))
  let dataStart := wrappingAdd countPos 4
  let out ← readSlots fieldStart remAtStart dataStart 0 count
  lift (CdrReader.seek (wrappingAdd dataStart payload))
  pure (String.ofList out)

def sequenceCount (maxElements : Option UInt32) : GuardedRead (UInt32 × ℕ) := do
  let r ← get
  let fieldStart := r.offset
  let maxStream := r.limits.maxStreamBytes
  let pad ← lift (CdrReader.preflight fieldStart 4 4)
  let countPos := wrappingAdd fieldStart pad
  let count ← readU32At countPos
  lift (CdrReader.rejectIf (¬ WithinBound maxElements count.toNat) fieldStart
    (.boundsExceeded fieldStart (sizeFieldU64 count.toNat)
      (sizeFieldU64 ((typeBoundCeiling maxElements).getD 0))))
  let maxStreamU := min maxStream (2 ^ 32 - 1)
  lift (CdrReader.rejectIf (maxStreamU < count.toNat) fieldStart
    (.boundsExceeded fieldStart (sizeFieldU64 count.toNat) maxStream))
  pure (count, wrappingAdd countPos 4)

def readSequenceLength (maxElements : Option UInt32) : GuardedRead UInt32 := do
  let (count, dataStart) ← sequenceCount maxElements
  lift (CdrReader.seek dataStart)
  pure count

def readByteSequence (maxElements : Option UInt32) : GuardedRead Span := do
  let r ← get
  let fieldStart := r.offset
  let remAtStart := r.remaining
  let (count, dataStart) ← sequenceCount maxElements
  let headerAndPad := dataStart - fieldStart
  let totalNeeded ← lift (CdrReader.orReject (checkedAddUsize headerAndPad count.toNat) fieldStart
    (.lengthOverflow fieldStart 0 remAtStart))
  lift (CdrReader.rejectIf (remAtStart < totalNeeded) fieldStart
    (.truncated fieldStart totalNeeded remAtStart))
  let dataEnd := wrappingAdd dataStart count.toNat
  lift (CdrReader.seek dataEnd)
  let b ← slice dataStart dataEnd
  pure ⟨dataStart, b⟩

/-! ## The rules of guarded reads -/

variable {α β : Type} {r r' : CdrReader}

theorem lift_ok_iff {x : CdrRead α} {a : α} : lift x r = .ok a r' ↔ x r = .ok a r' := by
  unfold lift
  cases x r <;> simp

/-- **Two reads that begin alike** are alike when what follows is, behind every success. -/
theorem lift_bind {x : CdrRead α} {f : α → CdrRead β} {g : α → GuardedRead β}
    (h : ∀ a r', x r = .ok a r' → g a r' = lift (f a) r') :
    (lift x >>= g) r = lift (x >>= f) r := by
  cases hx : x r with
  | ok a r' =>
    rw [bind_of_ok (lift_ok_iff.mpr hx), h a r' hx]
    unfold lift
    rw [bind_of_ok hx]
  | error e r' =>
    have hlift : lift x r = .error (.error e) r' := by rw [lift, hx]
    rw [bind_of_error hlift]
    unfold lift
    rw [bind_of_error hx]

theorem lift_map {x : CdrRead α} {y : GuardedRead α} (h : y r = lift x r) (f : α → β) :
    (f <$> y) r = lift (f <$> x) r := by
  show EStateM.map f y r = lift (EStateM.map f x) r
  simp only [EStateM.map, lift, h]
  cases x r <;> rfl

theorem wrappingAdd_eq {a b : ℕ} (h : a + b < 2 ^ 64) : wrappingAdd a b = a + b :=
  Nat.mod_eq_of_lt h

/-- A slice inside the input. -/
theorem slice_eq {start n : ℕ} (h : start + n ≤ r.bytes.length) :
    slice start (start + n) r = .ok (r.slice start n) r := by
  show (if start ≤ start + n ∧ start + n ≤ r.bytes.length then
    (pure (r.slice start (start + n - start)) : GuardedRead _) else throw .outside) r = _
  rw [if_pos ⟨Nat.le_add_right _ _, h⟩, Nat.add_sub_cancel_left]
  rfl

theorem readU32At_eq (hr : r.Valid) {pos : ℕ} (h : pos + 4 ≤ r.bytes.length) :
    readU32At pos r = .ok (r.readU32At pos) r := by
  have hlength := hr.length_lt
  show (slice pos (wrappingAdd pos 4) >>= _) r = _
  rw [wrappingAdd_eq (by omega), bind_of_ok (slice_eq h)]
  rfl

theorem index_eq {span : List UInt8} {n : ℕ} (h : span.length = n + 1) :
    ∃ b, index span n r = .ok b r ∧ span.getLast? = some b := by
  have hlast : span[n]? = span.getLast? := by
    rw [List.getLast?_eq_getElem?, h, Nat.add_sub_cancel]
  cases hb : span[n]? with
  | none =>
    rw [List.getElem?_eq_none_iff] at hb
    omega
  | some b =>
    refine ⟨b, ?_, hlast.symm.trans hb⟩
    rw [index, hb]
    rfl

theorem front_eq {span : List UInt8} {n : ℕ} (h : n ≤ span.length) :
    front span n r = .ok (span.take n) r := by
  rw [front, if_pos h]
  rfl

/-! ## Guarded reads are the reads -/

/-- A look at the reader. -/
theorem get_bind {f : CdrReader → CdrRead α} {g : CdrReader → GuardedRead α}
    (h : g r r = lift (f r) r) : (get >>= g) r = lift (get >>= f) r := h

theorem readUnsigned_eq (hr : r.Valid) (k : ℕ) :
    readUnsigned k r = lift (CdrReader.readUnsigned k) r := by
  have hlength := hr.length_lt
  unfold readUnsigned CdrReader.readUnsigned
  refine lift_bind fun _ r₁ h => ?_
  obtain ⟨hfits, rfl⟩ := (CdrReader.alignTo_ok_iff hr).mp h
  have hsum := wrappingAdd_eq (show r.offset + paddingFor r.offset k + k < 2 ^ 64 by omega)
  have hend : r.offset + paddingFor r.offset k + k ≤ r.bytes.length := by omega
  refine get_bind ?_
  show (slice (r.offset + paddingFor r.offset k)
    (wrappingAdd (r.offset + paddingFor r.offset k) k) >>= _) _ = _
  rw [hsum, bind_of_ok (slice_eq (by exact hend))]
  refine lift_bind fun _ _ _ => ?_
  rfl

theorem readBool_eq (hr : r.Valid) : readBool r = lift CdrReader.readBool r := by
  refine get_bind ?_
  have hread := lift_map (readUnsigned_eq hr 1) UInt8.ofNat
  refine (bind_congr_left hread).trans ?_
  refine lift_bind fun b r₁ _ => ?_
  exact lift_bind fun _ _ _ => rfl

theorem readBytes_eq (hr : r.Valid) (n : ℕ) :
    readBytes n r = lift (CdrReader.readBytes n) r := by
  have hlength := hr.length_lt
  unfold readBytes CdrReader.readBytes
  refine lift_bind fun _ r₁ h => ?_
  obtain ⟨hfits, rfl⟩ := (CdrReader.alignTo_ok_iff hr).mp h
  have hsum := wrappingAdd_eq (show r.offset + paddingFor r.offset 1 + n < 2 ^ 64 by omega)
  have hend : r.offset + paddingFor r.offset 1 + n ≤ r.bytes.length := by omega
  refine get_bind ?_
  show (lift (CdrReader.seek (wrappingAdd (r.offset + paddingFor r.offset 1) n)) >>= fun _ =>
    slice (r.offset + paddingFor r.offset 1)
      (wrappingAdd (r.offset + paddingFor r.offset 1) n) >>= _) _ = _
  rw [hsum]
  refine lift_bind fun _ r₂ h => ?_
  obtain rfl := CdrReader.seek_ok_iff.mp h
  rw [bind_of_ok (slice_eq (by exact hend))]
  rfl

/-- Behind the preflight of a count the four bytes of the count are in the input. -/
theorem preflight_eq (hr : r.Valid) {α : Type} {f : ℕ → CdrRead α} {g : ℕ → GuardedRead α}
    (h : r.offset + (paddingFor r.offset 4 + 4) ≤ r.bytes.length →
      wrappingAdd r.offset (paddingFor r.offset 4) = r.offset + paddingFor r.offset 4 →
      wrappingAdd (r.offset + paddingFor r.offset 4) 4 = r.offset + paddingFor r.offset 4 + 4 →
      readU32At (r.offset + paddingFor r.offset 4) r =
        .ok (r.readU32At (r.offset + paddingFor r.offset 4)) r →
      g (paddingFor r.offset 4) r = lift (f (paddingFor r.offset 4)) r) :
    (lift (CdrReader.preflight r.offset 4 4) >>= g) r =
      lift (CdrReader.preflight r.offset 4 4 >>= f) r := by
  have hlength := hr.length_lt
  refine lift_bind fun pad r₁ hpre => ?_
  obtain ⟨hfits, rfl, rfl⟩ := (CdrReader.preflight_ok_iff hr).mp hpre
  exact h hfits (wrappingAdd_eq (by omega)) (wrappingAdd_eq (by omega))
    (readU32At_eq hr (by omega))

/-- A rejection that does not come. -/
theorem rejectIf_bind {c : Prop} [Decidable c] {fieldStart : ℕ} {e : CdrError} {α : Type}
    {f : Unit → CdrRead α} {g : Unit → GuardedRead α} (h : ¬ c → g () r = lift (f ()) r) :
    (lift (CdrReader.rejectIf c fieldStart e) >>= g) r =
      lift (CdrReader.rejectIf c fieldStart e >>= f) r := by
  refine lift_bind fun _ r₁ hok => ?_
  obtain ⟨hc, rfl⟩ := CdrReader.rejectIf_ok_iff.mp hok
  exact h hc

theorem orReject_bind {o : Option β} {fieldStart : ℕ} {e : CdrError} {α : Type}
    {f : β → CdrRead α} {g : β → GuardedRead α} (h : ∀ b, o = some b → g b r = lift (f b) r) :
    (lift (CdrReader.orReject o fieldStart e) >>= g) r =
      lift (CdrReader.orReject o fieldStart e >>= f) r := by
  refine lift_bind fun b r₁ hok => ?_
  obtain ⟨hb, rfl⟩ := CdrReader.orReject_ok_iff.mp hok
  exact h b hb

theorem rejectIf_congr {c d : Prop} [Decidable c] [Decidable d] (h : c = d) (fieldStart : ℕ)
    (e : CdrError) : CdrReader.rejectIf c fieldStart e = CdrReader.rejectIf d fieldStart e := by
  unfold CdrReader.rejectIf
  exact if_congr (iff_of_eq h) rfl rfl

theorem sequenceCount_eq (hr : r.Valid) (maxElements : Option UInt32) :
    sequenceCount maxElements r = lift (CdrReader.sequenceCount maxElements) r := by
  refine get_bind (preflight_eq hr fun hfits hpos hstop hcount => ?_)
  rw [hpos, bind_of_ok hcount]
  refine rejectIf_bind fun _ => rejectIf_bind fun _ => ?_
  rw [hstop]
  rfl

theorem readSequenceLength_eq (hr : r.Valid) (maxElements : Option UInt32) :
    readSequenceLength maxElements r = lift (CdrReader.readSequenceLength maxElements) r := by
  refine (bind_congr_left (sequenceCount_eq hr maxElements)).trans ?_
  exact lift_bind fun p r₁ _ => lift_bind fun _ _ _ => rfl

theorem readByteSequence_eq (hr : r.Valid) (maxElements : Option UInt32) :
    readByteSequence maxElements r = lift (CdrReader.readByteSequence maxElements) r := by
  have hlength := hr.length_lt
  have hoffset := hr.offset_le
  refine get_bind ?_
  refine (bind_congr_left (sequenceCount_eq hr maxElements)).trans ?_
  refine lift_bind fun p r₁ hcount => ?_
  obtain ⟨count, dataStart⟩ := p
  obtain ⟨-, hfits, -, rfl, rfl⟩ := (CdrReader.sequenceCount_ok_iff hr).mp hcount
  refine orReject_bind fun total htotal => ?_
  obtain ⟨-, rfl⟩ := checkedAddUsize_eq_some_iff.mp htotal
  refine rejectIf_bind fun hrem => ?_
  have hremaining : r.remaining = r.bytes.length - r.offset := rfl
  have hend : r.offset + paddingFor r.offset 4 + 4 + count.toNat ≤ r.bytes.length := by omega
  have hsum := wrappingAdd_eq (show r.offset + paddingFor r.offset 4 + 4 + count.toNat < 2 ^ 64 by
    omega)
  rw [hsum]
  refine lift_bind fun _ r₂ h => ?_
  obtain rfl := CdrReader.seek_ok_iff.mp h
  rw [bind_of_ok (slice_eq (by exact hend))]
  rfl

/-- The guarded loop over the slots is the loop, and a slot that is refused rejects the field. -/
theorem readSlots_eq (hr : r.Valid) {fieldStart remAtStart dataStart : ℕ} (k count : ℕ)
    (h : dataStart + (k + count) * 4 ≤ r.bytes.length) :
    readSlots fieldStart remAtStart dataStart k count r =
      lift (CdrReader.orReject (r.readSlots (dataStart + k * 4) count) fieldStart
        (.invalidWstringScalar fieldStart remAtStart)) r := by
  have hlength := hr.length_lt
  induction count generalizing k with
  | zero => rfl
  | succ count ih =>
    have hsum := wrappingAdd_eq (show dataStart + k * 4 < 2 ^ 64 by omega)
    have hslot := readU32At_eq hr (show dataStart + k * 4 + 4 ≤ r.bytes.length by omega)
    have hnext : dataStart + (k + 1) * 4 = dataStart + k * 4 + 4 := by omega
    have hrest := ih (k + 1) (by omega)
    rw [hnext] at hrest
    rw [readSlots, hsum, bind_of_ok hslot, CdrReader.readSlots]
    cases haccepted : isAcceptedWstringScalar (r.readU32At (dataStart + k * 4)) with
    | false => rfl
    | true =>
      refine (bind_congr_left hrest).trans ?_
      cases r.readSlots (dataStart + k * 4 + 4) count <;> rfl

theorem readWstring_eq (hr : r.Valid) (maxScalars : Option UInt32) :
    readWstring maxScalars r = lift (CdrReader.readWstring maxScalars) r := by
  have hlength := hr.length_lt
  have hoffset := hr.offset_le
  have hremaining : r.remaining = r.bytes.length - r.offset := rfl
  refine get_bind (preflight_eq hr fun hfits hpos hstop hcount => ?_)
  rw [hpos, bind_of_ok hcount, hstop]
  refine rejectIf_bind fun _ => rejectIf_bind fun _ => ?_
  refine orReject_bind fun headerAndPad hhead => orReject_bind fun total htotal => ?_
  obtain ⟨-, rfl⟩ := checkedAddUsize_eq_some_iff.mp hhead
  obtain ⟨-, rfl⟩ := checkedAddUsize_eq_some_iff.mp htotal
  refine rejectIf_bind fun hrem => rejectIf_bind fun _ => ?_
  have hend : r.offset + paddingFor r.offset 4 + 4 +
      (0 + (r.readU32At (r.offset + paddingFor r.offset 4)).toNat) * 4 ≤ r.bytes.length := by
    omega
  refine (bind_congr_left (readSlots_eq hr 0 _ hend)).trans ?_
  refine orReject_bind fun out _ => ?_
  rw [wrappingAdd_eq (by omega)]
  exact lift_bind fun _ _ _ => rfl

theorem readString_eq (hr : r.Valid) (maxBytes : Option UInt32) :
    readString maxBytes r = lift (CdrReader.readString maxBytes) r := by
  have hlength := hr.length_lt
  have hoffset := hr.offset_le
  have hremaining : r.remaining = r.bytes.length - r.offset := rfl
  refine get_bind (preflight_eq hr fun hfits hpos hstop hcount => ?_)
  rw [hpos, bind_of_ok hcount, hstop]
  refine rejectIf_bind fun hzero => rejectIf_bind fun _ => rejectIf_bind fun _ => ?_
  refine orReject_bind fun headerAndPad hhead => orReject_bind fun total htotal => ?_
  obtain ⟨-, rfl⟩ := checkedAddUsize_eq_some_iff.mp hhead
  obtain ⟨-, rfl⟩ := checkedAddUsize_eq_some_iff.mp htotal
  refine rejectIf_bind fun hrem => rejectIf_bind fun _ => ?_
  obtain ⟨payload, hlen⟩ := Nat.exists_eq_succ_of_ne_zero hzero
  have hend : r.offset + paddingFor r.offset 4 + 4 +
      (r.readU32At (r.offset + paddingFor r.offset 4)).toNat ≤ r.bytes.length := by
    omega
  have hspan := CdrReader.length_slice hend
  rw [wrappingAdd_eq (by omega), bind_of_ok (slice_eq hend)]
  rw [hlen, Nat.succ_eq_add_one] at hspan ⊢
  rw [Nat.add_sub_cancel]
  obtain ⟨last, hindex, hlast⟩ := index_eq (r := r) hspan
  rw [bind_of_ok hindex]
  have hreject : (last ≠ 0) = ((r.slice (r.offset + paddingFor r.offset 4 + 4)
      (payload + 1)).getLast? ≠ some 0) := by
    rw [hlast, ne_eq, ne_eq, Option.some.injEq]
  rw [rejectIf_congr hreject]
  refine rejectIf_bind fun _ => ?_
  rw [bind_of_ok (front_eq (show payload ≤ _ by omega))]
  exact orReject_bind fun s _ => lift_bind fun _ _ _ => rfl

end GuardedRead

open GuardedRead in
/-- The guarded read of a kind. -/
def CdrFieldKind.readGuarded : CdrFieldKind → GuardedRead CdrField
  | u8 => .u8 <$> UInt8.ofNat <$> readUnsigned 1
  | u16 => .u16 <$> UInt16.ofNat <$> readUnsigned 2
  | u32 => .u32 <$> UInt32.ofNat <$> readUnsigned 4
  | u64 => .u64 <$> UInt64.ofNat <$> readUnsigned 8
  | i8 => .i8 <$> UInt8.toInt8 <$> UInt8.ofNat <$> readUnsigned 1
  | i16 => .i16 <$> UInt16.toInt16 <$> UInt16.ofNat <$> readUnsigned 2
  | i32 => .i32 <$> UInt32.toInt32 <$> UInt32.ofNat <$> readUnsigned 4
  | i64 => .i64 <$> UInt64.toInt64 <$> UInt64.ofNat <$> readUnsigned 8
  | bool => .bool <$> readBool
  | f32 => .f32 <$> UInt32.ofNat <$> readUnsigned 4
  | f64 => .f64 <$> UInt64.ofNat <$> readUnsigned 8
  | char8 => .char8 <$> UInt8.ofNat <$> readUnsigned 1
  | char16 => .char16 <$> UInt16.ofNat <$> readUnsigned 2
  | bytes n => (fun span => .bytes span.bytes) <$> readBytes n
  | string maxBytes => (.string · maxBytes) <$> readString maxBytes
  | wstring maxScalars => (.wstring · maxScalars) <$> readWstring maxScalars
  | sequenceLength maxElements => (.sequenceLength · maxElements) <$> readSequenceLength maxElements
  | byteSequence maxElements =>
    (fun span => .byteSequence span.bytes maxElements) <$> readByteSequence maxElements

open GuardedRead in
/-- **No read goes outside the input**: guarded, it does what it does unguarded. -/
theorem CdrFieldKind.readGuarded_eq {r : CdrReader} (hr : r.Valid) (kind : CdrFieldKind) :
    kind.readGuarded r = lift kind.read r := by
  cases kind with
  | u8 | u16 | u32 | u64 | f32 | f64 | char8 | char16 =>
    exact lift_map (lift_map (readUnsigned_eq hr _) _) _
  | i8 | i16 | i32 | i64 => exact lift_map (lift_map (lift_map (readUnsigned_eq hr _) _) _) _
  | bool => exact lift_map (readBool_eq hr) _
  | bytes n => exact lift_map (readBytes_eq hr n) _
  | string maxBytes => exact lift_map (readString_eq hr maxBytes) _
  | wstring maxScalars => exact lift_map (readWstring_eq hr maxScalars) _
  | sequenceLength maxElements => exact lift_map (readSequenceLength_eq hr maxElements) _
  | byteSequence maxElements => exact lift_map (readByteSequence_eq hr maxElements) _

/-! ## Every operation -/

/-- A read returns a field of its kind. -/
theorem CdrFieldKind.kind_of_read {r r' : CdrReader} (hr : r.Valid) {kind : CdrFieldKind}
    {f : CdrField} (h : kind.read r = .ok f r') : f.kind = kind := by
  cases kind with
  | bytes n =>
    obtain ⟨span, hread, rfl⟩ := map_ok_iff.mp h
    exact congrArg bytes ((CdrReader.readBytes_ok_iff hr).mp hread).1
  | _ =>
    obtain ⟨_, -, rfl⟩ := map_ok_iff.mp h
    rfl

/-- **The states a reader comes to**, from its opening by any reads, failed ones included. -/
inductive CdrReader.Reached (bytes : List UInt8) (limits : CdrLimits) : CdrReader → Prop
  | opened {r : CdrReader} : CdrReader.openWith bytes limits = .ok r → Reached bytes limits r
  | read {r r' : CdrReader} {kind : CdrFieldKind} {f : CdrField} : Reached bytes limits r →
      kind.read r = .ok f r' → Reached bytes limits r'
  | failed {r r' : CdrReader} {kind : CdrFieldKind} {e : CdrError} : Reached bytes limits r →
      kind.read r = .error e r' → Reached bytes limits r'
  | zeroTail {r r' : CdrReader} {n : ℕ} : Reached bytes limits r →
      CdrReader.ensureCompleteWithZeroTail n r = .ok () r' → Reached bytes limits r'

/-- **The states a writer comes to**, from its making by any writes, failed ones included. -/
inductive CdrWriter.Reached (endian : CdrEndian) (limits : CdrLimits) : CdrWriter → Prop
  | made {w : CdrWriter} : CdrWriter.new endian limits = .ok w → Reached endian limits w
  | wrote {w w' : CdrWriter} {f : CdrField} : Reached endian limits w →
      f.write w = .ok () w' → Reached endian limits w'
  | failed {w w' : CdrWriter} {f : CdrField} {e : CdrError} : Reached endian limits w →
      f.write w = .error e w' → Reached endian limits w'

/-- A reader that is reached is over its input and within it. -/
theorem CdrReader.Reached.valid {bytes : List UInt8} {limits : CdrLimits} {r : CdrReader}
    (h : CdrReader.Reached bytes limits r) : r.Valid ∧ r.bytes = bytes ∧ r.limits = limits := by
  induction h with
  | opened hopen =>
    obtain ⟨hlimits, hlength, endian, options, body, hbytes, rfl⟩ := openWith_ok_iff.mp hopen
    refine ⟨⟨hlimits, le_refl _, ?_, hlength⟩, rfl, rfl⟩
    show bodyOrigin ≤ bytes.length
    rw [hbytes, List.length_append]
    exact Nat.le_add_right _ _
  | read _ hread ih =>
    obtain ⟨hvalid, hbytes, hlimits⟩ := ih
    obtain rfl := CdrFieldKind.kind_of_read hvalid hread
    have htakes := ((CdrField.read_ok_iff hvalid _).mp hread).2
    have hvalid' := htakes.valid hvalid
    obtain ⟨-, -, rfl⟩ := htakes
    exact ⟨hvalid', hbytes, hlimits⟩
  | failed _ hfail ih =>
    rw [CdrFieldKind.restores_read _ _ _ hfail]
    exact ih
  | zeroTail _ htail ih =>
    obtain ⟨hvalid, hbytes, hlimits⟩ := ih
    simp only [CdrReader.ensureCompleteWithZeroTail, bind_ok_iff, get_ok_iff, refuse_ok_iff] at htail
    obtain ⟨_, _, ⟨rfl, rfl⟩, _, _, ⟨-, rfl⟩, htail⟩ := htail
    split_ifs at htail
    · obtain ⟨-, rfl⟩ := pure_ok_iff.mp htail
      exact ⟨hvalid, hbytes, hlimits⟩
    · simp only [bind_ok_iff, refuse_ok_iff, CdrReader.seek_ok_iff] at htail
      obtain ⟨_, _, ⟨-, rfl⟩, _, _, ⟨-, rfl⟩, rfl⟩ := htail
      have hoffset := hvalid.offset_le
      refine ⟨⟨hvalid.limits, ?_, ?_, hvalid.length_le⟩, hbytes, hlimits⟩
      · exact hvalid.origin_le.trans (Nat.le_add_right _ _)
      · exact (Nat.add_sub_cancel' hoffset).le

/-- A writer that is reached is within its capacity. -/
theorem CdrWriter.Reached.valid {endian : CdrEndian} {limits : CdrLimits} {w : CdrWriter}
    (h : CdrWriter.Reached endian limits w) : w.Valid ∧ w.limits = limits := by
  induction h with
  | made hnew =>
    obtain ⟨hvalid, hlimits, -, -⟩ := writer_new_ok hnew
    exact ⟨hvalid, hlimits⟩
  | wrote _ hwrite ih =>
    obtain ⟨hvalid, hlimits⟩ := ih
    obtain ⟨-, hfits, rfl⟩ := (CdrField.write_ok_iff hvalid _).mp hwrite
    exact ⟨hvalid.put (by rwa [CdrField.length_body]), hlimits⟩
  | failed _ hfail ih =>
    rw [CdrField.restores_write ih.1 _ _ _ hfail]
    exact ih

/-- **Field operations are atomic and stay in bounds.**  From every state of a reader a read does
not go outside the input, leaves the cursor where it was when it fails, and moves it by the padding
and the size of the field it returns when it succeeds, within the input.  From every state of a
writer a write leaves the buffer as it was when it fails, and appends the padding and the bytes of
the field when it succeeds, within the capacity. -/
theorem fields_atomic :
    (∀ (bytes : List UInt8) (limits : CdrLimits) (r : CdrReader),
      CdrReader.Reached bytes limits r → ∀ kind : CdrFieldKind,
        (r.bytes = bytes ∧ bodyOrigin ≤ r.offset ∧ r.offset ≤ bytes.length) ∧
        kind.readGuarded r = GuardedRead.lift kind.read r ∧
        (∀ r', kind.readGuarded r ≠ .error .outside r') ∧
        (∀ e r', kind.read r = .error e r' → r' = r) ∧
        ∀ f r', kind.read r = .ok f r' → f.kind = kind ∧
          r' = { r with offset := r.offset + (f.padding r.offset + f.width) } ∧
          r'.offset ≤ bytes.length) ∧
    (∀ (endian : CdrEndian) (limits : CdrLimits) (w : CdrWriter),
      CdrWriter.Reached endian limits w → ∀ f : CdrField,
        (w.capacity = min limits.maxStreamBytes limits.maxTemporaryAllocation ∧
          w.buf.length ≤ w.capacity) ∧
        (∀ e w', f.write w = .error e w' → w' = w) ∧
        ∀ w', f.write w = .ok () w' →
          w' = { w with buf := w.buf ++
            (List.replicate (f.padding w.buf.length) 0 ++ f.body w.endian) } ∧
          w'.buf.length = w.buf.length + (f.padding w.buf.length + f.width) ∧
          w'.buf.length ≤ w'.capacity) := by
  constructor
  · intro bytes limits r hreached kind
    obtain ⟨hr, rfl, rfl⟩ := hreached.valid
    have hguarded := kind.readGuarded_eq hr
    refine ⟨⟨rfl, hr.origin_le, hr.offset_le⟩, hguarded, ?_, kind.restores_read, ?_⟩
    · intro r' houtside
      rw [hguarded, GuardedRead.lift] at houtside
      cases hread : kind.read r with
      | ok f r₁ =>
        rw [hread] at houtside
        cases houtside
      | error e r₁ =>
        rw [hread] at houtside
        cases houtside
    · intro f r' hread
      obtain rfl := CdrFieldKind.kind_of_read hr hread
      obtain ⟨-, hfits, -, rfl⟩ := (f.read_ok_iff hr).mp hread
      rw [f.length_body] at hfits ⊢
      exact ⟨rfl, rfl, hfits⟩
  · intro endian limits w hreached f
    obtain ⟨hw, rfl⟩ := hreached.valid
    refine ⟨⟨hw.capacity, hw.length_le⟩, f.restores_write hw, ?_⟩
    intro w' hwrite
    obtain ⟨-, hfits, rfl⟩ := (f.write_ok_iff hw).mp hwrite
    have hlength : (w.put (f.padding w.buf.length) (f.body w.endian)).buf.length =
        w.buf.length + (f.padding w.buf.length + f.width) := by
      simp [CdrWriter.put]
    refine ⟨rfl, hlength, ?_⟩
    rw [hlength]
    exact hfits

end Cdr
end Rclweb
