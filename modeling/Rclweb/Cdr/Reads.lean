import Rclweb.Cdr.Writes

/-!
# What a read does

Every read takes the padding of its field, whatever it holds, and the body of the field it
returns, when that field is `Readable` (`read_ok_iff`).
-/

namespace Rclweb

open BigEndian Attempts

namespace Cdr
namespace CdrReader

/-- **The invariant of a reader.** -/
structure Valid (r : CdrReader) : Prop where
  limits : r.limits.Valid
  origin_le : bodyOrigin ≤ r.offset
  offset_le : r.offset ≤ r.bytes.length
  length_le : r.bytes.length ≤ r.limits.maxStreamBytes

variable {r r' : CdrReader} {u : Unit}

theorem Valid.length_lt (hr : r.Valid) : r.bytes.length < 2 ^ 32 := by
  have hlength := hr.length_le
  have hstream := hr.limits.stream_le
  unfold defaultMaxStreamBytes at hstream
  omega

/-- **A field behind its padding, taken from the input.** -/
structure Takes (r : CdrReader) (pad : ℕ) (body : List UInt8) (r' : CdrReader) : Prop where
  fits : r.offset + (pad + body.length) ≤ r.bytes.length
  slice_eq : r.slice (r.offset + pad) body.length = body
  next : { r with offset := r.offset + (pad + body.length) } = r'

/-! ## Slices -/

theorem length_slice {pos n : ℕ} (h : pos + n ≤ r.bytes.length) : (r.slice pos n).length = n := by
  rw [slice, List.length_take, List.length_drop]
  omega

theorem slice_add (pos m n : ℕ) : r.slice pos (m + n) = r.slice pos m ++ r.slice (pos + m) n := by
  rw [slice, slice, slice, List.take_add, List.drop_drop]

/-- A slice is two strings joined exactly when its two parts are the strings. -/
theorem slice_eq_append_iff {pos m : ℕ} {a b : List UInt8} (ha : a.length = m)
    (h : pos + (m + b.length) ≤ r.bytes.length) :
    r.slice pos (m + b.length) = a ++ b ↔
      r.slice pos m = a ∧ r.slice (pos + m) b.length = b := by
  rw [slice_add]
  exact List.append_eq_append_iff_of_size_eq_left (by rw [length_slice (by omega), ha])

/-- The number at a position is the one whose bytes stand there. -/
theorem readU32At_toNat_iff {pos n : ℕ} (h : pos + 4 ≤ r.bytes.length) :
    (r.readU32At pos).toNat = n ↔ n < 2 ^ 32 ∧ r.slice pos 4 = r.endian.toBytes 4 n := by
  have hlen : (r.slice pos 4).length = 4 := length_slice h
  have hlt : r.endian.ofBytes (r.slice pos 4) < 2 ^ 32 := by
    have := r.endian.ofBytes_lt (r.slice pos 4)
    rw [hlen] at this
    exact this
  rw [readU32At, UInt32.toNat_ofNat_of_lt' hlt]
  constructor
  · rintro rfl
    exact ⟨hlt, (r.endian.eq_toBytes_iff hlt).mpr ⟨hlen, rfl⟩⟩
  · rintro ⟨hn, hslice⟩
    exact ((r.endian.eq_toBytes_iff hn).mp hslice).2

/-! ## The steps of a read -/

@[simp] theorem seek_ok_iff {offset : ℕ} :
    seek offset r = .ok u r' ↔ { r with offset } = r' := by
  simp [seek]

@[simp] theorem rejectIf_ok_iff {c : Prop} [Decidable c] {fieldStart : ℕ} {e : CdrError} :
    rejectIf c fieldStart e r = .ok u r' ↔ ¬ c ∧ r = r' := by
  unfold rejectIf
  by_cases hc : c
  · rw [if_pos hc]
    simp [hc, bind_ok_iff]
  · rw [if_neg hc]
    simp [hc]

@[simp] theorem orReject_ok_iff {α : Type} {o : Option α} {fieldStart : ℕ} {e : CdrError} {a : α} :
    orReject o fieldStart e r = .ok a r' ↔ o = some a ∧ r = r' := by
  cases o <;> simp [orReject, bind_ok_iff]

theorem preflight_ok_iff (hr : r.Valid) {align size pad : ℕ} :
    preflight r.offset align size r = .ok pad r' ↔
      r.offset + (paddingFor r.offset align + size) ≤ r.bytes.length ∧
        paddingFor r.offset align = pad ∧ r = r' := by
  have hlength := hr.length_lt
  have hoffset := hr.offset_le
  simp only [preflight, bind_ok_iff, get_ok_iff, orReject_ok_iff, checkedAddUsize_eq_some_iff,
    rejectIf_ok_iff, pure_ok_iff]
  constructor
  · rintro ⟨_, _, ⟨rfl, rfl⟩, _, _, ⟨⟨-, rfl⟩, rfl⟩, _, _, ⟨-, rfl⟩, _, _, ⟨hrem, rfl⟩, rfl, rfl⟩
    exact ⟨by omega, rfl, rfl⟩
  · rintro ⟨hfits, rfl, rfl⟩
    exact ⟨_, _, ⟨rfl, rfl⟩, _, _, ⟨⟨by omega, rfl⟩, rfl⟩, (), _, ⟨by omega, rfl⟩, (), _,
      ⟨by omega, rfl⟩, rfl, rfl⟩

/-! The rest of a read behind a step that leaves the reader alone -/

section Rest

variable {α β : Type} {a : α} {fieldStart : ℕ} {e : CdrError}

theorem get_bind_ok_iff {f : CdrReader → CdrRead α} :
    (get >>= f) r = .ok a r' ↔ f r r = .ok a r' := Iff.rfl

theorem rejectIf_bind_ok_iff {c : Prop} [Decidable c] {f : Unit → CdrRead α} :
    (rejectIf c fieldStart e >>= f) r = .ok a r' ↔ ¬ c ∧ f () r = .ok a r' := by
  rw [bind_ok_iff]
  constructor
  · rintro ⟨_, _, hreject, hrest⟩
    obtain ⟨hc, rfl⟩ := rejectIf_ok_iff.mp hreject
    exact ⟨hc, hrest⟩
  · exact fun ⟨hc, hrest⟩ => ⟨(), r, rejectIf_ok_iff.mpr ⟨hc, rfl⟩, hrest⟩

theorem orReject_bind_ok_iff {o : Option β} {f : β → CdrRead α} :
    (orReject o fieldStart e >>= f) r = .ok a r' ↔ ∃ b, o = some b ∧ f b r = .ok a r' := by
  rw [bind_ok_iff]
  constructor
  · rintro ⟨b, _, hread, hrest⟩
    obtain ⟨hb, rfl⟩ := orReject_ok_iff.mp hread
    exact ⟨b, hb, hrest⟩
  · exact fun ⟨b, hb, hrest⟩ => ⟨b, r, orReject_ok_iff.mpr ⟨hb, rfl⟩, hrest⟩

theorem preflight_bind_ok_iff (hr : r.Valid) {align size : ℕ} {f : ℕ → CdrRead α} :
    (preflight r.offset align size >>= f) r = .ok a r' ↔
      r.offset + (paddingFor r.offset align + size) ≤ r.bytes.length ∧
        f (paddingFor r.offset align) r = .ok a r' := by
  rw [bind_ok_iff]
  constructor
  · rintro ⟨_, _, hpre, hrest⟩
    obtain ⟨hfits, rfl, rfl⟩ := (preflight_ok_iff hr).mp hpre
    exact ⟨hfits, hrest⟩
  · exact fun ⟨hfits, hrest⟩ => ⟨_, r, (preflight_ok_iff hr).mpr ⟨hfits, rfl, rfl⟩, hrest⟩

theorem seek_pure_ok_iff {offset : ℕ} {b : α} :
    (do seek offset; pure b : CdrRead α) r = .ok a r' ↔ b = a ∧ { r with offset } = r' := by
  rw [bind_ok_iff]
  constructor
  · rintro ⟨_, _, hseek, hpure⟩
    obtain rfl := seek_ok_iff.mp hseek
    exact pure_ok_iff.mp hpure
  · exact fun h => ⟨(), _, seek_ok_iff.mpr rfl, pure_ok_iff.mpr h⟩

end Rest

theorem alignTo_ok_iff (hr : r.Valid) {align size : ℕ} :
    alignTo align size r = .ok u r' ↔
      r.offset + (paddingFor r.offset align + size) ≤ r.bytes.length ∧
        { r with offset := r.offset + paddingFor r.offset align } = r' := by
  simp only [alignTo, bind_ok_iff, get_ok_iff, seek_ok_iff]
  constructor
  · rintro ⟨_, _, ⟨rfl, rfl⟩, pad, _, hpre, rfl⟩
    obtain ⟨hfits, rfl, rfl⟩ := (preflight_ok_iff hr).mp hpre
    exact ⟨hfits, rfl⟩
  · rintro ⟨hfits, rfl⟩
    exact ⟨_, _, ⟨rfl, rfl⟩, _, _, (preflight_ok_iff hr).mpr ⟨hfits, rfl, rfl⟩, rfl⟩

/-! ## Numbers -/

theorem readUnsigned_ok_iff (hr : r.Valid) {k n : ℕ} :
    readUnsigned k r = .ok n r' ↔
      n < 256 ^ k ∧ r.Takes (paddingFor r.offset k) (r.endian.toBytes k n) r' := by
  simp only [readUnsigned, bind_ok_iff, alignTo_ok_iff hr, get_ok_iff, seek_ok_iff, pure_ok_iff]
  constructor
  · rintro ⟨_, _, ⟨hfits, rfl⟩, _, _, ⟨rfl, rfl⟩, _, _, rfl, rfl, rfl⟩
    have hlen : (r.slice (r.offset + paddingFor r.offset k) k).length = k :=
      length_slice (by omega)
    have hlt := r.endian.ofBytes_lt (r.slice (r.offset + paddingFor r.offset k) k)
    rw [hlen] at hlt
    refine ⟨hlt, ⟨?_, ?_, ?_⟩⟩
    · rwa [CdrEndian.length_toBytes]
    · rw [CdrEndian.length_toBytes]
      exact (r.endian.eq_toBytes_iff hlt).mpr ⟨hlen, rfl⟩
    · rw [CdrEndian.length_toBytes, ← Nat.add_assoc]
  · rintro ⟨hlt, hfits, hslice, rfl⟩
    rw [CdrEndian.length_toBytes] at hfits hslice
    refine ⟨(), _, ⟨hfits, rfl⟩, _, _, ⟨rfl, rfl⟩, (), _, rfl, ?_, ?_⟩
    · exact ((r.endian.eq_toBytes_iff hlt).mp hslice).2
    · rw [CdrEndian.length_toBytes, ← Nat.add_assoc]

/-- A read that wraps the number it takes in a type of `k`-byte numbers. -/
theorem map_readUnsigned_ok_iff (hr : r.Valid) {k : ℕ} {α : Type} {ofNat : ℕ → α} {toNat : α → ℕ}
    (hto : ∀ n < 256 ^ k, toNat (ofNat n) = n) (hlt : ∀ v, toNat v < 256 ^ k)
    (hof : ∀ v, ofNat (toNat v) = v) {v : α} :
    (ofNat <$> readUnsigned k) r = .ok v r' ↔
      r.Takes (paddingFor r.offset k) (r.endian.toBytes k (toNat v)) r' := by
  rw [map_ok_iff]
  constructor
  · rintro ⟨n, hread, rfl⟩
    obtain ⟨hn, htakes⟩ := (readUnsigned_ok_iff hr).mp hread
    rwa [hto n hn]
  · exact fun htakes => ⟨toNat v, (readUnsigned_ok_iff hr).mpr ⟨hlt v, htakes⟩, hof v⟩

theorem readU8_ok_iff (hr : r.Valid) {v : UInt8} :
    readU8 r = .ok v r' ↔ r.Takes (paddingFor r.offset 1) (r.endian.toBytes 1 v.toNat) r' :=
  map_readUnsigned_ok_iff hr (fun _ hn => UInt8.toNat_ofNat_of_lt' hn) (fun v => v.toNat_lt)
    (fun _ => UInt8.ofNat_toNat)

theorem readU16_ok_iff (hr : r.Valid) {v : UInt16} :
    readU16 r = .ok v r' ↔ r.Takes (paddingFor r.offset 2) (r.endian.toBytes 2 v.toNat) r' :=
  map_readUnsigned_ok_iff hr (fun _ hn => UInt16.toNat_ofNat_of_lt' hn) (fun v => v.toNat_lt)
    (fun _ => UInt16.ofNat_toNat)

theorem readU32_ok_iff (hr : r.Valid) {v : UInt32} :
    readU32 r = .ok v r' ↔ r.Takes (paddingFor r.offset 4) (r.endian.toBytes 4 v.toNat) r' :=
  map_readUnsigned_ok_iff hr (fun _ hn => UInt32.toNat_ofNat_of_lt' hn) (fun v => v.toNat_lt)
    (fun _ => UInt32.ofNat_toNat)

theorem readU64_ok_iff (hr : r.Valid) {v : UInt64} :
    readU64 r = .ok v r' ↔ r.Takes (paddingFor r.offset 8) (r.endian.toBytes 8 v.toNat) r' :=
  map_readUnsigned_ok_iff hr (fun _ hn => UInt64.toNat_ofNat_of_lt' hn) (fun v => v.toNat_lt)
    (fun _ => UInt64.ofNat_toNat)

theorem readBool_ok_iff (hr : r.Valid) {v : Bool} :
    readBool r = .ok v r' ↔
      r.Takes (paddingFor r.offset 1) (r.endian.toBytes 1 (if v then 1 else 0)) r' := by
  simp only [readBool, bind_ok_iff, get_ok_iff, rejectIf_ok_iff, pure_ok_iff]
  constructor
  · rintro ⟨_, _, ⟨rfl, rfl⟩, b, _, hread, _, _, ⟨hb, rfl⟩, rfl, rfl⟩
    have htakes := (readU8_ok_iff hr).mp hread
    by_cases hzero : b = 0
    · subst hzero
      exact htakes
    · have hone : b = 1 := by
        by_contra hone
        exact hb ⟨hzero, hone⟩
      subst hone
      exact htakes
  · intro htakes
    have hread : readU8 r = .ok (if v then 1 else 0) r' := by
      rw [readU8_ok_iff hr]
      cases v <;> exact htakes
    refine ⟨_, _, ⟨rfl, rfl⟩, _, _, hread, (), _, ⟨?_, rfl⟩, ?_, rfl⟩
    · cases v <;> simp
    · cases v <;> rfl

theorem readI8_ok_iff (hr : r.Valid) {v : Int8} :
    readI8 r = .ok v r' ↔
      r.Takes (paddingFor r.offset 1) (r.endian.toBytes 1 v.toUInt8.toNat) r' := by
  rw [← readU8_ok_iff hr, ← Int8.toInt8_toUInt8 v]
  exact map_injective_ok_iff fun a a' h => by simpa using congrArg Int8.toUInt8 h

theorem readI16_ok_iff (hr : r.Valid) {v : Int16} :
    readI16 r = .ok v r' ↔
      r.Takes (paddingFor r.offset 2) (r.endian.toBytes 2 v.toUInt16.toNat) r' := by
  rw [← readU16_ok_iff hr, ← Int16.toInt16_toUInt16 v]
  exact map_injective_ok_iff fun a a' h => by simpa using congrArg Int16.toUInt16 h

theorem readI32_ok_iff (hr : r.Valid) {v : Int32} :
    readI32 r = .ok v r' ↔
      r.Takes (paddingFor r.offset 4) (r.endian.toBytes 4 v.toUInt32.toNat) r' := by
  rw [← readU32_ok_iff hr, ← Int32.toInt32_toUInt32 v]
  exact map_injective_ok_iff fun a a' h => by simpa using congrArg Int32.toUInt32 h

theorem readI64_ok_iff (hr : r.Valid) {v : Int64} :
    readI64 r = .ok v r' ↔
      r.Takes (paddingFor r.offset 8) (r.endian.toBytes 8 v.toUInt64.toNat) r' := by
  rw [← readU64_ok_iff hr, ← Int64.toInt64_toUInt64 v]
  exact map_injective_ok_iff fun a a' h => by simpa using congrArg Int64.toUInt64 h

/-! ## Bytes, texts and sequences -/

theorem readBytes_ok_iff (hr : r.Valid) {n : ℕ} {span : Span} :
    readBytes n r = .ok span r' ↔ span.bytes.length = n ∧ span.start = r.offset ∧
      r.Takes (paddingFor r.offset 1) span.bytes r' := by
  have hpad : paddingFor r.offset 1 = 0 := paddingFor_one _
  simp only [readBytes, bind_ok_iff, alignTo_ok_iff hr, get_ok_iff, seek_ok_iff, pure_ok_iff, hpad]
  constructor
  · rintro ⟨_, _, ⟨hfits, rfl⟩, _, _, ⟨rfl, rfl⟩, _, _, rfl, rfl, rfl⟩
    have hlen : (r.slice (r.offset + 0) n).length = n := length_slice (by omega)
    refine ⟨hlen, rfl, ⟨?_, ?_, ?_⟩⟩
    · show r.offset + (0 + (r.slice (r.offset + 0) n).length) ≤ _
      rwa [hlen]
    · show r.slice (r.offset + 0) (r.slice (r.offset + 0) n).length = _
      rw [hlen]
      rfl
    · show ({ r with offset := r.offset + (0 + (r.slice (r.offset + 0) n).length) } : CdrReader) = _
      rw [hlen, Nat.zero_add]
      rfl
  · rintro ⟨rfl, hstart, hfits, hslice, rfl⟩
    obtain ⟨start, bytes⟩ := span
    obtain rfl : start = r.offset := hstart
    refine ⟨(), _, ⟨hfits, rfl⟩, _, _, ⟨rfl, rfl⟩, (), _, rfl, ?_, by simp⟩
    exact congrArg (Span.mk r.offset) hslice

theorem ofUtf8?_eq_some_iff {bytes : List UInt8} {s : String} :
    ofUtf8? bytes = some s ↔ bytes = utf8 s :=
  ⟨fun h => (utf8_of_ofUtf8? h).symm, fun h => h ▸ ofUtf8?_utf8 s⟩

/-- What stands behind a length field of four bytes, in terms of the whole body. -/
theorem takes_prefixed_iff {pad n : ℕ} {bytes : List UInt8} (hn : n < 2 ^ 32) :
    r.Takes pad (r.endian.toBytes 4 n ++ bytes) r' ↔
      r.offset + (pad + (4 + bytes.length)) ≤ r.bytes.length ∧
        (r.readU32At (r.offset + pad)).toNat = n ∧
          r.slice (r.offset + pad + 4) bytes.length = bytes ∧
            { r with offset := r.offset + (pad + (4 + bytes.length)) } = r' := by
  have hlen : (r.endian.toBytes 4 n ++ bytes).length = 4 + bytes.length := by simp
  constructor
  · rintro ⟨hfits, hslice, hnext⟩
    rw [hlen] at hfits hslice hnext
    obtain ⟨hhead, hbytes⟩ := (slice_eq_append_iff (r.endian.length_toBytes 4 n)
      (by omega)).mp hslice
    exact ⟨hfits, (readU32At_toNat_iff (by omega)).mpr ⟨hn, hhead⟩, hbytes, hnext⟩
  · rintro ⟨hfits, hcount, hbytes, hnext⟩
    obtain ⟨-, hhead⟩ := (readU32At_toNat_iff (by omega)).mp hcount
    refine ⟨by rwa [hlen], ?_, by rwa [hlen]⟩
    rw [hlen]
    exact (slice_eq_append_iff (r.endian.length_toBytes 4 n) (by omega)).mpr ⟨hhead, hbytes⟩

/-- A span ends on a NUL behind a text exactly when it is the text and a NUL. -/
theorem terminated_iff {span : List UInt8} {payload : ℕ} (hlen : span.length = payload + 1)
    {s : String} : span.getLast? = some 0 ∧ span.take payload = utf8 s ↔
      span = utf8 s ++ [0] := by
  constructor
  · rintro ⟨hlast, htake⟩
    have hspan := List.dropLast_append_getLast? _ hlast
    rw [List.dropLast_eq_take, hlen, Nat.add_sub_cancel, htake] at hspan
    exact hspan.symm
  · rintro rfl
    have hpayload : payload = (utf8 s).length := by simpa using hlen.symm
    rw [hpayload]
    exact ⟨by simp, by simp⟩

theorem readString_ok_iff (hr : r.Valid) {maxBytes : Option UInt32} {s : String} :
    readString maxBytes r = .ok s r' ↔
      (WithinBound maxBytes (utf8 s).length ∧ (utf8 s).length + 1 ≤ r.limits.maxStreamBytes ∧
        (utf8 s).length * 2 ≤ r.limits.maxTemporaryAllocation) ∧
      r.Takes (paddingFor r.offset 4)
        (r.endian.toBytes 4 ((utf8 s).length + 1) ++ (utf8 s ++ [0])) r' := by
  have hoffset := hr.offset_le
  have hlength := hr.length_lt
  have hstream := hr.limits.stream_le
  have hpad := paddingFor_lt (show 0 < 4 by decide) r.offset
  unfold defaultMaxStreamBytes at hstream
  have hremaining : r.remaining = r.bytes.length - r.offset := rfl
  have htext : (utf8 s ++ [0]).length = (utf8 s).length + 1 := by simp
  simp only [readString, get_bind_ok_iff, preflight_bind_ok_iff hr, rejectIf_bind_ok_iff,
    orReject_bind_ok_iff, seek_pure_ok_iff, checkedAddUsize_eq_some_iff, ofUtf8?_eq_some_iff,
    not_not, and_assoc, exists_and_left, exists_eq_left']
  constructor
  · rintro ⟨hfour, hzero, hbound, hmax, -, -, hrem, htemp, hlast, text, htake, rfl, rfl⟩
    obtain ⟨payload, hcount⟩ := Nat.exists_eq_succ_of_ne_zero hzero
    rw [Nat.succ_eq_add_one] at hcount
    rw [hcount, Nat.add_sub_cancel] at hbound htemp htake
    rw [hcount] at hmax hrem hlast ⊢
    have hspan := length_slice (show r.offset + paddingFor r.offset 4 + 4 + (payload + 1)
      ≤ r.bytes.length by omega)
    have htext' := (terminated_iff hspan).mp ⟨hlast, htake⟩
    have hpayload : payload = (utf8 text).length := by
      rw [htext'] at hspan
      simpa using hspan.symm
    subst hpayload
    refine ⟨hbound, by omega, by omega, (takes_prefixed_iff (by omega)).mpr ?_⟩
    rw [htext]
    exact ⟨by omega, hcount, htext', by congr 1; omega⟩
  · rintro ⟨hbound, hmax, htemp, htakes⟩
    obtain ⟨hfits, hcount, hslice, rfl⟩ := (takes_prefixed_iff (by omega)).mp htakes
    rw [htext] at hfits hslice
    have hspan := length_slice (show r.offset + paddingFor r.offset 4 + 4 + ((utf8 s).length + 1)
      ≤ r.bytes.length by omega)
    obtain ⟨hlast, htake⟩ := (terminated_iff hspan).mpr hslice
    rw [hcount, Nat.add_sub_cancel]
    exact ⟨by omega, by omega, hbound, by omega, by omega, by omega, by omega, by omega, hlast, s,
      htake, rfl, by rw [htext]; congr 1; omega⟩

/-- An accepted slot is the value of its character. -/
theorem ofNat_val_of_accepted {slot : UInt32} (h : isAcceptedWstringScalar slot = true) :
    (Char.ofNat slot.toNat).val.toNat = slot.toNat := by
  simp only [isAcceptedWstringScalar, Bool.or_eq_true, Bool.and_eq_true, decide_eq_true_eq,
    UInt32.le_iff_toNat_le, UInt32.reduceToNat] at h
  have hvalid : slot.toNat.isValidChar := by
    simp only [Nat.isValidChar]
    omega
  rw [Char.ofNat, dif_pos hvalid]
  rfl

/-- **The slots that read as a text are the slots of the text.** -/
theorem readSlots_eq_some_iff {pos count : ℕ} (h : pos + count * 4 ≤ r.bytes.length)
    {chars : List Char} :
    r.readSlots pos count = some chars ↔
      chars.length = count ∧ r.slice pos (count * 4) = CdrField.slots r.endian chars := by
  induction count generalizing pos chars with
  | zero =>
    have hslice : r.slice pos (0 * 4) = [] := by simp [slice]
    rw [readSlots, hslice, Option.some.injEq]
    constructor
    · rintro rfl
      exact ⟨rfl, rfl⟩
    · rintro ⟨hlen, -⟩
      exact (List.eq_nil_of_length_eq_zero hlen).symm
  | succ count ih =>
    have hslice : r.slice pos ((count + 1) * 4) = r.slice pos 4 ++ r.slice (pos + 4) (count * 4) := by
      rw [show (count + 1) * 4 = 4 + count * 4 by omega, slice_add]
    have hhead : (r.slice pos 4).length = 4 := length_slice (by omega)
    simp only [readSlots, Option.ite_none_right_eq_some, Option.map_eq_some_iff]
    constructor
    · rintro ⟨haccepted, rest, hrest, rfl⟩
      obtain ⟨rfl, htail⟩ := (ih (by omega)).mp hrest
      have hval := ofNat_val_of_accepted haccepted
      refine ⟨rfl, ?_⟩
      rw [hslice, htail]
      simp only [CdrField.slots, List.flatMap_cons, hval]
      congr 1
      exact ((readU32At_toNat_iff (by omega)).mp rfl).2
    · rintro ⟨hlen, heq⟩
      cases chars with
      | nil => simp at hlen
      | cons ch chars =>
        rw [hslice, CdrField.slots, List.flatMap_cons] at heq
        obtain ⟨hfirst, htail⟩ := List.append_inj heq (by simp [hhead])
        have hslot : (r.readU32At pos).toNat = ch.val.toNat :=
          (readU32At_toNat_iff (by omega)).mpr ⟨ch.val.toNat_lt, hfirst⟩
        have hval : r.readU32At pos = ch.val := UInt32.toNat_inj.mp hslot
        refine ⟨?_, chars, (ih (by omega)).mpr ⟨by simpa using hlen, htail⟩, ?_⟩
        · rw [hval]
          exact CdrWriter.isAcceptedWstringScalar_val ch
        · rw [hslot]
          simp

theorem readWstring_ok_iff (hr : r.Valid) {maxScalars : Option UInt32} {s : String} :
    readWstring maxScalars r = .ok s r' ↔
      (WithinBound maxScalars s.toList.length ∧ s.toList.length * 4 ≤ r.limits.maxStreamBytes ∧
        s.toList.length * 4 ≤ r.limits.maxTemporaryAllocation) ∧
      r.Takes (paddingFor r.offset 4)
        (r.endian.toBytes 4 s.toList.length ++ CdrField.slots r.endian s.toList) r' := by
  have hoffset := hr.offset_le
  have hlength := hr.length_lt
  have hstream := hr.limits.stream_le
  have hpad := paddingFor_lt (show 0 < 4 by decide) r.offset
  unfold defaultMaxStreamBytes at hstream
  have hremaining : r.remaining = r.bytes.length - r.offset := rfl
  simp only [readWstring, get_bind_ok_iff, preflight_bind_ok_iff hr, rejectIf_bind_ok_iff,
    orReject_bind_ok_iff, seek_pure_ok_iff, checkedAddUsize_eq_some_iff, not_not, and_assoc,
    exists_and_left, exists_eq_left']
  constructor
  · rintro ⟨hfour, hbound, hmax, -, -, hrem, htemp, chars, hslots, rfl, rfl⟩
    obtain ⟨hcount, hslice⟩ := (readSlots_eq_some_iff (by omega)).mp hslots
    rw [String.toList_ofList]
    rw [← hcount] at hbound hmax hrem htemp hslice ⊢
    refine ⟨hbound, by omega, by omega, (takes_prefixed_iff (by omega)).mpr ?_⟩
    rw [CdrField.length_slots]
    exact ⟨by omega, hcount.symm, hslice, by congr 1; omega⟩
  · rintro ⟨hbound, hmax, htemp, htakes⟩
    obtain ⟨hfits, hcount, hslice, rfl⟩ := (takes_prefixed_iff (by omega)).mp htakes
    rw [CdrField.length_slots] at hfits hslice
    rw [hcount]
    exact ⟨by omega, hbound, by omega, by omega, by omega, by omega, by omega, s.toList,
      (readSlots_eq_some_iff (by omega)).mpr ⟨rfl, hslice⟩, String.ofList_toList,
      by rw [CdrField.length_slots]; congr 1; omega⟩

theorem sequenceCount_ok_iff (hr : r.Valid) {maxElements : Option UInt32} {count : UInt32}
    {dataStart : ℕ} :
    sequenceCount maxElements r = .ok (count, dataStart) r' ↔
      (WithinBound maxElements count.toNat ∧ count.toNat ≤ r.limits.maxStreamBytes) ∧
        r.offset + (paddingFor r.offset 4 + 4) ≤ r.bytes.length ∧
          (r.readU32At (r.offset + paddingFor r.offset 4)).toNat = count.toNat ∧
            r.offset + paddingFor r.offset 4 + 4 = dataStart ∧ r = r' := by
  have hstream := hr.limits.stream_le
  unfold defaultMaxStreamBytes at hstream
  simp only [sequenceCount, bind_ok_iff, get_ok_iff, rejectIf_ok_iff, pure_ok_iff, not_not,
    Prod.mk.injEq]
  constructor
  · rintro ⟨_, _, ⟨rfl, rfl⟩, pad, _, hpre, _, _, ⟨hbound, rfl⟩, _, _, ⟨hmax, rfl⟩,
      ⟨rfl, rfl⟩, rfl⟩
    obtain ⟨hfour, rfl, rfl⟩ := (preflight_ok_iff hr).mp hpre
    exact ⟨⟨hbound, by omega⟩, hfour, rfl, rfl, rfl⟩
  · rintro ⟨⟨hbound, hmax⟩, hfour, hcount, rfl, rfl⟩
    rw [UInt32.toNat_inj] at hcount
    refine ⟨_, _, ⟨rfl, rfl⟩, _, _, (preflight_ok_iff hr).mpr ⟨hfour, rfl, rfl⟩, ?_⟩
    rw [hcount]
    exact ⟨(), _, ⟨hbound, rfl⟩, (), _, ⟨by omega, rfl⟩, ⟨rfl, rfl⟩, rfl⟩

theorem readSequenceLength_ok_iff (hr : r.Valid) {maxElements : Option UInt32} {length : UInt32} :
    readSequenceLength maxElements r = .ok length r' ↔
      (WithinBound maxElements length.toNat ∧ length.toNat ≤ r.limits.maxStreamBytes) ∧
        r.Takes (paddingFor r.offset 4) (r.endian.toBytes 4 length.toNat) r' := by
  simp only [readSequenceLength, bind_ok_iff, seek_ok_iff, pure_ok_iff]
  constructor
  · rintro ⟨⟨count, dataStart⟩, _, hcount, _, _, rfl, rfl, rfl⟩
    obtain ⟨hbounds, hfits, hread, rfl, rfl⟩ := (sequenceCount_ok_iff hr).mp hcount
    refine ⟨hbounds, ?_⟩
    have htakes := (@takes_prefixed_iff r _ (paddingFor r.offset 4) count.toNat []
      count.toNat_lt).mpr ⟨hfits, hread, by simp [slice], rfl⟩
    rwa [List.append_nil] at htakes
  · rintro ⟨hbounds, htakes⟩
    rw [← List.append_nil (r.endian.toBytes 4 length.toNat)] at htakes
    obtain ⟨hfits, hread, -, rfl⟩ := (takes_prefixed_iff length.toNat_lt).mp htakes
    exact ⟨_, _, (sequenceCount_ok_iff hr).mpr ⟨hbounds, hfits, hread, rfl, rfl⟩, (), _, rfl, rfl,
      rfl⟩

theorem readByteSequence_ok_iff (hr : r.Valid) {maxElements : Option UInt32} {span : Span} :
    readByteSequence maxElements r = .ok span r' ↔
      (WithinBound maxElements span.bytes.length ∧
        span.bytes.length ≤ r.limits.maxStreamBytes) ∧
      span.start = r.offset + paddingFor r.offset 4 + 4 ∧
      r.Takes (paddingFor r.offset 4)
        (r.endian.toBytes 4 span.bytes.length ++ span.bytes) r' := by
  have hoffset := hr.offset_le
  have hlength := hr.length_lt
  have hstream := hr.limits.stream_le
  have hpad := paddingFor_lt (show 0 < 4 by decide) r.offset
  unfold defaultMaxStreamBytes at hstream
  have hremaining : r.remaining = r.bytes.length - r.offset := rfl
  simp only [readByteSequence, bind_ok_iff, get_ok_iff, orReject_ok_iff, rejectIf_ok_iff,
    checkedAddUsize_eq_some_iff, seek_ok_iff, pure_ok_iff]
  constructor
  · rintro ⟨_, _, ⟨rfl, rfl⟩, ⟨count, dataStart⟩, _, hcount, _, _, ⟨⟨-, rfl⟩, rfl⟩, _, _,
      ⟨hrem, rfl⟩, _, _, rfl, rfl, rfl⟩
    obtain ⟨hbounds, hfits, hread, rfl, rfl⟩ := (sequenceCount_ok_iff hr).mp hcount
    have hend : ¬ r.remaining < r.offset + paddingFor r.offset 4 + 4 - r.offset + count.toNat :=
      hrem
    have hlen : (r.slice (r.offset + paddingFor r.offset 4 + 4) count.toNat).length
        = count.toNat := length_slice (by omega)
    have hlt := count.toNat_lt
    simp only [hlen]
    refine ⟨hbounds, trivial, (takes_prefixed_iff hlt).mpr ⟨?_, hread, ?_, ?_⟩⟩
    · rw [hlen]
      omega
    · rw [hlen]
    · rw [hlen]
      congr 1
      omega
  · rintro ⟨⟨hbound, hmax⟩, hstart, htakes⟩
    obtain ⟨start, bytes⟩ := span
    simp only at hbound hmax hstart htakes ⊢
    have hlt : bytes.length < 2 ^ 32 := by omega
    obtain ⟨hfits, hread, hslice, rfl⟩ := (takes_prefixed_iff hlt).mp htakes
    have hcount : (UInt32.ofNat bytes.length).toNat = bytes.length :=
      UInt32.toNat_ofNat_of_lt' hlt
    subst hstart
    refine ⟨_, _, ⟨rfl, rfl⟩, (UInt32.ofNat bytes.length, _), _,
      (sequenceCount_ok_iff hr).mpr ⟨?_, by omega, ?_, rfl, rfl⟩, ?_⟩
    · rw [hcount]
      exact ⟨hbound, hmax⟩
    · rw [hcount]
      exact hread
    · simp only [hcount]
      exact ⟨_, _, ⟨⟨by omega, rfl⟩, rfl⟩, (), _, ⟨by omega, rfl⟩, (), _, rfl,
        congrArg (Span.mk _) hslice, by congr 1; omega⟩

end CdrReader

/-- **A read returns a field exactly when the field is allowed and stands at the cursor**, behind
padding of any content, and then moves behind it. -/
theorem CdrField.read_ok_iff {r r' : CdrReader} (hr : r.Valid) (f : CdrField) :
    f.kind.read r = .ok f r' ↔
      f.Readable r.limits ∧ r.Takes (f.padding r.offset) (f.body r.endian) r' := by
  cases f with
  | u8 v =>
    exact (map_injective_ok_iff fun _ _ => u8.inj).trans
      ((CdrReader.readU8_ok_iff hr).trans (and_iff_right trivial).symm)
  | u16 v =>
    exact (map_injective_ok_iff fun _ _ => u16.inj).trans
      ((CdrReader.readU16_ok_iff hr).trans (and_iff_right trivial).symm)
  | u32 v =>
    exact (map_injective_ok_iff fun _ _ => u32.inj).trans
      ((CdrReader.readU32_ok_iff hr).trans (and_iff_right trivial).symm)
  | u64 v =>
    exact (map_injective_ok_iff fun _ _ => u64.inj).trans
      ((CdrReader.readU64_ok_iff hr).trans (and_iff_right trivial).symm)
  | i8 v =>
    exact (map_injective_ok_iff fun _ _ => i8.inj).trans
      ((CdrReader.readI8_ok_iff hr).trans (and_iff_right trivial).symm)
  | i16 v =>
    exact (map_injective_ok_iff fun _ _ => i16.inj).trans
      ((CdrReader.readI16_ok_iff hr).trans (and_iff_right trivial).symm)
  | i32 v =>
    exact (map_injective_ok_iff fun _ _ => i32.inj).trans
      ((CdrReader.readI32_ok_iff hr).trans (and_iff_right trivial).symm)
  | i64 v =>
    exact (map_injective_ok_iff fun _ _ => i64.inj).trans
      ((CdrReader.readI64_ok_iff hr).trans (and_iff_right trivial).symm)
  | bool v =>
    exact (map_injective_ok_iff fun _ _ => bool.inj).trans
      ((CdrReader.readBool_ok_iff hr).trans (and_iff_right trivial).symm)
  | f32 bits =>
    exact (map_injective_ok_iff fun _ _ => f32.inj).trans
      ((CdrReader.readU32_ok_iff hr).trans (and_iff_right trivial).symm)
  | f64 bits =>
    exact (map_injective_ok_iff fun _ _ => f64.inj).trans
      ((CdrReader.readU64_ok_iff hr).trans (and_iff_right trivial).symm)
  | char8 v =>
    exact (map_injective_ok_iff fun _ _ => char8.inj).trans
      ((CdrReader.readU8_ok_iff hr).trans (and_iff_right trivial).symm)
  | char16 v =>
    exact (map_injective_ok_iff fun _ _ => char16.inj).trans
      ((CdrReader.readU16_ok_iff hr).trans (and_iff_right trivial).symm)
  | string value maxBytes =>
    exact (map_injective_ok_iff fun _ _ h => (string.inj h).1).trans (CdrReader.readString_ok_iff hr)
  | wstring value maxScalars =>
    exact (map_injective_ok_iff fun _ _ h => (wstring.inj h).1).trans
      (CdrReader.readWstring_ok_iff hr)
  | sequenceLength length maxElements =>
    exact (map_injective_ok_iff fun _ _ h => (sequenceLength.inj h).1).trans
      (CdrReader.readSequenceLength_ok_iff hr)
  | bytes data =>
    rw [kind, CdrFieldKind.read, map_ok_iff]
    constructor
    · rintro ⟨span, hread, heq⟩
      obtain ⟨-, -, htakes⟩ := (CdrReader.readBytes_ok_iff hr).mp hread
      rw [bytes.inj heq] at htakes
      exact ⟨trivial, htakes⟩
    · rintro ⟨-, htakes⟩
      exact ⟨⟨r.offset, data⟩, (CdrReader.readBytes_ok_iff hr).mpr ⟨rfl, rfl, htakes⟩, rfl⟩
  | byteSequence value maxElements =>
    rw [kind, CdrFieldKind.read, map_ok_iff]
    constructor
    · rintro ⟨span, hread, heq⟩
      obtain ⟨hbounds, -, htakes⟩ := (CdrReader.readByteSequence_ok_iff hr).mp hread
      rw [(byteSequence.inj heq).1] at hbounds htakes
      exact ⟨hbounds, htakes⟩
    · rintro ⟨hbounds, htakes⟩
      exact ⟨⟨_, value⟩, (CdrReader.readByteSequence_ok_iff hr).mpr ⟨hbounds, rfl, htakes⟩, rfl⟩

end Cdr
end Rclweb
