import Rclweb.Protocol.Encode

/-!
# Extension areas, written and read

What the decoder makes of an area the encoder wrote.  The encoder checks the order of the types
and the lengths that fit the wire; the decoder also checks the fixed length of each assigned
type and the reserved bytes of a trace context.  `WellFormed` is that difference, record by
record, and `areaDecodes_iff` says that it decides.
-/

namespace Rclweb
namespace Extension

open BigEndian

/-! ## One record -/

/-- The bytes of a record: type, flags, length, value, zero bytes up to a multiple of four. -/
def tlvBytes (ext : R2wpExtension) : List UInt8 :=
  [ext.typeId, if ext.critical then 0x01 else 0x00] ++ toBytes 2 ext.value.length ++ ext.value ++
    Encode.padding (tlvHeaderLen + ext.value.length)

/-- **A record as its type wants it**: the fixed length of an assigned type, and zeros in the
reserved bytes of a trace context. -/
structure WellFormed (ext : R2wpExtension) : Prop where
  length : ∀ n ∈ fixedValueLen ext.typeId, ext.value.length = n
  reserved : ext.typeId = traceContextExtensionType →
    ∀ b ∈ (ext.value.drop traceReservedOffset).take traceReservedSize, b = 0

/-- A record whose type is not assigned and which may not be skipped. -/
def isUnknownCritical (ext : R2wpExtension) : Bool := !isAssigned ext.typeId && ext.critical

theorem firstNonzero_eq_none_iff {bytes : List UInt8} {start size : ℕ} :
    firstNonzero bytes start size = none ↔ ∀ b ∈ (bytes.drop start).take size, b = 0 := by
  rw [firstNonzero, Option.map_eq_none_iff, List.findIdx?_eq_none_iff]
  simp

theorem le_align4 (n : ℕ) : n ≤ align4 n := by
  rw [align4]
  omega

theorem align4_mod (n : ℕ) : align4 n % 4 = 0 := by
  rw [align4]
  omega

theorem length_tlvBytes (ext : R2wpExtension) :
    (tlvBytes ext).length = align4 (tlvHeaderLen + ext.value.length) := by
  have hle := le_align4 (tlvHeaderLen + ext.value.length)
  simp only [tlvBytes, Encode.padding, tlvHeaderLen, List.length_append, List.length_cons,
    List.length_nil, length_toBytes, List.length_replicate] at hle ⊢
  omega

/-- The bytes of a record as the decoder takes them apart. -/
theorem tlvBytes_eq (ext : R2wpExtension) (rest : List UInt8) : ∃ l₀ l₁,
    toBytes 2 ext.value.length = [l₀, l₁] ∧
      tlvBytes ext ++ rest = ext.typeId :: (if ext.critical then 0x01 else 0x00) :: l₀ :: l₁ ::
        (ext.value ++ (Encode.padding (tlvHeaderLen + ext.value.length) ++ rest)) := by
  refine ⟨_, _, rfl, ?_⟩
  simp [tlvBytes, toBytes]

section Tlv

variable {ext : R2wpExtension} {rest : List UInt8} {offset : ℕ} {prev : Option UInt8}

theorem checkTypeOrder_ok (hprev : ∀ p ∈ prev, p < ext.typeId) :
    checkTypeOrder prev ext.typeId offset = .ok () := by
  cases prev with
  | none => rfl
  | some p =>
    have hlt := hprev p rfl
    rw [checkTypeOrder, if_neg (UInt8.ne_of_lt hlt).symm, if_neg (UInt8.lt_asymm hlt)]

/-- **One round of the decoder on a written record**: the bounds hold, so what is left is the
fixed length and the reserved bytes. -/
theorem parseTlv_tlvBytes (hlen : ext.value.length ≤ 0xffff)
    (hprev : ∀ p ∈ prev, p < ext.typeId) :
    parseTlv (tlvBytes ext ++ rest) offset prev =
      if (fixedValueLen ext.typeId).any (· != ext.value.length) then
        .error (malformed "fixed_length_mismatch" (offset + 2))
      else do
        if ext.typeId == traceContextExtensionType then
          assertTraceReservedZero ext.value (offset + tlvHeaderLen)
        return (⟨ext.typeId, ext.critical, ext.value, isAssigned ext.typeId⟩,
          (tlvBytes ext).length) := by
  obtain ⟨l₀, l₁, hl, heq⟩ := tlvBytes_eq ext rest
  have hcount : ofBytes [l₀, l₁] = ext.value.length := by
    rw [← hl]
    exact ofBytes_toBytes_of_lt (by omega)
  have hle := le_align4 (tlvHeaderLen + ext.value.length)
  have hflags : ¬ ((if ext.critical then 0x01 else 0x00 : UInt8) &&& 0xfe ≠ 0) := by
    cases ext.critical <;> decide
  have hcritical : ((if ext.critical then 0x01 else 0x00 : UInt8) &&& 0x01 != 0) =
      ext.critical := by
    cases ext.critical <;> rfl
  have htrace : (isAssigned ext.typeId && ext.typeId == traceContextExtensionType) =
      (ext.typeId == traceContextExtensionType) := by
    rw [isAssigned]
    cases ext.typeId == traceContextExtensionType <;> simp
  generalize hbytes : (ext.typeId :: (if ext.critical then 0x01 else 0x00) :: l₀ :: l₁ ::
    (ext.value ++ (Encode.padding (tlvHeaderLen + ext.value.length) ++ rest)) : List UInt8) = bytes
  have hfront : bytes = [ext.typeId, if ext.critical then 0x01 else 0x00, l₀, l₁] ++ (ext.value ++
      (Encode.padding (tlvHeaderLen + ext.value.length) ++ rest)) := hbytes.symm
  have hdrop : bytes.drop tlvHeaderLen = ext.value ++
      (Encode.padding (tlvHeaderLen + ext.value.length) ++ rest) := by
    rw [hfront]
    exact List.drop_left' rfl
  have hremaining : align4 (tlvHeaderLen + ext.value.length) ≤ bytes.length := by
    simp only [hfront, List.length_append, Encode.padding, List.length_replicate, tlvHeaderLen,
      List.length_cons, List.length_nil] at hle ⊢
    omega
  have hpad : firstNonzero bytes (tlvHeaderLen + ext.value.length)
      (align4 (tlvHeaderLen + ext.value.length) - (tlvHeaderLen + ext.value.length)) = none := by
    rw [firstNonzero_eq_none_iff, ← List.drop_drop, hdrop, List.drop_left,
      List.take_left' (by rw [Encode.padding, List.length_replicate]), Encode.padding]
    exact fun b hb => List.eq_of_mem_replicate hb
  have hvalue : (bytes.drop tlvHeaderLen).take ext.value.length = ext.value := by
    rw [hdrop, List.take_left]
  rw [heq, hbytes, length_tlvBytes, ← hbytes, parseTlv, hbytes]
  dsimp only
  rw [if_neg hflags, hcount]
  by_cases hfixed : (fixedValueLen ext.typeId).any (· != ext.value.length) = true
  · rw [if_pos hfixed, if_pos hfixed]
  · rw [if_neg hfixed, if_neg hfixed, if_neg (by omega), if_neg (by omega), hpad]
    dsimp only
    rw [htrace, hcritical, hvalue, checkTypeOrder_ok hprev]
    rfl

/-- The record a decoder keeps. -/
def parsed (ext : R2wpExtension) : ParsedTlv :=
  ⟨ext.typeId, ext.critical, ext.value, isAssigned ext.typeId⟩

theorem parseTlv_of_wellFormed (h : WellFormed ext) (hlen : ext.value.length ≤ 0xffff)
    (hprev : ∀ p ∈ prev, p < ext.typeId) :
    parseTlv (tlvBytes ext ++ rest) offset prev = .ok (parsed ext, (tlvBytes ext).length) := by
  have hfixed : ¬ (fixedValueLen ext.typeId).any (· != ext.value.length) = true := by
    rw [Option.any_eq_true]
    rintro ⟨n, hn, hne⟩
    rw [h.length n hn] at hne
    exact absurd hne (by simp)
  rw [parseTlv_tlvBytes hlen hprev, if_neg hfixed]
  by_cases htrace : ext.typeId = traceContextExtensionType
  · have hnone : assertTraceReservedZero ext.value (offset + tlvHeaderLen) = .ok () := by
      rw [assertTraceReservedZero, firstNonzero_eq_none_iff.mpr (h.reserved htrace)]
    rw [if_pos (beq_iff_eq.mpr htrace), hnone]
    rfl
  · rw [if_neg (by simpa using htrace)]
    rfl

theorem parseTlv_of_not_wellFormed (rest : List UInt8) (offset : ℕ) (h : ¬ WellFormed ext)
    (hlen : ext.value.length ≤ 0xffff)
    (hprev : ∀ p ∈ prev, p < ext.typeId) :
    ∃ reason off, parseTlv (tlvBytes ext ++ rest) offset prev = .error (malformed reason off) := by
  rw [parseTlv_tlvBytes hlen hprev]
  by_cases hfixed : (fixedValueLen ext.typeId).any (· != ext.value.length) = true
  · rw [if_pos hfixed]
    exact ⟨_, _, rfl⟩
  have hlength : ∀ n ∈ fixedValueLen ext.typeId, ext.value.length = n := by
    intro n hn
    by_contra hne
    refine hfixed ?_
    rw [Option.any_eq_true]
    exact ⟨n, hn, by simpa using Ne.symm hne⟩
  by_cases htrace : ext.typeId = traceContextExtensionType
  · cases hzero : firstNonzero ext.value traceReservedOffset traceReservedSize with
    | none =>
      exact absurd ⟨hlength, fun _ => firstNonzero_eq_none_iff.mp hzero⟩ h
    | some i =>
      rw [if_neg hfixed, if_pos (beq_iff_eq.mpr htrace), assertTraceReservedZero, hzero]
      exact ⟨_, _, rfl⟩
  · exact absurd ⟨hlength, fun heq => absurd heq htrace⟩ h

end Tlv

/-! ## The whole area -/

/-- Every record is padded on its own, and so the area is. -/
theorem length_flatMap_tlvBytes_mod (exts : List R2wpExtension) :
    (exts.flatMap tlvBytes).length % 4 = 0 := by
  induction exts with
  | nil => rfl
  | cons ext exts ih =>
    have hext := align4_mod (tlvHeaderLen + ext.value.length)
    rw [List.flatMap_cons, List.length_append, length_tlvBytes]
    omega

/-- What the encoder accepts, from the type before on. -/
theorem writeTlvs_eq_ok {exts : List R2wpExtension} {prev : Option UInt8} {out : List UInt8} :
    Encode.writeTlvs prev exts = .ok out ↔
      (∀ ext ∈ exts, ext.value.length ≤ 0xffff) ∧
        (prev.toList ++ exts.map (·.typeId)).IsChain (· < ·) ∧ out = exts.flatMap tlvBytes := by
  induction exts generalizing prev out with
  | nil =>
    rw [Encode.writeTlvs, Except.ok.injEq]
    cases prev <;> simp [eq_comm]
  | cons ext exts ih =>
    have hchain : (prev.toList ++ (ext :: exts).map (·.typeId)).IsChain (· < ·) ↔
        ¬ prev.any (ext.typeId ≤ ·) = true ∧
          ((some ext.typeId).toList ++ exts.map (·.typeId)).IsChain (· < ·) := by
      cases prev with
      | none => simp
      | some p => simp [UInt8.not_le]
    rw [Encode.writeTlvs, hchain, List.forall_mem_cons]
    by_cases horder : prev.any (ext.typeId ≤ ·) = true
    · simp [horder]
    by_cases hlong : ext.value.length > 0xffff
    · simp [horder, hlong, Nat.not_le.mpr hlong]
    rw [if_neg horder, if_neg hlong, bind_eq_ok]
    constructor
    · rintro ⟨rest, hrest, heq⟩
      obtain rfl := Except.ok.inj heq
      obtain ⟨hall, hascending, rfl⟩ := ih.mp hrest
      exact ⟨⟨Nat.le_of_not_gt hlong, hall⟩, ⟨horder, hascending⟩, rfl⟩
    · rintro ⟨⟨-, hall⟩, ⟨-, hascending⟩, rfl⟩
      exact ⟨_, ih.mpr ⟨hall, hascending, rfl⟩, rfl⟩

section Area

variable {exts : List R2wpExtension}

/-- The first of ascending types is above the type before it. -/
theorem chain_cons {ext : R2wpExtension} {prev : Option UInt8}
    (h : (prev.toList ++ (ext :: exts).map (·.typeId)).IsChain (· < ·)) :
    (∀ p ∈ prev, p < ext.typeId) ∧
      ((some ext.typeId).toList ++ exts.map (·.typeId)).IsChain (· < ·) := by
  cases prev with
  | none => exact ⟨nofun, h⟩
  | some p =>
    rw [Option.toList_some, List.map_cons, List.singleton_append, List.isChain_cons_cons] at h
    refine ⟨?_, h.2⟩
    rintro _ ⟨⟩
    exact h.1

/-- A record leaves rounds for the records behind it. -/
theorem exists_rounds {ext : R2wpExtension} {rounds : ℕ}
    (h : ((ext :: exts).flatMap tlvBytes).length ≤ rounds) :
    ∃ left, rounds = left + 1 ∧ (exts.flatMap tlvBytes).length ≤ left := by
  have hpos : 0 < (tlvBytes ext).length := by
    simp [tlvBytes]
  rw [List.flatMap_cons, List.length_append] at h
  exact ⟨rounds - 1, by omega, by omega⟩

/-- One round of the structural pass, and the rest of it. -/
theorem decodeTlvs_cons {ext : R2wpExtension} {rounds offset : ℕ} {prev : Option UInt8}
    {first : Option ℕ} {bytes : List UInt8} (hparse : parseTlv (tlvBytes ext ++ bytes) offset prev =
      .ok (parsed ext, (tlvBytes ext).length)) :
    decodeTlvs (rounds + 1) (tlvBytes ext ++ bytes) offset prev first = do
      let (tlvs, found) ← decodeTlvs rounds bytes (offset + (tlvBytes ext).length)
        (some ext.typeId) (if isUnknownCritical ext then first.or (some offset) else first)
      return (parsed ext :: tlvs, found) := by
  have hne : (tlvBytes ext ++ bytes).isEmpty = false := by
    simp [tlvBytes]
  rw [decodeTlvs, hne, if_neg Bool.false_ne_true, hparse]
  show (decodeTlvs rounds ((tlvBytes ext ++ bytes).drop (tlvBytes ext).length) _ _ _ >>= _) = _
  rw [List.drop_left]
  rfl

/-- **The structural pass over well-formed records** keeps them all, and finds an offset exactly
when one of them is unknown and critical. -/
theorem decodeTlvs_of_wellFormed {rounds : ℕ} {prev : Option UInt8} (offset : ℕ)
    (first : Option ℕ) (hrounds : (exts.flatMap tlvBytes).length ≤ rounds)
    (hlen : ∀ ext ∈ exts, ext.value.length ≤ 0xffff)
    (hchain : (prev.toList ++ exts.map (·.typeId)).IsChain (· < ·))
    (h : ∀ ext ∈ exts, WellFormed ext) :
    ∃ found, decodeTlvs rounds (exts.flatMap tlvBytes) offset prev first =
      .ok (exts.map parsed, found) ∧
        found.isSome = (first.isSome || exts.any isUnknownCritical) := by
  induction exts generalizing rounds offset prev first with
  | nil =>
    cases rounds with
    | zero => exact ⟨first, rfl, by simp⟩
    | succ rounds => exact ⟨first, rfl, by simp⟩
  | cons ext exts ih =>
    rw [List.forall_mem_cons] at hlen h
    obtain ⟨hprev, hchain⟩ := chain_cons hchain
    obtain ⟨rounds, rfl, hleft⟩ := exists_rounds hrounds
    obtain ⟨found, hdecode, hfound⟩ := ih (offset + (tlvBytes ext).length)
      (if isUnknownCritical ext then first.or (some offset) else first)
      hleft hlen.2 hchain h.2
    rw [List.flatMap_cons, decodeTlvs_cons (parseTlv_of_wellFormed h.1 hlen.1 hprev),
      hdecode]
    refine ⟨found, rfl, ?_⟩
    rw [hfound, List.any_cons]
    cases isUnknownCritical ext <;> cases first <;> simp

/-- **A record that is not well formed ends the pass** with a structural error. -/
theorem decodeTlvs_of_not_wellFormed {rounds : ℕ} {prev : Option UInt8} (offset : ℕ)
    (first : Option ℕ) (hrounds : (exts.flatMap tlvBytes).length ≤ rounds)
    (hlen : ∀ ext ∈ exts, ext.value.length ≤ 0xffff)
    (hchain : (prev.toList ++ exts.map (·.typeId)).IsChain (· < ·))
    (h : ¬ ∀ ext ∈ exts, WellFormed ext) :
    ∃ reason off, decodeTlvs rounds (exts.flatMap tlvBytes) offset prev first =
      .error (malformed reason off) := by
  induction exts generalizing rounds offset prev first with
  | nil => exact absurd nofun h
  | cons ext exts ih =>
    rw [List.forall_mem_cons] at hlen h
    obtain ⟨hprev, hchain⟩ := chain_cons hchain
    obtain ⟨rounds, rfl, hleft⟩ := exists_rounds hrounds
    rw [List.flatMap_cons]
    by_cases hwell : WellFormed ext
    · obtain ⟨reason, off, hdecode⟩ := ih (offset + (tlvBytes ext).length)
        (if isUnknownCritical ext then first.or (some offset) else first)
        hleft hlen.2 hchain fun hall => h ⟨hwell, hall⟩
      rw [decodeTlvs_cons (parseTlv_of_wellFormed hwell hlen.1 hprev), hdecode]
      exact ⟨reason, off, rfl⟩
    · obtain ⟨reason, off, hparse⟩ := parseTlv_of_not_wellFormed
        (exts.flatMap tlvBytes) offset hwell hlen.1 hprev
      have hne : (tlvBytes ext ++ exts.flatMap tlvBytes).isEmpty = false := by
        simp [tlvBytes]
      rw [decodeTlvs, hne, if_neg Bool.false_ne_true, hparse]
      exact ⟨reason, off, rfl⟩

/-- **What an area is to its receiver**: the records of an assigned type, unless an unknown one
is critical. -/
def AreaDecodes (exts : List R2wpExtension) (area : List UInt8) : Prop :=
  if exts.any isUnknownCritical then
    ∃ offset, decodeExtensionArea area = .error (unsupported "unknown_critical" offset)
  else decodeExtensionArea area = .ok (exts.filter (isAssigned ·.typeId))

/-- An area of a length that is allowed is what its records come to. -/
theorem decodeExtensionArea_of_fits {area : List UInt8} (hlarge : ¬area.length > extensionAreaMaxBytes)
    (hmod : area.length % extensionAlignment = 0) :
    decodeExtensionArea area = do
      let (tlvs, first) ← decodeTlvs area.length area 0 none none
      match first with
      | some off => .error (unsupported "unknown_critical" off)
      | none => return (tlvs.filter (·.assigned)).map fun t => ⟨t.typeId, t.critical, t.value⟩ := by
  unfold decodeExtensionArea
  exact (if_neg hlarge).trans (if_neg (not_not_intro hmod))

/-- **An encoded area decodes exactly when its records are well formed.** -/
theorem areaDecodes_iff {area : List UInt8} (h : Encode.encodeExtensionArea exts = .ok area) :
    AreaDecodes exts area ↔ ∀ ext ∈ exts, WellFormed ext := by
  rw [Encode.encodeExtensionArea, bind_eq_ok] at h
  obtain ⟨out, hwrite, h⟩ := h
  obtain ⟨hlen, hchain, rfl⟩ := writeTlvs_eq_ok.mp hwrite
  split_ifs at h with hlarge
  obtain rfl := Except.ok.inj h
  have hmod : (exts.flatMap tlvBytes).length % extensionAlignment = 0 :=
    length_flatMap_tlvBytes_mod exts
  have hdecode := decodeExtensionArea_of_fits hlarge hmod
  constructor
  · intro hdecodes
    by_contra hall
    obtain ⟨reason, off, herror⟩ := decodeTlvs_of_not_wellFormed 0 none
      (Nat.le_refl _) hlen hchain hall
    rw [AreaDecodes, hdecode, herror] at hdecodes
    split_ifs at hdecodes
    · obtain ⟨offset, hoffset⟩ := hdecodes
      have hcode := congrArg ExtensionError.code (Except.error.inj hoffset)
      exact absurd (show 3 = 22 from hcode) (by decide)
    · cases hdecodes
  · intro hall
    obtain ⟨found, hfound, hsome⟩ := decodeTlvs_of_wellFormed 0 none
      (Nat.le_refl _) hlen hchain hall
    rw [AreaDecodes, hdecode, hfound]
    rw [Option.isSome_none, Bool.false_or] at hsome
    rw [← hsome]
    cases found with
    | some off => exact (if_pos (Option.isSome_some)).mpr ⟨off, rfl⟩
    | none =>
      refine (if_neg (by simp)).mpr (congrArg Except.ok ?_)
      rw [List.filter_map, List.map_map]
      exact List.map_id _

end Area

end Extension
end Rclweb
