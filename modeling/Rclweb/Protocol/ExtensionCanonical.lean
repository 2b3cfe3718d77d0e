import Rclweb.Protocol.ExtensionRoundTrip
import Mathlib.Data.List.Flatten

/-!
# Extension areas, read and written

The converse of the round trip: a record that one round of the decoder accepts is the bytes of
that record, flags and padding included (`exists_ext_of_parseTlv`), so an area the structural
pass accepts is its records one behind the other.  What the decoder returns is written back as
the area without the records of unassigned types, `assignedOnly`, a function of the bytes alone.

Bytes behind a record change nothing in its round unless the record is cut off
(`parseTlv_append`).  So a record that may be skipped can be put behind an area without a change
in what the area decodes to.
-/

namespace Rclweb
namespace Extension

open BigEndian

/-! ## The records of an area -/

/-- The records of an area as byte strings, by their declared lengths alone. -/
def splitTlvs : List UInt8 → List (List UInt8)
  | typeId :: flags :: len0 :: len1 :: rest =>
    let valueLen := ofBytes [len0, len1]
    (typeId :: flags :: len0 :: len1 :: rest.take (align4 valueLen)) ::
      splitTlvs (rest.drop (align4 valueLen))
  | _ => []
termination_by area => area.length
decreasing_by simp only [List.length_drop, List.length_cons]; omega

/-- The type of a record. -/
def tlvType (tlv : List UInt8) : UInt8 := tlv.headD 0

/-- The area with the records of unassigned types removed. -/
def assignedOnly (area : List UInt8) : List UInt8 :=
  ((splitTlvs area).filter fun tlv => isAssigned (tlvType tlv)).flatten

theorem tlvType_tlvBytes (ext : R2wpExtension) : tlvType (tlvBytes ext) = ext.typeId := by
  rfl

theorem align4_add_four (n : ℕ) : align4 (4 + n) = 4 + align4 n := by
  rw [align4, align4]
  omega

theorem splitTlvs_tlvBytes_append {ext : R2wpExtension} (hlen : ext.value.length ≤ 0xffff)
    (rest : List UInt8) :
    splitTlvs (tlvBytes ext ++ rest) = tlvBytes ext :: splitTlvs rest := by
  obtain ⟨l₀, l₁, hl, heq⟩ := tlvBytes_eq ext rest
  obtain ⟨m₀, m₁, hm, halone⟩ := tlvBytes_eq ext []
  obtain ⟨rfl, rfl⟩ : l₀ = m₀ ∧ l₁ = m₁ := by simpa [hl] using hm
  have hcount : ofBytes [l₀, l₁] = ext.value.length := by
    rw [← hl]
    exact ofBytes_toBytes_of_lt (by omega)
  have hlength : (ext.value ++ Encode.padding (tlvHeaderLen + ext.value.length)).length =
      align4 ext.value.length := by
    have hwhole := length_tlvBytes ext
    rw [← List.append_nil (tlvBytes ext), halone, tlvHeaderLen, align4_add_four] at hwhole
    simp only [List.length_cons, List.append_nil] at hwhole
    simp only [tlvHeaderLen]
    omega
  rw [heq, splitTlvs, hcount, ← List.append_assoc, List.take_left' hlength,
    List.drop_left' hlength, ← List.append_nil (tlvBytes ext), halone, List.append_nil]

theorem splitTlvs_flatMap {exts : List R2wpExtension}
    (hlen : ∀ ext ∈ exts, ext.value.length ≤ 0xffff) :
    splitTlvs (exts.flatMap tlvBytes) = exts.map tlvBytes := by
  induction exts with
  | nil => rw [List.flatMap_nil, splitTlvs, List.map_nil]; exact nofun
  | cons ext exts ih =>
    rw [List.forall_mem_cons] at hlen
    rw [List.flatMap_cons, splitTlvs_tlvBytes_append hlen.1, ih hlen.2, List.map_cons]

theorem assignedOnly_flatMap {exts : List R2wpExtension}
    (hlen : ∀ ext ∈ exts, ext.value.length ≤ 0xffff) :
    assignedOnly (exts.flatMap tlvBytes) =
      (exts.filter (isAssigned ·.typeId)).flatMap tlvBytes := by
  rw [assignedOnly, splitTlvs_flatMap hlen, List.filter_map, List.flatMap_def]
  rfl

/-! ## A record that was read -/

/-- Flags without a reserved bit are the critical bit. -/
theorem flags_eq_of_reserved_eq_zero {flags : UInt8} (h : flags &&& 0xfe = 0) :
    flags = if flags &&& 0x01 != 0 then 0x01 else 0x00 := by
  revert h
  obtain ⟨⟨n⟩⟩ := flags
  revert n
  decide +kernel

/-- A region of zero bytes is padding. -/
theorem take_eq_replicate {bytes : List UInt8} {start size : ℕ}
    (h : firstNonzero bytes start size = none) (hsize : start + size ≤ bytes.length) :
    (bytes.drop start).take size = List.replicate size 0 := by
  rw [List.eq_replicate_iff]
  refine ⟨?_, firstNonzero_eq_none_iff.mp h⟩
  rw [List.length_take, List.length_drop]
  omega

/-- The bytes of a record from what the decoder has checked of them. -/
theorem eq_tlvBytes_append {typeId flags len0 len1 : UInt8} {rest bytes : List UInt8} {valueLen : ℕ}
    (hbytes : typeId :: flags :: len0 :: len1 :: rest = bytes)
    (hvalueLen : ofBytes [len0, len1] = valueLen) (hflags : flags &&& 0xfe = 0)
    (hpadded : align4 (tlvHeaderLen + valueLen) ≤ bytes.length)
    (hzero : firstNonzero bytes (tlvHeaderLen + valueLen)
      (align4 (tlvHeaderLen + valueLen) - (tlvHeaderLen + valueLen)) = none) :
    bytes = tlvBytes ⟨typeId, flags &&& 0x01 != 0, (bytes.drop tlvHeaderLen).take valueLen⟩ ++
      bytes.drop (align4 (tlvHeaderLen + valueLen)) := by
  have hcontent := le_align4 (tlvHeaderLen + valueLen)
  have hlength : ((bytes.drop tlvHeaderLen).take valueLen).length = valueLen := by
    rw [List.length_take, List.length_drop]
    omega
  have hcount : toBytes 2 valueLen = [len0, len1] := by
    rw [← hvalueLen]
    exact toBytes_ofBytes [len0, len1]
  have hpadding : (bytes.drop (tlvHeaderLen + valueLen)).take
      (align4 (tlvHeaderLen + valueLen) - (tlvHeaderLen + valueLen)) =
        Encode.padding (tlvHeaderLen + valueLen) :=
    take_eq_replicate hzero (by omega)
  have hheader : bytes.take tlvHeaderLen = [typeId, flags, len0, len1] := by
    rw [← hbytes]
    rfl
  have hsplit : bytes = bytes.take tlvHeaderLen ++ ((bytes.drop tlvHeaderLen).take valueLen ++
      ((bytes.drop (tlvHeaderLen + valueLen)).take
        (align4 (tlvHeaderLen + valueLen) - (tlvHeaderLen + valueLen)) ++
          bytes.drop (align4 (tlvHeaderLen + valueLen)))) := by
    have hdrop : bytes.drop (align4 (tlvHeaderLen + valueLen)) =
        (bytes.drop (tlvHeaderLen + valueLen)).drop
          (align4 (tlvHeaderLen + valueLen) - (tlvHeaderLen + valueLen)) := by
      rw [List.drop_drop]
      congr 1
      omega
    rw [hdrop, List.take_append_drop, ← List.drop_drop, List.take_append_drop,
      List.take_append_drop]
  rw [hheader, hpadding] at hsplit
  rw [tlvBytes, hlength, hcount, ← flags_eq_of_reserved_eq_zero hflags]
  simpa using hsplit

theorem prev_lt_of_checkTypeOrder {prev : Option UInt8} {typeId : UInt8} {offset : ℕ}
    (h : checkTypeOrder prev typeId offset = .ok ()) : ∀ p ∈ prev, p < typeId := by
  rintro p ⟨⟩
  rw [checkTypeOrder] at h
  split_ifs at h with heq hlt
  exact UInt8.lt_of_le_of_ne (UInt8.not_lt.mp hlt) (Ne.symm heq)

/-- A round on an area with a whole record header. -/
theorem parseTlv_of_header {typeId flags len0 len1 : UInt8} {rest bytes : List UInt8}
    {offset valueLen : ℕ} {prev : Option UInt8}
    (hbytes : typeId :: flags :: len0 :: len1 :: rest = bytes)
    (hvalueLen : ofBytes [len0, len1] = valueLen) :
    parseTlv bytes offset prev =
      if flags &&& 0xfe ≠ 0 then .error (malformed "reserved_flag_bits" (offset + 1))
      else if (fixedValueLen typeId).any (· != valueLen) then
        .error (malformed "fixed_length_mismatch" (offset + 2))
      else if bytes.length < tlvHeaderLen + valueLen then
        .error (malformed "truncated_value" (offset + tlvHeaderLen))
      else if bytes.length < align4 (tlvHeaderLen + valueLen) then
        .error (malformed "truncated_padding" (offset + (tlvHeaderLen + valueLen)))
      else
        match firstNonzero bytes (tlvHeaderLen + valueLen)
          (align4 (tlvHeaderLen + valueLen) - (tlvHeaderLen + valueLen)) with
        | some p => .error (malformed "nonzero_padding" (offset + p))
        | none => do
          if isAssigned typeId && typeId == traceContextExtensionType then
            assertTraceReservedZero ((bytes.drop tlvHeaderLen).take valueLen)
              (offset + tlvHeaderLen)
          checkTypeOrder prev typeId offset
          return (⟨typeId, flags &&& 0x01 != 0, (bytes.drop tlvHeaderLen).take valueLen,
            isAssigned typeId⟩, align4 (tlvHeaderLen + valueLen)) := by
  subst hbytes hvalueLen
  rfl

/-- An area without a whole record header. -/
theorem parseTlv_of_short {bytes : List UInt8} (offset : ℕ) (prev : Option UInt8)
    (h : bytes.length < tlvHeaderLen) :
    parseTlv bytes offset prev = .error (malformed "truncated_header" offset) := by
  unfold parseTlv
  split
  · simp [tlvHeaderLen] at h
    omega
  · rfl

theorem exists_header {bytes : List UInt8} (h : ¬bytes.length < tlvHeaderLen) :
    ∃ typeId flags len0 len1 rest, typeId :: flags :: len0 :: len1 :: rest = bytes := by
  match bytes, h with
  | typeId :: flags :: len0 :: len1 :: rest, _ => exact ⟨_, _, _, _, _, rfl⟩
  | [], h => exact absurd (by decide) h
  | [_], h => exact absurd (by simp [tlvHeaderLen]) h
  | [_, _], h => exact absurd (by simp [tlvHeaderLen]) h
  | [_, _, _], h => exact absurd (by simp [tlvHeaderLen]) h

/-- **A round reads what a record is written as**: the bytes in front are those of the record
it returns, which is well formed and above the type before it. -/
theorem exists_ext_of_parseTlv {bytes : List UInt8} {offset padded : ℕ} {prev : Option UInt8}
    {tlv : ParsedTlv} (h : parseTlv bytes offset prev = .ok (tlv, padded)) :
    ∃ ext, tlv = parsed ext ∧ bytes = tlvBytes ext ++ bytes.drop padded ∧
      padded = (tlvBytes ext).length ∧ ext.value.length ≤ 0xffff ∧ WellFormed ext ∧
      ∀ p ∈ prev, p < ext.typeId := by
  by_cases hshort : bytes.length < tlvHeaderLen
  · rw [parseTlv_of_short offset prev hshort] at h
    cases h
  obtain ⟨typeId, flags, len0, len1, rest, hbytes⟩ := exists_header hshort
  obtain ⟨valueLen, hvalueLen⟩ : ∃ n, ofBytes [len0, len1] = n := ⟨_, rfl⟩
  rw [parseTlv_of_header hbytes hvalueLen] at h
  by_cases hflags : flags &&& 0xfe = 0
  swap
  · rw [if_pos hflags] at h
    cases h
  rw [if_neg (not_not_intro hflags)] at h
  by_cases hfixed : (fixedValueLen typeId).any (· != valueLen) = true
  · rw [if_pos hfixed] at h
    cases h
  rw [if_neg hfixed] at h
  by_cases hcontent : bytes.length < tlvHeaderLen + valueLen
  · rw [if_pos hcontent] at h
    cases h
  rw [if_neg hcontent] at h
  by_cases hpadded : bytes.length < align4 (tlvHeaderLen + valueLen)
  · rw [if_pos hpadded] at h
    cases h
  rw [if_neg hpadded] at h
  cases hzero : firstNonzero bytes (tlvHeaderLen + valueLen)
      (align4 (tlvHeaderLen + valueLen) - (tlvHeaderLen + valueLen)) with
  | some p =>
    rw [hzero] at h
    cases h
  | none =>
    rw [hzero] at h
    dsimp only at h
    have hlength : ((bytes.drop tlvHeaderLen).take valueLen).length = valueLen := by
      rw [List.length_take, List.length_drop]
      omega
    have hlen : ((bytes.drop tlvHeaderLen).take valueLen).length ≤ 0xffff := by
      have hbound : ofBytes [len0, len1] < 65536 := (ofBytes_lt _).trans_eq (by norm_num)
      omega
    have heq := eq_tlvBytes_append hbytes hvalueLen hflags (Nat.not_lt.mp hpadded) hzero
    have hsize : align4 (tlvHeaderLen + valueLen) = (tlvBytes ⟨typeId, flags &&& 0x01 != 0,
        (bytes.drop tlvHeaderLen).take valueLen⟩).length := by
      rw [length_tlvBytes, hlength]
    have hfixedLen : ∀ n ∈ fixedValueLen typeId,
        ((bytes.drop tlvHeaderLen).take valueLen).length = n := by
      intro n hn
      rw [hlength]
      by_contra hne
      refine hfixed ?_
      rw [Option.mem_def.mp hn]
      simpa using Ne.symm hne
    refine ⟨⟨typeId, flags &&& 0x01 != 0, (bytes.drop tlvHeaderLen).take valueLen⟩, ?_⟩
    by_cases htrace : typeId = traceContextExtensionType
    · have hassigned : (isAssigned typeId && typeId == traceContextExtensionType) = true := by
        rw [htrace]
        rfl
      rw [if_pos hassigned] at h
      obtain ⟨⟨⟩, hreserved, h⟩ := bind_eq_ok.mp h
      obtain ⟨⟨⟩, horder, h⟩ := bind_eq_ok.mp h
      obtain ⟨rfl, rfl⟩ := Prod.mk.inj (Except.ok.inj h)
      refine ⟨rfl, heq, hsize, hlen, ⟨hfixedLen, fun _ => ?_⟩, prev_lt_of_checkTypeOrder horder⟩
      rw [← firstNonzero_eq_none_iff]
      rw [assertTraceReservedZero] at hreserved
      split at hreserved
      · cases hreserved
      · assumption
    · have hassigned : ¬(isAssigned typeId && typeId == traceContextExtensionType) = true := by
        simp [htrace]
      rw [if_neg hassigned] at h
      obtain ⟨⟨⟩, horder, h⟩ := bind_eq_ok.mp h
      obtain ⟨rfl, rfl⟩ := Prod.mk.inj (Except.ok.inj h)
      exact ⟨rfl, heq, hsize, hlen, ⟨hfixedLen, fun heq => absurd heq htrace⟩,
        prev_lt_of_checkTypeOrder horder⟩

/-! ## The area that was read -/

/-- The records of an area that the structural pass accepts. -/
structure AreaHolds (prev : Option UInt8) (exts : List R2wpExtension) (bytes : List UInt8) :
    Prop where
  bytes_eq : bytes = exts.flatMap tlvBytes
  length : ∀ ext ∈ exts, ext.value.length ≤ 0xffff
  wellFormed : ∀ ext ∈ exts, WellFormed ext
  ascending : (prev.toList ++ exts.map (·.typeId)).Pairwise (· < ·)

theorem decodeTlvs_nil (rounds offset : ℕ) (prev : Option UInt8) (first : Option ℕ) :
    decodeTlvs rounds [] offset prev first = .ok ([], first) := by
  cases rounds with
  | zero => rfl
  | succ rounds => rfl

theorem AreaHolds.cons {prev : Option UInt8} {ext : R2wpExtension} {exts : List R2wpExtension}
    {bytes : List UInt8} (h : AreaHolds (some ext.typeId) exts bytes)
    (hlen : ext.value.length ≤ 0xffff) (hwell : WellFormed ext)
    (hprev : ∀ p ∈ prev, p < ext.typeId) :
    AreaHolds prev (ext :: exts) (tlvBytes ext ++ bytes) where
  bytes_eq := by rw [h.bytes_eq, List.flatMap_cons]
  length := List.forall_mem_cons.mpr ⟨hlen, h.length⟩
  wellFormed := List.forall_mem_cons.mpr ⟨hwell, h.wellFormed⟩
  ascending := by
    have htypes := h.ascending
    rw [Option.toList_some, List.singleton_append] at htypes
    cases prev with
    | none => exact htypes
    | some p =>
      rw [Option.toList_some, List.singleton_append, List.map_cons, List.pairwise_cons]
      refine ⟨List.forall_mem_cons.mpr ⟨hprev p rfl, fun typeId htypeId => ?_⟩, htypes⟩
      exact UInt8.lt_trans (hprev p rfl) (List.rel_of_pairwise_cons htypes htypeId)

/-- **The structural pass accepts nothing but well-formed records in order.** -/
theorem exists_holds_of_decodeTlvs {rounds offset : ℕ} {bytes : List UInt8} {prev : Option UInt8}
    {first : Option ℕ} {out : List ParsedTlv × Option ℕ} (hrounds : bytes.length ≤ rounds)
    (h : decodeTlvs rounds bytes offset prev first = .ok out) :
    ∃ exts, AreaHolds prev exts bytes ∧ out.1 = exts.map parsed := by
  have hempty : AreaHolds prev [] [] := by
    refine ⟨rfl, nofun, nofun, ?_⟩
    cases prev <;> simp
  induction rounds generalizing bytes offset prev first out with
  | zero =>
    obtain rfl := List.length_eq_zero_iff.mp (Nat.le_zero.mp hrounds)
    obtain rfl := Except.ok.inj h
    exact ⟨[], hempty, rfl⟩
  | succ rounds ih =>
    rw [decodeTlvs] at h
    split_ifs at h with hnil
    · obtain rfl := List.isEmpty_iff.mp hnil
      obtain rfl := Except.ok.inj h
      exact ⟨[], hempty, rfl⟩
    obtain ⟨⟨tlv, padded⟩, hparse, h⟩ := bind_eq_ok.mp h
    obtain ⟨⟨tlvs, found⟩, hrest, h⟩ := bind_eq_ok.mp h
    obtain rfl := Except.ok.inj h
    obtain ⟨ext, rfl, hbytes, hpadded, hlen, hwell, hprev⟩ := exists_ext_of_parseTlv hparse
    have hpos : 0 < (tlvBytes ext).length := by
      simp [tlvBytes]
    have hleft : (bytes.drop padded).length ≤ rounds := by
      rw [List.length_drop]
      omega
    have hnone : AreaHolds (some ext.typeId) [] [] :=
      ⟨rfl, nofun, nofun, List.pairwise_singleton _ _⟩
    obtain ⟨exts, hholds, htlvs⟩ := ih hleft hrest hnone
    refine ⟨ext :: exts, ?_, ?_⟩
    · rw [hbytes]
      exact hholds.cons hlen hwell hprev
    · rw [List.map_cons, ← htlvs]

/-! ## Bytes behind a record -/

/-- **A round looks at its own record only**, if the record is not cut off. -/
theorem parseTlv_append {typeId flags len0 len1 : UInt8} {rest bytes : List UInt8} {offset : ℕ}
    {prev : Option UInt8} (hbytes : typeId :: flags :: len0 :: len1 :: rest = bytes)
    (hwhole : align4 (tlvHeaderLen + ofBytes [len0, len1]) ≤ bytes.length) (more : List UInt8) :
    parseTlv (bytes ++ more) offset prev = parseTlv bytes offset prev := by
  have hlength : (bytes ++ more).length = bytes.length + more.length := List.length_append
  have hcontent := le_align4 (tlvHeaderLen + ofBytes [len0, len1])
  have happend : typeId :: flags :: len0 :: len1 :: (rest ++ more) = bytes ++ more := by
    rw [← hbytes]
    rfl
  have hregion : ∀ start size, start + size ≤ bytes.length →
      ((bytes ++ more).drop start).take size = (bytes.drop start).take size := by
    intro start size hle
    rw [List.drop_append_of_le_length (by omega), List.take_append_of_le_length]
    rw [List.length_drop]
    omega
  rw [parseTlv_of_header happend rfl, parseTlv_of_header hbytes rfl]
  generalize ofBytes [len0, len1] = valueLen at hwhole hcontent ⊢
  rw [if_neg (by omega : ¬(bytes ++ more).length < tlvHeaderLen + valueLen),
    if_neg (by omega : ¬(bytes ++ more).length < align4 (tlvHeaderLen + valueLen)),
    if_neg (by omega : ¬bytes.length < tlvHeaderLen + valueLen), if_neg (Nat.not_lt.mpr hwhole),
    hregion _ _ (by omega), firstNonzero, firstNonzero, hregion _ _ (by omega)]

/-- A record put behind the records of an area does not lengthen one that is cut off. -/
theorem whole_of_splitTlvs_append {typeId flags len0 len1 : UInt8} {rest more : List UInt8}
    (hmore : more ≠ []) (h : splitTlvs (typeId :: flags :: len0 :: len1 :: rest ++ more) =
      splitTlvs (typeId :: flags :: len0 :: len1 :: rest) ++ [more]) :
    align4 (tlvHeaderLen + ofBytes [len0, len1]) ≤
      (typeId :: flags :: len0 :: len1 :: rest).length := by
  rw [List.cons_append, List.cons_append, List.cons_append, List.cons_append, splitTlvs,
    splitTlvs, List.cons_append, List.cons.injEq] at h
  have hlength := congrArg List.length h.1
  have hpos := List.length_pos_iff.mpr hmore
  simp only [List.length_cons, List.length_take, List.length_append] at hlength ⊢
  rw [tlvHeaderLen, align4_add_four]
  omega

/-- **A record that may be skipped, put behind an area**: one whole record whose type is not
assigned and not critical, above the types before it, in an area that has room for it. -/
structure Skippable (area more : List UInt8) : Prop where
  record : ∃ tlv, parseTlv more 0 none = .ok (tlv, more.length) ∧ tlv.assigned = false ∧
    tlv.critical = false
  behind : splitTlvs (area ++ more) = splitTlvs area ++ [more]
  above : ∀ tlv ∈ splitTlvs area, tlvType tlv < tlvType more
  fits : (area ++ more).length ≤ extensionAreaMaxBytes

/-- An unassigned record without a value behind an operation id. -/
example : Skippable (tlvBytes ⟨2, true, List.replicate 16 1⟩) (tlvBytes ⟨7, false, []⟩) := by
  have hnil : splitTlvs [] = [] := by
    rw [splitTlvs]
    exact nofun
  have hfront : splitTlvs (tlvBytes ⟨2, true, List.replicate 16 1⟩ ++ []) = _ :=
    splitTlvs_tlvBytes_append (by decide) []
  have hboth : splitTlvs (tlvBytes ⟨2, true, List.replicate 16 1⟩ ++ tlvBytes ⟨7, false, []⟩) = _ :=
    splitTlvs_tlvBytes_append (by decide) _
  have hmore : splitTlvs (tlvBytes ⟨7, false, []⟩ ++ []) = _ :=
    splitTlvs_tlvBytes_append (by decide) []
  rw [List.append_nil, hnil] at hfront hmore
  refine ⟨⟨⟨7, false, [], false⟩, by decide, rfl, rfl⟩, ?_, ?_, by decide⟩
  · rw [hboth, hmore, hfront]
    rfl
  · rw [hfront]
    decide

section Append

variable {ext : R2wpExtension}

/-- **The structural pass with a record behind the area.** -/
theorem decodeTlvs_append (hlen : ext.value.length ≤ 0xffff) (hwell : WellFormed ext)
    (hskip : isAssigned ext.typeId = false ∧ ext.critical = false) {bytes : List UInt8}
    {rounds rounds' offset : ℕ} {prev : Option UInt8} {first : Option ℕ}
    (hrounds : bytes.length ≤ rounds) (hrounds' : rounds < rounds') (hmod : bytes.length % 4 = 0)
    (hbehind : splitTlvs (bytes ++ tlvBytes ext) = splitTlvs bytes ++ [tlvBytes ext])
    (habove : ∀ tlv ∈ splitTlvs bytes, tlvType tlv < ext.typeId)
    (hprev : ∀ p ∈ prev, p < ext.typeId) :
    decodeTlvs rounds' (bytes ++ tlvBytes ext) offset prev first =
      (decodeTlvs rounds bytes offset prev first).map
        fun out => (out.1 ++ [parsed ext], out.2) := by
  have hne : tlvBytes ext ≠ [] := by
    simp [tlvBytes]
  have hknown : isUnknownCritical ext = false := by
    rw [isUnknownCritical, hskip.2, Bool.and_false]
  induction rounds generalizing bytes rounds' offset prev first with
  | zero =>
    obtain rfl := List.length_eq_zero_iff.mp (Nat.le_zero.mp hrounds)
    obtain ⟨left, rfl⟩ : ∃ left, rounds' = left + 1 := ⟨rounds' - 1, by omega⟩
    rw [List.nil_append, ← List.append_nil (tlvBytes ext),
      decodeTlvs_cons (parseTlv_of_wellFormed hwell hlen hprev), decodeTlvs_nil, hknown]
    rfl
  | succ rounds ih =>
    obtain ⟨left, rfl⟩ : ∃ left, rounds' = left + 1 := ⟨rounds' - 1, by omega⟩
    by_cases hshort : bytes.length < tlvHeaderLen
    · obtain rfl : bytes = [] := by
        rw [tlvHeaderLen] at hshort
        exact List.length_eq_zero_iff.mp (by omega)
      rw [List.nil_append, ← List.append_nil (tlvBytes ext),
        decodeTlvs_cons (parseTlv_of_wellFormed hwell hlen hprev), decodeTlvs_nil, decodeTlvs_nil,
        hknown]
      rfl
    obtain ⟨typeId, flags, len0, len1, rest, hbytes⟩ := exists_header hshort
    have hnil : bytes.isEmpty = false := by
      rw [← hbytes]
      rfl
    have hnil' : (bytes ++ tlvBytes ext).isEmpty = false := by
      rw [← hbytes]
      rfl
    have hwhole : align4 (tlvHeaderLen + ofBytes [len0, len1]) ≤ bytes.length := by
      rw [← hbytes] at hbehind ⊢
      exact whole_of_splitTlvs_append hne hbehind
    rw [decodeTlvs, decodeTlvs, hnil, hnil', if_neg Bool.false_ne_true, if_neg Bool.false_ne_true,
      parseTlv_append hbytes hwhole]
    cases hparse : parseTlv bytes offset prev with
    | error e => rfl
    | ok out =>
      obtain ⟨tlv, padded⟩ := out
      obtain ⟨front, rfl, hfront, hpadded, hfrontLen, -, -⟩ := exists_ext_of_parseTlv hparse
      have hpos : 0 < (tlvBytes front).length := by
        simp [tlvBytes]
      have hword := align4_mod (tlvHeaderLen + front.value.length)
      rw [← length_tlvBytes, ← hpadded] at hword
      have hle : padded ≤ bytes.length := by
        rw [hfront, List.length_append]
        omega
      have hlength : (bytes.drop padded).length = bytes.length - padded := List.length_drop
      generalize hleft : bytes.drop padded = tail at hfront hlength
      have hdrop : (bytes ++ tlvBytes ext).drop padded = tail ++ tlvBytes ext := by
        rw [List.drop_append_of_le_length hle, hleft]
      subst hfront
      rw [List.append_assoc, splitTlvs_tlvBytes_append hfrontLen,
        splitTlvs_tlvBytes_append hfrontLen, List.cons_append, List.cons.injEq] at hbehind
      rw [splitTlvs_tlvBytes_append hfrontLen, List.forall_mem_cons] at habove
      generalize hfirst : (if isUnknownCritical front then first.or (some offset) else first) =
        first'
      have hrest : decodeTlvs left (tail ++ tlvBytes ext) (offset + padded) (some front.typeId)
          first' = (decodeTlvs rounds tail (offset + padded) (some front.typeId) first').map
            fun out => (out.1 ++ [parsed ext], out.2) := by
        refine ih (by omega) (by omega) (by omega) hbehind.2 habove.2 ?_
        rintro _ ⟨⟩
        exact habove.1
      show (decodeTlvs left (List.drop padded _) _ (some front.typeId)
          (if isUnknownCritical front then _ else _) >>= _) =
        (decodeTlvs rounds (List.drop padded _) _ (some front.typeId)
          (if isUnknownCritical front then _ else _) >>= _).map _
      rw [hdrop, hleft, hfirst, hrest]
      cases decodeTlvs rounds tail (offset + padded) (some front.typeId) first' with
      | error e => rfl
      | ok out => rfl

/-- **A record that may be skipped changes nothing**, behind any area. -/
theorem decodeExtensionArea_append {area more : List UInt8} (h : Skippable area more) :
    decodeExtensionArea (area ++ more) = decodeExtensionArea area := by
  obtain ⟨tlv, hparse, hassigned, hcritical⟩ := h.record
  obtain ⟨ext, rfl, hmore, hlength, hlen, hwell, -⟩ := exists_ext_of_parseTlv hparse
  rw [List.drop_length, List.append_nil] at hmore
  subst hmore
  have hword := align4_mod (tlvHeaderLen + ext.value.length)
  have hfits := h.fits
  rw [← length_tlvBytes] at hword
  rw [List.length_append] at hfits
  unfold decodeExtensionArea
  have hlarge : ¬area.length > extensionAreaMaxBytes := by omega
  have hlarge' : ¬(area ++ tlvBytes ext).length > extensionAreaMaxBytes := by
    rw [List.length_append]
    omega
  have hmod : (area ++ tlvBytes ext).length % 4 = area.length % 4 := by
    rw [List.length_append]
    omega
  rw [if_neg hlarge, if_neg hlarge', extensionAlignment, hmod]
  by_cases halign : area.length % 4 ≠ 0
  · rw [if_pos halign, if_pos halign]
  rw [if_neg halign, if_neg halign]
  have hpos : 0 < (tlvBytes ext).length := by
    simp [tlvBytes]
  have hpass : decodeTlvs (area ++ tlvBytes ext).length (area ++ tlvBytes ext) 0 none none =
      (decodeTlvs area.length area 0 none none).map fun out =>
        (out.1 ++ [parsed ext], out.2) := by
    refine decodeTlvs_append hlen hwell ⟨hassigned, hcritical⟩ le_rfl ?_ (not_not.mp halign)
      h.behind h.above (by simp)
    rw [List.length_append]
    omega
  rw [hpass]
  cases hdecode : decodeTlvs area.length area 0 none none with
  | error e => rfl
  | ok out =>
    obtain ⟨tlvs, found⟩ := out
    cases found with
    | some off => rfl
    | none =>
      show Except.ok (((tlvs ++ [parsed ext]).filter (·.assigned)).map _) = Except.ok _
      rw [List.filter_append, List.filter_cons_of_neg (by rw [hassigned]; exact Bool.false_ne_true),
        List.filter_nil, List.append_nil]

end Append

/-! ## The area that is written back -/

/-- What a decoded area is made of. -/
theorem exists_holds_of_decode {area : List UInt8} {exts : List R2wpExtension}
    (h : decodeExtensionArea area = .ok exts) :
    ∃ all, AreaHolds none all area ∧ area.length ≤ extensionAreaMaxBytes ∧
      exts = all.filter (isAssigned ·.typeId) := by
  unfold decodeExtensionArea at h
  split_ifs at h with hlarge halign
  obtain ⟨⟨tlvs, found⟩, hdecode, h⟩ := bind_eq_ok.mp h
  obtain ⟨all, hholds, htlvs⟩ := exists_holds_of_decodeTlvs le_rfl hdecode
  cases found with
  | some off => cases h
  | none =>
    refine ⟨all, hholds, Nat.not_lt.mp hlarge, ?_⟩
    have hexts := Except.ok.inj h
    rw [← hexts, show tlvs = all.map parsed from htlvs, List.filter_map, List.map_map]
    exact List.map_id _

theorem assignedOnly_eq_self {area : List UInt8} {all : List R2wpExtension}
    (h : AreaHolds none all area) (hassigned : ∀ tlv ∈ splitTlvs area, isAssigned (tlvType tlv)) :
    assignedOnly area = area := by
  rw [assignedOnly, List.filter_eq_self.mpr hassigned]
  conv_rhs => rw [h.bytes_eq]
  rw [h.bytes_eq, splitTlvs_flatMap h.length, List.flatMap_def]

/-- **What is returned is written back** as the records of assigned types, in their order. -/
theorem encodeExtensionArea_of_decode {area : List UInt8} {exts : List R2wpExtension}
    (h : decodeExtensionArea area = .ok exts) :
    Encode.encodeExtensionArea exts = .ok (assignedOnly area) := by
  obtain ⟨all, hholds, hfits, rfl⟩ := exists_holds_of_decode h
  have hsublist := (List.filter_sublist : (all.filter (isAssigned ·.typeId)).Sublist all)
  have hwrite : Encode.writeTlvs none (all.filter (isAssigned ·.typeId)) =
      .ok ((all.filter (isAssigned ·.typeId)).flatMap tlvBytes) := by
    refine writeTlvs_eq_ok.mpr ⟨fun ext hext => hholds.length ext (hsublist.subset hext), ?_, rfl⟩
    exact (hholds.ascending.sublist (hsublist.map _)).isChain
  have hlength : ((all.filter (isAssigned ·.typeId)).flatMap tlvBytes).length ≤
      extensionAreaMaxBytes := by
    refine le_trans ?_ hfits
    rw [hholds.bytes_eq]
    exact (hsublist.flatMap tlvBytes).length_le
  have hassigned : assignedOnly area = (all.filter (isAssigned ·.typeId)).flatMap tlvBytes := by
    conv_lhs => rw [hholds.bytes_eq]
    exact assignedOnly_flatMap hholds.length
  rw [Encode.encodeExtensionArea, hwrite, hassigned]
  exact if_neg (Nat.not_lt.mpr hlength)

/-- **Extension areas are canonical.**  What an area decodes to is written back as the area without
the records of unassigned types, hence byte for byte when there are none; its types ascend; and a
record that may be skipped changes nothing behind an area. -/
theorem extension_areas_canonical (area : List UInt8) :
    (∀ exts, decodeExtensionArea area = .ok exts →
      Encode.encodeExtensionArea exts = .ok (assignedOnly area) ∧
      ((∀ tlv ∈ splitTlvs area, isAssigned (tlvType tlv)) →
        Encode.encodeExtensionArea exts = .ok area) ∧
      (exts.map (·.typeId)).Pairwise (· < ·)) ∧
    ∀ more, Skippable area more →
      decodeExtensionArea (area ++ more) = decodeExtensionArea area := by
  refine ⟨fun exts hdecode => ⟨encodeExtensionArea_of_decode hdecode, fun hassigned => ?_, ?_⟩,
    fun more => decodeExtensionArea_append⟩
  · obtain ⟨all, hholds, -, -⟩ := exists_holds_of_decode hdecode
    rw [encodeExtensionArea_of_decode hdecode, assignedOnly_eq_self hholds hassigned]
  · obtain ⟨all, hholds, -, rfl⟩ := exists_holds_of_decode hdecode
    exact hholds.ascending.sublist (List.filter_sublist.map _)

end Extension
end Rclweb
