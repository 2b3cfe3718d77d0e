import Rclweb.Protocol.EncodedSize

/-!
# Decoded values encode

The other direction of the round trip: whatever the decoder accepts is what the encoder
writes for the decoded value, byte for byte.  Two things make it so.  A head is accepted in its
shortest form only (`HeadRead`), and the keys of a map are accepted in ascending order only, so
that sorting them changes nothing.

Together the two directions say that the decoder accepts the encodings of short values and
nothing else (`decode_bijective`).
-/

namespace Rclweb

open BigEndian

namespace Cbor

/-! ## Heads -/

/-- What is known of an argument that was read. -/
theorem readArgument_eq_ok {r r' : Reader} {h h' : Head} {width shortest : ℕ}
    (hread : readArgument r h width shortest = .ok (h', r')) :
    h' = { h with argument := h'.argument } ∧ h'.argument < 256 ^ width ∧
      r.bytes = toBytes width h'.argument ++ r'.bytes ∧
      (h.major ≠ 7 ∨ h.additional = 24 → shortest ≤ h'.argument) := by
  unfold readArgument at hread
  split at hread
  · contradiction
  next hlen =>
  dsimp only at hread
  split at hread
  · contradiction
  next hshort =>
  obtain ⟨rfl, rfl⟩ := Prod.mk.inj (Except.ok.inj hread)
  have hwidth : (r.bytes.take width).length = width := by
    rw [List.length_take]
    exact Nat.min_eq_left (Nat.le_of_not_lt hlen)
  refine ⟨rfl, ?_, ?_, fun hinteger => ?_⟩
  · have hlt := ofBytes_lt (r.bytes.take width)
    rwa [hwidth] at hlt
  · have hbytes := toBytes_ofBytes (r.bytes.take width)
    rw [hwidth] at hbytes
    exact ((congrArg (· ++ r.bytes.drop width) hbytes).trans (List.take_append_drop ..)).symm
  · have hint : (!(h.major == 7 && (25 ≤ h.additional && h.additional ≤ 27))) = true := by
      rcases hinteger with hmajor | hadd
      · simp [hmajor]
      · simp [hadd]
    rw [hint, Bool.true_and, decide_eq_true_eq] at hshort
    exact Nat.le_of_not_lt hshort

/-- **What is known of a head that was read**: outside the last major type it is the head the
encoder writes. -/
structure HeadRead (r : Reader) (h : Head) (r' : Reader) : Prop where
  argument_lt : h.argument < 2 ^ 64
  written : h.major ≠ 7 → r.bytes = Encode.writeHead h.major h.argument ++ r'.bytes
  single : h.additional ≤ 23 → h.argument = h.additional ∧
    r.bytes = UInt8.ofNat (h.major * 32 + h.additional) :: r'.bytes
  long : h.additional = 24 → 24 ≤ h.argument

theorem headRead {r r' : Reader} {h : Head} (hread : readHead r = .ok (h, r')) :
    HeadRead r h r' := by
  obtain ⟨bytes, offset⟩ := r
  cases bytes with
  | nil => contradiction
  | cons initial bytes =>
    obtain ⟨major, low, hmajor, hlow, rfl⟩ : ∃ major low, major < 8 ∧ low < 32 ∧
        initial = UInt8.ofNat (major * 32 + low) := by
      have hlt := initial.toNat_lt
      refine ⟨initial.toNat / 32, initial.toNat % 32, by omega, by omega, ?_⟩
      rw [show initial.toNat / 32 * 32 + initial.toNat % 32 = initial.toNat by omega,
        UInt8.ofNat_toNat]
    rw [readHead_initial bytes offset hmajor hlow] at hread
    -- one case for each width of the argument
    split at hread
    · next hle =>
      obtain ⟨rfl, rfl⟩ := Prod.mk.inj (Except.ok.inj hread)
      refine ⟨show low < 2 ^ 64 by omega, fun _ => ?_, fun _ => ⟨rfl, rfl⟩,
        fun h24 => absurd h24 (show ¬ low = 24 by omega)⟩
      simp only [Encode.writeHead, hle, if_true, List.singleton_append]
    next h23 =>
    have hargument (width shortest : ℕ) (hw : 256 ^ width ≤ 2 ^ 64)
        (hread : readArgument ⟨bytes, offset + 1⟩ ⟨major, low, low, offset⟩ width shortest =
          .ok (h, r'))
        (hwrite : h.argument < 256 ^ width → shortest ≤ h.argument →
          Encode.writeHead major h.argument =
            UInt8.ofNat (major * 32 + low) :: toBytes width h.argument)
        (hlong : low = 24 → 24 ≤ shortest) :
        HeadRead ⟨UInt8.ofNat (major * 32 + low) :: bytes, offset⟩ h r' := by
      obtain ⟨heq, hlt, hbytes, hshort⟩ := readArgument_eq_ok hread
      have hm : h.major = major := by rw [heq]
      have ha : h.additional = low := by rw [heq]
      refine ⟨hlt.trans_le hw, fun hne => ?_, fun hle => absurd hle (by omega), fun h24 => ?_⟩
      · rw [hm, hwrite hlt (hshort (.inl (hm ▸ hne)))]
        exact congrArg (_ :: ·) hbytes
      · exact (hlong (ha ▸ h24)).trans (hshort (.inr (ha ▸ h24)))
    split at hread
    · next h24 =>
      refine hargument 1 24 (by norm_num) hread (fun hlt hle => ?_) fun _ => Nat.le_refl 24
      rw [Encode.writeHead, if_neg (by omega), if_pos (by omega), h24]
    split at hread
    · next h25 =>
      refine hargument 2 0x100 (by norm_num) hread (fun hlt hle => ?_) (by omega)
      rw [Encode.writeHead, if_neg (by omega), if_neg (by omega), if_pos (by omega), h25]
    split at hread
    · next h26 =>
      refine hargument 4 0x10000 (by norm_num) hread (fun hlt hle => ?_) (by omega)
      rw [Encode.writeHead, if_neg (by omega), if_neg (by omega), if_neg (by omega),
        if_pos (by omega), h26]
    split at hread
    · next h27 =>
      refine hargument 8 0x100000000 (by norm_num) hread (fun hlt hle => ?_) (by omega)
      rw [Encode.writeHead, if_neg (by omega), if_neg (by omega), if_neg (by omega),
        if_neg (by omega), h27]
    split at hread <;> contradiction

/-! ## Lists -/

/-- A decoder of items that encode, at a depth, to the bytes they were read from. -/
def Rewrites (depth : ℕ) (item : Reader → Except CborError (CborValue × Reader)) : Prop :=
  ∀ r v r', item r = .ok (v, r') →
    ∃ b, r.bytes = b ++ r'.bytes ∧ Encode.encodeValue v depth = .ok b ∧ v.canon = v ∧ v.Short

variable {depth : ℕ} {item : Reader → Except CborError (CborValue × Reader)}

theorem rewrites_decodeItems (hitem : Rewrites depth item) {n : ℕ} {r r' : Reader}
    {vs : List CborValue} (h : decodeItems item n r = .ok (vs, r')) :
    vs.length = n ∧ (∀ v ∈ vs, v.canon = v ∧ v.Short) ∧
      ∃ pieces : List (List UInt8), vs.map (Encode.encodeValue · depth) = pieces.map .ok ∧
        r.bytes = pieces.flatten ++ r'.bytes := by
  induction n generalizing r vs with
  | zero =>
    obtain ⟨rfl, rfl⟩ := Prod.mk.inj (Except.ok.inj h)
    exact ⟨rfl, nofun, [], rfl, rfl⟩
  | succ n ih =>
    rw [decodeItems, bind_eq_ok] at h
    obtain ⟨⟨v, r₁⟩, hv, h⟩ := h
    rw [bind_eq_ok] at h
    obtain ⟨⟨vs', r₂⟩, hvs, h⟩ := h
    obtain ⟨rfl, rfl⟩ := Prod.mk.inj (Except.ok.inj h)
    obtain ⟨b, hb, hencode, hcanon, hshort⟩ := hitem r v r₁ hv
    obtain ⟨hlen, hall, pieces, hpieces, hbytes⟩ := ih hvs
    refine ⟨by rw [List.length_cons, hlen], ?_, b :: pieces, ?_, ?_⟩
    · intro w hw
      rcases List.mem_cons.mp hw with rfl | hw
      · exact ⟨hcanon, hshort⟩
      · exact hall w hw
    · rw [List.map_cons, List.map_cons, hencode, hpieces]
    · rw [hb, hbytes, List.flatten_cons, List.append_assoc]

/-- A key that was checked is none of those before it, and above the last of them. -/
theorem checkKey_eq_ok {seen : List UInt64} {prev : Option UInt64} {key : UInt64} {offset : ℕ}
    (h : checkKey seen prev key offset = .ok ()) :
    key ∉ seen ∧ ∀ p ∈ prev, p ∈ seen → p < key := by
  unfold checkKey at h
  split at h
  · contradiction
  next hseen =>
  have hnot : key ∉ seen := by simpa using hseen
  refine ⟨hnot, fun p hp hmem => ?_⟩
  obtain rfl := Option.mem_def.mp hp
  dsimp only at h
  split at h
  · contradiction
  next hle =>
  exact UInt64.lt_of_le_of_ne (UInt64.not_lt.mp hle) fun heq => hnot (heq ▸ hmem)

theorem rewrites_decodeEntries (hitem : Rewrites depth item) {n : ℕ} {seen : List UInt64}
    {prev : Option UInt64} (hprev : ∀ p ∈ prev, p ∈ seen) {r r' : Reader}
    {es : List (UInt64 × CborValue)}
    (h : decodeEntries item n seen prev r = .ok (es, r')) :
    es.length = n ∧ (∀ e ∈ es, e.2.canon = e.2 ∧ e.2.Short) ∧
      es.Pairwise (fun a b => a.1 < b.1) ∧ (∀ e ∈ es, ∀ p ∈ prev, p < e.1) ∧
      ∃ pieces : List (List UInt8), es.map (encodeEntryBytes depth) = pieces.map .ok ∧
        r.bytes = pieces.flatten ++ r'.bytes := by
  induction n generalizing r es seen prev with
  | zero =>
    obtain ⟨rfl, rfl⟩ := Prod.mk.inj (Except.ok.inj h)
    exact ⟨rfl, nofun, .nil, nofun, [], rfl, rfl⟩
  | succ n ih =>
    rw [decodeEntries, bind_eq_ok] at h
    obtain ⟨⟨hd, r₀⟩, hhead, h⟩ := h
    dsimp only at h
    split at h
    · contradiction
    next hmajor =>
    have hmajor : hd.major = 0 := by simpa using hmajor
    rw [bind_eq_ok] at h
    obtain ⟨_, hkey, h⟩ := h
    rw [bind_eq_ok] at h
    obtain ⟨⟨v, r₁⟩, hv, h⟩ := h
    rw [bind_eq_ok] at h
    obtain ⟨⟨es', r₂⟩, hes, h⟩ := h
    obtain ⟨rfl, rfl⟩ := Prod.mk.inj (Except.ok.inj h)
    set key := UInt64.ofNat hd.argument with hkeydef
    have hspec := headRead hhead
    have hwritten := hspec.written (by rw [hmajor]; decide)
    have hback : key.toNat = hd.argument := by
      rw [hkeydef, UInt64.toNat_ofNat', Nat.mod_eq_of_lt hspec.argument_lt]
    rw [hmajor, ← hback] at hwritten
    obtain ⟨hfresh, habove⟩ := checkKey_eq_ok hkey
    obtain ⟨b, hb, hencode, hcanon, hshort⟩ := hitem r₀ v r₁ hv
    obtain ⟨hlen, hall, hasc, hfirst, pieces, hpieces, hbytes⟩ :=
      ih (fun p hp => Option.mem_some.mp hp ▸ List.mem_cons_self) hes
    have hkeys : ∀ e ∈ es', key < e.1 := fun e he => hfirst e he key rfl
    refine ⟨by rw [List.length_cons, hlen], ?_, List.pairwise_cons.mpr ⟨hkeys, hasc⟩, ?_,
      (Encode.writeHead 0 key.toNat ++ b) :: pieces, ?_, ?_⟩
    · intro e he
      rcases List.mem_cons.mp he with rfl | he
      · exact ⟨hcanon, hshort⟩
      · exact hall e he
    · intro e he p hp
      have hlt := habove p hp (hprev p hp)
      rcases List.mem_cons.mp he with rfl | he
      · exact hlt
      · exact UInt64.lt_trans hlt (hkeys e he)
    · rw [List.map_cons, List.map_cons, hpieces, encodeEntryBytes, hencode]
      rfl
    · rw [hwritten, hb, hbytes, List.flatten_cons, List.append_assoc, List.append_assoc]

/-! ## Values -/

theorem lengthToUsize_eq_ok {argument headOffset len : ℕ}
    (h : lengthToUsize argument headOffset = .ok len) : len = argument ∧ len ≤ maxSafeInteger := by
  unfold lengthToUsize at h
  split at h
  · contradiction
  next hle =>
  obtain rfl := Except.ok.inj h
  exact ⟨rfl, Nat.le_of_not_lt hle⟩

theorem readSlice_eq_ok {r r' : Reader} {n : ℕ} {slice : List UInt8}
    (h : r.readSlice n = .ok (slice, r')) : slice.length = n ∧ r.bytes = slice ++ r'.bytes := by
  unfold Reader.readSlice at h
  split at h
  · contradiction
  next hlen =>
  obtain ⟨rfl, rfl⟩ := Prod.mk.inj (Except.ok.inj h)
  refine ⟨?_, (List.take_append_drop n r.bytes).symm⟩
  rw [List.length_take]
  exact Nat.min_eq_left (Nat.le_of_not_lt hlen)

/-- The three simple values, as the encoder writes them. -/
theorem decodeSimple_eq_ok (depth : ℕ) {code headOffset : ℕ} {v : CborValue}
    (h : decodeSimple code headOffset = .ok v) :
    code ≤ 23 ∧ Encode.encodeValue v depth = .ok [UInt8.ofNat (7 * 32 + code)] ∧
      v.canon = v ∧ v.Short := by
  unfold decodeSimple at h
  split at h
  · next hcode =>
    obtain rfl := Except.ok.inj h
    subst hcode
    exact ⟨by decide, rfl, rfl, trivial⟩
  split at h
  · next hcode =>
    obtain rfl := Except.ok.inj h
    subst hcode
    exact ⟨by decide, rfl, rfl, trivial⟩
  split at h
  · next hcode =>
    obtain rfl := Except.ok.inj h
    subst hcode
    exact ⟨by decide, rfl, rfl, trivial⟩
  · contradiction

/-- **A scalar encodes to its head and what follows it.** -/
theorem rewrites_decodeScalar {r r₁ r' : Reader} {h : Head} {v : CborValue}
    (hhead : HeadRead r h r₁) (hscalar : decodeScalar h r₁ = .ok (v, r')) :
    ∃ b, r.bytes = b ++ r'.bytes ∧ Encode.encodeValue v depth = .ok b ∧ v.canon = v ∧
      v.Short := by
  unfold decodeScalar at hscalar
  split at hscalar
  · next hmajor =>
    obtain ⟨rfl, rfl⟩ := Prod.mk.inj (Except.ok.inj hscalar)
    refine ⟨_, hhead.written (by omega), ?_, rfl, trivial⟩
    rw [Encode.encodeValue, hmajor, UInt64.toNat_ofNat', Nat.mod_eq_of_lt hhead.argument_lt]
  · next hmajor =>
    obtain ⟨rfl, rfl⟩ := Prod.mk.inj (Except.ok.inj hscalar)
    refine ⟨_, hhead.written (by omega), ?_, rfl, trivial⟩
    have hlt := hhead.argument_lt
    rw [Encode.encodeValue, if_neg (by omega), if_neg (by omega), hmajor,
      show (-1 - (-1 - (h.argument : ℤ))).toNat = h.argument by omega]
  · next hmajor =>
    rw [bind_eq_ok] at hscalar
    obtain ⟨len, hlen, hscalar⟩ := hscalar
    rw [bind_eq_ok] at hscalar
    obtain ⟨⟨slice, r₂⟩, hslice, hscalar⟩ := hscalar
    obtain ⟨rfl, rfl⟩ := Prod.mk.inj (Except.ok.inj hscalar)
    obtain ⟨rfl, hsafe⟩ := lengthToUsize_eq_ok hlen
    obtain ⟨hlength, hbytes⟩ := readSlice_eq_ok hslice
    refine ⟨Encode.writeHead 2 slice.length ++ slice, ?_, rfl, rfl, ?_⟩
    · rw [hhead.written (by omega), hmajor, hbytes, hlength, List.append_assoc]
    · rw [CborValue.Short, hlength]
      exact hsafe
  · next hmajor =>
    rw [bind_eq_ok] at hscalar
    obtain ⟨len, hlen, hscalar⟩ := hscalar
    rw [bind_eq_ok] at hscalar
    obtain ⟨⟨slice, r₂⟩, hslice, hscalar⟩ := hscalar
    obtain ⟨rfl, hsafe⟩ := lengthToUsize_eq_ok hlen
    obtain ⟨hlength, hbytes⟩ := readSlice_eq_ok hslice
    dsimp only at hscalar
    split at hscalar
    · next t ht =>
      obtain ⟨rfl, rfl⟩ := Prod.mk.inj (Except.ok.inj hscalar)
      have hutf8 := utf8_of_ofUtf8? ht
      refine ⟨Encode.writeHead 3 (utf8 t).length ++ utf8 t, ?_, rfl, rfl, ?_⟩
      · rw [hhead.written (by omega), hmajor, hbytes, hutf8, hlength, List.append_assoc]
      · rw [CborValue.Short, hutf8, hlength]
        exact hsafe
    · contradiction
  · contradiction
  · next hmajor =>
    split at hscalar
    · contradiction
    rw [bind_eq_ok] at hscalar
    obtain ⟨w, hsimple, hscalar⟩ := hscalar
    obtain ⟨rfl, rfl⟩ := Prod.mk.inj (Except.ok.inj hscalar)
    obtain ⟨hcode, hencode, hcanon, hshort⟩ := decodeSimple_eq_ok depth hsimple
    by_cases h24 : h.additional = 24
    · -- a code of its own byte is never one of the three
      rw [if_pos h24] at hcode
      have hlong := hhead.long h24
      omega
    · rw [if_neg h24] at hcode hencode
      refine ⟨_, ?_, hencode, hcanon, hshort⟩
      rw [(hhead.single hcode).2, hmajor]
      rfl
  · contradiction

/-- Sorting entries that ascend changes nothing. -/
theorem sortByKey_of_ascending {es : List (UInt64 × CborValue)}
    (h : es.Pairwise fun a b => a.1 < b.1) : Control.sortByKey es = es :=
  List.Pairwise.insertionSort_eq (h.imp fun hlt => UInt64.le_of_lt hlt)

/-- **What is decoded encodes to the bytes it was read from.** -/
theorem rewrites_decodeValue {levels : ℕ} (hlevels : levels ≤ maxNestingDepth) :
    Rewrites (maxNestingDepth - levels) (decodeValue levels) := by
  induction levels with
  | zero =>
    intro r v r' h
    rw [decodeValue, bind_eq_ok] at h
    obtain ⟨⟨hd, r₁⟩, hhead, h⟩ := h
    dsimp only at h
    split at h
    · contradiction
    · exact rewrites_decodeScalar (headRead hhead) h
  | succ levels ih =>
    have hitem := ih (Nat.le_of_succ_le hlevels)
    have hdepth : maxNestingDepth - levels = maxNestingDepth - (levels + 1) + 1 := by omega
    intro r v r' h
    rw [decodeValue, bind_eq_ok] at h
    obtain ⟨⟨hd, r₁⟩, hhead, h⟩ := h
    have hspec := headRead hhead
    dsimp only at h
    split at h
    · next hmajor =>
      rw [bind_eq_ok] at h
      obtain ⟨len, hlen, h⟩ := h
      obtain ⟨rfl, hsafe⟩ := lengthToUsize_eq_ok hlen
      split at h
      · contradiction
      rw [bind_eq_ok] at h
      obtain ⟨⟨vs, r₂⟩, hitems, h⟩ := h
      obtain ⟨rfl, rfl⟩ := Prod.mk.inj (Except.ok.inj h)
      obtain ⟨hcount, hall, pieces, hpieces, hbytes⟩ := rewrites_decodeItems hitem hitems
      refine ⟨Encode.writeHead 4 vs.length ++ pieces.flatten, ?_, ?_, ?_, ?_⟩
      · rw [hspec.written (by omega), hmajor, hbytes, hcount, List.append_assoc]
      · rw [Encode.encodeValue, if_neg (by omega), encodeItems_eq, ← hdepth, hpieces,
          Encode.concatPieces_map_ok]
        rfl
      · rw [CborValue.canon, CborValue.canonItems_eq]
        exact congrArg _ ((List.map_congr_left fun v hv => (hall v hv).1).trans (List.map_id vs))
      · rw [CborValue.Short, CborValue.shortItems_iff, hcount]
        exact ⟨hsafe, fun v hv => (hall v hv).2⟩
    split at h
    · next hmajor =>
      split at h
      · contradiction
      next hentries =>
      rw [bind_eq_ok] at h
      obtain ⟨len, hlen, h⟩ := h
      obtain ⟨rfl, hsafe⟩ := lengthToUsize_eq_ok hlen
      split at h
      · contradiction
      rw [bind_eq_ok] at h
      obtain ⟨⟨es, r₂⟩, hes, h⟩ := h
      obtain ⟨rfl, rfl⟩ := Prod.mk.inj (Except.ok.inj h)
      obtain ⟨hcount, hall, hasc, -, pieces, hpieces, hbytes⟩ :=
        rewrites_decodeEntries hitem (by simp) hes
      have hsorted := sortByKey_of_ascending hasc
      refine ⟨Encode.writeHead 5 es.length ++ pieces.flatten, ?_, ?_, ?_, ?_⟩
      · rw [hspec.written (by omega), hmajor, hbytes, hcount, List.append_assoc]
      · rw [Encode.encodeValue, if_neg (by omega), ← hdepth, writeEntries_eq_ok_iff, hsorted,
          hpieces]
        refine ⟨hcount.trans_le (Nat.le_of_not_lt hentries), ?_, _,
          Encode.concatPieces_map_ok pieces, rfl⟩
        exact List.pairwise_map.mpr (hasc.imp fun hlt => UInt64.ne_of_lt hlt)
      · rw [CborValue.canon, CborValue.canonEntries_eq]
        have hsame : (es.map fun e => (e.1, e.2.canon)) = es.map id :=
          List.map_congr_left fun e he => congrArg (e.1, ·) (hall e he).1
        rw [hsame, List.map_id, hsorted]
      · rw [CborValue.Short, CborValue.shortEntries_iff]
        exact fun e he => (hall e he).2
    · exact rewrites_decodeScalar hspec h

/-- **Whatever the decoder accepts the encoder writes**, and it is canonical and short. -/
theorem encode_decode {b : List UInt8} {v : CborValue} (h : decodeDeterministicCbor b = .ok v) :
    Encode.encodeDeterministicCbor v = .ok b ∧ v.canon = v ∧ v.Short := by
  unfold decodeDeterministicCbor at h
  split at h
  · contradiction
  rw [bind_eq_ok] at h
  obtain ⟨⟨w, r⟩, hvalue, h⟩ := h
  dsimp only at h
  split at h
  · next hempty =>
    obtain rfl := Except.ok.inj h
    obtain ⟨b', hb, hencode, hcanon, hshort⟩ :=
      rewrites_decodeValue (Nat.le_refl maxNestingDepth) _ _ _ hvalue
    have hrest : r.bytes = [] := List.isEmpty_iff.mp hempty
    rw [hrest, List.append_nil] at hb
    obtain rfl : b = b' := hb
    exact ⟨hencode, hcanon, hshort⟩
  · contradiction

mutual

/-- Sorting maps changes no length of a string or an array. -/
theorem short_canon : ∀ v : CborValue, v.canon.Short ↔ v.Short
  | .null | .bool _ | .unsigned _ | .negative _ | .bytes _ | .text _ => Iff.rfl
  | .array items => by
    rw [CborValue.canon, CborValue.Short, CborValue.Short, CborValue.shortItems_iff,
      CborValue.shortItems_iff, CborValue.canonItems_eq, List.length_map, List.forall_mem_map]
    exact and_congr_right' (forall₂_congr (short_canon_items items))
  | .map entries => by
    rw [CborValue.canon, CborValue.Short, CborValue.Short, CborValue.shortEntries_iff,
      CborValue.shortEntries_iff, CborValue.canonEntries_eq]
    simp only [Control.mem_sortByKey, List.forall_mem_map]
    exact forall₂_congr (short_canon_entries entries)

theorem short_canon_items :
    ∀ items : List CborValue, ∀ item ∈ items, item.canon.Short ↔ item.Short
  | [] => nofun
  | item :: items => fun i h => by
    rcases List.mem_cons.mp h with heq | h
    · rw [heq]
      exact short_canon item
    · exact short_canon_items items i h

theorem short_canon_entries :
    ∀ entries : List (UInt64 × CborValue), ∀ e ∈ entries, e.2.canon.Short ↔ e.2.Short
  | [] => nofun
  | entry :: entries => fun e h => by
    rcases List.mem_cons.mp h with heq | h
    · rw [heq]
      exact short_canon_entry entry
    · exact short_canon_entries entries e h

theorem short_canon_entry : ∀ entry : UInt64 × CborValue, entry.2.canon.Short ↔ entry.2.Short
  | (_, value) => short_canon value

end

/-- **Deterministic CBOR is a bijection** between the byte strings the decoder accepts and
canonical short values: what is decoded is encoded to the same bytes, and what is encoded is
decoded to its canonical form exactly when it is short. -/
theorem decode_bijective :
    (∀ b v, decodeDeterministicCbor b = .ok v → Encode.encodeDeterministicCbor v = .ok b) ∧
      (∀ v b, Encode.encodeDeterministicCbor v = .ok b →
        (decodeDeterministicCbor b = .ok v.canon ↔ v.Short)) ∧
      ∀ b, (∃ v, decodeDeterministicCbor b = .ok v) ↔
        ∃ v : CborValue, v.Short ∧ Encode.encodeDeterministicCbor v = .ok b := by
  refine ⟨fun b v h => (encode_decode h).1, fun v b h => ⟨fun hdecode => ?_, fun hshort => ?_⟩,
    fun b => ⟨?_, ?_⟩⟩
  · exact (short_canon v).mp (encode_decode hdecode).2.2
  · exact decode_encode_of_short h hshort
  · rintro ⟨v, h⟩
    obtain ⟨hencode, -, hshort⟩ := encode_decode h
    exact ⟨v, hshort, hencode⟩
  · rintro ⟨v, hshort, h⟩
    exact ⟨v.canon, decode_encode_of_short h hshort⟩

/-- The encoder writes a byte string of `2 ^ 53` bytes, which the decoder refuses. -/
theorem not_decode_encode_of_long :
    ¬ ∀ v b, Encode.encodeDeterministicCbor v = .ok b →
      decodeDeterministicCbor b = .ok v.canon := by
  intro h
  have hencode (b : List UInt8) : Encode.encodeDeterministicCbor (.bytes b) =
      .ok (Encode.writeHead 2 b.length ++ b) := by
    rw [Encode.encodeDeterministicCbor, Encode.encodeValue]
  have hshort := (encode_decode (h _ _ (hencode (List.replicate (2 ^ 53) 0)))).2.2
  rw [short_canon, CborValue.Short, List.length_replicate, maxSafeInteger] at hshort
  omega

end Cbor

/-! ## Values in key order -/

namespace CborValue

/-- **A value as the decoder gives it**: it is canonical, and it encodes at some depth. -/
def InOrder (v : CborValue) : Prop := v.canon = v ∧ ∃ depth, Encode.Encodes depth v

theorem inOrder_null : InOrder .null := ⟨rfl, 0, Encode.encodes_null 0⟩

variable {entries : List (UInt64 × CborValue)} {items : List CborValue}

/-- The entries of a map ascend, and are in order themselves. -/
theorem InOrder.map (h : InOrder (.map entries)) :
    (entries.Pairwise fun a b => a.1 < b.1) ∧ ∀ e ∈ entries, e.2.InOrder := by
  obtain ⟨hcanon, depth, hencodes⟩ := h
  obtain ⟨-, -, hnodup, hchildren⟩ := Encode.encodes_map_iff.mp hencodes
  rw [canon, canonEntries_eq, map.injEq] at hcanon
  have hkeys : ((entries.map fun e => (e.1, e.2.canon)).map Prod.fst) = entries.map Prod.fst := by
    rw [List.map_map]
    rfl
  have hascending : entries.Pairwise fun a b => a.1 < b.1 := by
    rw [← hcanon]
    exact Control.sortByKey_ascending (by rw [hkeys]; exact hnodup)
  have hsame : (entries.map fun e => (e.1, e.2.canon)) = entries.map id := by
    rw [Control.sortByKey_map canon, Cbor.sortByKey_of_ascending hascending] at hcanon
    rw [hcanon, List.map_id]
  refine ⟨hascending, fun e he => ⟨?_, depth + 1, hchildren e he⟩⟩
  exact congrArg Prod.snd (List.map_inj_left.mp hsame e he)

/-- The items of an array are in order. -/
theorem InOrder.array (h : InOrder (.array items)) : ∀ item ∈ items, item.InOrder := by
  obtain ⟨hcanon, depth, hencodes⟩ := h
  rw [canon, canonItems_eq, array.injEq] at hcanon
  have hsame : items.map canon = items.map id := by rw [hcanon, List.map_id]
  exact fun item hitem => ⟨List.map_inj_left.mp hsame item hitem, depth + 1,
    (Encode.encodes_array_iff.mp hencodes).2 item hitem⟩

/-- A decoded negative is negative. -/
theorem InOrder.negative {v : ℤ} (h : InOrder (.negative v)) : v < 0 := by
  obtain ⟨-, depth, b, hb⟩ := h
  rw [Encode.encodeValue] at hb
  split_ifs at hb with hneg
  · omega

end CborValue

/-- What the decoder of control values gives is in order. -/
theorem Cbor.inOrder_of_decode {b : List UInt8} {v : CborValue}
    (h : Cbor.decodeDeterministicCbor b = .ok v) : v.InOrder :=
  have ⟨hencode, hcanon, _⟩ := Cbor.encode_decode h
  ⟨hcanon, 0, b, hencode⟩

end Rclweb
