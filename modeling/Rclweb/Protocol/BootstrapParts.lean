import Rclweb.Library.Members
import Rclweb.Protocol.CborCanonical

/-!
# Parts of bootstrap records, written and read

What the decoders of the parts of a bootstrap record accept, said in terms of the encoder: a
decoder *represents* a type when it takes the values its writer gives of the valid members of
the type, and nothing else.  The parts of a map are put together by their keys, which ascend
(`Library.Members`).
-/

namespace Rclweb

open BigEndian Members

namespace Bootstrap

/-! ## Parts of a record -/

/-- **A decoder of a part**: on values in key order it takes what `write` gives of the valid
members of a type, and nothing else. -/
structure Represents {α : Type} (decode : CborValue → Except ProtocolError α)
    (write : α → CborValue) (Valid : α → Prop) : Prop where
  decode_iff : ∀ v : CborValue, v.InOrder → ∀ a, decode v = .ok a ↔ v = write a ∧ Valid a
  ne_null : ∀ a, write a ≠ .null

section Members

variable {α : Type} {decode : CborValue → Except ProtocolError α} {write : α → CborValue}
  {Valid : α → Prop} {map : Entries}

/-- A required member. -/
theorem Represents.get (h : Represents decode write Valid) (hmap : ∀ e ∈ map, e.2.InOrder)
    (key : UInt64) (a : α) :
    decode (get map key) = .ok a ↔ map.lookup key = some (write a) ∧ Valid a := by
  rw [Bootstrap.get]
  cases hlookup : map.lookup key with
  | none =>
    rw [Option.getD_none, h.decode_iff _ CborValue.inOrder_null]
    constructor
    · rintro ⟨hnull, -⟩
      exact absurd hnull.symm (h.ne_null a)
    · rintro ⟨hnone, -⟩
      cases hnone
  | some v =>
    obtain ⟨front, back, rfl, -⟩ := List.lookup_eq_some_iff.mp hlookup
    rw [Option.getD_some, h.decode_iff _ (hmap (key, v) (List.mem_append_right _
      List.mem_cons_self)), Option.some.injEq]

/-- An optional member. -/
theorem Represents.optional (h : Represents decode write Valid) (hmap : ∀ e ∈ map, e.2.InOrder)
    (key : UInt64) (o : Option α) :
    optional map key decode = .ok o ↔ map.lookup key = o.map write ∧ ∀ a ∈ o, Valid a := by
  rw [Bootstrap.optional]
  cases hlookup : map.lookup key with
  | none =>
    cases o with
    | none => simp
    | some a => simp
  | some v =>
    obtain ⟨front, back, rfl, -⟩ := List.lookup_eq_some_iff.mp hlookup
    have hv := h.decode_iff v (hmap (key, v) (List.mem_append_right _ List.mem_cons_self))
    cases o with
    | none =>
      cases hdecode : decode v with
      | error e => simp [hdecode, Functor.map, Except.map]
      | ok a => simp [hdecode, Functor.map, Except.map]
    | some a =>
      rw [Option.map_some, Option.some.injEq]
      cases hdecode : decode v with
      | error e =>
        have hne := (hv a).not.mp (by rw [hdecode]; exact nofun)
        simpa [hdecode, Functor.map, Except.map] using hne
      | ok a' =>
        have hiff := hv a
        rw [hdecode, Except.ok.injEq] at hiff
        simpa [hdecode, Functor.map, Except.map] using hiff

theorem requireExactKeys_eq_ok {required optional : List UInt64} {offset : ℕ} :
    requireExactKeys map required optional offset = .ok () ↔
      (∀ e ∈ map, e.1 ∈ required ++ optional) ∧
        ∀ key ∈ required, (map.lookup key).isSome = true := by
  have hknown : (map.any fun e => !required.contains e.1 && !optional.contains e.1) = false ↔
      ∀ e ∈ map, e.1 ∈ required ++ optional := by
    rw [List.any_eq_false]
    refine forall₂_congr fun e _ => ?_
    rw [List.mem_append, Bool.and_eq_true, Bool.not_eq_true', Bool.not_eq_true']
    simp only [List.contains_eq_mem, decide_eq_false_iff_not]
    tauto
  have hpresent : (required.any fun key => !map.any (·.1 == key)) = false ↔
      ∀ key ∈ required, (map.lookup key).isSome = true := by
    rw [List.any_eq_false]
    refine forall₂_congr fun key _ => ?_
    rw [Bool.not_eq_true', Bool.not_eq_false, List.any_eq_true, List.lookup_isSome_iff]
    refine exists_congr fun e => and_congr_right fun _ => ?_
    rw [beq_iff_eq, beq_iff_eq]
    exact eq_comm
  rw [requireExactKeys, ← hknown, ← hpresent]
  split_ifs with h₁ h₂
  · rw [h₁]
    simp
  · rw [h₂]
    simp
  · exact iff_of_true rfl ⟨Bool.eq_false_iff.mpr h₁, Bool.eq_false_iff.mpr h₂⟩

end Members

/-- **A map with the given members**, the required ones there and no key beside them. -/
theorem map_eq_iff {map : Entries} (hmap : (CborValue.map map).InOrder)
    (members : List (UInt64 × Option CborValue)) (required optional : List UInt64) (offset : ℕ)
    (hmembers : members.Pairwise fun a b => a.1 < b.1)
    (hkeys : ∀ key, key ∈ members.map Prod.fst ↔ key ∈ required ++ optional)
    (hrequired : ∀ key ∈ required, ∃ v, (key, some v) ∈ members) :
    map = present members ↔ requireExactKeys map required optional offset = .ok () ∧
      ∀ m ∈ members, map.lookup m.1 = m.2 := by
  rw [eq_present_iff (r := fun a b : UInt64 => a < b) (fun _ _ => UInt64.lt_asymm) hmap.map.1
    hmembers, requireExactKeys_eq_ok]
  constructor
  · rintro ⟨hknown, hlookup⟩
    refine ⟨⟨fun e he => (hkeys e.1).mp (hknown e he), fun key hkey => ?_⟩, hlookup⟩
    obtain ⟨v, hv⟩ := hrequired key hkey
    rw [hlookup _ hv]
    rfl
  · rintro ⟨⟨hknown, -⟩, hlookup⟩
    exact ⟨fun e he => (hkeys e.1).mpr (hknown e he), hlookup⟩

/-! ## Scalars and lists -/

theorem ofU8_eq (v : UInt8) : Encode.ofU8 v = .unsigned (UInt64.ofNat v.toNat) :=
  congrArg CborValue.unsigned (UInt64.toNat_inj.mp (by simp))

theorem ofU16_eq (v : UInt16) : Encode.ofU16 v = .unsigned (UInt64.ofNat v.toNat) :=
  congrArg CborValue.unsigned (UInt64.toNat_inj.mp (by simp))

theorem ofU32_eq (v : UInt32) : Encode.ofU32 v = .unsigned (UInt64.ofNat v.toNat) :=
  congrArg CborValue.unsigned (UInt64.toNat_inj.mp (by simp))

section Parts

variable (offset : ℕ)

theorem represents_asBool : Represents (asBool · offset) .bool fun _ => True where
  decode_iff v _ a := by
    cases v <;> simp [asBool]
  ne_null _ := nofun

/-- A number within bounds is an unsigned one: a negative one is below every bound. -/
theorem represents_asUintRange {min max : ℕ} (hmax : max < 2 ^ 64) :
    Represents (asUintRange · offset min max) (fun n => .unsigned (UInt64.ofNat n))
      fun n => min ≤ n ∧ n ≤ max where
  decode_iff v hv n := by
    cases v with
    | unsigned v =>
      have hcast : UInt64.ofNat v.toNat = v := UInt64.ofNat_toNat
      simp only [asUintRange, CborValue.unsigned.injEq]
      split_ifs with hbounds
      · constructor
        · nofun
        · rintro ⟨rfl, hn⟩
          rw [UInt64.toNat_ofNat_of_lt' (hn.2.trans_lt hmax)] at hbounds
          omega
      · rw [Except.ok.injEq, Int.toNat_natCast]
        constructor
        · rintro rfl
          exact ⟨hcast.symm, by omega⟩
        · rintro ⟨rfl, hn⟩
          exact UInt64.toNat_ofNat_of_lt' (hn.2.trans_lt hmax)
    | negative v =>
      have hneg := hv.negative
      simp only [asUintRange]
      rw [if_pos (by omega)]
      simp
    | null | bool | bytes | text | array | map => simp [asUintRange]
  ne_null _ := nofun

/-- A number of a machine type. -/
theorem Represents.machine {α : Type} {decode : CborValue → Except ProtocolError ℕ}
    {Valid : ℕ → Prop} (h : Represents decode (fun n => .unsigned (UInt64.ofNat n)) Valid)
    {ofNat : ℕ → α} {toNat : α → ℕ} (hleft : ∀ a, ofNat (toNat a) = a)
    (hright : ∀ n, Valid n → toNat (ofNat n) = n) (hvalid : ∀ a, Valid (toNat a)) :
    Represents (fun v => ofNat <$> decode v) (fun a => .unsigned (UInt64.ofNat (toNat a)))
      fun _ => True where
  decode_iff v hv a := by
    have hiff := h.decode_iff v hv
    cases hdecode : decode v with
    | error e =>
      have hne := (hiff (toNat a)).not.mp (by rw [hdecode]; exact nofun)
      simp only [Functor.map, Except.map, reduceCtorEq, and_true, false_iff]
      exact fun hv => hne ⟨hv, hvalid a⟩
    | ok n =>
      obtain ⟨rfl, hn⟩ := (hiff n).mp hdecode
      show (Except.ok (ofNat n) : Except ProtocolError α) = .ok a ↔ _
      rw [Except.ok.injEq, and_true]
      constructor
      · rintro rfl
        rw [hright n hn]
      · intro heq
        have hsame := (hiff (toNat a)).mpr ⟨heq, hvalid a⟩
        rw [hdecode, Except.ok.injEq] at hsame
        rw [hsame, hleft]
  ne_null _ := nofun

theorem represents_asUint8 : Represents (asUint8 · offset) Encode.ofU8 fun _ => True := by
  rw [show Encode.ofU8 = fun v : UInt8 => .unsigned (UInt64.ofNat v.toNat) from funext ofU8_eq]
  refine (represents_asUintRange offset (by norm_num)).machine (fun _ => UInt8.ofNat_toNat)
    (fun n hn => UInt8.toNat_ofNat_of_lt' (Nat.lt_succ_of_le hn.2)) fun v => ⟨Nat.zero_le _, ?_⟩
  exact Nat.le_of_lt_succ v.toNat_lt

theorem represents_asUint32 : Represents (asUint32 · offset) Encode.ofU32 fun _ => True := by
  rw [show Encode.ofU32 = fun v : UInt32 => .unsigned (UInt64.ofNat v.toNat) from funext ofU32_eq]
  refine (represents_asUintRange offset (by norm_num)).machine (fun _ => UInt32.ofNat_toNat)
    (fun n hn => UInt32.toNat_ofNat_of_lt' (Nat.lt_succ_of_le hn.2)) fun v => ⟨Nat.zero_le _, ?_⟩
  exact Nat.le_of_lt_succ v.toNat_lt

theorem represents_asUint64 :
    Represents (fun v => UInt64.ofNat <$> asUintRange v offset 0 0xffffffffffffffff) .unsigned
      fun _ => True := by
  have hwrite : CborValue.unsigned = fun v : UInt64 => .unsigned (UInt64.ofNat v.toNat) := by
    funext v
    rw [UInt64.ofNat_toNat]
  rw [hwrite]
  refine (represents_asUintRange offset (by norm_num)).machine (fun _ => UInt64.ofNat_toNat)
    (fun n hn => UInt64.toNat_ofNat_of_lt' (Nat.lt_succ_of_le hn.2)) fun v => ⟨Nat.zero_le _, ?_⟩
  exact Nat.le_of_lt_succ v.toNat_lt

theorem represents_asText :
    Represents (asText · offset) .text fun t => t.utf8ByteSize ≤ utf8TextMaxBytes where
  decode_iff v _ a := by
    cases v with
    | text t =>
      simp only [asText, CborValue.text.injEq]
      split_ifs with hlong
      · constructor
        · nofun
        · rintro ⟨rfl, ha⟩
          omega
      · rw [Except.ok.injEq]
        constructor
        · rintro rfl
          exact ⟨rfl, by omega⟩
        · exact And.left
    | null | bool | unsigned | negative | bytes | array | map => simp [asText]
  ne_null _ := nofun

/-- The versions of a list that are not seen before. -/
theorem decodeVersions_eq_ok {items : List CborValue} (hitems : ∀ item ∈ items, item.InOrder)
    (seen versions : List UInt8) :
    decodeVersions offset seen items = .ok versions ↔
      items = versions.map Encode.ofU8 ∧ versions.Nodup ∧ ∀ v ∈ versions, v ∉ seen := by
  induction items generalizing seen versions with
  | nil =>
    rw [decodeVersions, Except.ok.injEq]
    cases versions with
    | nil => simp
    | cons v versions => simp
  | cons item items ih =>
    have hitem := (represents_asUint8 offset).decode_iff item (hitems item List.mem_cons_self)
    have ih := ih fun item h => hitems item (List.mem_cons_of_mem _ h)
    rw [decodeVersions, bind_eq_ok]
    constructor
    · rintro ⟨v, hv, h⟩
      obtain ⟨rfl, -⟩ := (hitem v).mp hv
      split_ifs at h with hseen
      obtain ⟨vs, hvs, heq⟩ := bind_eq_ok.mp h
      obtain rfl := Except.ok.inj heq
      obtain ⟨rfl, hnodup, hfresh⟩ := (ih _ _).mp hvs
      refine ⟨rfl, List.nodup_cons.mpr ⟨fun hmem => hfresh v hmem List.mem_cons_self, hnodup⟩, ?_⟩
      refine List.forall_mem_cons.mpr ⟨by simpa using hseen, fun x hx hmem => ?_⟩
      exact hfresh x hx (List.mem_cons_of_mem _ hmem)
    · rintro ⟨hmap, hnodup, hfresh⟩
      cases versions with
      | nil => cases hmap
      | cons v vs =>
        obtain ⟨rfl, rfl⟩ := List.cons.inj hmap
        rw [List.nodup_cons] at hnodup
        obtain ⟨hv, hvs⟩ := List.forall_mem_cons.mp hfresh
        refine ⟨v, (hitem v).mpr ⟨rfl, trivial⟩, ?_⟩
        rw [if_neg (by simpa using hv), bind_eq_ok]
        refine ⟨vs, (ih _ _).mpr ⟨rfl, hnodup.2, fun x hx => ?_⟩, rfl⟩
        rw [List.mem_cons, not_or]
        exact ⟨fun heq => hnodup.1 (heq ▸ hx), hvs x hx⟩

/-- **The wire versions a receiver takes.** -/
def VersionsAccepted (versions : List UInt8) : Prop :=
  versions ≠ [] ∧ versions.length ≤ wireVersionsMax ∧ versions.Nodup

theorem represents_decodeWireVersions :
    Represents (decodeWireVersions · offset) (fun vs => .array (vs.map Encode.ofU8))
      VersionsAccepted where
  decode_iff v hv versions := by
    cases v with
    | array items =>
      have hversions := decodeVersions_eq_ok offset hv.array [] versions
      simp only [decodeWireVersions, asArray, CborValue.array.injEq]
      show (if items.isEmpty = true ∨ items.length > wireVersionsMax then _ else _) = _ ↔ _
      split_ifs with hbounds
      · constructor
        · nofun
        · rintro ⟨rfl, hne, hlen, -⟩
          rw [List.isEmpty_iff, List.map_eq_nil_iff, List.length_map] at hbounds
          rcases hbounds with hnil | hlong
          · exact absurd hnil hne
          · omega
      · rw [hversions]
        rw [not_or, List.isEmpty_iff] at hbounds
        constructor
        · rintro ⟨rfl, hnodup, -⟩
          rw [List.map_eq_nil_iff, List.length_map] at hbounds
          exact ⟨rfl, hbounds.1, Nat.le_of_not_gt hbounds.2, hnodup⟩
        · rintro ⟨rfl, -, -, hnodup⟩
          exact ⟨rfl, hnodup, fun _ _ => List.not_mem_nil⟩
    | null | bool | unsigned | negative | bytes | text | map =>
      simp [decodeWireVersions, asArray, bind, Except.bind]
  ne_null _ := nofun

/-- Only the first of ascending ids is compared with the one before. -/
theorem pairwise_toList_append {prev : Option UInt16} {id : UInt16} {ids : List UInt16} :
    (prev.toList ++ id :: ids).Pairwise (· < ·) ↔
      (∀ p ∈ prev, p < id) ∧ (id :: ids).Pairwise (· < ·) := by
  cases prev with
  | none => simp
  | some p =>
    rw [Option.toList_some, List.singleton_append, List.pairwise_cons]
    simp only [Option.mem_some_iff, forall_eq']
    refine and_congr_left fun hids => ⟨fun h => h id List.mem_cons_self, fun h x hx => ?_⟩
    rcases List.mem_cons.mp hx with rfl | hx
    · exact h
    · exact UInt16.lt_trans h ((List.pairwise_cons.mp hids).1 x hx)

/-- Capability ids above a given one, ascending. -/
theorem decodeCapabilityIds_eq_ok {items : List CborValue}
    (hitems : ∀ item ∈ items, item.InOrder) (prev : Option UInt16) (ids : List UInt16) :
    decodeCapabilityIds offset prev items = .ok ids ↔
      items = ids.map Encode.ofU16 ∧ (∀ id ∈ ids, capabilityIdMin ≤ id.toNat) ∧
        (prev.toList ++ ids).Pairwise (· < ·) := by
  induction items generalizing prev ids with
  | nil =>
    rw [decodeCapabilityIds, Except.ok.injEq]
    cases ids with
    | nil => cases prev <;> simp
    | cons id ids => simp
  | cons item items ih =>
    have hitem (n : ℕ) : asUintRange item offset capabilityIdMin capabilityIdMax = .ok n ↔
        item = .unsigned (UInt64.ofNat n) ∧ capabilityIdMin ≤ n ∧ n ≤ capabilityIdMax :=
      (represents_asUintRange offset (by decide)).decode_iff item
        (hitems item List.mem_cons_self) n
    have ih := ih fun item h => hitems item (List.mem_cons_of_mem _ h)
    have hprev (id : UInt16) : ¬ prev.any (id == ·) = true → ¬ prev.any (id < ·) = true →
        ∀ p ∈ prev, p < id := by
      intro hne hnlt p hp
      obtain rfl : prev = some p := hp
      simp only [Option.any_some, beq_iff_eq, decide_eq_true_eq] at hne hnlt
      rcases UInt16.lt_or_lt_of_ne hne with hlt | hlt
      · exact absurd hlt hnlt
      · exact hlt
    rw [decodeCapabilityIds, bind_eq_ok]
    constructor
    · rintro ⟨n, hn, h⟩
      obtain ⟨rfl, hmin, hmax⟩ := (hitem n).mp hn
      have hid : (UInt16.ofNat n).toNat = n := UInt16.toNat_ofNat_of_lt' (Nat.lt_succ_of_le hmax)
      dsimp only at h
      split_ifs at h with hdup horder
      obtain ⟨rest, hrest, heq⟩ := bind_eq_ok.mp h
      obtain rfl := Except.ok.inj heq
      obtain ⟨rfl, hall, hasc⟩ := (ih _ _).mp hrest
      refine ⟨?_, List.forall_mem_cons.mpr ⟨by rw [hid]; exact hmin, hall⟩,
        pairwise_toList_append.mpr ⟨hprev _ hdup horder, hasc⟩⟩
      rw [List.map_cons, ofU16_eq, hid]
    · rintro ⟨hmap, hall, hasc⟩
      cases ids with
      | nil => cases hmap
      | cons id rest =>
        obtain ⟨rfl, rfl⟩ := List.cons.inj hmap
        obtain ⟨hid, hall⟩ := List.forall_mem_cons.mp hall
        obtain ⟨hlt, hasc⟩ := pairwise_toList_append.mp hasc
        refine ⟨id.toNat, (hitem _).mpr ⟨ofU16_eq id, hid, Nat.le_of_lt_succ id.toNat_lt⟩, ?_⟩
        have hdup : ¬ prev.any (id == ·) = true := by
          cases prev with
          | none => exact Bool.false_ne_true
          | some p => simpa using (UInt16.ne_of_lt (hlt p rfl)).symm
        have horder : ¬ prev.any (id < ·) = true := by
          cases prev with
          | none => exact Bool.false_ne_true
          | some p => simpa using UInt16.le_of_lt (hlt p rfl)
        dsimp only
        rw [UInt16.ofNat_toNat, if_neg hdup, if_neg horder, bind_eq_ok]
        exact ⟨rest, (ih _ _).mpr ⟨rfl, hall, hasc⟩, rfl⟩

/-- **The capability ids a receiver takes.** -/
def CapabilitiesAccepted (ids : List UInt16) : Prop :=
  ids.length ≤ capabilityIdsMax ∧ (∀ id ∈ ids, capabilityIdMin ≤ id.toNat) ∧
    ids.Pairwise (· < ·)

theorem represents_decodeExtensionCapabilities :
    Represents (decodeExtensionCapabilities · offset) Encode.capabilityListValue
      CapabilitiesAccepted where
  decode_iff v hv ids := by
    cases v with
    | array items =>
      have hids := decodeCapabilityIds_eq_ok offset hv.array none ids
      rw [Option.toList_none, List.nil_append] at hids
      simp only [decodeExtensionCapabilities, asArray, Encode.capabilityListValue,
        CborValue.array.injEq]
      show (if items.length > capabilityIdsMax then _ else _) = _ ↔ _
      split_ifs with hlong
      · constructor
        · nofun
        · rintro ⟨rfl, hlen, -⟩
          rw [List.length_map] at hlong
          omega
      · rw [hids]
        constructor
        · rintro ⟨rfl, hall, hasc⟩
          rw [List.length_map] at hlong
          exact ⟨rfl, Nat.le_of_not_gt hlong, hall, hasc⟩
        · rintro ⟨rfl, -, hall, hasc⟩
          exact ⟨rfl, hall, hasc⟩
    | null | bool | unsigned | negative | bytes | text | map =>
      simp [decodeExtensionCapabilities, asArray, Encode.capabilityListValue, bind, Except.bind]
  ne_null _ := nofun

end Parts

/-! ## Maps -/

section Maps

variable (offset : ℕ)

/-- The members of a transport map. -/
def transportMembers (t : TransportCapabilities) : List (UInt64 × Option CborValue) :=
  [(1, some (.bool t.webtransportHttp3)), (2, some (.bool t.binaryWss)),
    (3, t.maxDatagramSize.map Encode.ofU32)]

theorem transportValue_eq (t : TransportCapabilities) :
    Encode.transportValue t = .map (present (transportMembers t)) := by
  obtain ⟨http, wss, _ | size⟩ := t <;> rfl

theorem represents_decodeTransport :
    Represents (decodeTransport · offset) Encode.transportValue fun _ => True where
  decode_iff v hv t := by
    cases v with
    | map map =>
      have hentries := hv.map.2
      have hmembers := map_eq_iff hv (transportMembers t) [1, 2] [3] offset
        (by simp [transportMembers]) (by simp [transportMembers]) (by simp [transportMembers])
      simp only [transportMembers, List.forall_mem_cons] at hmembers
      have hbool (key : UInt64) (a : Bool) := (represents_asBool offset).get hentries key a
      have hsize (o : Option UInt32) := (represents_asUint32 offset).optional hentries 3 o
      rw [transportValue_eq, CborValue.map.injEq, transportMembers, hmembers]
      simp only [decodeTransport, asMap, bind_eq_ok, Except.ok.injEq, exists_eq_left']
      constructor
      · rintro ⟨_, hkeys, http, hhttp, wss, hwss, size, hsize', h⟩
        obtain rfl := Except.ok.inj h
        exact ⟨⟨hkeys, ((hbool _ _).mp hhttp).1, ((hbool _ _).mp hwss).1, ((hsize _).mp hsize').1,
          nofun⟩, trivial⟩
      · rintro ⟨⟨hkeys, hhttp, hwss, hsize', -⟩, -⟩
        exact ⟨(), hkeys, _, (hbool _ _).mpr ⟨hhttp, trivial⟩, _, (hbool _ _).mpr ⟨hwss, trivial⟩, _,
          (hsize _).mpr ⟨hsize', fun _ _ => trivial⟩, rfl⟩
    | null | bool | unsigned | negative | bytes | text | array =>
      simp [decodeTransport, asMap, Encode.transportValue, bind, Except.bind]
  ne_null _ := nofun

/-- The members of a buffer map. -/
def bufferMembers (b : BufferCapabilities) : List (UInt64 × Option CborValue) :=
  [(1, some (.bool b.transferableArraybuffer)), (2, some (.bool b.sharedArraybuffer))]

theorem bufferValue_eq (b : BufferCapabilities) :
    Encode.bufferValue b = .map (present (bufferMembers b)) := rfl

theorem represents_decodeBuffer :
    Represents (decodeBuffer · offset) Encode.bufferValue fun _ => True where
  decode_iff v hv b := by
    cases v with
    | map map =>
      have hentries := hv.map.2
      have hmembers := map_eq_iff hv (bufferMembers b) [1, 2] [] offset
        (by simp [bufferMembers]) (by simp [bufferMembers]) (by simp [bufferMembers])
      simp only [bufferMembers, List.forall_mem_cons] at hmembers
      have hbool (key : UInt64) (a : Bool) := (represents_asBool offset).get hentries key a
      rw [bufferValue_eq, CborValue.map.injEq, bufferMembers, hmembers]
      simp only [decodeBuffer, asMap, bind_eq_ok, Except.ok.injEq, exists_eq_left']
      constructor
      · rintro ⟨_, hkeys, transferable, htransferable, shared, hshared, h⟩
        obtain rfl := Except.ok.inj h
        exact ⟨⟨hkeys, ((hbool _ _).mp htransferable).1, ((hbool _ _).mp hshared).1, nofun⟩,
          trivial⟩
      · rintro ⟨⟨hkeys, htransferable, hshared, -⟩, -⟩
        exact ⟨(), hkeys, _, (hbool _ _).mpr ⟨htransferable, trivial⟩, _,
          (hbool _ _).mpr ⟨hshared, trivial⟩, rfl⟩
    | null | bool | unsigned | negative | bytes | text | array =>
      simp [decodeBuffer, asMap, Encode.bufferValue, bind, Except.bind]
  ne_null _ := nofun

/-- The members of a map of requested limits, all optional. -/
def requestedMembers (l : RequestedLimits) : List (UInt64 × Option CborValue) :=
  [(1, l.maxChannels.map Encode.ofU32), (2, l.maxSessionBytes.map .unsigned),
    (3, l.maxMessageBytes.map Encode.ofU32), (4, l.maxControlPayloadBytes.map Encode.ofU32)]

theorem optEntry_eq {α : Type} (key : UInt64) (o : Option α) (write : α → CborValue)
    (members : List (UInt64 × Option CborValue)) :
    Encode.optEntry key o write ++ present members = present ((key, o.map write) :: members) := by
  cases o <;> rfl

theorem requestedLimitsValue_eq (l : RequestedLimits) :
    Encode.requestedLimitsValue l = .map (present (requestedMembers l)) := by
  rw [Encode.requestedLimitsValue, requestedMembers, ← optEntry_eq, ← optEntry_eq, ← optEntry_eq,
    ← optEntry_eq, List.append_assoc, List.append_assoc]
  simp [present]

theorem represents_decodeRequestedLimits :
    Represents (decodeRequestedLimits · offset) Encode.requestedLimitsValue fun _ => True where
  decode_iff v hv l := by
    cases v with
    | map map =>
      have hentries := hv.map.2
      have hmembers := map_eq_iff hv (requestedMembers l) [] [1, 2, 3, 4] offset
        (by simp [requestedMembers]) (by simp [requestedMembers]) (by simp)
      simp only [requestedMembers, List.forall_mem_cons] at hmembers
      have hu32 (key : UInt64) (o : Option UInt32) :=
        (represents_asUint32 offset).optional hentries key o
      have hu64 (key : UInt64) (o : Option UInt64) :=
        (represents_asUint64 offset).optional hentries key o
      rw [requestedLimitsValue_eq, CborValue.map.injEq, requestedMembers, hmembers]
      simp only [decodeRequestedLimits, asMap, bind_eq_ok, Except.ok.injEq, exists_eq_left']
      constructor
      · rintro ⟨_, hkeys, channels, h₁, session, h₂, message, h₃, control, h₄, h⟩
        obtain rfl := Except.ok.inj h
        exact ⟨⟨hkeys, ((hu32 _ _).mp h₁).1, ((hu64 _ _).mp h₂).1, ((hu32 _ _).mp h₃).1,
          ((hu32 _ _).mp h₄).1, nofun⟩, trivial⟩
      · rintro ⟨⟨hkeys, h₁, h₂, h₃, h₄, -⟩, -⟩
        exact ⟨(), hkeys, _, (hu32 _ _).mpr ⟨h₁, fun _ _ => trivial⟩, _,
          (hu64 _ _).mpr ⟨h₂, fun _ _ => trivial⟩, _, (hu32 _ _).mpr ⟨h₃, fun _ _ => trivial⟩, _,
          (hu32 _ _).mpr ⟨h₄, fun _ _ => trivial⟩, rfl⟩
    | null | bool | unsigned | negative | bytes | text | array =>
      simp [decodeRequestedLimits, asMap, Encode.requestedLimitsValue, bind, Except.bind]
  ne_null _ := nofun

/-- **The effective limits a receiver takes.** -/
structure EffectiveLimitsAccepted (l : EffectiveLimits) : Prop where
  channels : l.maxChannels.toNat ≤ effectiveMaxChannels
  session : l.maxSessionBytes.toNat ≤ effectiveMaxSessionBytes
  message : l.maxMessageBytes.toNat ≤ effectiveMaxMessageBytes
  control : l.maxControlPayloadBytes.toNat ≤ effectiveMaxControlPayloadBytes

/-- The members of a map of effective limits. -/
def effectiveMembers (l : EffectiveLimits) : List (UInt64 × Option CborValue) :=
  [(1, some (Encode.ofU32 l.maxChannels)), (2, some (.unsigned l.maxSessionBytes)),
    (3, some (Encode.ofU32 l.maxMessageBytes)), (4, some (Encode.ofU32 l.maxControlPayloadBytes))]

theorem effectiveLimitsValue_eq (l : EffectiveLimits) :
    Encode.effectiveLimitsValue l = .map (present (effectiveMembers l)) := rfl

theorem ofU32_ofNat {n : ℕ} (h : n < 2 ^ 32) :
    Encode.ofU32 (UInt32.ofNat n) = .unsigned (UInt64.ofNat n) := by
  rw [ofU32_eq, UInt32.toNat_ofNat_of_lt' h]

theorem represents_decodeEffectiveLimits :
    Represents (decodeEffectiveLimits · offset) Encode.effectiveLimitsValue
      EffectiveLimitsAccepted where
  decode_iff v hv l := by
    cases v with
    | map map =>
      have hentries := hv.map.2
      have hmembers := map_eq_iff hv (effectiveMembers l) [1, 2, 3, 4] [] offset
        (by simp [effectiveMembers]) (by simp [effectiveMembers]) (by simp [effectiveMembers])
      simp only [effectiveMembers, List.forall_mem_cons] at hmembers
      have hrange (key : UInt64) (max n : ℕ) (hmax : max < 2 ^ 64) :
          asUintRange (get map key) offset 0 max = .ok n ↔
            map.lookup key = some (.unsigned (UInt64.ofNat n)) ∧ 0 ≤ n ∧ n ≤ max :=
        (represents_asUintRange offset hmax).get hentries key n
      rw [effectiveLimitsValue_eq, CborValue.map.injEq, effectiveMembers, hmembers]
      simp only [decodeEffectiveLimits, asMap, bind_eq_ok, Except.ok.injEq, exists_eq_left']
      have hchannels (n : ℕ) := hrange 1 effectiveMaxChannels n (by decide)
      have hsession (n : ℕ) := hrange 2 effectiveMaxSessionBytes n (by decide)
      have hmessage (n : ℕ) := hrange 3 effectiveMaxMessageBytes n (by decide)
      have hcontrol (n : ℕ) := hrange 4 effectiveMaxControlPayloadBytes n (by decide)
      constructor
      · rintro ⟨_, hkeys, channels, h₁, session, h₂, message, h₃, control, h₄, h⟩
        obtain rfl := Except.ok.inj h
        obtain ⟨h₁, -, hmax₁⟩ := (hchannels _).mp h₁
        obtain ⟨h₂, -, hmax₂⟩ := (hsession _).mp h₂
        obtain ⟨h₃, -, hmax₃⟩ := (hmessage _).mp h₃
        obtain ⟨h₄, -, hmax₄⟩ := (hcontrol _).mp h₄
        have hlt₁ : channels < 2 ^ 32 := hmax₁.trans_lt (by decide)
        have hlt₂ : session < 2 ^ 64 := hmax₂.trans_lt (by decide)
        have hlt₃ : message < 2 ^ 32 := hmax₃.trans_lt (by decide)
        have hlt₄ : control < 2 ^ 32 := hmax₄.trans_lt (by decide)
        dsimp only
        rw [ofU32_ofNat hlt₁, ofU32_ofNat hlt₃, ofU32_ofNat hlt₄]
        refine ⟨⟨hkeys, h₁, h₂, h₃, h₄, nofun⟩, ?_, ?_, ?_, ?_⟩
        · exact (UInt32.toNat_ofNat_of_lt' hlt₁).trans_le hmax₁
        · exact (UInt64.toNat_ofNat_of_lt' hlt₂).trans_le hmax₂
        · exact (UInt32.toNat_ofNat_of_lt' hlt₃).trans_le hmax₃
        · exact (UInt32.toNat_ofNat_of_lt' hlt₄).trans_le hmax₄
      · rintro ⟨⟨hkeys, h₁, h₂, h₃, h₄, -⟩, hl⟩
        rw [ofU32_eq] at h₁ h₃ h₄
        rw [← UInt64.ofNat_toNat (x := l.maxSessionBytes)] at h₂
        refine ⟨(), hkeys, _, (hchannels _).mpr ⟨h₁, Nat.zero_le _, hl.channels⟩, _,
          (hsession _).mpr ⟨h₂, Nat.zero_le _, hl.session⟩, _,
          (hmessage _).mpr ⟨h₃, Nat.zero_le _, hl.message⟩, _,
          (hcontrol _).mpr ⟨h₄, Nat.zero_le _, hl.control⟩, ?_⟩
        rw [UInt32.ofNat_toNat, UInt64.ofNat_toNat, UInt32.ofNat_toNat, UInt32.ofNat_toNat]
        rfl
    | null | bool | unsigned | negative | bytes | text | array =>
      simp [decodeEffectiveLimits, asMap, Encode.effectiveLimitsValue, bind, Except.bind]
  ne_null _ := nofun

end Maps

end Bootstrap
end Rclweb
