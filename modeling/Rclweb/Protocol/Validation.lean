import Rclweb.Protocol.CborRoundTrip

/-!
# What validation keeps

A validated message holds the numbers it was sent with: validation keeps every unsigned value,
and adds or drops no key.  So a peer that reads a number out of a validated message reads what
the sender wrote, whatever shape the message was checked against (`fieldsKept_validate`).
-/

namespace Rclweb
namespace Control

/-- The entries of a validated map hold the numbers of the original, under the same keys. -/
def FieldsKept (raw out : List (UInt64 × CborValue)) : Prop :=
  ∀ key, (raw.lookup key = none → out.lookup key = none) ∧
    ∀ n, raw.lookup key = some (.unsigned n) → out.lookup key = some (.unsigned n)

theorem FieldsKept.trans {a b c : List (UInt64 × CborValue)} (h : FieldsKept a b)
    (h' : FieldsKept b c) : FieldsKept a c := fun key =>
  ⟨fun hnone => (h' key).1 ((h key).1 hnone), fun n hn => (h' key).2 n ((h key).2 n hn)⟩

/-- A validator keeps numbers, and the numbers of maps. -/
structure Keeps (validate : CborValue → Except ControlError CborValue) : Prop where
  unsigned : ∀ n w, validate (.unsigned n) = .ok w → w = .unsigned n
  map : ∀ raw w, validate (.map raw) = .ok w → ∃ out, w = .map out ∧ FieldsKept raw out

theorem keeps_error (e : ControlError) : Keeps fun _ => .error e :=
  ⟨nofun, nofun⟩

/-- A validator of scalars other than numbers. -/
theorem Keeps.of_refuses {validate : CborValue → Except ControlError CborValue}
    (hu : ∀ n, ∃ e, validate (.unsigned n) = .error e)
    (hm : ∀ raw, ∃ e, validate (.map raw) = .error e) : Keeps validate where
  unsigned n w h := by
    obtain ⟨e, he⟩ := hu n
    rw [he] at h
    cases h
  map raw w h := by
    obtain ⟨e, he⟩ := hm raw
    rw [he] at h
    cases h

/-! ## Numbers -/

theorem asInteger_map (raw : List (UInt64 × CborValue)) :
    asInteger (.map raw) = .error (fail "wrong_type") := rfl

theorem asUint_unsigned_eq (n : UInt64) (min max : ℕ) :
    asUint (.unsigned n) min max =
      if n.toNat < min ∨ n.toNat > max then .error (fail "range_violation") else .ok n.toNat := by
  simp [asUint, asInteger, bind, Except.bind, pure, Except.pure]

theorem asUint_unsigned_ok {n : UInt64} {min max k : ℕ}
    (h : asUint (.unsigned n) min max = .ok k) : k = n.toNat ∧ min ≤ k ∧ k ≤ max := by
  rw [asUint_unsigned_eq] at h
  split_ifs at h with hrange
  obtain rfl := Except.ok.inj h
  omega

theorem asUint_map (raw : List (UInt64 × CborValue)) (min max : ℕ) :
    asUint (.map raw) min max = .error (fail "wrong_type") := rfl

section Inner

variable {inner : Schema → CborValue → Except ControlError CborValue}

theorem keeps_uint (min max : ℕ) : Keeps (validateWith inner (.uint min max)) where
  unsigned n w h := by
    rw [validateWith] at h
    obtain ⟨k, hk, h⟩ := bind_eq_ok.mp h
    obtain ⟨rfl, -, -⟩ := asUint_unsigned_ok hk
    split_ifs at h
    rw [← Except.ok.inj h, UInt64.ofNat_toNat]
  map raw w h := by
    rw [validateWith, asUint_map] at h
    cases h

theorem keeps_constU64 (c : ℕ) : Keeps (validateWith inner (.constU64 c)) where
  unsigned n w h := by
    rw [validateWith] at h
    obtain ⟨k, hk, h⟩ := bind_eq_ok.mp h
    obtain ⟨rfl, -, -⟩ := asUint_unsigned_ok hk
    split_ifs at h
    rw [← Except.ok.inj h, UInt64.ofNat_toNat]
  map raw w h := by
    rw [validateWith, asUint_map] at h
    cases h

theorem keeps_int64 : Keeps (validateWith inner .int64) where
  unsigned n w h := by
    simp only [validateWith, asInt64, asInteger, bind, Except.bind] at h
    split_ifs at h
    rw [← Except.ok.inj h, Int.toNat_natCast, UInt64.ofNat_toNat]
  map raw w h := by
    cases h

/-! ## Maps -/

theorem validateField_ok {field : UInt64 × Bool × Schema} {raw here : List (UInt64 × CborValue)}
    (h : validateField inner field raw = .ok here) :
    (raw.lookup field.1 = none ∧ here = []) ∨
      ∃ v w, raw.lookup field.1 = some v ∧ validateWith inner field.2.2 v = .ok w ∧
        here = [(field.1, w)] := by
  obtain ⟨key, required, schema⟩ := field
  rw [validateField, validateKeyed] at h
  split at h
  · next hlookup =>
    split_ifs at h
    exact .inl ⟨hlookup, (Except.ok.inj h).symm⟩
  · next v hlookup =>
    obtain ⟨w, hw, h⟩ := bind_eq_ok.mp h
    exact .inr ⟨v, w, hlookup, hw, (Except.ok.inj h).symm⟩

/-- What the validated fields are: those of the declaration that are there. -/
theorem validateFields_ok {fields : List (UInt64 × Bool × Schema)}
    {raw out : List (UInt64 × CborValue)} (h : validateFields inner fields raw = .ok out) :
    (∀ e ∈ out, ∃ f ∈ fields, f.1 = e.1 ∧ ∃ v, raw.lookup f.1 = some v ∧
      validateWith inner f.2.2 v = .ok e.2) ∧
    ∀ f ∈ fields, ∀ v, raw.lookup f.1 = some v → ∃ w, (f.1, w) ∈ out := by
  induction fields generalizing out with
  | nil =>
    rw [validateFields] at h
    obtain rfl := Except.ok.inj h
    exact ⟨fun _ he => absurd he List.not_mem_nil, fun _ hf => absurd hf List.not_mem_nil⟩
  | cons field fields ih =>
    rw [validateFields] at h
    obtain ⟨here, hhere, h⟩ := bind_eq_ok.mp h
    obtain ⟨rest, hrest, h⟩ := bind_eq_ok.mp h
    obtain rfl := Except.ok.inj h
    obtain ⟨ihmem, ihall⟩ := ih hrest
    constructor
    · intro e he
      rcases List.mem_append.mp he with he | he
      · rcases validateField_ok hhere with ⟨-, rfl⟩ | ⟨v, w, hv, hw, rfl⟩
        · simp at he
        · obtain rfl := List.mem_singleton.mp he
          exact ⟨field, List.mem_cons_self, rfl, v, hv, hw⟩
      · obtain ⟨f, hf, hrest⟩ := ihmem e he
        exact ⟨f, List.mem_cons_of_mem _ hf, hrest⟩
    · intro f hf v hv
      rcases List.mem_cons.mp hf with rfl | hf
      · rcases validateField_ok hhere with ⟨hnone, -⟩ | ⟨_, w, _, _, rfl⟩
        · rw [hnone] at hv
          cases hv
        · exact ⟨w, by simp⟩
      · obtain ⟨w, hw⟩ := ihall f hf v hv
        exact ⟨w, List.mem_append_right _ hw⟩

theorem lookup_isSome_of_mem {α : Type} {es : List (UInt64 × α)} {key : UInt64} {v : α}
    (h : (key, v) ∈ es) : ∃ w, es.lookup key = some w := by
  cases hlookup : es.lookup key with
  | some w => exact ⟨w, rfl⟩
  | none =>
    have := List.lookup_eq_none_iff.mp hlookup (key, v) h
    simp at this

theorem mem_of_lookup {α : Type} {es : List (UInt64 × α)} {key : UInt64} {v : α}
    (h : es.lookup key = some v) : (key, v) ∈ es := by
  obtain ⟨l₁, l₂, rfl, -⟩ := List.lookup_eq_some_iff.mp h
  simp

/-- What a closed map that was accepted looks like. -/
theorem validateWith_mapDyn_ok {fields : List (UInt64 × Bool × Schema)}
    {raw : List (UInt64 × CborValue)} {w : CborValue}
    (h : validateWith inner (.mapDyn fields) (.map raw) = .ok w) :
    (∀ e ∈ raw, ∃ f ∈ fields, f.1 = e.1) ∧
      ∃ out, validateFields inner fields raw = .ok out ∧ w = .map (sortByKey out) := by
  rw [validateWith] at h
  obtain ⟨es, hes, h⟩ := bind_eq_ok.mp h
  rw [mapFromValue] at hes
  split_ifs at hes
  obtain rfl := Except.ok.inj hes
  split_ifs at h with hknown
  obtain ⟨out, hout, h⟩ := bind_eq_ok.mp h
  refine ⟨fun e he => ?_, out, hout, (Except.ok.inj h).symm⟩
  simp only [List.any_eq_true, Bool.not_eq_true', not_exists, not_and, Bool.not_eq_false,
    beq_iff_eq] at hknown
  exact hknown e he

/-- A closed map keeps the numbers its fields keep. -/
theorem keeps_mapDyn {fields : List (UInt64 × Bool × Schema)}
    (ih : ∀ f ∈ fields, Keeps (validateWith inner f.2.2)) :
    Keeps (validateWith inner (.mapDyn fields)) where
  unsigned n w h := by
    rw [validateWith] at h
    cases h
  map raw w h := by
    obtain ⟨hknown, out, hout, rfl⟩ := validateWith_mapDyn_ok h
    obtain ⟨hmem, hall⟩ := validateFields_ok hout
    refine ⟨sortByKey out, rfl, fun key => ⟨fun hnone => ?_, fun n hn => ?_⟩⟩
    · by_contra hsome
      obtain ⟨v, hv⟩ := Option.ne_none_iff_exists'.mp hsome
      obtain ⟨f, _, hkey, v', hv', _⟩ := hmem _ (mem_sortByKey.mp (mem_of_lookup hv))
      dsimp only at hkey
      rw [hkey, hnone] at hv'
      cases hv'
    · obtain ⟨f, hf, rfl⟩ := hknown _ (mem_of_lookup hn)
      obtain ⟨w, hw⟩ := hall f hf _ hn
      obtain ⟨v, hv⟩ := lookup_isSome_of_mem (mem_sortByKey.mpr hw)
      obtain ⟨g, hg, hkey, v', hv', hvalid⟩ := hmem _ (mem_sortByKey.mp (mem_of_lookup hv))
      dsimp only at hkey hvalid
      rw [hkey, hn] at hv'
      obtain rfl := Option.some.inj hv'
      rw [hv, (ih g hg).unsigned n v hvalid]

theorem keeps_variants {variants : List Schema}
    (ih : ∀ s ∈ variants, Keeps (validateWith inner s)) (last : ControlError) :
    Keeps fun v => validateVariants inner variants v last := by
  induction variants generalizing last with
  | nil => exact keeps_error last
  | cons s variants ihs =>
    have hs := ih s List.mem_cons_self
    have hrest (e : ControlError) := ihs (fun t ht => ih t (List.mem_cons_of_mem _ ht)) e
    constructor
    · intro n w h
      simp only [validateVariants] at h
      split at h
      · next v hv => exact Except.ok.inj h ▸ hs.unsigned n v hv
      · next e _ => exact (hrest e).unsigned n w h
    · intro raw w h
      simp only [validateVariants] at h
      split at h
      · next v hv => exact Except.ok.inj h ▸ hs.map raw v hv
      · next e _ => exact (hrest e).map raw w h

/-- A schema identity has the keys 1 and 2 and nothing else, and no numbers. -/
theorem keeps_identity : Keeps (validateWith inner .identity) where
  unsigned n w h := by
    rw [validateWith] at h
    cases h
  map raw w h := by
    rw [validateWith, validateSchemaIdentity] at h
    obtain ⟨es, hes, h⟩ := bind_eq_ok.mp h
    rw [mapFromValue] at hes
    split_ifs at hes
    obtain rfl := Except.ok.inj hes
    split_ifs at h with hknown
    obtain ⟨scheme, hscheme, h⟩ := bind_eq_ok.mp h
    obtain ⟨val, hval, h⟩ := bind_eq_ok.mp h
    unfold getOr at hscheme hval
    split at hscheme <;> try cases hscheme
    next hlookup1 =>
    split at hval <;> try cases hval
    next hlookup2 =>
    split at h
    · split_ifs at h
      refine ⟨_, (Except.ok.inj h).symm, fun key => ⟨fun hnone => ?_, fun n hn => ?_⟩⟩
      · have h1 : key ≠ 1 := by
          rintro rfl
          rw [hlookup1] at hnone
          cases hnone
        have h2 : key ≠ 2 := by
          rintro rfl
          rw [hlookup2] at hnone
          cases hnone
        simp [List.lookup_cons, h1, h2, beq_false_of_ne]
      · exfalso
        have hkey : key = 1 ∨ key = 2 := by
          simp only [List.any_eq_true, not_exists, not_and, decide_eq_true_eq] at hknown
          have := hknown _ (mem_of_lookup hn)
          dsimp only at this
          by_contra hne
          exact this (fun h => hne (.inl h)) fun h => hne (.inr h)
        rcases hkey with rfl | rfl
        · rw [hlookup1] at hn
          cases hn
        · rw [hlookup2] at hn
          cases hn
    · cases h

theorem keeps_validateByHistory (hinner : ∀ s, Keeps (inner s)) (shape : ℕ → Option Schema) :
    Keeps (validateByHistory inner shape) where
  unsigned n w h := by
    cases h
  map raw w h := by
    rw [validateByHistory] at h
    obtain ⟨k, -, h⟩ := bind_eq_ok.mp h
    split at h
    · next s _ => exact (hinner s).map raw w h
    · cases h

/-! ## Every shape -/

mutual

theorem keeps_validateWith (hinner : ∀ s, Keeps (inner s)) :
    ∀ s : Schema, Keeps (validateWith inner s)
  | .bool => ⟨nofun, nofun⟩
  | .uint min max => keeps_uint min max
  | .int64 => keeps_int64
  | .text _ _ _ => ⟨nofun, nofun⟩
  | .bytes _ _ => ⟨nofun, nofun⟩
  | .constU64 c => keeps_constU64 c
  | .constBool _ => ⟨nofun, nofun⟩
  | .array _ _ _ _ => ⟨nofun, nofun⟩
  | .mapDyn fields => keeps_mapDyn (keeps_fields hinner fields)
  | .union variants => keeps_variants (keeps_all hinner variants) _
  | .identity => keeps_identity
  | .qos => keeps_validateByHistory hinner _
  | .effectiveQos => keeps_validateByHistory hinner _
  | .effectiveServiceQos => keeps_validateByHistory hinner _
  | .actionQos => hinner _
  | .effectiveActionQos => hinner _

theorem keeps_all (hinner : ∀ s, Keeps (inner s)) :
    ∀ variants : List Schema, ∀ s ∈ variants, Keeps (validateWith inner s)
  | [] => nofun
  | variant :: variants => fun s h => by
    rcases List.mem_cons.mp h with heq | h
    · rw [heq]
      exact keeps_validateWith hinner variant
    · exact keeps_all hinner variants s h

theorem keeps_fields (hinner : ∀ s, Keeps (inner s)) :
    ∀ fields : List (UInt64 × Bool × Schema), ∀ f ∈ fields, Keeps (validateWith inner f.2.2)
  | [] => nofun
  | field :: fields => fun f h => by
    rcases List.mem_cons.mp h with heq | h
    · rw [heq]
      exact keeps_field hinner field
    · exact keeps_fields hinner fields f h

theorem keeps_field (hinner : ∀ s, Keeps (inner s)) :
    ∀ field : UInt64 × Bool × Schema, Keeps (validateWith inner field.2.2)
  | (_, rest) => keeps_rest hinner rest

theorem keeps_rest (hinner : ∀ s, Keeps (inner s)) :
    ∀ rest : Bool × Schema, Keeps (validateWith inner rest.2)
  | (_, schema) => keeps_validateWith hinner schema

end

end Inner

/-- **Validation keeps numbers**, whatever the shape. -/
theorem keeps_validateSchema (s : Schema) : Keeps (validateSchema s) :=
  keeps_validateWith (keeps_validateWith (keeps_validateWith fun _ => keeps_error _)) s

/-! ## Acceptance -/

/-- A validator accepts a value. -/
def Accepts (validate : CborValue → Except ControlError CborValue) (v : CborValue) : Prop :=
  ∃ w, validate v = .ok w

/-- A field is accepted when it is there and its value is, or it is absent and optional. -/
def AcceptsField (required : Bool) (validate : CborValue → Except ControlError CborValue) :
    Option CborValue → Prop
  | none => required = false
  | some v => Accepts validate v

section Accepts

variable {inner : Schema → CborValue → Except ControlError CborValue}

theorem toNat_le_uint64Max (n : UInt64) : n.toNat ≤ uint64Max := Nat.le_of_lt_succ n.toNat_lt

@[simp] theorem accepts_uint {min max : ℕ} {n : UInt64} :
    Accepts (validateWith inner (.uint min max)) (.unsigned n) ↔
      min ≤ n.toNat ∧ n.toNat ≤ max ∧ ¬ (min = 1 ∧ max = 28 ∧ n.toNat = 20) := by
  rw [Accepts, validateWith, asUint_unsigned_eq]
  by_cases hrange : n.toNat < min ∨ n.toNat > max
  · rw [if_pos hrange]
    simp only [bind, Except.bind]
    simp
    omega
  · rw [if_neg hrange]
    simp only [bind, Except.bind]
    split_ifs with h20
    · simp
      omega
    · simp [pure, Except.pure]
      omega

@[simp] theorem accepts_constU64 {c : ℕ} {n : UInt64} :
    Accepts (validateWith inner (.constU64 c)) (.unsigned n) ↔ n.toNat = c := by
  have hle := toNat_le_uint64Max n
  rw [Accepts, validateWith, asUint_unsigned_eq, if_neg (by omega)]
  simp only [bind, Except.bind]
  by_cases hc : n.toNat = c <;> simp [hc, pure, Except.pure]

@[simp] theorem accepts_text {min max : ℕ} {oneOf : Option (List String)} {t : String} :
    Accepts (validateWith inner (.text min max oneOf)) (.text t) ↔
      min ≤ textLen t ∧ textLen t ≤ max ∧ ∀ set ∈ oneOf, t ∈ set := by
  rw [Accepts, validateWith]
  by_cases hlen : textLen t < min ∨ max < textLen t
  · simp only [hlen, if_true]
    simp
    omega
  · have hbounds : min ≤ textLen t ∧ textLen t ≤ max := by omega
    cases oneOf with
    | none => simp [hlen, hbounds]
    | some set => by_cases ht : t ∈ set <;> simp [hlen, hbounds, ht]

@[simp] theorem accepts_bytes {min max : ℕ} {b : List UInt8} :
    Accepts (validateWith inner (.bytes min max)) (.bytes b) ↔
      min ≤ b.length ∧ b.length ≤ max := by
  rw [Accepts, validateWith]
  split_ifs <;> simp <;> omega

@[simp] theorem accepts_bool {b : Bool} : Accepts (validateWith inner .bool) (.bool b) :=
  ⟨_, rfl⟩

/-- The fields of a declaration are accepted one by one. -/
theorem accepts_validateFields_iff {fields : List (UInt64 × Bool × Schema)}
    {raw : List (UInt64 × CborValue)} :
    (∃ out, validateFields inner fields raw = .ok out) ↔
      ∀ f ∈ fields, AcceptsField f.2.1 (validateWith inner f.2.2) (raw.lookup f.1) := by
  induction fields with
  | nil => simp [validateFields]
  | cons field fields ih =>
    obtain ⟨key, required, schema⟩ := field
    have hfield : (∃ here, validateField inner (key, required, schema) raw = .ok here) ↔
        AcceptsField required (validateWith inner schema) (raw.lookup key) := by
      rw [validateField, validateKeyed]
      cases raw.lookup key with
      | none => cases required <;> simp [AcceptsField]
      | some v =>
        simp only [bind_eq_ok, AcceptsField, Accepts]
        constructor
        · rintro ⟨_, w, hw, -⟩
          exact ⟨w, hw⟩
        · rintro ⟨w, hw⟩
          exact ⟨_, w, hw, rfl⟩
    rw [List.forall_mem_cons, ← ih, ← hfield]
    simp only [validateFields, bind_eq_ok]
    constructor
    · rintro ⟨_, here, hhere, rest, hrest, -⟩
      exact ⟨⟨here, hhere⟩, rest, hrest⟩
    · rintro ⟨⟨here, hhere⟩, rest, hrest⟩
      exact ⟨_, here, hhere, rest, hrest, rfl⟩

/-- **When a closed map is accepted**: no key twice, none unknown, and every declared field. -/
theorem accepts_mapDyn {fields : List (UInt64 × Bool × Schema)}
    {raw : List (UInt64 × CborValue)} :
    Accepts (validateWith inner (.mapDyn fields)) (.map raw) ↔
      (raw.map Prod.fst).Nodup ∧ (∀ e ∈ raw, e.1 ∈ fields.map Prod.fst) ∧
        ∀ f ∈ fields, AcceptsField f.2.1 (validateWith inner f.2.2) (raw.lookup f.1) := by
  rw [← accepts_validateFields_iff, Accepts, validateWith]
  have hknown : (raw.any fun e => !fields.any fun f => f.1 == e.1) = true ↔
      ¬ ∀ e ∈ raw, e.1 ∈ fields.map Prod.fst := by
    simp only [List.any_eq_true, Bool.not_eq_true', List.any_eq_false, beq_iff_eq, List.mem_map,
      not_forall, not_exists, not_and, exists_prop]
  by_cases hnodup : (raw.map Prod.fst).Nodup
  · rw [mapFromValue, if_pos hnodup]
    simp only [bind, Except.bind, hknown]
    by_cases hkeys : ∀ e ∈ raw, e.1 ∈ fields.map Prod.fst
    · rw [if_neg (not_not_intro hkeys)]
      cases validateFields inner fields raw with
      | error e =>
        refine iff_of_false ?_ ?_
        · rintro ⟨_, h⟩
          cases h
        · rintro ⟨-, -, _, h⟩
          cases h
      | ok out => exact iff_of_true ⟨_, rfl⟩ ⟨hnodup, hkeys, out, rfl⟩
    · rw [if_pos hkeys]
      constructor
      · rintro ⟨w, hw⟩
        cases hw
      · rintro ⟨-, hall, -⟩
        exact absurd hall hkeys
  · rw [mapFromValue, if_neg hnodup]
    refine iff_of_false ?_ fun h => hnodup h.1
    rintro ⟨_, h⟩
    cases h

theorem accepts_variants {variants : List Schema} {v : CborValue} {last : ControlError} :
    Accepts (validateVariants inner variants · last) v ↔
      ∃ s ∈ variants, Accepts (validateWith inner s) v := by
  induction variants generalizing last with
  | nil => simp [Accepts, validateVariants]
  | cons s variants ih =>
    rw [List.exists_mem_cons_iff, Accepts]
    simp only [validateVariants]
    cases hs : validateWith inner s v with
    | ok w => simp [Accepts, hs]
    | error e => simpa [Accepts, hs] using ih

@[simp] theorem accepts_union {variants : List Schema} {v : CborValue} :
    Accepts (validateWith inner (.union variants)) v ↔
      ∃ s ∈ variants, Accepts (validateWith inner s) v := by
  rw [← accepts_variants, Accepts, validateWith]
  rfl

end Accepts

/-! ## Whole messages -/

theorem mapFromValue_map {raw es : List (UInt64 × CborValue)}
    (h : mapFromValue (.map raw) = .ok es) : (raw.map Prod.fst).Nodup ∧ es = raw := by
  rw [mapFromValue] at h
  split_ifs at h with hnodup
  exact ⟨hnodup, (Except.ok.inj h).symm⟩

theorem getOr_ok {raw : List (UInt64 × CborValue)} {key : UInt64} {reason : String}
    {v : CborValue} (h : getOr raw key reason = .ok v) : raw.lookup key = some v := by
  unfold getOr at h
  split at h
  · next w hw => exact hw.trans (congrArg some (Except.ok.inj h))
  · cases h

/-- **When a message is valid**, and what comes out. -/
theorem validateControlMessage_ok_iff {raw : List (UInt64 × CborValue)} {msg : ControlMessage}
    {k : UInt64} (hk : raw.lookup 1 = some (.unsigned k)) :
    validateControlMessage (.map raw) = .ok msg ↔
      (raw.map Prod.fst).Nodup ∧ k.toNat ≤ 255 ∧ ∃ schema, kindSchema k.toUInt8 = some schema ∧
        ∃ fields, validateKind k.toUInt8 schema (.map raw) = .ok (.map fields) ∧
          (k.toUInt8 = kindSessionReady → assertSessionReadyTriple fields = .ok ()) ∧
          msg = ⟨k.toUInt8, fields⟩ := by
  have hkind : UInt8.ofNat k.toNat = k.toUInt8 := rfl
  unfold validateControlMessage
  by_cases hnodup : (raw.map Prod.fst).Nodup
  swap
  · simp [mapFromValue, hnodup, bind, Except.bind]
  simp only [mapFromValue, if_pos hnodup, getOr, hk, asUint_unsigned_eq, bind, Except.bind]
  by_cases hle : k.toNat ≤ 255
  swap
  · rw [if_pos (by omega)]
    simp [hle]
  rw [if_neg (by omega)]
  simp only [hkind, hnodup, hle, true_and]
  cases hschema : kindSchema k.toUInt8 with
  | none => simp
  | some schema =>
    simp only [Option.some.injEq, exists_eq_left']
    cases hvalid : validateKind k.toUInt8 schema (.map raw) with
    | error e => simp
    | ok w =>
      cases w with
      | map fields =>
        have hinj (P : List (UInt64 × CborValue) → Prop) :
            (∃ out, (Except.ok (.map fields) : Except ControlError CborValue) = .ok (.map out) ∧
              P out) ↔ P fields := by
          simp
        simp only [hinj]
        by_cases hready : k.toUInt8 = kindSessionReady
        · cases assertSessionReadyTriple fields with
          | error e => simp [hready]
          | ok => simp [hready, pure, Except.pure, eq_comm]
        · simp [hready, pure, Except.pure, eq_comm]
      | _ => simp

/-- The check of an OpenChannel is that of one of six shapes. -/
theorem keeps_validateOpenChannel : Keeps validateOpenChannel where
  unsigned n w h := by
    unfold validateOpenChannel at h
    obtain ⟨raw, hraw, -⟩ := bind_eq_ok.mp h
    cases hraw
  map raw w h := by
    unfold validateOpenChannel at h
    obtain ⟨raw', -, h⟩ := bind_eq_ok.mp h
    obtain ⟨clsV, -, h⟩ := bind_eq_ok.mp h
    obtain ⟨cls, -, h⟩ := bind_eq_ok.mp h
    split at h
    all_goals first | exact (keeps_validateSchema _).map raw w h | cases h

theorem keeps_validateKind (kind : UInt8) (schema : Schema) : Keeps (validateKind kind schema) := by
  by_cases hkind : kind = kindOpenChannel
  · have heq : validateKind kind schema = validateOpenChannel :=
      funext fun value => if_pos hkind
    rw [heq]
    exact keeps_validateOpenChannel
  · have heq : validateKind kind schema = validateSchema schema :=
      funext fun value => if_neg hkind
    rw [heq]
    exact keeps_validateSchema schema

/-- **What a valid message says**: its kind and its numbers are those of the map. -/
theorem validateControlMessage_keeps {raw : List (UInt64 × CborValue)} {msg : ControlMessage}
    {k : UInt64} (hk : raw.lookup 1 = some (.unsigned k))
    (h : validateControlMessage (.map raw) = .ok msg) :
    msg.kind = k.toUInt8 ∧ FieldsKept raw msg.fields := by
  obtain ⟨-, -, schema, -, fields, hvalid, -, rfl⟩ := (validateControlMessage_ok_iff hk).mp h
  obtain ⟨out, hout, hkept⟩ := (keeps_validateKind _ schema).map raw _ hvalid
  cases hout
  exact ⟨rfl, hkept⟩

/-- **When a message is valid**, for the kinds that are a shape and no more. -/
theorem validateControlMessage_accepts {raw : List (UInt64 × CborValue)} {k : UInt64}
    {schema : Schema} (hk : raw.lookup 1 = some (.unsigned k)) (hle : k.toNat ≤ 255)
    (hschema : kindSchema k.toUInt8 = some schema) (hopen : k.toUInt8 ≠ kindOpenChannel)
    (hready : k.toUInt8 ≠ kindSessionReady) :
    (∃ msg, validateControlMessage (.map raw) = .ok msg) ↔
      (raw.map Prod.fst).Nodup ∧ Accepts (validateSchema schema) (.map raw) := by
  simp only [validateControlMessage_ok_iff hk, hschema, validateKind, if_neg hopen, hready, hle,
    Option.some.injEq, exists_eq_left', true_and, false_implies]
  constructor
  · rintro ⟨msg, hnodup, fields, hvalid, -⟩
    exact ⟨hnodup, _, hvalid⟩
  · rintro ⟨hnodup, w, hw⟩
    obtain ⟨out, rfl, -⟩ := (keeps_validateSchema schema).map raw w hw
    exact ⟨_, hnodup, out, hw, rfl⟩

/-! ## The priority of an OpenChannel -/

/-- The declared fields a validated map was made of. -/
theorem lookup_of_mapDyn_ok {inner : Schema → CborValue → Except ControlError CborValue}
    {fields : List (UInt64 × Bool × Schema)} {raw out : List (UInt64 × CborValue)}
    (h : validateWith inner (.mapDyn fields) (.map raw) = .ok (.map out)) {key : UInt64}
    {v : CborValue} (hv : out.lookup key = some v) :
    ∃ f ∈ fields, f.1 = key ∧ ∃ w, validateWith inner f.2.2 w = .ok v := by
  obtain ⟨-, here, hhere, heq⟩ := validateWith_mapDyn_ok h
  obtain rfl := CborValue.map.inj heq
  obtain ⟨f, hf, hkey, w, -, hw⟩ :=
    (validateFields_ok hhere).1 (key, v) (mem_sortByKey.mp (mem_of_lookup hv))
  exact ⟨f, hf, hkey, w, hw⟩

theorem validateWith_uint_ok {inner : Schema → CborValue → Except ControlError CborValue}
    {min max : ℕ} (hmax : max ≤ uint64Max) {v w : CborValue}
    (h : validateWith inner (.uint min max) w = .ok v) :
    ∃ n : UInt64, v = .unsigned n ∧ n.toNat ≤ max := by
  rw [validateWith] at h
  obtain ⟨k, hk, h⟩ := bind_eq_ok.mp h
  split_ifs at h
  refine ⟨UInt64.ofNat k, (Except.ok.inj h).symm, ?_⟩
  unfold asUint at hk
  obtain ⟨i, -, hk⟩ := bind_eq_ok.mp hk
  split_ifs at hk with hrange
  obtain rfl := Except.ok.inj hk
  rw [UInt64.toNat_ofNat', Nat.mod_eq_of_lt (by unfold uint64Max at hmax; omega)]
  omega

/-- **The priority of a valid OpenChannel** is one of the assigned ones. -/
theorem priority_of_validateOpenChannel {raw out : List (UInt64 × CborValue)}
    (h : validateOpenChannel (.map raw) = .ok (.map out)) {v : CborValue}
    (hv : out.lookup 32 = some v) : ∃ n : UInt64, v = .unsigned n ∧ n.toNat ≤ 4 := by
  have hshape {fields : List (UInt64 × Bool × Schema)}
      (hfields : fields.filter (fun f => f.1 == 32) = [(32, req priorityId)])
      (h : validateSchema (map fields) (.map raw) = .ok (.map out)) :
      ∃ n : UInt64, v = .unsigned n ∧ n.toNat ≤ 4 := by
    obtain ⟨f, hf, hkey, w, hw⟩ := lookup_of_mapDyn_ok h hv
    have hmem : f ∈ fields.filter fun f => f.1 == 32 :=
      List.mem_filter.mpr ⟨hf, beq_iff_eq.mpr hkey⟩
    rw [hfields, List.mem_singleton] at hmem
    rw [hmem] at hw
    exact validateWith_uint_ok (by decide) hw
  unfold validateOpenChannel at h
  obtain ⟨raw', -, h⟩ := bind_eq_ok.mp h
  obtain ⟨clsV, -, h⟩ := bind_eq_ok.mp h
  obtain ⟨cls, -, h⟩ := bind_eq_ok.mp h
  split at h
  all_goals first | exact hshape rfl h | cases h

/-- A valid message was checked against the shape of its kind. -/
theorem validateKind_of_ok {value : CborValue} {msg : ControlMessage}
    (h : validateControlMessage value = .ok msg) :
    ∃ raw schema, value = .map raw ∧ kindSchema msg.kind = some schema ∧
      validateKind msg.kind schema (.map raw) = .ok (.map msg.fields) := by
  unfold validateControlMessage at h
  obtain ⟨raw, hraw, h⟩ := bind_eq_ok.mp h
  obtain ⟨kindV, -, h⟩ := bind_eq_ok.mp h
  obtain ⟨k, -, h⟩ := bind_eq_ok.mp h
  have hvalue : value = .map raw := by
    unfold mapFromValue at hraw
    split at hraw
    · split_ifs at hraw
      rw [Except.ok.inj hraw]
    · cases hraw
  subst hvalue
  dsimp only at h
  split at h
  · cases h
  · next schema hschema =>
    obtain ⟨validated, hvalidated, h⟩ := bind_eq_ok.mp h
    split at h
    · next fields =>
      have hmsg : msg = ⟨UInt8.ofNat k, fields⟩ := by
        split_ifs at h
        · obtain ⟨-, -, h⟩ := bind_eq_ok.mp h
          exact (Except.ok.inj h).symm
        · exact (Except.ok.inj h).symm
      subst hmsg
      exact ⟨raw, schema, rfl, hschema, hvalidated⟩
    · cases h

/-- A valid OpenChannel was checked against the shape of its operation kind. -/
theorem validateOpenChannel_of_ok {value : CborValue} {msg : ControlMessage}
    (h : validateControlMessage value = .ok msg) (hkind : msg.kind = kindOpenChannel) :
    ∃ raw, value = .map raw ∧ validateOpenChannel (.map raw) = .ok (.map msg.fields) := by
  obtain ⟨raw, schema, hvalue, -, hvalid⟩ := validateKind_of_ok h
  rw [validateKind, if_pos hkind] at hvalid
  exact ⟨raw, hvalue, hvalid⟩

/-! ## The numbers of a ChannelReady -/

/-- What a union accepts is accepted by one of its variants. -/
theorem variant_of_validateVariants
    {inner : Schema → CborValue → Except ControlError CborValue} {variants : List Schema}
    {value w : CborValue} {last : ControlError}
    (h : validateVariants inner variants value last = .ok w) :
    ∃ s ∈ variants, validateWith inner s value = .ok w := by
  induction variants generalizing last with
  | nil => cases h
  | cons s variants ih =>
    rw [validateVariants] at h
    split at h
    · next v hv => exact ⟨s, List.mem_cons_self, hv.trans h⟩
    · obtain ⟨t, ht, hw⟩ := ih h
      exact ⟨t, List.mem_cons_of_mem _ ht, hw⟩

theorem validateWith_oneOf_ok {inner : Schema → CborValue → Except ControlError CborValue}
    {a b : ℕ} {v w : CborValue} (h : validateWith inner (oneOf a b) w = .ok v) :
    ∃ n : UInt64, v = .unsigned n := by
  rw [oneOf, validateWith] at h
  obtain ⟨s, hs, h⟩ := variant_of_validateVariants h
  obtain ⟨c, rfl⟩ : ∃ c, s = .constU64 c := by
    rcases List.mem_cons.mp hs with rfl | hs
    · exact ⟨a, rfl⟩
    · exact ⟨b, List.mem_singleton.mp hs⟩
  rw [validateWith] at h
  obtain ⟨k, -, h⟩ := bind_eq_ok.mp h
  split_ifs at h
  exact ⟨_, (Except.ok.inj h).symm⟩

/-- **Channel and result of a valid ChannelReady** are unsigned numbers. -/
theorem unsigned_of_channelReady {value : CborValue} {msg : ControlMessage}
    (h : validateControlMessage value = .ok msg) (hkind : msg.kind = kindChannelReady)
    {key : UInt64} (hkey : key = 29 ∨ key = 33) {v : CborValue} (hv : msg.get key = some v) :
    ∃ n : UInt64, v = .unsigned n := by
  obtain ⟨raw, schema, -, hschema, hvalid⟩ := validateKind_of_ok h
  rw [hkind] at hschema hvalid
  obtain rfl := Option.some.inj hschema
  rw [validateKind, if_neg (by decide), validateSchema, channelReadySchema, validateWith] at hvalid
  obtain ⟨variant, hvariant, hvalid⟩ := variant_of_validateVariants hvalid
  obtain ⟨fields, rfl, hfields⟩ : ∃ fields, variant = map fields ∧ ∀ f ∈ fields, f.1 = key →
      f.2.2 = appChannelId ∨ ∃ a b, f.2.2 = oneOf a b := by
    have hsuccess (qos : List (UInt64 × Bool × Schema)) (hqos : ∀ f ∈ qos, f.1 ≠ 29 ∧ f.1 ≠ 33) :
        ∃ fields, channelReadySuccess qos = map fields ∧ ∀ f ∈ fields, f.1 = key →
          f.2.2 = appChannelId ∨ ∃ a b, f.2.2 = oneOf a b := by
      refine ⟨_, rfl, ?_⟩
      rcases hkey with rfl | rfl
      · intro f hf hfkey
        simp only [List.mem_append, List.mem_cons, List.not_mem_nil, or_false] at hf
        rcases hf with ((rfl | rfl | rfl | rfl | rfl | rfl) | hf) | rfl | rfl | rfl | rfl
        all_goals first | exact .inl rfl | exact absurd hfkey (by decide) |
          exact absurd hfkey (hqos f hf).1
      · intro f hf hfkey
        simp only [List.mem_append, List.mem_cons, List.not_mem_nil, or_false] at hf
        rcases hf with ((rfl | rfl | rfl | rfl | rfl | rfl) | hf) | rfl | rfl | rfl | rfl
        all_goals first | exact .inr ⟨_, _, rfl⟩ | exact absurd hfkey (by decide) |
          exact absurd hfkey (hqos f hf).2
    simp only [List.mem_cons, List.not_mem_nil, or_false] at hvariant
    rcases hvariant with rfl | rfl | rfl | rfl | rfl
    · exact hsuccess _ (by simp [req])
    · exact hsuccess _ (by simp [req])
    · exact hsuccess _ (by simp [req])
    · exact hsuccess _ (by simp)
    · refine ⟨_, rfl, ?_⟩
      rcases hkey with rfl | rfl <;> simp [req]
  obtain ⟨f, hf, hfkey, w, hw⟩ := lookup_of_mapDyn_ok hvalid hv
  rcases hfields f hf hfkey with hs | ⟨a, b, hs⟩
  · rw [hs] at hw
    obtain ⟨n, hn, -⟩ := validateWith_uint_ok (by decide) hw
    exact ⟨n, hn⟩
  · rw [hs] at hw
    exact validateWith_oneOf_ok hw

end Control
end Rclweb
