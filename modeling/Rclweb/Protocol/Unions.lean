import Mathlib.Logic.Relation
import Rclweb.Protocol.Validation

/-!
# Unions that leave no choice

A union is tried variant by variant, and the first one that accepts decides what comes out.  In
the control shapes that order is never felt: of the variants of one union at most one accepts a
value.  Two variants are told apart by a key that one of them requires and the other does not
know, or by a common key that holds one of two different constants (`Schema.disjoint`).

That is a property of the finitely many declarations, so it is evaluated, for the unions nested
anywhere in a shape (`Schema.deterministic`); what it says about every value is
`exclusive_of_disjoint`.

An OpenChannel is dispatched by its operation kind and not tried against the six variants in
turn.  As the operation kind is the key that tells the six apart, both find the same variant.
-/

namespace Rclweb
namespace Control

/-! ## The shapes inside a shape -/

/-- The shapes a value is checked against one step below a shape; for the quality-of-service
shapes these are the records the value may choose. -/
def Schema.children : Schema → List Schema
  | .array _ _ items _ => [items]
  | .mapDyn fields => fields.map fun field => field.2.2
  | .union variants => variants
  | .qos => [qosKeepLast, qosNoDepth]
  | .effectiveQos => [effectiveQosKeepLast, effectiveQosKeepAll]
  | .effectiveServiceQos => [effectiveServiceQosKeepLast, effectiveServiceQosKeepAll]
  | .actionQos => [actionQosMap]
  | .effectiveActionQos => [effectiveActionQosMap]
  | _ => []

/-- `s.Within t`: the shape `s` is `t` or occurs in it, at any depth. -/
def Schema.Within (s t : Schema) : Prop :=
  Relation.ReflTransGen (fun outer inner => inner ∈ outer.children) t s

/-! ## Variants told apart -/

/-- The one number a shape accepts, when it is a constant. -/
def Schema.constant : Schema → Option ℕ
  | .constU64 c => some c
  | _ => none

/-- The constants a shape is limited to, when it is one constant or a choice of them. -/
def Schema.constants : Schema → Option (List ℕ)
  | .union variants =>
    if variants.all fun variant => variant.constant.isSome then
      some (variants.filterMap Schema.constant)
    else none
  | s => s.constant.map fun c => [c]

/-- Shapes of constants that have none in common. -/
def Schema.apart : Schema → Schema → Bool
  | .constBool a, .constBool b => a != b
  | s, t =>
    match s.constants, t.constants with
    | some cs, some ds => cs.all fun c => !ds.contains c
    | _, _ => false

/-- A field of `fields` that no map of the shape `others` has, or has with another constant. -/
def tellsApart (others : List (UInt64 × Bool × Schema)) (field : UInt64 × Bool × Schema) : Bool :=
  field.2.1 && (!others.any (fun other => other.1 == field.1) ||
    others.any fun other => other.1 == field.1 && field.2.2.apart other.2.2)

/-- **Shapes that the declarations keep apart.** -/
def Schema.disjoint : Schema → Schema → Bool
  | .mapDyn fields, .mapDyn others =>
    fields.any (tellsApart others) || others.any (tellsApart fields)
  | s, t => s.apart t

mutual

/-- **The variants of every union in a shape are kept apart.** -/
def Schema.deterministic : Schema → Bool
  | .array _ _ items _ => items.deterministic
  | .mapDyn fields => deterministicFields fields
  | .union variants =>
    decide (variants.Pairwise fun s t => s.disjoint t = true) && deterministicAll variants
  | _ => true

def deterministicAll : List Schema → Bool
  | [] => true
  | variant :: variants => variant.deterministic && deterministicAll variants

def deterministicFields : List (UInt64 × Bool × Schema) → Bool
  | [] => true
  | field :: fields => deterministicField field && deterministicFields fields

def deterministicField : UInt64 × Bool × Schema → Bool
  | (_, rest) => deterministicRest rest

def deterministicRest : Bool × Schema → Bool
  | (_, schema) => schema.deterministic

end

theorem deterministic_kindSchema {kind : UInt8} {schema : Schema}
    (h : kindSchema kind = some schema) : schema.deterministic = true := by
  unfold kindSchema at h
  split at h
  all_goals cases h
  all_goals decide +kernel

theorem deterministic_of_mem {variants : List Schema} (h : deterministicAll variants = true)
    {s : Schema} (hs : s ∈ variants) : s.deterministic = true := by
  induction variants with
  | nil => cases hs
  | cons variant variants ih =>
    rw [deterministicAll, Bool.and_eq_true] at h
    rcases List.mem_cons.mp hs with rfl | hs
    · exact h.1
    · exact ih h.2 hs

theorem deterministic_of_mem_fields {fields : List (UInt64 × Bool × Schema)}
    (h : deterministicFields fields = true) {field : UInt64 × Bool × Schema}
    (hfield : field ∈ fields) : field.2.2.deterministic = true := by
  induction fields with
  | nil => cases hfield
  | cons head fields ih =>
    rw [deterministicFields, Bool.and_eq_true] at h
    rcases List.mem_cons.mp hfield with rfl | hfield
    · obtain ⟨key, required, schema⟩ := field
      exact h.1
    · exact ih h.2 hfield

/-- What is below a deterministic shape is deterministic. -/
theorem deterministic_of_mem_children {s t : Schema} (ht : t.deterministic = true)
    (hs : s ∈ t.children) : s.deterministic = true := by
  cases t with
  | array min max items rule =>
    rw [List.mem_singleton.mp hs]
    exact ht
  | mapDyn fields =>
    obtain ⟨field, hfield, rfl⟩ := List.mem_map.mp hs
    exact deterministic_of_mem_fields ht hfield
  | union variants =>
    rw [Schema.deterministic, Bool.and_eq_true] at ht
    exact deterministic_of_mem ht.2 hs
  | qos | effectiveQos | effectiveServiceQos =>
    rcases List.mem_pair.mp hs with rfl | rfl
    · decide +kernel
    · decide +kernel
  | actionQos | effectiveActionQos =>
    rw [List.mem_singleton.mp hs]
    decide +kernel
  | bool | uint | int64 | text | bytes | constU64 | constBool | identity => cases hs

theorem Schema.Within.deterministic {s t : Schema} (h : s.Within t)
    (ht : t.deterministic = true) : s.deterministic = true := by
  induction h with
  | refl => exact ht
  | tail _ hs ih => exact deterministic_of_mem_children ih hs

theorem disjoint_of_deterministic {variants : List Schema}
    (h : (Schema.union variants).deterministic = true) :
    variants.Pairwise fun s t => s.disjoint t = true := by
  rw [Schema.deterministic, Bool.and_eq_true, decide_eq_true_eq] at h
  exact h.1

/-! ## What the declarations say about values -/

section Inner

variable {inner : Schema → CborValue → Except ControlError CborValue} {s t : Schema}
  {fields others : List (UInt64 × Bool × Schema)} {v : CborValue}

/-- No value is accepted by both shapes. -/
def Exclusive (inner : Schema → CborValue → Except ControlError CborValue) (s t : Schema) : Prop :=
  ∀ v, Accepts (validateWith inner s) v → ¬ Accepts (validateWith inner t) v

theorem Exclusive.symm (h : Exclusive inner s t) : Exclusive inner t s :=
  fun v ht hs => h v hs ht

theorem asUint_of_accepts_constant {c : ℕ} (hc : s.constant = some c)
    (h : Accepts (validateWith inner s) v) : asUint v 0 uint64Max = .ok c := by
  unfold Schema.constant at hc
  split at hc
  · next c' =>
    obtain rfl := Option.some.inj hc
    obtain ⟨w, hw⟩ := h
    rw [validateWith] at hw
    obtain ⟨n, hn, hw⟩ := bind_eq_ok.mp hw
    split_ifs at hw with hne
    rw [hn, not_not.mp hne]
  · cases hc

/-- What a shape of constants accepts is one of them. -/
theorem asUint_of_accepts_constants {cs : List ℕ} (hcs : s.constants = some cs)
    (h : Accepts (validateWith inner s) v) : ∃ c ∈ cs, asUint v 0 uint64Max = .ok c := by
  unfold Schema.constants at hcs
  split at hcs
  · next variants =>
    split_ifs at hcs with hall
    obtain rfl := Option.some.inj hcs
    obtain ⟨variant, hvariant, haccepts⟩ := accepts_union.mp h
    obtain ⟨c, hc⟩ := Option.isSome_iff_exists.mp (List.all_eq_true.mp hall variant hvariant)
    exact ⟨c, List.mem_filterMap.mpr ⟨variant, hvariant, hc⟩,
      asUint_of_accepts_constant hc haccepts⟩
  · obtain ⟨c, hc, rfl⟩ := Option.map_eq_some_iff.mp hcs
    exact ⟨c, List.mem_singleton_self c, asUint_of_accepts_constant hc h⟩

theorem exclusive_of_apart (h : s.apart t = true) : Exclusive inner s t := by
  intro v hs ht
  unfold Schema.apart at h
  split at h
  · next a b =>
    obtain ⟨w, hw⟩ := hs
    obtain ⟨w', hw'⟩ := ht
    cases v with
    | bool c =>
      simp only [validateWith] at hw hw'
      split_ifs at hw hw' with hca hcb
      simp [← hca, ← hcb] at h
    | null | unsigned | negative | bytes | text | array | map => cases hw
  · split at h
    · next cs ds hcs hds =>
      obtain ⟨c, hc, hv⟩ := asUint_of_accepts_constants hcs hs
      obtain ⟨d, hd, hv'⟩ := asUint_of_accepts_constants hds ht
      obtain rfl : c = d := Except.ok.inj (hv.symm.trans hv')
      have hnot := List.all_eq_true.mp h c hc
      simp [hd] at hnot
    · cases h

/-- A closed map accepts nothing but maps. -/
theorem map_of_accepts (h : Accepts (validateWith inner (.mapDyn fields)) v) :
    ∃ raw, v = .map raw := by
  obtain ⟨w, hw⟩ := h
  rw [validateWith] at hw
  obtain ⟨raw, hraw, -⟩ := bind_eq_ok.mp hw
  cases v with
  | map raw => exact ⟨raw, rfl⟩
  | null | bool | unsigned | negative | bytes | text | array => cases hraw

/-- A required field of an accepted map is there, and accepted itself. -/
theorem lookup_of_accepts {raw : List (UInt64 × CborValue)}
    (h : Accepts (validateWith inner (.mapDyn fields)) (.map raw))
    {field : UInt64 × Bool × Schema} (hfield : field ∈ fields) (hrequired : field.2.1 = true) :
    ∃ w, raw.lookup field.1 = some w ∧ Accepts (validateWith inner field.2.2) w := by
  have haccepts := (accepts_mapDyn.mp h).2.2 field hfield
  cases hlookup : raw.lookup field.1 with
  | none =>
    rw [hlookup] at haccepts
    rw [AcceptsField, hrequired] at haccepts
    cases haccepts
  | some w =>
    rw [hlookup] at haccepts
    exact ⟨w, rfl, haccepts⟩

/-- A field that tells two maps apart leaves no value to both. -/
theorem exclusive_of_tellsApart {field : UInt64 × Bool × Schema} (hfield : field ∈ fields)
    (h : tellsApart others field = true) :
    Exclusive inner (.mapDyn fields) (.mapDyn others) := by
  intro v hs ht
  obtain ⟨raw, rfl⟩ := map_of_accepts hs
  rw [tellsApart, Bool.and_eq_true, Bool.or_eq_true] at h
  obtain ⟨hrequired, h⟩ := h
  obtain ⟨w, hlookup, hw⟩ := lookup_of_accepts hs hfield hrequired
  rcases h with hunknown | happart
  · have hknown := (accepts_mapDyn.mp ht).2.1 _ (mem_of_lookup hlookup)
    obtain ⟨other, hother, hkey⟩ := List.mem_map.mp hknown
    rw [Bool.not_eq_true', List.any_eq_false] at hunknown
    exact hunknown other hother (beq_iff_eq.mpr hkey)
  · obtain ⟨other, hother, happart⟩ := List.any_eq_true.mp happart
    rw [Bool.and_eq_true, beq_iff_eq] at happart
    obtain ⟨hkey, happart⟩ := happart
    have haccepts := (accepts_mapDyn.mp ht).2.2 other hother
    rw [hkey, hlookup] at haccepts
    exact exclusive_of_apart happart w hw haccepts

/-- **Shapes that the declarations keep apart have no value in common.** -/
theorem exclusive_of_disjoint (h : s.disjoint t = true) : Exclusive inner s t := by
  unfold Schema.disjoint at h
  split at h
  · rcases Bool.or_eq_true_iff.mp h with h | h
    · obtain ⟨field, hfield, h⟩ := List.any_eq_true.mp h
      exact exclusive_of_tellsApart hfield h
    · obtain ⟨field, hfield, h⟩ := List.any_eq_true.mp h
      exact (exclusive_of_tellsApart hfield h).symm
  · exact exclusive_of_apart h

/-! ## Trying exclusive variants -/

/-- A variant that accepts decides the union, when no other one does. -/
theorem validateVariants_ok_of_mem {variants : List Schema}
    (hvariants : variants.Pairwise (Exclusive inner)) (hs : s ∈ variants) {w : CborValue}
    (h : validateWith inner s v = .ok w) (last : ControlError) :
    validateVariants inner variants v last = .ok w := by
  induction variants generalizing last with
  | nil => cases hs
  | cons variant variants ih =>
    rw [List.pairwise_cons] at hvariants
    rw [validateVariants]
    rcases List.mem_cons.mp hs with rfl | hs
    · rw [h]
    · cases hfirst : validateWith inner variant v with
      | ok w' => exact absurd ⟨w, h⟩ (hvariants.1 s hs v ⟨w', hfirst⟩)
      | error e => exact ih hvariants.2 hs e

/-- **What a union of exclusive variants returns** is what one of them returns. -/
theorem validateWith_union_ok_iff {variants : List Schema}
    (hvariants : variants.Pairwise (Exclusive inner)) {w : CborValue} :
    validateWith inner (.union variants) v = .ok w ↔
      ∃ s ∈ variants, validateWith inner s v = .ok w := by
  rw [validateWith]
  constructor
  · exact variant_of_validateVariants
  · rintro ⟨s, hs, h⟩
    exact validateVariants_ok_of_mem hvariants hs h _

/-- The order in which exclusive variants are tried is not felt. -/
theorem validateWith_union_perm {variants variants' : List Schema}
    (hvariants : variants.Pairwise (Exclusive inner)) (hperm : variants'.Perm variants)
    {w : CborValue} :
    validateWith inner (.union variants') v = .ok w ↔
      validateWith inner (.union variants) v = .ok w := by
  have hvariants' : variants'.Pairwise (Exclusive inner) :=
    hperm.symm.pairwise hvariants fun h => h.symm
  rw [validateWith_union_ok_iff hvariants', validateWith_union_ok_iff hvariants]
  simp only [hperm.mem_iff]

/-- The unions of the control shapes have exclusive variants. -/
theorem exclusive_of_within {kind : UInt8} {schema : Schema}
    (hschema : kindSchema kind = some schema) {variants : List Schema}
    (h : (Schema.union variants).Within schema) : variants.Pairwise (Exclusive inner) :=
  (disjoint_of_deterministic (h.deterministic (deterministic_kindSchema hschema))).imp
    exclusive_of_disjoint

end Inner

/-! ## The operation kind of an OpenChannel -/

theorem asUint_of_le {v : CborValue} {min max max' c : ℕ} (h : asUint v min max = .ok c)
    (hc : c ≤ max') : asUint v min max' = .ok c := by
  unfold asUint at h ⊢
  obtain ⟨n, hn, h⟩ := bind_eq_ok.mp h
  split_ifs at h with hrange
  have hcn : n.toNat = c := Except.ok.inj h
  refine bind_eq_ok.mpr ⟨n, hn, ?_⟩
  rw [if_neg (by omega)]
  exact h

/-- The variant an operation kind selects. -/
def openVariant : ℕ → Option Schema
  | 0 | 1 => some openTopic
  | 2 | 3 => some openService
  | 4 | 5 => some openAction
  | 6 => some openMedia
  | 7 => some openRecording
  | 8 => some openAsset
  | _ => none

/-- **When an OpenChannel is accepted**: the variant of its operation kind accepts it. -/
theorem validateOpenChannel_ok_iff {value out : CborValue} :
    validateOpenChannel value = .ok out ↔
      ∃ raw v c s, mapFromValue value = .ok raw ∧ raw.lookup 30 = some v ∧
        asUint v 0 8 = .ok c ∧ openVariant c = some s ∧ validateSchema s value = .ok out := by
  unfold validateOpenChannel openVariant
  constructor
  · intro h
    obtain ⟨raw, hraw, h⟩ := bind_eq_ok.mp h
    obtain ⟨v, hv, h⟩ := bind_eq_ok.mp h
    obtain ⟨c, hc, h⟩ := bind_eq_ok.mp h
    refine ⟨raw, v, c, ?_⟩
    split at h
    all_goals first
      | exact ⟨_, hraw, getOr_ok hv, hc, rfl, h⟩
      | cases h
  · rintro ⟨raw, v, c, s, hraw, hv, hc, hs, h⟩
    refine bind_eq_ok.mpr ⟨raw, hraw, bind_eq_ok.mpr ⟨v, by rw [getOr, hv],
      bind_eq_ok.mpr ⟨c, hc, ?_⟩⟩⟩
    split at hs
    all_goals cases hs
    all_goals exact h

theorem variant_of_openVariant {c : ℕ} {s : Schema} (h : openVariant c = some s) :
    s ∈ [openTopic, openService, openAction, openMedia, openRecording, openAsset] := by
  unfold openVariant at h
  split at h
  all_goals cases h
  all_goals simp

/-- Each of the six variants is limited to the operation kinds that select it. -/
theorem openVariant_of_accepts {s : Schema}
    (hs : s ∈ [openTopic, openService, openAction, openMedia, openRecording, openAsset])
    {value : CborValue} (h : Accepts (validateSchema s) value) :
    ∃ raw v c, mapFromValue value = .ok raw ∧ raw.lookup 30 = some v ∧ asUint v 0 8 = .ok c ∧
      openVariant c = some s := by
  have hkinds : ∃ fields kinds cs, s = .mapDyn fields ∧ (30, true, kinds) ∈ fields ∧
      kinds.constants = some cs ∧ ∀ c ∈ cs, c ≤ 8 ∧ openVariant c = some s := by
    simp only [List.mem_cons, List.not_mem_nil, or_false] at hs
    rcases hs with rfl | rfl | rfl | rfl | rfl | rfl
    · exact ⟨_, oneOf 0 1, [0, 1], rfl, by simp [req], rfl, by simp [openVariant]⟩
    · exact ⟨_, oneOf 2 3, [2, 3], rfl, by simp [req], rfl, by simp [openVariant]⟩
    · exact ⟨_, oneOf 4 5, [4, 5], rfl, by simp [req], rfl, by simp [openVariant]⟩
    · exact ⟨_, .constU64 6, [6], rfl, by simp [req], rfl, by simp [openVariant]⟩
    · exact ⟨_, .constU64 7, [7], rfl, by simp [req], rfl, by simp [openVariant]⟩
    · exact ⟨_, .constU64 8, [8], rfl, by simp [req], rfl, by simp [openVariant]⟩
  obtain ⟨fields, kinds, cs, rfl, hfield, hcs, hselect⟩ := hkinds
  obtain ⟨raw, rfl⟩ := map_of_accepts h
  obtain ⟨v, hlookup, hv⟩ := lookup_of_accepts h hfield rfl
  obtain ⟨c, hc, hvalue⟩ := asUint_of_accepts_constants hcs hv
  refine ⟨raw, v, c, ?_, hlookup, asUint_of_le hvalue (hselect c hc).1, (hselect c hc).2⟩
  rw [mapFromValue, if_pos (accepts_mapDyn.mp h).1]

theorem exclusive_openChannel (inner : Schema → CborValue → Except ControlError CborValue) :
    [openTopic, openService, openAction, openMedia, openRecording, openAsset].Pairwise
      (Exclusive inner) :=
  exclusive_of_within (show kindSchema kindOpenChannel = some openChannelSchema from rfl) .refl

/-- **A union of a control shape leaves no choice**: of its variants at most one accepts a value,
so that the order in which they are tried changes neither whether a value is accepted nor what
comes out.  In particular the dispatch of an OpenChannel by its operation kind accepts what the
six-way union accepts, with the same result. -/
theorem unions_leave_no_choice :
    (∀ kind schema, kindSchema kind = some schema →
      ∀ variants, (Schema.union variants).Within schema → ∀ inner value,
        (variants.Pairwise fun s t =>
          ¬ (Accepts (validateWith inner s) value ∧ Accepts (validateWith inner t) value)) ∧
        ∀ variants', variants'.Perm variants → ∀ out,
          validateWith inner (.union variants') value = .ok out ↔
            validateWith inner (.union variants) value = .ok out) ∧
    ∀ value out, validateOpenChannel value = .ok out ↔
      validateSchema openChannelSchema value = .ok out := by
  refine ⟨fun kind schema hschema variants hwithin inner value => ?_, fun value out => ?_⟩
  · have hvariants : variants.Pairwise (Exclusive inner) := exclusive_of_within hschema hwithin
    refine ⟨hvariants.imp fun h => ?_, fun variants' hperm out => ?_⟩
    · exact fun ⟨hs, ht⟩ => h value hs ht
    · exact validateWith_union_perm hvariants hperm
  · rw [validateSchema, openChannelSchema, validateWith_union_ok_iff (exclusive_openChannel _),
      validateOpenChannel_ok_iff]
    constructor
    · rintro ⟨raw, v, c, s, -, -, -, hs, h⟩
      exact ⟨s, variant_of_openVariant hs, h⟩
    · rintro ⟨s, hs, h⟩
      obtain ⟨raw, v, c, hraw, hv, hc, hselect⟩ := openVariant_of_accepts hs ⟨out, h⟩
      exact ⟨raw, v, c, s, hraw, hv, hc, hselect, h⟩

end Control
end Rclweb
