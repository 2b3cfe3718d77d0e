import Rclweb.Library.Members
import Rclweb.Protocol.CborCanonical
import Rclweb.Protocol.Validation

/-!
# Validation gives back what it is given

The validator rebuilds every value it accepts.  On a decoded value (`InOrder`) the rebuilt value
is the one it was given: numbers come back in the kind they were in, since a decoded negative is
negative, and a closed map comes back in the order of its keys, which is the order it had.

A closed map is rebuilt field by field of the declaration, so a key that is declared twice would
come back twice.  `Schema.distinct` says that none is, and every shape of a control message is so
(`distinct_kindSchema`).
-/

namespace Rclweb
namespace Control

open Members

/-! ## Declarations without repeated keys -/

mutual

/-- **No closed map of a shape declares a key twice.** -/
def Schema.distinct : Schema → Bool
  | .array _ _ items _ => items.distinct
  | .mapDyn fields => decide (fields.map Prod.fst).Nodup && distinctFields fields
  | .union variants => distinctAll variants
  | _ => true

def distinctAll : List Schema → Bool
  | [] => true
  | variant :: variants => variant.distinct && distinctAll variants

def distinctFields : List (UInt64 × Bool × Schema) → Bool
  | [] => true
  | field :: fields => distinctField field && distinctFields fields

def distinctField : UInt64 × Bool × Schema → Bool
  | (_, rest) => distinctRest rest

def distinctRest : Bool × Schema → Bool
  | (_, schema) => schema.distinct

end

theorem distinct_kindSchema {kind : UInt8} {schema : Schema} (h : kindSchema kind = some schema) :
    schema.distinct = true := by
  unfold kindSchema at h
  split at h
  all_goals cases h
  all_goals decide +kernel

/-! ## Scalars -/

/-- **A validator that gives back what it is given**, on decoded values. -/
def Fixes (validate : CborValue → Except ControlError CborValue) : Prop :=
  ∀ v : CborValue, v.InOrder → ∀ w, validate v = .ok w → w = v

theorem fixes_error (e : ControlError) : Fixes fun _ => .error e :=
  fun _ _ _ h => nomatch h

/-- A number in unsigned bounds is unsigned. -/
theorem asUint_ok_of_inOrder {v : CborValue} (hv : v.InOrder) {min max n : ℕ}
    (h : asUint v min max = .ok n) : v = .unsigned (UInt64.ofNat n) := by
  cases v with
  | unsigned k =>
    obtain ⟨rfl, -, -⟩ := asUint_unsigned_ok h
    rw [UInt64.ofNat_toNat]
  | negative k =>
    have hneg := hv.negative
    simp only [asUint, asInteger, bind, Except.bind] at h
    rw [if_pos (by omega)] at h
    cases h
  | null | bool | bytes | text | array | map => cases h

section Inner

variable {inner : Schema → CborValue → Except ControlError CborValue}

theorem fixes_uint (min max : ℕ) : Fixes (validateWith inner (.uint min max)) := by
  intro v hv w h
  rw [validateWith] at h
  obtain ⟨n, hn, h⟩ := bind_eq_ok.mp h
  split_ifs at h
  rw [← Except.ok.inj h, asUint_ok_of_inOrder hv hn]

theorem fixes_constU64 (c : ℕ) : Fixes (validateWith inner (.constU64 c)) := by
  intro v hv w h
  rw [validateWith] at h
  obtain ⟨n, hn, h⟩ := bind_eq_ok.mp h
  split_ifs at h
  rw [← Except.ok.inj h, asUint_ok_of_inOrder hv hn]

theorem fixes_int64 : Fixes (validateWith inner .int64) := by
  intro v hv w h
  cases v with
  | unsigned n => exact keeps_int64.unsigned n w h
  | negative n =>
    have hneg := hv.negative
    rw [validateWith] at h
    obtain ⟨k, hk, h⟩ := bind_eq_ok.mp h
    obtain ⟨i, hi, hk⟩ := bind_eq_ok.mp hk
    obtain rfl : n = i := Except.ok.inj hi
    split_ifs at hk
    obtain rfl : n = k := Except.ok.inj hk
    rw [if_neg (by omega)] at h
    exact (Except.ok.inj h).symm
  | null | bool | bytes | text | array | map => cases h

theorem fixes_bool : Fixes (validateWith inner .bool) := by
  intro v _ w h
  cases v with
  | bool b => exact (Except.ok.inj h).symm
  | null | unsigned | negative | bytes | text | array | map => cases h

theorem fixes_constBool (c : Bool) : Fixes (validateWith inner (.constBool c)) := by
  intro v _ w h
  cases v with
  | bool b =>
    simp only [validateWith] at h
    split_ifs at h
    exact (Except.ok.inj h).symm
  | null | unsigned | negative | bytes | text | array | map => cases h

theorem fixes_text (min max : ℕ) (oneOf : Option (List String)) :
    Fixes (validateWith inner (.text min max oneOf)) := by
  intro v _ w h
  cases v with
  | text t =>
    simp only [validateWith] at h
    split_ifs at h
    exact (Except.ok.inj h).symm
  | null | bool | unsigned | negative | bytes | array | map => cases h

theorem fixes_bytes (min max : ℕ) : Fixes (validateWith inner (.bytes min max)) := by
  intro v _ w h
  cases v with
  | bytes b =>
    simp only [validateWith] at h
    split_ifs at h
    exact (Except.ok.inj h).symm
  | null | bool | unsigned | negative | text | array | map => cases h

/-! ## Containers -/

/-- A list whose elements are given back is given back. -/
theorem mapM_eq_self {validate : CborValue → Except ControlError CborValue}
    (h : Fixes validate) {items out : List CborValue} (hitems : ∀ item ∈ items, item.InOrder)
    (hout : items.mapM validate = .ok out) : out = items := by
  induction items generalizing out with
  | nil => exact (Except.ok.inj hout).symm
  | cons item items ih =>
    rw [List.mapM_cons] at hout
    obtain ⟨w, hw, hout⟩ := bind_eq_ok.mp hout
    obtain ⟨ws, hws, hout⟩ := bind_eq_ok.mp hout
    rw [List.forall_mem_cons] at hitems
    rw [← Except.ok.inj hout, h item hitems.1 w hw, ih hitems.2 hws]

theorem fixes_array {min max : ℕ} {items : Schema} {rule : Option ArrayRule}
    (ih : Fixes (validateWith inner items)) :
    Fixes (validateWith inner (.array min max items rule)) := by
  intro v hv w h
  cases v with
  | array els =>
    simp only [validateWith] at h
    split_ifs at h
    obtain ⟨out, hout, h⟩ := bind_eq_ok.mp h
    obtain ⟨-, -, h⟩ := bind_eq_ok.mp h
    rw [← Except.ok.inj h, mapM_eq_self ih hv.array hout]
  | null | bool | unsigned | negative | bytes | text | map =>
    simp only [validateWith] at h
    cases h

/-- The fields come out in the order of the declaration, each once. -/
theorem keys_validateFields {fields : List (UInt64 × Bool × Schema)}
    {raw out : List (UInt64 × CborValue)} (h : validateFields inner fields raw = .ok out) :
    (out.map Prod.fst).Sublist (fields.map Prod.fst) := by
  induction fields generalizing out with
  | nil =>
    rw [validateFields] at h
    obtain rfl := Except.ok.inj h
    exact List.Sublist.refl _
  | cons field fields ih =>
    rw [validateFields] at h
    obtain ⟨here, hhere, h⟩ := bind_eq_ok.mp h
    obtain ⟨rest, hrest, h⟩ := bind_eq_ok.mp h
    obtain rfl := Except.ok.inj h
    rw [List.map_append, List.map_cons]
    rcases validateField_ok hhere with ⟨-, rfl⟩ | ⟨v, w, -, -, rfl⟩
    · exact (ih hrest).cons _
    · exact (ih hrest).cons_cons _

/-- **A closed map is given back**: it has the entries it had, in the order of their keys. -/
theorem fixes_mapDyn {fields : List (UInt64 × Bool × Schema)} (hkeys : (fields.map Prod.fst).Nodup)
    (ih : ∀ f ∈ fields, Fixes (validateWith inner f.2.2)) :
    Fixes (validateWith inner (.mapDyn fields)) := by
  intro v hv w h
  cases v with
  | map raw =>
    obtain ⟨hascending, hentries⟩ := hv.map
    obtain ⟨hknown, out, hout, rfl⟩ := validateWith_mapDyn_ok h
    obtain ⟨hmem, hall⟩ := validateFields_ok hout
    have hout' : (out.map Prod.fst).Nodup := (keys_validateFields hout).nodup hkeys
    have hlookup {key : UInt64} {v : CborValue} := mem_iff_lookup (r := fun a b : UInt64 => a < b)
      (fun _ _ => UInt64.lt_asymm) hascending (k := key) (v := v)
    have hsound (e : UInt64 × CborValue) (he : e ∈ out) : e ∈ raw := by
      obtain ⟨f, hf, hkey, v', hv', hw⟩ := hmem e he
      have hmem' := hlookup.mpr hv'
      rw [hkey] at hmem'
      obtain ⟨key, w⟩ := e
      rwa [ih f hf v' (hentries _ hmem') w hw]
    refine congrArg CborValue.map (ext_of_pairwise (r := fun a b : UInt64 => a < b)
      (fun _ _ => UInt64.lt_asymm) (sortByKey_ascending hout') hascending fun e => ?_)
    rw [mem_sortByKey]
    refine ⟨hsound e, fun he => ?_⟩
    obtain ⟨f, hf, hkey⟩ := hknown e he
    obtain ⟨w, hw⟩ := hall f hf e.2 (by rw [hkey]; exact hlookup.mp he)
    have hsame := hsound _ hw
    rw [hkey] at hw hsame
    have hvalue : w = e.2 := Option.some.inj ((hlookup.mp hsame).symm.trans (hlookup.mp he))
    rwa [hvalue] at hw
  | null | bool | unsigned | negative | bytes | text | array =>
    rw [validateWith] at h
    cases h

theorem fixes_variants {variants : List Schema}
    (ih : ∀ s ∈ variants, Fixes (validateWith inner s)) (last : ControlError) :
    Fixes fun v => validateVariants inner variants v last := by
  induction variants generalizing last with
  | nil => exact fun v _ w h => nomatch h
  | cons s variants ihs =>
    intro v hv w h
    simp only [validateVariants] at h
    split at h
    · next u hu =>
      rw [← Except.ok.inj h]
      exact ih s List.mem_cons_self v hv u hu
    · next e _ => exact ihs (fun t ht => ih t (List.mem_cons_of_mem _ ht)) e v hv w h

theorem fixes_identity : Fixes (validateWith inner .identity) := by
  intro v hv w h
  cases v with
  | map raw =>
    rw [validateWith, validateSchemaIdentity] at h
    obtain ⟨es, hes, hchecks⟩ := bind_eq_ok.mp h
    obtain ⟨-, rfl⟩ := mapFromValue_map hes
    split_ifs at hchecks with hknown
    obtain ⟨scheme, hscheme, hchecks⟩ := bind_eq_ok.mp hchecks
    obtain ⟨val, hval, hchecks⟩ := bind_eq_ok.mp hchecks
    have hsame : es = present [(1, some scheme), (2, some val)] := by
      rw [eq_present_iff (r := fun a b : UInt64 => a < b) (fun _ _ => UInt64.lt_asymm) hv.map.1
        (by simp)]
      constructor
      · intro e he
        simp only [List.any_eq_true, not_exists, not_and, decide_eq_true_eq] at hknown
        have := hknown e he
        simp only [List.map_cons, List.map_nil, List.mem_cons, List.not_mem_nil, or_false]
        tauto
      · simp only [List.forall_mem_cons]
        exact ⟨getOr_ok hscheme, getOr_ok hval, List.forall_mem_nil _⟩
    split at hchecks
    · split_ifs at hchecks
      rw [← Except.ok.inj hchecks, hsame]
      rfl
    · cases hchecks
  | null | bool | unsigned | negative | bytes | text | array => cases h

theorem fixes_validateByHistory {shape : ℕ → Option Schema}
    (hinner : ∀ s, s.distinct = true → Fixes (inner s))
    (hshape : ∀ h s, shape h = some s → s.distinct = true) :
    Fixes (validateByHistory inner shape) := by
  intro v hv w h
  rw [validateByHistory] at h
  obtain ⟨k, -, h⟩ := bind_eq_ok.mp h
  split at h
  · next s hs => exact hinner s (hshape k s hs) v hv w h
  · cases h

/-! ## Every shape -/

mutual

theorem fixes_validateWith (hinner : ∀ s, s.distinct = true → Fixes (inner s)) :
    ∀ s : Schema, s.distinct = true → Fixes (validateWith inner s)
  | .bool, _ => fixes_bool
  | .uint min max, _ => fixes_uint min max
  | .int64, _ => fixes_int64
  | .text min max oneOf, _ => fixes_text min max oneOf
  | .bytes min max, _ => fixes_bytes min max
  | .constU64 c, _ => fixes_constU64 c
  | .constBool c, _ => fixes_constBool c
  | .array _ _ items _, h => fixes_array (fixes_validateWith hinner items (by
      rw [Schema.distinct] at h
      exact h))
  | .mapDyn fields, h => by
    rw [Schema.distinct, Bool.and_eq_true, decide_eq_true_eq] at h
    exact fixes_mapDyn h.1 (fixes_fields hinner fields h.2)
  | .union variants, h => by
    rw [Schema.distinct] at h
    intro v hv w hw
    rw [validateWith] at hw
    exact fixes_variants (fixes_all hinner variants h) _ v hv w hw
  | .identity, _ => fixes_identity
  | .qos, _ => by
    refine fixes_validateByHistory hinner fun h s hs => ?_
    split_ifs at hs
    all_goals obtain rfl := Option.some.inj hs
    all_goals decide +kernel
  | .effectiveQos, _ => by
    refine fixes_validateByHistory hinner fun h s hs => ?_
    split_ifs at hs
    all_goals obtain rfl := Option.some.inj hs
    all_goals decide +kernel
  | .effectiveServiceQos, _ => by
    refine fixes_validateByHistory hinner fun h s hs => ?_
    split_ifs at hs
    all_goals obtain rfl := Option.some.inj hs
    all_goals decide +kernel
  | .actionQos, _ => hinner _ (by decide +kernel)
  | .effectiveActionQos, _ => hinner _ (by decide +kernel)

theorem fixes_all (hinner : ∀ s, s.distinct = true → Fixes (inner s)) :
    ∀ variants : List Schema, distinctAll variants = true →
      ∀ s ∈ variants, Fixes (validateWith inner s)
  | [], _ => nofun
  | variant :: variants, h => fun s hs => by
    rw [distinctAll, Bool.and_eq_true] at h
    rcases List.mem_cons.mp hs with heq | hs
    · rw [heq]
      exact fixes_validateWith hinner variant h.1
    · exact fixes_all hinner variants h.2 s hs

theorem fixes_fields (hinner : ∀ s, s.distinct = true → Fixes (inner s)) :
    ∀ fields : List (UInt64 × Bool × Schema), distinctFields fields = true →
      ∀ f ∈ fields, Fixes (validateWith inner f.2.2)
  | [], _ => nofun
  | field :: fields, h => fun f hf => by
    rw [distinctFields, Bool.and_eq_true] at h
    rcases List.mem_cons.mp hf with heq | hf
    · rw [heq]
      exact fixes_field hinner field h.1
    · exact fixes_fields hinner fields h.2 f hf

theorem fixes_field (hinner : ∀ s, s.distinct = true → Fixes (inner s)) :
    ∀ field : UInt64 × Bool × Schema, distinctField field = true →
      Fixes (validateWith inner field.2.2)
  | (_, rest), h => fixes_rest hinner rest h

theorem fixes_rest (hinner : ∀ s, s.distinct = true → Fixes (inner s)) :
    ∀ rest : Bool × Schema, distinctRest rest = true → Fixes (validateWith inner rest.2)
  | (_, schema), h => fixes_validateWith hinner schema h

end

end Inner

/-- **Validation gives back what it is given**, for every shape without repeated keys. -/
theorem fixes_validateSchema {s : Schema} (hs : s.distinct = true) : Fixes (validateSchema s) :=
  fixes_validateWith (fun s hs => fixes_validateWith (fun s hs =>
    fixes_validateWith (fun _ _ => fixes_error _) s hs) s hs) s hs

theorem fixes_validateOpenChannel : Fixes validateOpenChannel := by
  intro v hv w h
  unfold validateOpenChannel at h
  obtain ⟨raw, -, h⟩ := bind_eq_ok.mp h
  obtain ⟨clsV, -, h⟩ := bind_eq_ok.mp h
  obtain ⟨cls, -, h⟩ := bind_eq_ok.mp h
  split at h
  all_goals first | exact fixes_validateSchema (by decide +kernel) v hv w h | cases h

theorem fixes_validateKind {kind : UInt8} {schema : Schema} (hschema : schema.distinct = true) :
    Fixes (validateKind kind schema) := by
  intro v hv w h
  rw [validateKind] at h
  split_ifs at h
  · exact fixes_validateOpenChannel v hv w h
  · exact fixes_validateSchema hschema v hv w h

/-! ## Whole messages -/

theorem eq_map_of_mapFromValue {v : CborValue} {raw : List (UInt64 × CborValue)}
    (h : mapFromValue v = .ok raw) : v = .map raw := by
  cases v with
  | map es =>
    obtain ⟨-, rfl⟩ := mapFromValue_map h
    rfl
  | null | bool | unsigned | negative | bytes | text | array => cases h

/-- A message has a number under key 1. -/
theorem kind_of_validateControlMessage {v : CborValue} (hv : v.InOrder) {msg : ControlMessage}
    (h : validateControlMessage v = .ok msg) :
    ∃ raw k, v = .map raw ∧ raw.lookup 1 = some (.unsigned k) := by
  unfold validateControlMessage at h
  obtain ⟨raw, hraw, h⟩ := bind_eq_ok.mp h
  obtain ⟨kindV, hkindV, h⟩ := bind_eq_ok.mp h
  obtain ⟨n, hn, -⟩ := bind_eq_ok.mp h
  obtain rfl := eq_map_of_mapFromValue hraw
  have hlookup := getOr_ok hkindV
  have hentry : kindV.InOrder := hv.map.2 (1, kindV) (mem_of_lookup hlookup)
  rw [asUint_ok_of_inOrder hentry hn] at hlookup
  exact ⟨raw, _, rfl, hlookup⟩

/-- **Validation is lossless**: the fields of a decoded message encode to the bytes it came in,
its kind is the value of key 1, and the validator of each kind gives back every decoded value it
accepts. -/
theorem validation_lossless :
    (∀ b msg, decodeControlMessage b = .ok msg →
      Encode.encodeDeterministicCbor (.map msg.fields) = .ok b ∧
        msg.get 1 = some (.unsigned msg.kind.toUInt64)) ∧
      ∀ kind schema, kindSchema kind = some schema →
        ∀ b v w, Cbor.decodeDeterministicCbor b = .ok v →
          (validateSchema schema v = .ok w → w = v) ∧
            (validateKind kind schema v = .ok w → w = v) := by
  constructor
  · intro b msg h
    unfold decodeControlMessage at h
    split_ifs at h
    split at h
    · cases h
    next v hdecode =>
    have hv := Cbor.inOrder_of_decode hdecode
    obtain ⟨raw, k, rfl, hlookup⟩ := kind_of_validateControlMessage hv h
    obtain ⟨-, hle, schema, hschema, fields, hvalid, -, rfl⟩ :=
      (validateControlMessage_ok_iff hlookup).mp h
    have hsame := fixes_validateKind (distinct_kindSchema hschema) _ hv _ hvalid
    obtain rfl := CborValue.map.inj hsame
    refine ⟨(Cbor.encode_decode hdecode).1, hlookup.trans ?_⟩
    have hkind : k.toUInt8.toUInt64 = k := by
      apply UInt64.toNat_inj.mp
      rw [UInt8.toNat_toUInt64, UInt64.toNat_toUInt8]
      omega
    rw [hkind]
  · intro kind schema hschema b v w hdecode
    have hv := Cbor.inOrder_of_decode hdecode
    have hdistinct := distinct_kindSchema hschema
    exact ⟨fixes_validateSchema hdistinct v hv w, fixes_validateKind hdistinct v hv w⟩

/-- A heartbeat, and the number it carries. -/
def heartbeatPayload : List UInt8 :=
  [0xa3, 1, 12, 2, 0x50] ++ List.replicate 16 7 ++ [0x18, 40, 9]

theorem validation_lossless_of_heartbeat :
    ∃ msg, decodeControlMessage heartbeatPayload = .ok msg ∧
      Encode.encodeDeterministicCbor (.map msg.fields) = .ok heartbeatPayload := by
  have h : decodeControlMessage heartbeatPayload =
      .ok ⟨12, [(1, .unsigned 12), (2, .bytes (List.replicate 16 7)), (40, .unsigned 9)]⟩ := rfl
  exact ⟨_, h, (validation_lossless.1 heartbeatPayload _ h).1⟩

end Control
end Rclweb
