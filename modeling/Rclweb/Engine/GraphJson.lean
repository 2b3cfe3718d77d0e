import Rclweb.Engine.Fields
import Rclweb.Library.JsonSpelling
import Rclweb.Protocol.Unions

/-!
# The graph as JSON

The engine writes the nodes and endpoints of a GraphSnapshot as JSON by hand.  Each string is
written through `jsonEscape`, or in hex digits, and so spells the text it was made from; what
`JSON.parse` makes of the whole is the list of the message, item by item.

`SaysNode` and `SaysEndpoint` are what the message holds of an item, and an accepted GraphSnapshot
holds all of it (`exists_lists`): the defaults of the writer are never taken.
-/

namespace Rclweb
namespace Engine

open Json Control

/-! ## Texts and numbers -/

theorem hexDigit?_hexDigit {n : ℕ} (h : n < 16) : Json.hexDigit? (hexDigit n) = some n := by
  have hall : ∀ m < 16, Json.hexDigit? (hexDigit m) = some m := by decide
  exact hall n h

theorem plain_hexDigit {n : ℕ} (h : n < 16) : Plain (hexDigit n) := by
  have hall : ∀ m < 16, Plain (hexDigit m) := by decide
  exact hall n h

theorem hex4?_hex4 {n : ℕ} (h : n < 65536) {a b c d : Char} (hdigits : hex4 n = [a, b, c, d]) :
    Json.hex4? a b c d = some n := by
  rw [hex4] at hdigits
  obtain ⟨rfl, rfl, rfl, rfl⟩ : hexDigit (n / 4096 % 16) = a ∧ hexDigit (n / 256 % 16) = b ∧
      hexDigit (n / 16 % 16) = c ∧ hexDigit (n % 16) = d := by simpa using hdigits
  rw [Json.hex4?, hexDigit?_hexDigit (Nat.mod_lt _ (by decide)),
    hexDigit?_hexDigit (Nat.mod_lt _ (by decide)), hexDigit?_hexDigit (Nat.mod_lt _ (by decide)),
    hexDigit?_hexDigit (Nat.mod_lt _ (by decide))]
  show some _ = some n
  congr 1
  omega

/-- **One character, escaped**: quotes, backslashes and every control character. -/
theorem spells_jsonEscapeChar (c : Char) : SpellsText (jsonEscapeChar c) [c] := by
  rw [jsonEscapeChar]
  split_ifs with hquote hslash hnewline hreturn htab hcontrol
  · exact SpellsText.escape (by rw [hquote]; rfl)
  · exact SpellsText.escape (by rw [hslash]; rfl)
  · exact SpellsText.escape (by rw [hnewline]; rfl)
  · exact SpellsText.escape (by rw [hreturn]; rfl)
  · exact SpellsText.escape (by rw [htab]; rfl)
  · have hlt : c.toNat < 65536 := by
      rw [isControl] at hcontrol
      simp only [Bool.or_eq_true, Bool.and_eq_true, decide_eq_true_eq] at hcontrol
      omega
    exact SpellsText.hex (hex4?_hex4 hlt rfl)
  · refine SpellsText.plain ⟨hquote, hslash, ?_⟩
    rw [isControl] at hcontrol
    simp only [Bool.or_eq_true, Bool.and_eq_true, decide_eq_true_eq] at hcontrol
    omega

theorem spells_jsonEscape (s : String) : SpellsText (jsonEscape s).toList s.toList := by
  rw [jsonEscape, String.toList_ofList]
  exact SpellsText.flatMap fun c _ => spells_jsonEscapeChar c

theorem spells_hexEncode (bytes : List UInt8) :
    SpellsText (hexEncode bytes).toList (hexEncode bytes).toList := by
  refine SpellsText.of_plain fun c hc => ?_
  rw [hexEncode, String.toList_ofList, List.mem_flatMap] at hc
  obtain ⟨b, -, hc⟩ := hc
  have hb := b.toNat_lt
  rcases List.mem_cons.mp hc with rfl | hc
  · exact plain_hexDigit (by omega)
  · rw [List.mem_singleton.mp hc]
    exact plain_hexDigit (by omega)

/-- The bytes that hex digits write, two digits each. -/
def ofHex? : List Char → Option (List UInt8)
  | a :: b :: rest => do
    let high ← Json.hexDigit? a
    let low ← Json.hexDigit? b
    let bytes ← ofHex? rest
    return UInt8.ofNat (high * 16 + low) :: bytes
  | [] => some []
  | [_] => none

/-- **No two byte strings have one hex text.** -/
theorem ofHex?_hexEncode (bytes : List UInt8) : ofHex? (hexEncode bytes).toList = some bytes := by
  rw [hexEncode, String.toList_ofList]
  induction bytes with
  | nil => rfl
  | cons b bytes ih =>
    have hb := b.toNat_lt
    rw [List.flatMap_cons, List.cons_append, List.cons_append, List.nil_append, ofHex?, ih,
      hexDigit?_hexDigit (by omega), hexDigit?_hexDigit (by omega)]
    show some (UInt8.ofNat (b.toNat / 16 * 16 + b.toNat % 16) :: bytes) = _
    rw [Nat.div_add_mod', UInt8.ofNat_toNat]

/-! ## Members, objects and arrays -/

theorem spells_jsonMember {key value text : String} (hkey : key.toList.all fun c => Plain c)
    (h : SpellsText value.toList text.toList) :
    SpellsMember (jsonMember key value).toList (key, .string text) := by
  refine ⟨key.toList, '"' :: value.toList ++ ['"'], ?_, SpellsText.of_all_plain hkey, h.spells⟩
  simp [jsonMember]

theorem spells_jsonNumber {key : String} (hkey : key.toList.all fun c => Plain c) (n : UInt64) :
    SpellsMember (jsonNumber key n).toList (key, .integer n.toNat) := by
  refine ⟨key.toList, Nat.toDigits 10 n.toNat, ?_, SpellsText.of_all_plain hkey, spells_toDigits _⟩
  have hdigits : (toString n).toList = Nat.toDigits 10 n.toNat := Nat.toList_repr
  simp [jsonNumber, hdigits]

theorem spells_jsonObject {texts : List String} {ms : List (String × Json)}
    (h : List.Forall₂ SpellsMember (texts.map String.toList) ms) (hnames : (ms.map Prod.fst).Nodup)
    (hne : ms ≠ []) : Spells (jsonObject texts).toList (.object ms) := by
  have htext : (jsonObject texts).toList =
      '\x7b' :: List.intercalate [','] (texts.map String.toList) ++ ['\x7d'] := by
    rw [jsonObject, String.toList_append, String.toList_append, String.toList_intercalate]
    rfl
  rw [htext]
  exact spells_object h hnames hne

/-- **The array under a key**, when each item spells a value. -/
theorem spells_graphJson {fields : Fields} {key : UInt64} {write : CborValue → String}
    {items : List CborValue} {vs : List Json} (hlookup : fields.lookup key = some (.array items))
    (h : List.Forall₂ (fun item v => Spells (write item).toList v) items vs) :
    Spells (graphJson fields key write).toList (.array vs) := by
  have htext : (graphJson fields key write).toList =
      '[' :: List.intercalate [','] ((items.map write).map String.toList) ++ [']'] := by
    rw [graphJson, hlookup]
    dsimp only
    rw [String.toList_append, String.toList_append, String.toList_intercalate]
    rfl
  rw [htext]
  refine spells_array ?_
  rw [List.map_map, List.forall₂_map_left_iff]
  exact h

/-! ## The items of a GraphSnapshot -/

structure GraphNode where
  id : List UInt8
  name : String
  domainId : UInt64

structure GraphEndpoint where
  id : List UInt8
  nodeId : List UInt8
  name : String
  kind : UInt64
  typeName : String
  domainId : UInt64

/-- A node as a page sees it. -/
def GraphNode.json (n : GraphNode) : Json := .object [("id", .string (hexEncode n.id)),
  ("name", .string n.name), ("domain_id", .integer n.domainId.toNat)]

/-- An endpoint as a page sees it. -/
def GraphEndpoint.json (e : GraphEndpoint) : Json := .object [("id", .string (hexEncode e.id)),
  ("node_id", .string (hexEncode e.nodeId)), ("name", .string e.name),
  ("kind", .integer e.kind.toNat), ("type_name", .string e.typeName),
  ("domain_id", .integer e.domainId.toNat)]

/-- The item of a message that is a node. -/
def SaysNode (item : CborValue) (n : GraphNode) : Prop :=
  ∃ entries, item = .map entries ∧ entries.lookup 55 = some (.bytes n.id) ∧
    entries.lookup 1 = some (.text n.name) ∧ entries.lookup 9 = some (.unsigned n.domainId)

/-- The item of a message that is an endpoint. -/
def SaysEndpoint (item : CborValue) (e : GraphEndpoint) : Prop :=
  ∃ entries, item = .map entries ∧ entries.lookup 56 = some (.bytes e.id) ∧
    entries.lookup 55 = some (.bytes e.nodeId) ∧ entries.lookup 1 = some (.text e.name) ∧
    entries.lookup 2 = some (.unsigned e.kind) ∧ entries.lookup 3 = some (.text e.typeName) ∧
    entries.lookup 9 = some (.unsigned e.domainId)

theorem SaysNode.spells {item : CborValue} {n : GraphNode} (h : SaysNode item n) :
    Spells (nodeJson item).toList n.json := by
  obtain ⟨entries, rfl, hid, hname, hdomain⟩ := h
  rw [nodeJson, mapFieldHex, hid, mapFieldText, hname, mapFieldUint, hdomain]
  refine spells_jsonObject (.cons (spells_jsonMember rfl (spells_hexEncode _))
    (.cons (spells_jsonMember rfl (spells_jsonEscape _))
      (.cons (spells_jsonNumber rfl _) .nil))) ?_ (List.cons_ne_nil _ _)
  show ["id", "name", "domain_id"].Nodup
  decide

theorem SaysEndpoint.spells {item : CborValue} {e : GraphEndpoint} (h : SaysEndpoint item e) :
    Spells (endpointJson item).toList e.json := by
  obtain ⟨entries, rfl, hid, hnode, hname, hkind, htype, hdomain⟩ := h
  rw [endpointJson, mapFieldHex, hid, mapFieldHex, hnode, mapFieldText, hname, mapFieldUint, hkind,
    mapFieldText, htype, mapFieldUint, hdomain]
  refine spells_jsonObject (.cons (spells_jsonMember rfl (spells_hexEncode _))
    (.cons (spells_jsonMember rfl (spells_hexEncode _))
    (.cons (spells_jsonMember rfl (spells_jsonEscape _))
    (.cons (spells_jsonNumber rfl _)
    (.cons (spells_jsonMember rfl (spells_jsonEscape _))
      (.cons (spells_jsonNumber rfl _) .nil)))))) ?_ (List.cons_ne_nil _ _)
  show ["id", "node_id", "name", "kind", "type_name", "domain_id"].Nodup
  decide

/-! ## What an accepted message holds -/

section Accepted

variable {inner : Schema → CborValue → Except ControlError CborValue} {v w : CborValue}

theorem map_of_ok {fields : List (UInt64 × Bool × Schema)}
    (h : validateWith inner (.mapDyn fields) w = .ok v) : ∃ entries, v = .map entries := by
  obtain ⟨raw, rfl⟩ := map_of_accepts ⟨v, h⟩
  obtain ⟨-, out, -, rfl⟩ := validateWith_mapDyn_ok h
  exact ⟨_, rfl⟩

/-- A required field of a closed map that was accepted. -/
theorem lookup_required {fields : List (UInt64 × Bool × Schema)} {entries : Fields}
    (h : validateWith inner (.mapDyn fields) w = .ok (.map entries))
    (hkeys : (fields.map Prod.fst).Nodup) {key : UInt64} {schema : Schema}
    (hfield : (key, req schema) ∈ fields) :
    ∃ x y, entries.lookup key = some y ∧ validateWith inner schema x = .ok y := by
  obtain ⟨raw, rfl⟩ := map_of_accepts ⟨_, h⟩
  obtain ⟨x, hx, -⟩ := lookup_of_accepts ⟨_, h⟩ hfield rfl
  obtain ⟨-, out, hout, heq⟩ := validateWith_mapDyn_ok h
  obtain rfl := CborValue.map.inj heq
  obtain ⟨y, hy⟩ := (validateFields_ok hout).2 _ hfield x hx
  obtain ⟨z, hz⟩ := lookup_isSome_of_mem (mem_sortByKey.mpr hy)
  obtain ⟨f, hf, hkey, u, hu⟩ := lookup_of_mapDyn_ok h hz
  obtain rfl := List.inj_on_of_nodup_map hkeys hf hfield hkey
  exact ⟨u, z, hz, hu⟩

theorem bytes_of_ok {min max : ℕ} (h : validateWith inner (.bytes min max) w = .ok v) :
    ∃ b, v = .bytes b := by
  cases w with
  | bytes b =>
    simp only [validateWith] at h
    split_ifs at h
    exact ⟨b, (Except.ok.inj h).symm⟩
  | null | bool | unsigned | negative | text | array | map =>
    simp only [validateWith] at h
    cases h

theorem text_of_ok {min max : ℕ} {oneOf : Option (List String)}
    (h : validateWith inner (.text min max oneOf) w = .ok v) : ∃ t, v = .text t := by
  cases w with
  | text t =>
    simp only [validateWith] at h
    split_ifs at h
    exact ⟨t, (Except.ok.inj h).symm⟩
  | null | bool | unsigned | negative | bytes | array | map =>
    simp only [validateWith] at h
    cases h

theorem mem_of_mapM {f : CborValue → Except ControlError CborValue} {els out : List CborValue}
    (h : els.mapM f = .ok out) : ∀ y ∈ out, ∃ x, f x = .ok y := by
  induction els generalizing out with
  | nil =>
    obtain rfl := Except.ok.inj h
    exact nofun
  | cons x els ih =>
    rw [List.mapM_cons] at h
    obtain ⟨y, hy, h⟩ := bind_eq_ok.mp h
    obtain ⟨ys, hys, h⟩ := bind_eq_ok.mp h
    obtain rfl := Except.ok.inj h
    exact List.forall_mem_cons.mpr ⟨⟨x, hy⟩, ih hys⟩

/-- The items of an array that was accepted. -/
theorem array_of_ok {min max : ℕ} {items : Schema} {rule : Option ArrayRule}
    (h : validateWith inner (.array min max items rule) w = .ok v) :
    ∃ els, v = .array els ∧ ∀ y ∈ els, ∃ x, validateWith inner items x = .ok y := by
  cases w with
  | array els =>
    simp only [validateWith] at h
    split_ifs at h
    obtain ⟨out, hout, h⟩ := bind_eq_ok.mp h
    obtain ⟨-, -, h⟩ := bind_eq_ok.mp h
    exact ⟨out, (Except.ok.inj h).symm, mem_of_mapM hout⟩
  | null | bool | unsigned | negative | bytes | text | map =>
    simp only [validateWith] at h
    cases h

/-- **An accepted node** has an id, a name and a domain. -/
theorem saysNode_of_ok (h : validateWith inner graphNode w = .ok v) : ∃ n, SaysNode v n := by
  obtain ⟨entries, rfl⟩ := map_of_ok h
  obtain ⟨_, _, hid, hidOk⟩ := lookup_required h (by decide) List.mem_cons_self
  obtain ⟨_, _, hname, hnameOk⟩ := lookup_required h (by decide)
    (List.mem_cons_of_mem _ List.mem_cons_self)
  obtain ⟨_, _, hdomain, hdomainOk⟩ := lookup_required h (by decide)
    (List.mem_cons_of_mem _ (List.mem_cons_of_mem _ (List.mem_cons_of_mem _ List.mem_cons_self)))
  obtain ⟨id, rfl⟩ := bytes_of_ok hidOk
  obtain ⟨name, rfl⟩ := text_of_ok hnameOk
  obtain ⟨domainId, rfl, -⟩ := validateWith_uint_ok (by decide) hdomainOk
  exact ⟨⟨id, name, domainId⟩, entries, rfl, hid, hname, hdomain⟩

/-- The fields that are written of an endpoint. -/
structure HasEndpointFields (fields : List (UInt64 × Bool × Schema)) (kind : Schema) : Prop where
  keys : (fields.map Prod.fst).Nodup
  id : (56, req bytes16) ∈ fields
  nodeId : (55, req bytes16) ∈ fields
  name : (1, req textNonempty) ∈ fields
  kind : (2, req kind) ∈ fields
  typeName : (3, req textNonempty) ∈ fields
  domainId : (9, req Control.domainId) ∈ fields

theorem HasEndpointFields.faithful {fields : List (UInt64 × Bool × Schema)} {kind : Schema}
    (hfields : HasEndpointFields fields kind)
    (hkind : ∀ x y, validateWith inner kind x = .ok y → ∃ n, y = .unsigned n)
    (h : validateWith inner (.mapDyn fields) w = .ok v) : ∃ e, SaysEndpoint v e := by
  obtain ⟨entries, rfl⟩ := map_of_ok h
  obtain ⟨_, _, hid, hidOk⟩ := lookup_required h hfields.keys hfields.id
  obtain ⟨_, _, hnode, hnodeOk⟩ := lookup_required h hfields.keys hfields.nodeId
  obtain ⟨_, _, hname, hnameOk⟩ := lookup_required h hfields.keys hfields.name
  obtain ⟨_, _, hnumber, hnumberOk⟩ := lookup_required h hfields.keys hfields.kind
  obtain ⟨_, _, htype, htypeOk⟩ := lookup_required h hfields.keys hfields.typeName
  obtain ⟨_, _, hdomain, hdomainOk⟩ := lookup_required h hfields.keys hfields.domainId
  obtain ⟨id, rfl⟩ := bytes_of_ok hidOk
  obtain ⟨nodeId, rfl⟩ := bytes_of_ok hnodeOk
  obtain ⟨name, rfl⟩ := text_of_ok hnameOk
  obtain ⟨number, rfl⟩ := hkind _ _ hnumberOk
  obtain ⟨typeName, rfl⟩ := text_of_ok htypeOk
  obtain ⟨domainId, rfl, -⟩ := validateWith_uint_ok (by decide) hdomainOk
  exact ⟨⟨id, nodeId, name, number, typeName, domainId⟩, entries, rfl, hid, hnode, hname, hnumber,
    htype, hdomain⟩

/-- Both shapes of an endpoint have them. -/
theorem hasEndpointFields (kind : Schema) {key : UInt64} (hkey : key = 7 ∨ key = 58)
    (profile : Schema) : HasEndpointFields [(56, req bytes16), (55, req bytes16),
      (1, req textNonempty), (2, req kind), (3, req textNonempty), (4, req .identity),
      (5, req payloadEncodingCdr), (6, req uint64), (key, req profile), (9, req Control.domainId),
      (8, opt supportRowId)] kind where
  keys := by
    show [56, 55, 1, 2, 3, 4, 5, 6, key, 9, 8].Nodup
    rcases hkey with rfl | rfl <;> decide
  id := .head _
  nodeId := .tail _ (.head _)
  name := .tail _ (.tail _ (.head _))
  kind := .tail _ (.tail _ (.tail _ (.head _)))
  typeName := .tail _ (.tail _ (.tail _ (.tail _ (.head _))))
  domainId := .tail _ (.tail _ (.tail _ (.tail _ (.tail _ (.tail _ (.tail _ (.tail _ (.tail _
    (.head _)))))))))

/-- **An accepted endpoint**, of a topic or service or of an action, has all that is written. -/
theorem saysEndpoint_of_ok (h : validateWith inner graphEndpoint w = .ok v) :
    ∃ e, SaysEndpoint v e := by
  rw [graphEndpoint, validateWith] at h
  obtain ⟨variant, hvariant, h⟩ := variant_of_validateVariants h
  rcases List.mem_cons.mp hvariant with rfl | hvariant
  · refine (hasEndpointFields (u 0 3) (.inl rfl) .qos).faithful (fun x y hy => ?_) h
    obtain ⟨n, rfl, -⟩ := validateWith_uint_ok (by decide) hy
    exact ⟨n, rfl⟩
  · obtain rfl := List.mem_singleton.mp hvariant
    exact (hasEndpointFields (oneOf 4 5) (.inr rfl) .actionQos).faithful
      (fun x y hy => validateWith_oneOf_ok hy) h

/-- A list of items that each say something says a list. -/
theorem exists_forall₂ {α : Type} {P : CborValue → α → Prop} {items : List CborValue}
    (h : ∀ item ∈ items, ∃ a, P item a) : ∃ as, List.Forall₂ P items as := by
  induction items with
  | nil => exact ⟨[], .nil⟩
  | cons item items ih =>
    obtain ⟨⟨a, ha⟩, hitems⟩ := List.forall_mem_cons.mp h
    obtain ⟨as, has⟩ := ih hitems
    exact ⟨a :: as, .cons ha has⟩

end Accepted

/-- **What a GraphSnapshot lists**: its nodes and its endpoints, in order. -/
structure Lists (msg : ControlMessage) (nodes : List GraphNode) (endpoints : List GraphEndpoint) :
    Prop where
  nodes : ∃ items, msg.fields.lookup 22 = some (.array items) ∧
    List.Forall₂ SaysNode items nodes
  endpoints : ∃ items, msg.fields.lookup 23 = some (.array items) ∧
    List.Forall₂ SaysEndpoint items endpoints

theorem exists_lists {value : CborValue} {msg : ControlMessage}
    (h : validateControlMessage value = .ok msg) (hkind : msg.kind = kindGraphSnapshot) :
    ∃ nodes endpoints, Lists msg nodes endpoints := by
  obtain ⟨raw, schema, -, hschema, hvalid⟩ := validateKind_of_ok h
  rw [hkind] at hschema hvalid
  obtain rfl := Option.some.inj hschema
  rw [validateKind, if_neg (by decide), validateSchema] at hvalid
  obtain ⟨_, _, hnodes, hnodesOk⟩ := lookup_required hvalid (by decide)
    (.tail _ (.tail _ (.tail _ (.tail _ (.tail _ (.head _))))))
  obtain ⟨_, _, hendpoints, hendpointsOk⟩ := lookup_required hvalid (by decide)
    (.tail _ (.tail _ (.tail _ (.tail _ (.tail _ (.tail _ (.head _)))))))
  obtain ⟨items, rfl, hitems⟩ := array_of_ok hnodesOk
  obtain ⟨items', rfl, hitems'⟩ := array_of_ok hendpointsOk
  obtain ⟨nodes, hsays⟩ := exists_forall₂ fun item hitem =>
    (hitems item hitem).elim fun _ hok => saysNode_of_ok hok
  obtain ⟨endpoints, hsays'⟩ := exists_forall₂ fun item hitem =>
    (hitems' item hitem).elim fun _ hok => saysEndpoint_of_ok hok
  exact ⟨nodes, endpoints, ⟨items, hnodes, hsays⟩, ⟨items', hendpoints, hsays'⟩⟩

/-- **Graph JSON is faithful.**  An accepted GraphSnapshot lists nodes and endpoints; the texts that
the engine writes of them parse to these lists, item by item and in order, and the hex text of an id
is that of no other. -/
theorem graph_json_faithful {value : CborValue} {msg : ControlMessage}
    (h : validateControlMessage value = .ok msg) (hkind : msg.kind = kindGraphSnapshot) :
    (∃ nodes endpoints, Lists msg nodes endpoints ∧
      Json.parse (graphNodesJson msg.fields) = some (.array (nodes.map GraphNode.json)) ∧
      Json.parse (graphEndpointsJson msg.fields) =
        some (.array (endpoints.map GraphEndpoint.json))) ∧
    ∀ id, ofHex? (hexEncode id).toList = some id := by
  refine ⟨?_, ofHex?_hexEncode⟩
  obtain ⟨nodes, endpoints, hlists⟩ := exists_lists h hkind
  refine ⟨nodes, endpoints, hlists, ?_, ?_⟩
  · obtain ⟨items, hlookup, hsays⟩ := hlists.nodes
    refine (spells_graphJson hlookup ?_).parse
    rw [List.forall₂_map_right_iff]
    exact hsays.imp fun _ _ => SaysNode.spells
  · obtain ⟨items, hlookup, hsays⟩ := hlists.endpoints
    refine (spells_graphJson hlookup ?_).parse
    rw [List.forall₂_map_right_iff]
    exact hsays.imp fun _ _ => SaysEndpoint.spells

/-- A snapshot of one node, whose name has every kind of character that is escaped. -/
def sampleSnapshot : Fields := [(1, .unsigned 3), (2, .bytes (List.replicate 16 7)),
  (7, .text "humble"), (8, .text "H-FT"), (14, .unsigned 1),
  (22, .array [.map [(1, .text "a\"\\\n\x01\x7f😀"), (9, .unsigned 0),
    (55, .bytes (List.replicate 16 1))]]),
  (23, .array [])]

theorem graph_json_faithful_of_sampleSnapshot :
    ∃ nodes endpoints, Lists ⟨kindGraphSnapshot, sampleSnapshot⟩ nodes endpoints ∧
      Json.parse (graphNodesJson sampleSnapshot) = some (.array (nodes.map GraphNode.json)) := by
  have h : validateControlMessage (.map sampleSnapshot) =
      .ok ⟨kindGraphSnapshot, sampleSnapshot⟩ := rfl
  obtain ⟨nodes, endpoints, hlists, hnodes, -⟩ := (graph_json_faithful h rfl).1
  exact ⟨nodes, endpoints, hlists, hnodes⟩

end Engine
end Rclweb
