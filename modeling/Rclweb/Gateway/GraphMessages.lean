import Rclweb.Gateway.Limits
import Rclweb.Protocol.ValidationLossless

/-!
# Graph messages

The endpoints that a GraphSnapshot or a GraphDelta shows to a client (`graphEntries`), read from the
bytes of a frame (`sentEntries`).  A snapshot shows the endpoints of its view, the delta of an
opened channel shows one endpoint, and no other message a connection sends shows any.
-/

namespace Rclweb

open Rclweb.Frame Control

namespace CborValue

/-- Looking up a key of a map in canonical form. -/
theorem lookup_canonEntries {raw : List (UInt64 × CborValue)} (hnodup : (raw.map Prod.fst).Nodup)
    (key : UInt64) :
    (sortByKey (canonEntries raw)).lookup key = (raw.lookup key).map canon := by
  rw [canonEntries_eq, sortByKey_map]
  have hkeys : (((sortByKey raw).map fun e => (e.1, e.2.canon)).map Prod.fst).Nodup := by
    rw [List.map_map]
    exact ((perm_sortByKey raw).map Prod.fst).nodup_iff.mpr hnodup
  cases hlookup : raw.lookup key with
  | none =>
    rw [List.lookup_eq_none_iff] at hlookup
    refine List.lookup_eq_none_iff.mpr fun e he => ?_
    obtain ⟨e', he', rfl⟩ := List.mem_map.mp he
    exact hlookup e' (mem_sortByKey.mp he')
  | some v =>
    have hmem : (key, v.canon) ∈ (sortByKey raw).map fun e => (e.1, e.2.canon) :=
      List.mem_map.mpr ⟨(key, v), mem_sortByKey.mpr (mem_of_lookup hlookup), rfl⟩
    obtain ⟨w, hw⟩ := lookup_isSome_of_mem hmem
    have heq := List.inj_on_of_nodup_map hkeys (mem_of_lookup hw) hmem rfl
    rw [hw, (Prod.mk.inj heq).2]
    rfl

end CborValue

/-- **What a sendable message is for the receiver**: its fields are its canonical form. -/
theorem Sendable.fields {message : CborValue} {msg : ControlMessage} (h : Sendable message msg) :
    CborValue.map msg.fields = message.canon := by
  obtain ⟨bytes, hbytes⟩ : ∃ bytes, Encode.encodeControlFrame 0 0 message = .ok bytes :=
    encodeControlFrame_isOk_iff.mpr ⟨h.encodes, h.size_le⟩
  obtain ⟨payload, hpayload, hframe⟩ := encodeControlFrame_eq_ok hbytes
  have hle : payload.length ≤ controlPayloadMaxBytes := hframe.control_le rfl
  have hdecode : Cbor.decodeDeterministicCbor payload = .ok message.canon :=
    Encode.decode_encode hpayload (hle.trans (by decide))
  have horder := Cbor.inOrder_of_decode hdecode
  obtain ⟨raw, k, hraw, hlookup⟩ := kind_of_validateControlMessage horder h.valid
  have hvalid := h.valid
  rw [hraw] at hvalid horder ⊢
  obtain ⟨-, -, schema, hschema, fields, hfields, -, rfl⟩ :=
    (validateControlMessage_ok_iff hlookup).mp hvalid
  exact fixes_validateKind (distinct_kindSchema hschema) _ horder _ hfields

namespace Gateway

/-- An endpoint as a client sees it. -/
structure GraphEntry where
  id : List UInt8
  name : String
  kind : UInt64
  deriving DecidableEq

/-- Read the map of an endpoint. -/
def graphEntry : CborValue → Option GraphEntry
  | .map fields =>
    match fields.lookup 56, fields.lookup 1, fields.lookup 2 with
    | some (.bytes id), some (.text name), some (.unsigned kind) => some ⟨id, name, kind⟩
    | _, _, _ => none
  | _ => none

/-- Read an `add_or_update_endpoint` operation. -/
def addedEntry : CborValue → Option GraphEntry
  | .map op =>
    match op.lookup 1, op.lookup 3 with
    | some (.unsigned 2), some endpoint => graphEntry endpoint
    | _, _ => none
  | _ => none

/-- **The endpoints a message shows**: those of a snapshot, and those that a delta adds or
updates. -/
def graphEntries (fields : List (UInt64 × CborValue)) : List GraphEntry :=
  match fields.lookup 1, fields.lookup 23, fields.lookup 25 with
  | some (.unsigned 3), some (.array endpoints), _ => endpoints.filterMap graphEntry
  | some (.unsigned 4), _, some (.array ops) => ops.filterMap addedEntry
  | _, _, _ => []

/-- The endpoints that the bytes of a frame show. -/
def sentEntries (bytes : List UInt8) : List GraphEntry :=
  match parseFrame bytes defaultOptions with
  | .ok frame =>
    match frame.payload with
    | .control msg => graphEntries msg.fields
    | .application _ => []
  | .error _ => []

/-- An endpoint of a view, as a client sees it. -/
def GraphEntry.of (endpoint : GraphEndpointInfo) : GraphEntry :=
  ⟨padId16 endpoint.id, endpoint.name, endpoint.kind.toUInt64⟩

variable {jwt : JwtLibrary}

/-! ## The messages that show endpoints -/

theorem graphEntry_graphEndpointValue (endpoint : GraphEndpointInfo) (row : SupportRow) :
    graphEntry (graphEndpointValue endpoint row).canon = some (.of endpoint) := by
  have hnodup : ∀ entry : UInt64 × CborValue, entry.1 = 7 ∨ entry.1 = 58 →
      (([(56, .bytes (padId16 endpoint.id)), (55, .bytes (padId16 endpoint.nodeId)),
        (1, .text endpoint.name), (2, .unsigned endpoint.kind.toUInt64),
        (3, .text endpoint.typeName), (4, demoSchemaIdentity row), (5, .unsigned 1),
        (6, .unsigned 0), entry, (9, .unsigned endpoint.domainId.toUInt64),
        (8, .text row.id)] : List (UInt64 × CborValue)).map Prod.fst).Nodup := by
    rintro ⟨key, value⟩ (rfl | rfl)
    · show ([56, 55, 1, 2, 3, 4, 5, 6, 7, 9, 8] : List UInt64).Nodup
      decide
    · show ([56, 55, 1, 2, 3, 4, 5, 6, 58, 9, 8] : List UInt64).Nodup
      decide
  have hkeys := hnodup (if endpoint.kind ≤ 3 then (7, advertisedTopicQosWire)
    else (58, advertisedActionQosWire)) (by split_ifs <;> simp)
  unfold graphEndpointValue graphEntry
  rw [CborValue.canon]
  dsimp only
  rw [CborValue.lookup_canonEntries hkeys, CborValue.lookup_canonEntries hkeys,
    CborValue.lookup_canonEntries hkeys]
  rfl

/-- **A snapshot shows the endpoints of its view.** -/
theorem mem_graphEntries_graphSnapshot {config : GatewayConfig jwt} {correlation : List UInt8}
    {generation : UInt64} {view : GraphView} {raw : List (UInt64 × CborValue)}
    (hraw : graphSnapshot config correlation generation view = .map raw) {e : GraphEntry} :
    e ∈ graphEntries (sortByKey (CborValue.canonEntries raw)) ↔
      e ∈ view.endpoints.map GraphEntry.of := by
  have hentries := CborValue.map.inj hraw
  have hkeys : (raw.map Prod.fst).Nodup := by
    rw [← hentries]
    show ([1, 2, 14, 7, 8, 22, 23] : List UInt64).Nodup
    decide
  have hkind : raw.lookup 1 = some (.unsigned 3) := hentries ▸ rfl
  have hendpoints : raw.lookup 23 = some (.array (sortedGraphEndpoints view config.supportRow)) :=
    hentries ▸ rfl
  unfold graphEntries
  rw [CborValue.lookup_canonEntries hkeys, CborValue.lookup_canonEntries hkeys,
    CborValue.lookup_canonEntries hkeys, hkind, hendpoints]
  show e ∈ (CborValue.canonItems (sortedGraphEndpoints view config.supportRow)).filterMap
    graphEntry ↔ _
  rw [CborValue.canonItems_eq, sortedGraphEndpoints, List.map_map, List.filterMap_map]
  have hread : (graphEntry ∘ CborValue.canon ∘ fun endpoint =>
      graphEndpointValue endpoint config.supportRow) =
        fun endpoint => some (GraphEntry.of endpoint) := by
    funext endpoint
    rw [Function.comp_apply, Function.comp_apply]
    exact graphEntry_graphEndpointValue endpoint _
  rw [hread, List.filterMap_eq_map', List.mem_map, List.mem_map]
  exact exists_congr fun endpoint =>
    and_congr_left fun _ => (List.perm_insertionSort _ _).mem_iff

theorem addedEntry_graphDeltaAddEndpoint (endpoint : GraphEndpointInfo) (row : SupportRow) :
    addedEntry (graphDeltaAddEndpoint endpoint row).canon = some (.of endpoint) := by
  have hkeys : ([((1 : UInt64), CborValue.unsigned 2),
      (3, graphEndpointValue endpoint row)].map Prod.fst).Nodup := by
    show ([1, 3] : List UInt64).Nodup
    decide
  unfold graphDeltaAddEndpoint addedEntry
  rw [CborValue.canon]
  dsimp only
  rw [CborValue.lookup_canonEntries hkeys, CborValue.lookup_canonEntries hkeys]
  exact graphEntry_graphEndpointValue endpoint row

/-- **The delta of an opened channel shows one endpoint.** -/
theorem graphEntries_graphDelta {config : GatewayConfig jwt} {correlation : List UInt8}
    {base generation : UInt64} {endpoint : GraphEndpointInfo} {raw : List (UInt64 × CborValue)}
    (hraw : graphDelta config correlation base generation
      [graphDeltaAddEndpoint endpoint config.supportRow] = .map raw) :
    graphEntries (sortByKey (CborValue.canonEntries raw)) = [.of endpoint] := by
  have hentries := CborValue.map.inj hraw
  have hkeys : (raw.map Prod.fst).Nodup := by
    rw [← hentries]
    show ([1, 2, 14, 24, 7, 8, 25] : List UInt64).Nodup
    decide
  have hkind : raw.lookup 1 = some (.unsigned 4) := hentries ▸ rfl
  have hops : raw.lookup 25 =
      some (.array [graphDeltaAddEndpoint endpoint config.supportRow]) := hentries ▸ rfl
  unfold graphEntries
  rw [CborValue.lookup_canonEntries hkeys, CborValue.lookup_canonEntries hkeys,
    CborValue.lookup_canonEntries hkeys, hkind, hops]
  show List.filterMap addedEntry [(graphDeltaAddEndpoint endpoint config.supportRow).canon] = _
  rw [List.filterMap_cons_some (addedEntry_graphDeltaAddEndpoint endpoint _)]
  rfl

/-- A message of another kind shows no endpoint. -/
theorem graphEntries_of_kind {fields : List (UInt64 × CborValue)} {k : UInt64}
    (hk : fields.lookup 1 = some (.unsigned k)) (hne : k ≠ 3 ∧ k ≠ 4) :
    graphEntries fields = [] := by
  unfold graphEntries
  rw [hk]
  split
  · next heq _ => exact absurd (CborValue.unsigned.inj (Option.some.inj heq)) hne.1
  · next heq _ => exact absurd (CborValue.unsigned.inj (Option.some.inj heq)) hne.2
  · rfl

/-! ## The bytes of a frame -/

/-- What the frame of a message shows is what the message shows. -/
theorem sentEntries_control {sequence : UInt64} {raw : List (UInt64 × CborValue)}
    {bytes : List UInt8} {frame : DecodedFrame}
    (hbytes : Encode.encodeControlFrame 0 sequence (.map raw) = .ok bytes)
    (hparse : parseFrame bytes defaultOptions = .ok frame) :
    sentEntries bytes = graphEntries (sortByKey (CborValue.canonEntries raw)) := by
  obtain ⟨msg, payloadLen, hsendable, rfl⟩ := sendable_of_parse hbytes hparse
  have hfields := CborValue.map.inj hsendable.fields
  unfold sentEntries
  rw [hparse]
  exact congrArg graphEntries hfields

/-- A message of another kind, as bytes. -/
theorem sentEntries_of_kind {sequence : UInt64} {raw : List (UInt64 × CborValue)} {k : UInt64}
    {bytes : List UInt8} {frame : DecodedFrame}
    (hbytes : Encode.encodeControlFrame 0 sequence (.map raw) = .ok bytes)
    (hparse : parseFrame bytes defaultOptions = .ok frame)
    (hk : raw.lookup 1 = some (.unsigned k)) (hne : k ≠ 3 ∧ k ≠ 4) : sentEntries bytes = [] := by
  rw [sentEntries_control hbytes hparse]
  obtain ⟨msg, -, hsendable, -⟩ := sendable_of_parse hbytes hparse
  have hnodup := (Encode.encodes_map_iff.mp hsendable.encodes).2.2.1
  exact graphEntries_of_kind ((fieldsKept_canon hnodup 1).2 k hk) hne

/-- A frame of another opcode shows no endpoint. -/
theorem sentEntries_of_opcode {bytes : List UInt8}
    (h : ∀ frame, parseFrame bytes defaultOptions = .ok frame → frame.opcode ≠ opcodeControlCbor) :
    sentEntries bytes = [] := by
  unfold sentEntries
  split
  · next frame hparse =>
    split
    · next msg hpayload => exact absurd (valid_of_parse hparse hpayload).1 (h frame hparse)
    · rfl
  · rfl

theorem sentEntries_bootstrap {kind : UInt8} {payload : CborValue} {bytes : List UInt8}
    (h : Encode.bootstrapRecord kind payload = .ok bytes) : sentEntries bytes = [] := by
  unfold sentEntries
  split
  · next frame hparse => exact absurd hparse (parse_ne_ok_of_bootstrap h _ frame)
  · rfl

theorem sentEntries_sample {bytes : List UInt8} (h : IsSample bytes) : sentEntries bytes = [] := by
  refine sentEntries_of_opcode fun frame hparse => ?_
  unfold parseFrame parseFrameDeclared at hparse
  split_ifs at hparse
  simp only [bind_eq_ok] at hparse
  obtain ⟨_, -, _, -, _, -, _, -, _, -, _, -, exts, -, _, -, payload, -, hframe⟩ := hparse
  obtain rfl := Except.ok.inj hframe
  show (readHeader bytes).opcode ≠ opcodeControlCbor
  rw [show (readHeader bytes).opcode = opcodeRosSample from h]
  decide

end Gateway
end Rclweb
