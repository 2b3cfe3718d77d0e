import Rclweb.Protocol.BootstrapParts
import Rclweb.Protocol.ExtensionRoundTrip

/-!
# Bootstrap records, written and read

The three records along the maps they are written as, and the twelve bytes in front.
`parseBootstrap_iff` says what the parser accepts in terms of the encoder: the records whose
members are within the receiver's bounds, in exactly one form.
-/

namespace Rclweb

open BigEndian Members

namespace Bootstrap

section Records

variable (offset : ℕ)

/-- **The client hellos a receiver takes.** -/
structure ClientHelloAccepted (hello : ClientHello) : Prop where
  versions : VersionsAccepted hello.wireVersions
  capabilities : CapabilitiesAccepted hello.extensionCapabilities

/-- The members of a client hello. -/
def clientHelloMembers (hello : ClientHello) : List (UInt64 × Option CborValue) :=
  [(1, some (.array (hello.wireVersions.map Encode.ofU8))),
    (2, some (Encode.transportValue hello.transportCapabilities)),
    (3, some (Encode.bufferValue hello.bufferCapabilities)),
    (4, some (Encode.requestedLimitsValue hello.requestedLimits)),
    (6, some (Encode.capabilityListValue hello.extensionCapabilities))]

theorem represents_decodeClientHello :
    Represents (decodeClientHello · offset) (fun hello => .map (present (clientHelloMembers hello)))
      ClientHelloAccepted where
  decode_iff v hv hello := by
    cases v with
    | map map =>
      have hentries := hv.map.2
      have hmembers := map_eq_iff hv (clientHelloMembers hello) [1, 2, 3, 4, 6] [] offset
        (by simp [clientHelloMembers]) (by simp [clientHelloMembers]) (by simp [clientHelloMembers])
      simp only [clientHelloMembers, List.forall_mem_cons] at hmembers
      have hwire (vs : List UInt8) := (represents_decodeWireVersions offset).get hentries 1 vs
      have htransport (t : TransportCapabilities) :=
        (represents_decodeTransport offset).get hentries 2 t
      have hbuffer (b : BufferCapabilities) := (represents_decodeBuffer offset).get hentries 3 b
      have hlimits (l : RequestedLimits) :=
        (represents_decodeRequestedLimits offset).get hentries 4 l
      have hcaps (ids : List UInt16) :=
        (represents_decodeExtensionCapabilities offset).get hentries 6 ids
      rw [CborValue.map.injEq, clientHelloMembers, hmembers]
      simp only [decodeClientHello, asMap, bind_eq_ok, Except.ok.injEq, exists_eq_left']
      constructor
      · rintro ⟨_, hkeys, vs, h₁, t, h₂, b, h₃, l, h₄, ids, h₆, h⟩
        obtain rfl := Except.ok.inj h
        obtain ⟨h₁, hvs⟩ := (hwire _).mp h₁
        obtain ⟨h₆, hids⟩ := (hcaps _).mp h₆
        exact ⟨⟨hkeys, h₁, ((htransport _).mp h₂).1, ((hbuffer _).mp h₃).1, ((hlimits _).mp h₄).1,
          h₆, List.forall_mem_nil _⟩, hvs, hids⟩
      · rintro ⟨⟨hkeys, h₁, h₂, h₃, h₄, h₆, -⟩, hvs, hids⟩
        exact ⟨(), hkeys, _, (hwire _).mpr ⟨h₁, hvs⟩, _, (htransport _).mpr ⟨h₂, trivial⟩, _,
          (hbuffer _).mpr ⟨h₃, trivial⟩, _, (hlimits _).mpr ⟨h₄, trivial⟩, _,
          (hcaps _).mpr ⟨h₆, hids⟩, rfl⟩
    | null | bool | unsigned | negative | bytes | text | array =>
      simp [decodeClientHello, asMap, bind, Except.bind]
  ne_null _ := nofun

/-- **The server hellos a receiver takes.** -/
structure ServerHelloAccepted (hello : ServerHello) : Prop where
  version : hello.selectedWireVersion = 0
  limits : EffectiveLimitsAccepted hello.effectiveLimits
  capabilities : CapabilitiesAccepted hello.extensionCapabilities

/-- The members of a server hello. -/
def serverHelloMembers (hello : ServerHello) : List (UInt64 × Option CborValue) :=
  [(1, some (Encode.ofU8 hello.selectedWireVersion)),
    (2, some (Encode.transportValue hello.transportCapabilities)),
    (3, some (Encode.bufferValue hello.bufferCapabilities)),
    (4, some (Encode.effectiveLimitsValue hello.effectiveLimits)),
    (6, some (Encode.capabilityListValue hello.extensionCapabilities))]

theorem represents_decodeServerHello :
    Represents (decodeServerHello · offset) (fun hello => .map (present (serverHelloMembers hello)))
      ServerHelloAccepted where
  decode_iff v hv hello := by
    cases v with
    | map map =>
      have hentries := hv.map.2
      have hmembers := map_eq_iff hv (serverHelloMembers hello) [1, 2, 3, 4, 6] [] offset
        (by simp [serverHelloMembers]) (by simp [serverHelloMembers]) (by simp [serverHelloMembers])
      simp only [serverHelloMembers, List.forall_mem_cons] at hmembers
      have hversion (n : UInt8) := (represents_asUint8 offset).get hentries 1 n
      have htransport (t : TransportCapabilities) :=
        (represents_decodeTransport offset).get hentries 2 t
      have hbuffer (b : BufferCapabilities) := (represents_decodeBuffer offset).get hentries 3 b
      have hlimits (l : EffectiveLimits) :=
        (represents_decodeEffectiveLimits offset).get hentries 4 l
      have hcaps (ids : List UInt16) :=
        (represents_decodeExtensionCapabilities offset).get hentries 6 ids
      rw [CborValue.map.injEq, serverHelloMembers, hmembers]
      simp only [decodeServerHello, asMap, bind_eq_ok, Except.ok.injEq, exists_eq_left']
      constructor
      · rintro ⟨_, hkeys, version, h₁, h⟩
        split_ifs at h with hzero
        obtain ⟨t, h₂, b, h₃, l, h₄, ids, h₆, h⟩ := by simpa only [bind_eq_ok] using h
        obtain rfl := Except.ok.inj h
        obtain ⟨h₄, hl⟩ := (hlimits _).mp h₄
        obtain ⟨h₆, hids⟩ := (hcaps _).mp h₆
        exact ⟨⟨hkeys, ((hversion _).mp h₁).1, ((htransport _).mp h₂).1, ((hbuffer _).mp h₃).1, h₄,
          h₆, List.forall_mem_nil _⟩, not_not.mp hzero, hl, hids⟩
      · rintro ⟨⟨hkeys, h₁, h₂, h₃, h₄, h₆, -⟩, hzero, hl, hids⟩
        refine ⟨(), hkeys, _, (hversion _).mpr ⟨h₁, trivial⟩, ?_⟩
        rw [if_neg (not_not_intro hzero)]
        simp only [bind_eq_ok]
        exact ⟨_, (htransport _).mpr ⟨h₂, trivial⟩, _, (hbuffer _).mpr ⟨h₃, trivial⟩, _,
          (hlimits _).mpr ⟨h₄, hl⟩, _, (hcaps _).mpr ⟨h₆, hids⟩, rfl⟩
    | null | bool | unsigned | negative | bytes | text | array =>
      simp [decodeServerHello, asMap, bind, Except.bind]
  ne_null _ := nofun

/-- **The error records a receiver takes.** -/
structure BootstrapErrorAccepted (record : BootstrapErrorRecord) : Prop where
  code : record.code.toNat ∈ bootstrapErrorCodes
  message : ∀ t ∈ record.message, t.utf8ByteSize ≤ utf8TextMaxBytes
  detail : ∀ t ∈ record.detail, t.utf8ByteSize ≤ utf8TextMaxBytes

/-- The members of an error record. -/
def bootstrapErrorMembers (record : BootstrapErrorRecord) : List (UInt64 × Option CborValue) :=
  [(1, some (Encode.ofU8 record.code)), (2, record.message.map .text),
    (3, record.detail.map .text)]

theorem represents_decodeBootstrapError :
    Represents (decodeBootstrapError · offset)
      (fun record => .map (present (bootstrapErrorMembers record))) BootstrapErrorAccepted where
  decode_iff v hv record := by
    cases v with
    | map map =>
      have hentries := hv.map.2
      have hmembers := map_eq_iff hv (bootstrapErrorMembers record) [1] [2, 3] offset
        (by simp [bootstrapErrorMembers]) (by simp [bootstrapErrorMembers])
        (by simp [bootstrapErrorMembers])
      simp only [bootstrapErrorMembers, List.forall_mem_cons] at hmembers
      have hcode (n : ℕ) : asUintRange (get map 1) offset 0 255 = .ok n ↔
          map.lookup 1 = some (.unsigned (UInt64.ofNat n)) ∧ 0 ≤ n ∧ n ≤ 255 :=
        (represents_asUintRange offset (by decide)).get hentries 1 n
      have htext (key : UInt64) (o : Option String) :=
        (represents_asText offset).optional hentries key o
      rw [CborValue.map.injEq, bootstrapErrorMembers, hmembers]
      simp only [decodeBootstrapError, asMap, bind_eq_ok, Except.ok.injEq, exists_eq_left']
      constructor
      · rintro ⟨_, hkeys, code, h₁, h⟩
        split_ifs at h with hassigned
        obtain ⟨message, h₂, detail, h₃, h⟩ := by simpa only [bind_eq_ok] using h
        obtain rfl := Except.ok.inj h
        obtain ⟨h₁, -, hmax⟩ := (hcode _).mp h₁
        obtain ⟨h₂, hmessage⟩ := (htext _ _).mp h₂
        obtain ⟨h₃, hdetail⟩ := (htext _ _).mp h₃
        have hnat : (UInt8.ofNat code).toNat = code :=
          UInt8.toNat_ofNat_of_lt' (Nat.lt_succ_of_le hmax)
        refine ⟨⟨hkeys, ?_, h₂, h₃, List.forall_mem_nil _⟩, ?_, hmessage, hdetail⟩
        · rw [h₁, ofU8_eq, hnat]
        · dsimp only
          rw [hnat]
          simpa using hassigned
      · rintro ⟨⟨hkeys, h₁, h₂, h₃, -⟩, hassigned, hmessage, hdetail⟩
        rw [ofU8_eq] at h₁
        refine ⟨(), hkeys, _, (hcode _).mpr ⟨h₁, Nat.zero_le _,
          Nat.le_of_lt_succ record.code.toNat_lt⟩, ?_⟩
        rw [if_neg (by simpa using hassigned), UInt8.ofNat_toNat]
        simp only [bind_eq_ok]
        exact ⟨_, (htext _ _).mpr ⟨h₂, hmessage⟩, _, (htext _ _).mpr ⟨h₃, hdetail⟩, rfl⟩
    | null | bool | unsigned | negative | bytes | text | array =>
      simp [decodeBootstrapError, asMap, bind, Except.bind]
  ne_null _ := nofun

end Records

end Bootstrap

namespace BootstrapRecord

open Bootstrap

/-- The kind byte of a record. -/
def kind : BootstrapRecord → UInt8
  | .clientHello _ => kindClientHello
  | .serverHello _ => kindServerHello
  | .bootstrapError _ => kindBootstrapError

/-- The map a record is written as. -/
def payload : BootstrapRecord → CborValue
  | .clientHello hello => .map (present (clientHelloMembers hello))
  | .serverHello hello => .map (present (serverHelloMembers hello))
  | .bootstrapError record => .map (present (bootstrapErrorMembers record))

/-- **The encoder of a record's kind.** -/
def encode : BootstrapRecord → Except EncodeError (List UInt8)
  | .clientHello hello => Encode.encodeClientHello hello
  | .serverHello hello => Encode.encodeServerHello hello
  | .bootstrapError record => Encode.encodeBootstrapError record

/-- **The records a receiver takes**: the bounds its decoders check. -/
def Accepted : BootstrapRecord → Prop
  | .clientHello hello => ClientHelloAccepted hello
  | .serverHello hello => ServerHelloAccepted hello
  | .bootstrapError record => BootstrapErrorAccepted record

theorem encode_eq (r : BootstrapRecord) : r.encode = Encode.bootstrapRecord r.kind r.payload := by
  cases r with
  | clientHello hello => rfl
  | serverHello hello => rfl
  | bootstrapError record => obtain ⟨code, _ | message, _ | detail⟩ := record <;> rfl

/-- A map in key order with canonical members is canonical. -/
theorem canon_present {members : List (UInt64 × Option CborValue)}
    (hmembers : members.Pairwise fun a b => a.1 < b.1)
    (hcanon : ∀ m ∈ members, ∀ v ∈ m.2, v.canon = v) :
    (CborValue.map (present members)).canon = .map (present members) := by
  have hsame : ((present members).map fun e => (e.1, e.2.canon)) = (present members).map id :=
    List.map_congr_left fun e he => congrArg (e.1, ·) (hcanon _ (mem_present.mp he) _ rfl)
  rw [CborValue.canon, CborValue.canonEntries_eq, hsame, List.map_id,
    Cbor.sortByKey_of_ascending (pairwise_present hmembers)]

theorem canon_array {α : Type} (xs : List α) {write : α → CborValue}
    (hwrite : ∀ x, (write x).canon = write x) :
    (CborValue.array (xs.map write)).canon = .array (xs.map write) := by
  rw [CborValue.canon, CborValue.canonItems_eq, List.map_map]
  exact congrArg CborValue.array (List.map_congr_left fun x _ => hwrite x)

theorem canon_transportValue (t : TransportCapabilities) :
    (Encode.transportValue t).canon = Encode.transportValue t := by
  rw [transportValue_eq]
  refine canon_present (by simp [transportMembers]) ?_
  obtain ⟨http, wss, _ | size⟩ := t <;> simp [transportMembers, CborValue.canon, Encode.ofU32]

theorem canon_bufferValue (b : BufferCapabilities) :
    (Encode.bufferValue b).canon = Encode.bufferValue b := by
  rw [bufferValue_eq]
  exact canon_present (by simp [bufferMembers]) (by simp [bufferMembers, CborValue.canon])

theorem canon_requestedLimitsValue (l : RequestedLimits) :
    (Encode.requestedLimitsValue l).canon = Encode.requestedLimitsValue l := by
  rw [requestedLimitsValue_eq]
  refine canon_present (by simp [requestedMembers]) ?_
  simp [requestedMembers, Encode.ofU32, CborValue.canon]

theorem canon_effectiveLimitsValue (l : EffectiveLimits) :
    (Encode.effectiveLimitsValue l).canon = Encode.effectiveLimitsValue l := by
  rw [effectiveLimitsValue_eq]
  refine canon_present (by simp [effectiveMembers]) ?_
  simp [effectiveMembers, Encode.ofU32, CborValue.canon]

/-- **The map of a record is canonical.** -/
theorem canon_payload (r : BootstrapRecord) : r.payload.canon = r.payload := by
  cases r with
  | clientHello hello =>
    refine canon_present (by simp [clientHelloMembers]) ?_
    simp only [clientHelloMembers, List.forall_mem_cons, Option.mem_some_iff, forall_eq']
    exact ⟨canon_array _ fun _ => rfl, canon_transportValue _, canon_bufferValue _,
      canon_requestedLimitsValue _, canon_array _ fun _ => rfl, nofun⟩
  | serverHello hello =>
    refine canon_present (by simp [serverHelloMembers]) ?_
    simp only [serverHelloMembers, List.forall_mem_cons, Option.mem_some_iff, forall_eq']
    exact ⟨rfl, canon_transportValue _, canon_bufferValue _, canon_effectiveLimitsValue _,
      canon_array _ fun _ => rfl, nofun⟩
  | bootstrapError record =>
    refine canon_present (by simp [bootstrapErrorMembers]) ?_
    simp [bootstrapErrorMembers, Encode.ofU8, CborValue.canon]

end BootstrapRecord

namespace Bootstrap

theorem decodePayloadByKind_eq_ok {kind : UInt8} {v : CborValue} (hv : v.InOrder) (offset : ℕ)
    (r : BootstrapRecord) :
    decodePayloadByKind kind v offset = .ok r ↔ kind = r.kind ∧ v = r.payload ∧ r.Accepted := by
  have hmap {α : Type} {x : Except ProtocolError α} {f : α → BootstrapRecord} :
      f <$> x = .ok r ↔ ∃ a, x = .ok a ∧ f a = r := by
    cases x <;> simp [Functor.map, Except.map]
  have hclient := (represents_decodeClientHello offset).decode_iff v hv
  have hserver := (represents_decodeServerHello offset).decode_iff v hv
  have herror := (represents_decodeBootstrapError offset).decode_iff v hv
  rw [decodePayloadByKind]
  split_ifs with h₁ h₂ h₃
  · rw [hmap, h₁]
    cases r with
    | clientHello hello => simp [hclient, BootstrapRecord.kind, BootstrapRecord.payload,
        BootstrapRecord.Accepted]
    | serverHello | bootstrapError => simp [BootstrapRecord.kind, kindClientHello,
        kindServerHello, kindBootstrapError]
  · rw [hmap, h₂]
    cases r with
    | serverHello hello => simp [hserver, BootstrapRecord.kind, BootstrapRecord.payload,
        BootstrapRecord.Accepted]
    | clientHello | bootstrapError => simp [BootstrapRecord.kind, kindClientHello,
        kindServerHello, kindBootstrapError]
  · rw [hmap, h₃]
    cases r with
    | bootstrapError record => simp [herror, BootstrapRecord.kind, BootstrapRecord.payload,
        BootstrapRecord.Accepted]
    | clientHello | serverHello => simp [BootstrapRecord.kind, kindClientHello,
        kindServerHello, kindBootstrapError]
  · cases r <;> simp [BootstrapRecord.kind, h₁, h₂, h₃]

/-! ## The prefix -/

/-- A record: the twelve bytes of the prefix, then the body. -/
def recordBytes (kind : UInt8) (body : List UInt8) : List UInt8 :=
  magic ++ [bootstrapVersion, kind] ++ toBytes 2 0 ++ toBytes 4 body.length ++ body

theorem bootstrapRecord_eq_ok {kind : UInt8} {payload : CborValue} {b : List UInt8} :
    Encode.bootstrapRecord kind payload = .ok b ↔ ∃ body,
      Encode.encodeDeterministicCbor payload = .ok body ∧ body.length ≤ bootstrapPayloadMaxBytes ∧
        b = recordBytes kind body := by
  rw [Encode.bootstrapRecord, bind_eq_ok]
  refine exists_congr fun body => and_congr_right fun _ => ?_
  split_ifs with hlong
  · simp [Nat.not_le.mpr hlong]
  · rw [recordBytes]
    constructor
    · intro h
      exact ⟨Nat.le_of_not_gt hlong, (Except.ok.inj h).symm⟩
    · rintro ⟨-, rfl⟩
      rfl

/-- **The twelve bytes of the prefix.** -/
theorem recordBytes_eq {kind : UInt8} {body : List UInt8} {l₀ l₁ l₂ l₃ : UInt8}
    (hlen : toBytes 4 body.length = [l₀, l₁, l₂, l₃]) :
    recordBytes kind body =
      0x52 :: 0x32 :: 0x57 :: 0x50 :: 0 :: kind :: 0 :: 0 :: l₀ :: l₁ :: l₂ :: l₃ :: body := by
  rw [recordBytes, hlen]
  rfl

/-- A check that a result has passed. -/
theorem passes_of_ite_error {ε α : Type} {c : Prop} [Decidable c] {e : ε} {x : Except ε α} {a : α}
    (h : (if c then .error e else x) = .ok a) : ¬ c ∧ x = .ok a := by
  by_cases hc : c
  · rw [if_pos hc] at h
    cases h
  · rw [if_neg hc] at h
    exact ⟨hc, h⟩

/-- What the parser accepts: a record whose body is a value the decoder of its kind takes. -/
theorem parseBootstrap_eq_ok {b : List UInt8} {r : BootstrapRecord} :
    parseBootstrap b = .ok r ↔ ∃ kind body v, b = recordBytes kind body ∧
      body.length ≤ bootstrapPayloadMaxBytes ∧ Cbor.decodeDeterministicCbor body = .ok v ∧
        decodePayloadByKind kind v bootstrapPrefixLength = .ok r := by
  constructor
  · intro h
    unfold parseBootstrap at h
    obtain ⟨hshort, h⟩ := passes_of_ite_error h
    have hsplit : ∃ b₀ b₁ b₂ b₃ b₄ b₅ b₆ b₇ l₀ l₁ l₂ l₃ body,
        b = b₀ :: b₁ :: b₂ :: b₃ :: b₄ :: b₅ :: b₆ :: b₇ :: l₀ :: l₁ :: l₂ :: l₃ :: body := by
      match b, hshort with
      | b₀ :: b₁ :: b₂ :: b₃ :: b₄ :: b₅ :: b₆ :: b₇ :: l₀ :: l₁ :: l₂ :: l₃ :: body, _ =>
        exact ⟨_, _, _, _, _, _, _, _, _, _, _, _, _, rfl⟩
    obtain ⟨hmagic, h⟩ := passes_of_ite_error h
    obtain ⟨hversion, h⟩ := passes_of_ite_error h
    obtain ⟨hflags, h⟩ := passes_of_ite_error h
    obtain ⟨-, h⟩ := passes_of_ite_error h
    obtain ⟨hlarge, h⟩ := passes_of_ite_error h
    obtain ⟨htotal, h⟩ := passes_of_ite_error h
    obtain ⟨b₀, b₁, b₂, b₃, b₄, kind, b₆, b₇, l₀, l₁, l₂, l₃, body, rfl⟩ := hsplit
    replace hmagic : [b₀, b₁, b₂, b₃] = magic := not_not.mp hmagic
    replace hversion : b₄ = 0 := not_not.mp hversion
    replace hflags : ofBytes [b₆, b₇] = 0 := not_not.mp hflags
    replace hlarge : ¬ ofBytes [l₀, l₁, l₂, l₃] > bootstrapPayloadMaxBytes := hlarge
    have hcount : body.length = ofBytes [l₀, l₁, l₂, l₃] := by
      have htotal := not_not.mp htotal
      simp only [List.length_cons, bootstrapPrefixLength] at htotal
      have : ofBytes [l₀, l₁, l₂, l₃] + 12 = body.length + 12 := by
        rw [Nat.add_comm]
        exact htotal.symm
      omega
    have hbytes : toBytes 4 body.length = [l₀, l₁, l₂, l₃] := by
      rw [hcount]
      exact toBytes_ofBytes [l₀, l₁, l₂, l₃]
    have hzero : [b₆, b₇] = [0, 0] := by
      rw [← toBytes_ofBytes [b₆, b₇], hflags]
      show toBytes 2 0 = [0, 0]
      decide
    obtain ⟨rfl, rfl, rfl, rfl⟩ : b₀ = 0x52 ∧ b₁ = 0x32 ∧ b₂ = 0x57 ∧ b₃ = 0x50 := by
      simpa [magic] using hmagic
    obtain ⟨rfl, rfl⟩ : b₆ = 0 ∧ b₇ = 0 := by simpa using hzero
    obtain rfl := hversion
    cases hdecode : Cbor.decodeDeterministicCbor body with
    | error e =>
      rw [show List.drop bootstrapPrefixLength _ = body from rfl, hdecode] at h
      cases h
    | ok v =>
      rw [show List.drop bootstrapPrefixLength _ = body from rfl, hdecode] at h
      exact ⟨kind, body, v, (recordBytes_eq hbytes).symm, hcount.trans_le (Nat.le_of_not_gt hlarge),
        hdecode, h⟩
  · rintro ⟨kind, body, v, rfl, hbody, hdecode, h⟩
    obtain ⟨l₀, l₁, l₂, l₃, hbytes⟩ : ∃ l₀ l₁ l₂ l₃, toBytes 4 body.length = [l₀, l₁, l₂, l₃] :=
      ⟨_, _, _, _, rfl⟩
    have hcount : ofBytes [l₀, l₁, l₂, l₃] = body.length := by
      rw [← hbytes]
      exact ofBytes_toBytes_of_lt (hbody.trans_lt (by decide))
    have hkind :
        ¬ (kind ≠ kindClientHello ∧ kind ≠ kindServerHello ∧ kind ≠ kindBootstrapError) := by
      rintro ⟨h₁, h₂, h₃⟩
      rw [decodePayloadByKind, if_neg h₁, if_neg h₂, if_neg h₃] at h
      cases h
    rw [recordBytes_eq hbytes]
    unfold parseBootstrap
    dsimp only
    refine (if_neg ?_).trans ((if_neg (not_not_intro rfl)).trans ((if_neg (not_not_intro rfl)).trans
      ((if_neg (not_not_intro rfl)).trans ((if_neg hkind).trans ((if_neg ?_).trans
        ((if_neg ?_).trans ?_))))))
    · simp [bootstrapPrefixLength]
    · show ¬ ofBytes [l₀, l₁, l₂, l₃] > bootstrapPayloadMaxBytes
      rw [hcount]
      exact Nat.not_lt_of_le hbody
    · show ¬ _ ≠ bootstrapPrefixLength + ofBytes [l₀, l₁, l₂, l₃]
      rw [hcount]
      simp only [List.length_cons, bootstrapPrefixLength]
      omega
    · rw [show List.drop bootstrapPrefixLength _ = body from rfl, hdecode]
      exact h

/-- **What the parser accepts**, in terms of the encoder of control values. -/
theorem parseBootstrap_iff {b : List UInt8} {r : BootstrapRecord} :
    parseBootstrap b = .ok r ↔ r.Accepted ∧ ∃ body, b = recordBytes r.kind body ∧
      body.length ≤ bootstrapPayloadMaxBytes ∧
        Cbor.decodeDeterministicCbor body = .ok r.payload := by
  rw [parseBootstrap_eq_ok]
  constructor
  · rintro ⟨kind, body, v, rfl, hbody, hdecode, h⟩
    obtain ⟨rfl, rfl, haccepted⟩ :=
      (decodePayloadByKind_eq_ok (Cbor.inOrder_of_decode hdecode) _ r).mp h
    exact ⟨haccepted, body, rfl, hbody, hdecode⟩
  · rintro ⟨haccepted, body, rfl, hbody, hdecode⟩
    exact ⟨r.kind, body, r.payload, rfl, hbody, hdecode,
      (decodePayloadByKind_eq_ok (Cbor.inOrder_of_decode hdecode) _ r).mpr ⟨rfl, rfl, haccepted⟩⟩

/-- An encoded record parses exactly when the receiver takes it. -/
theorem parse_encode_iff {r : BootstrapRecord} {b : List UInt8} (h : r.encode = .ok b) :
    parseBootstrap b = .ok r ↔ r.Accepted := by
  rw [BootstrapRecord.encode_eq, bootstrapRecord_eq_ok] at h
  obtain ⟨body, hencode, hbody, rfl⟩ := h
  rw [parseBootstrap_iff, and_iff_left_iff_imp]
  intro _
  have hdecode := Encode.decode_encode hencode (hbody.trans (by decide))
  rw [r.canon_payload] at hdecode
  exact ⟨body, rfl, hbody, hdecode⟩

/-- **Bootstrap records are canonical**: an accepted byte string is what the encoder of its kind
writes of the record, so no two of them denote one record. -/
theorem bootstrap_canonical :
    (∀ b r, parseBootstrap b = .ok r → r.encode = .ok b) ∧
      ∀ b b' r, parseBootstrap b = .ok r → parseBootstrap b' = .ok r → b = b' := by
  have hencode (b : List UInt8) (r : BootstrapRecord) (h : parseBootstrap b = .ok r) :
      r.encode = .ok b := by
    obtain ⟨-, body, rfl, hbody, hdecode⟩ := parseBootstrap_iff.mp h
    rw [BootstrapRecord.encode_eq, bootstrapRecord_eq_ok]
    exact ⟨body, (Cbor.encode_decode hdecode).1, hbody, rfl⟩
  refine ⟨hencode, fun b b' r h h' => ?_⟩
  exact Except.ok.inj ((hencode b r h).symm.trans (hencode b' r h'))

/-- A client hello: one wire version, no limits, one capability. -/
def sampleHello : BootstrapRecord :=
  .clientHello ⟨[0], ⟨false, true, none⟩, ⟨true, false⟩, ⟨none, none, none, none⟩, [1]⟩

/-- Its bytes. -/
def sampleHelloBytes : List UInt8 :=
  [0x52, 0x32, 0x57, 0x50, 0, 1, 0, 0, 0, 0, 0, 21, 0xa5, 1, 0x81, 0, 2, 0xa2, 1, 0xf4, 2, 0xf5, 3,
    0xa2, 1, 0xf5, 2, 0xf4, 4, 0xa0, 6, 0x81, 1]

theorem bootstrap_canonical_of_sample :
    parseBootstrap sampleHelloBytes = .ok sampleHello ∧
      sampleHello.encode = .ok sampleHelloBytes :=
  have h : parseBootstrap sampleHelloBytes = .ok sampleHello := by decide +kernel
  ⟨h, bootstrap_canonical.1 sampleHelloBytes sampleHello h⟩

/-! ## What the encoders leave to the receiver -/

/-- **An encoded record parses exactly when its members are within the receiver's bounds**, and
an encoded area decodes exactly when its records have the lengths and the reserved bytes of
their types.  The encoders check none of the two. -/
theorem encoded_parses_iff (r : BootstrapRecord) (exts : List R2wpExtension)
    (b area : List UInt8) :
    (r.encode = .ok b → (parseBootstrap b = .ok r ↔ r.Accepted)) ∧
      (Encode.encodeExtensionArea exts = .ok area →
        (Extension.AreaDecodes exts area ↔ ∀ ext ∈ exts, Extension.WellFormed ext)) :=
  ⟨parse_encode_iff, Extension.areaDecodes_iff⟩

theorem encoded_parses_iff_of_sample :
    (parseBootstrap sampleHelloBytes = .ok sampleHello ↔ sampleHello.Accepted) ∧
      (Extension.AreaDecodes [⟨2, true, List.replicate 16 7⟩]
          ([2, 1, 0, 16] ++ List.replicate 16 7) ↔
        ∀ ext ∈ [(⟨2, true, List.replicate 16 7⟩ : R2wpExtension)], Extension.WellFormed ext) :=
  have h := encoded_parses_iff sampleHello [⟨2, true, List.replicate 16 7⟩] sampleHelloBytes
    ([2, 1, 0, 16] ++ List.replicate 16 7)
  ⟨h.1 (by decide +kernel), h.2 (by decide +kernel)⟩

/-- A client hello that offers no wire version, and its bytes. -/
def emptyHello : BootstrapRecord :=
  .clientHello ⟨[], ⟨false, true, none⟩, ⟨true, false⟩, ⟨none, none, none, none⟩, [1]⟩

def emptyHelloBytes : List UInt8 :=
  [0x52, 0x32, 0x57, 0x50, 0, 1, 0, 0, 0, 0, 0, 20, 0xa5, 1, 0x80, 2, 0xa2, 1, 0xf4, 2, 0xf5, 3,
    0xa2, 1, 0xf5, 2, 0xf4, 4, 0xa0, 6, 0x81, 1]

/-- The encoders write a hello without versions, and a trace context without a value. -/
theorem not_encoded_parses :
    (¬ ∀ (r : BootstrapRecord) (b : List UInt8), r.encode = .ok b → parseBootstrap b = .ok r) ∧
      ¬ ∀ (exts : List R2wpExtension) (area : List UInt8),
        Encode.encodeExtensionArea exts = .ok area → Extension.AreaDecodes exts area := by
  constructor
  · intro h
    have hparse := h emptyHello emptyHelloBytes (by decide +kernel)
    have herror : parseBootstrap emptyHelloBytes ≠ .ok emptyHello := by decide +kernel
    exact herror hparse
  · intro h
    have harea := h [⟨1, false, []⟩] [1, 0, 0, 0] (by decide +kernel)
    have herror : Extension.decodeExtensionArea [1, 0, 0, 0] ≠ .ok [⟨1, false, []⟩] := by
      decide +kernel
    exact herror harea

end Bootstrap
end Rclweb
