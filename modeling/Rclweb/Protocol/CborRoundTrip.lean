import Rclweb.Protocol.Encode

/-!
# Encoded values decode

The decoder reads back what the encoder writes, up to the order of map entries: `canon`
sorts every map by key, and `decode_encode_of_short` says that a value that encodes decodes to
its canonical form.  The encoder writes any length, the decoder takes lengths up to
`maxSafeInteger`; `Short` is what a value needs for that.

The recursion of the decoder is on levels left and that of the encoder on depth, and `Decodes`
is stated at the levels that remain at a depth.  Lists are handled by two lemmas about
`decodeItems` and `decodeEntries`, for any item decoder that reads the given pieces.
-/

namespace Rclweb

open BigEndian

/-! ## Canonical values -/

namespace CborValue

mutual

/-- **The canonical form of a value**: every map in ascending key order. -/
def canon : CborValue → CborValue
  | .array items => .array (canonItems items)
  | .map entries => .map (Control.sortByKey (canonEntries entries))
  | v => v

def canonItems : List CborValue → List CborValue
  | [] => []
  | item :: items => canon item :: canonItems items

def canonEntries : List (UInt64 × CborValue) → List (UInt64 × CborValue)
  | [] => []
  | entry :: entries => canonEntry entry :: canonEntries entries

def canonEntry : UInt64 × CborValue → UInt64 × CborValue
  | (key, value) => (key, canon value)

end

theorem canonItems_eq (items : List CborValue) : canonItems items = items.map canon := by
  induction items with
  | nil => rfl
  | cons item items ih => simp [canonItems, ih]

theorem canonEntries_eq (entries : List (UInt64 × CborValue)) :
    canonEntries entries = entries.map fun e => (e.1, canon e.2) := by
  induction entries with
  | nil => rfl
  | cons entry entries ih =>
    obtain ⟨key, value⟩ := entry
    simp [canonEntries, canonEntry, ih]

mutual

/-- **Every length in a value is one the decoder takes.** -/
def Short : CborValue → Prop
  | .bytes b => b.length ≤ Cbor.maxSafeInteger
  | .text t => (utf8 t).length ≤ Cbor.maxSafeInteger
  | .array items => items.length ≤ Cbor.maxSafeInteger ∧ ShortItems items
  | .map entries => ShortEntries entries
  | _ => True

def ShortItems : List CborValue → Prop
  | [] => True
  | item :: items => Short item ∧ ShortItems items

def ShortEntries : List (UInt64 × CborValue) → Prop
  | [] => True
  | entry :: entries => ShortEntry entry ∧ ShortEntries entries

def ShortEntry : UInt64 × CborValue → Prop
  | (_, value) => Short value

end

theorem shortItems_iff (items : List CborValue) :
    ShortItems items ↔ ∀ item ∈ items, Short item := by
  induction items with
  | nil => simp [ShortItems]
  | cons item items ih => simp [ShortItems, ih]

theorem shortEntries_iff (entries : List (UInt64 × CborValue)) :
    ShortEntries entries ↔ ∀ e ∈ entries, Short e.2 := by
  induction entries with
  | nil => simp [ShortEntries]
  | cons entry entries ih =>
    obtain ⟨key, value⟩ := entry
    simp [ShortEntries, ShortEntry, ih]

end CborValue

namespace Control

variable {α β : Type}

theorem perm_sortByKey (entries : List (UInt64 × α)) : (sortByKey entries).Perm entries :=
  List.perm_insertionSort _ entries

@[simp] theorem length_sortByKey (entries : List (UInt64 × α)) :
    (sortByKey entries).length = entries.length :=
  (perm_sortByKey entries).length_eq

@[simp] theorem mem_sortByKey {entries : List (UInt64 × α)} {e : UInt64 × α} :
    e ∈ sortByKey entries ↔ e ∈ entries :=
  (perm_sortByKey entries).mem_iff

/-- Sorting looks at keys only. -/
theorem sortByKey_map (f : α → β) (entries : List (UInt64 × α)) :
    sortByKey (entries.map fun e => (e.1, f e.2)) =
      (sortByKey entries).map fun e => (e.1, f e.2) :=
  (List.map_insertionSort (fun a b : UInt64 × α => a.1 ≤ b.1) (fun a b : UInt64 × β => a.1 ≤ b.1)
    (fun e => (e.1, f e.2)) entries (fun _ _ _ _ => Iff.rfl)).symm

/-- Entries with different keys are sorted into strictly ascending order. -/
theorem sortByKey_ascending {entries : List (UInt64 × α)} (h : (entries.map Prod.fst).Nodup) :
    (sortByKey entries).Pairwise fun a b => a.1 < b.1 := by
  have : Std.Total fun a b : UInt64 × α => a.1 ≤ b.1 := ⟨fun a b => UInt64.le_total a.1 b.1⟩
  have : IsTrans (UInt64 × α) fun a b => a.1 ≤ b.1 := ⟨fun _ _ _ h h' => UInt64.le_trans h h'⟩
  have hle := List.pairwise_insertionSort (fun a b : UInt64 × α => a.1 ≤ b.1) entries
  have hne : (sortByKey entries).Pairwise fun a b => a.1 ≠ b.1 :=
    List.pairwise_map.mp (((perm_sortByKey entries).map Prod.fst).nodup_iff.mpr h)
  exact (hle.and hne).imp fun hab => UInt64.lt_of_le_of_ne hab.1 hab.2

end Control

namespace Cbor

/-! ## Heads -/

theorem readArgument_append {h : Head} {width shortest : ℕ} {argument : ℕ} (rest : List UInt8)
    (offset : ℕ) (hlt : argument < 256 ^ width) (hshort : shortest ≤ argument) :
    readArgument ⟨toBytes width argument ++ rest, offset⟩ h width shortest =
      .ok ({ h with argument := argument }, ⟨rest, offset + width⟩) := by
  have hlen : ¬ (toBytes width argument ++ rest).length < width := by simp
  have htake : (toBytes width argument ++ rest).take width = toBytes width argument :=
    List.take_left' (length_toBytes width argument)
  have hdrop : (toBytes width argument ++ rest).drop width = rest :=
    List.drop_left' (length_toBytes width argument)
  simp only [readArgument, Reader.remaining, Reader.advance, hlen, if_false, htake, hdrop,
    ofBytes_toBytes_of_lt hlt]
  rw [if_neg (by simp; omega)]

/-- Reading a head whose initial byte is put together from its two parts. -/
theorem readHead_initial {major low : ℕ} (bytes : List UInt8) (offset : ℕ) (hmajor : major < 8)
    (hlow : low < 32) :
    readHead ⟨UInt8.ofNat (major * 32 + low) :: bytes, offset⟩ =
      if low ≤ 23 then .ok (⟨major, low, low, offset⟩, ⟨bytes, offset + 1⟩)
      else if low = 24 then readArgument ⟨bytes, offset + 1⟩ ⟨major, low, low, offset⟩ 1 24
      else if low = 25 then readArgument ⟨bytes, offset + 1⟩ ⟨major, low, low, offset⟩ 2 0x100
      else if low = 26 then readArgument ⟨bytes, offset + 1⟩ ⟨major, low, low, offset⟩ 4 0x10000
      else if low = 27 then
        readArgument ⟨bytes, offset + 1⟩ ⟨major, low, low, offset⟩ 8 0x100000000
      else if low = 31 then .error ⟨"indefinite_length", offset⟩
      else .error ⟨"reserved_additional_info", offset⟩ := by
  have hbyte : (UInt8.ofNat (major * 32 + low)).toNat = major * 32 + low := by
    rw [UInt8.toNat_ofNat', Nat.mod_eq_of_lt (by omega)]
  have hdiv : (major * 32 + low) / 32 = major := by omega
  have hmod : (major * 32 + low) % 32 = low := by omega
  simp only [readHead, hbyte, hdiv, hmod, Reader.advance, List.drop_succ_cons, List.drop_zero]

/-- **A written head is read back**, for every major type but the last. -/
theorem readHead_writeHead {major argument : ℕ} (rest : List UInt8) (offset : ℕ)
    (hmajor : major < 7) (harg : argument < 2 ^ 64) :
    ∃ additional, readHead ⟨Encode.writeHead major argument ++ rest, offset⟩ =
      .ok (⟨major, additional, argument, offset⟩,
        ⟨rest, offset + (Encode.writeHead major argument).length⟩) := by
  have hmajor' : major < 8 := by omega
  unfold Encode.writeHead
  dsimp only
  by_cases h1 : argument ≤ 23
  · refine ⟨argument, ?_⟩
    rw [if_pos h1, List.cons_append, readHead_initial _ _ hmajor' (by omega), if_pos h1]
    rfl
  rw [if_neg h1]
  by_cases h2 : argument ≤ 0xff
  · refine ⟨24, ?_⟩
    rw [if_pos h2, List.cons_append, readHead_initial _ _ hmajor' (by omega)]
    simp [readArgument_append rest (offset + 1) (show argument < 256 ^ 1 by omega)
      (show 24 ≤ argument by omega), Nat.add_assoc]
  rw [if_neg h2]
  by_cases h3 : argument ≤ 0xffff
  · refine ⟨25, ?_⟩
    rw [if_pos h3, List.cons_append, readHead_initial _ _ hmajor' (by omega)]
    simp [readArgument_append rest (offset + 1) (show argument < 256 ^ 2 by omega)
      (show 0x100 ≤ argument by omega), Nat.add_assoc]
  rw [if_neg h3]
  by_cases h4 : argument ≤ 0xffffffff
  · refine ⟨26, ?_⟩
    rw [if_pos h4, List.cons_append, readHead_initial _ _ hmajor' (by omega)]
    simp [readArgument_append rest (offset + 1) (show argument < 256 ^ 4 by omega)
      (show 0x10000 ≤ argument by omega), Nat.add_assoc]
  rw [if_neg h4]
  refine ⟨27, ?_⟩
  rw [List.cons_append, readHead_initial _ _ hmajor' (by omega)]
  simp [readArgument_append rest (offset + 1) (show argument < 256 ^ 8 by omega)
    (show 0x100000000 ≤ argument by omega), Nat.add_assoc]

/-- A head is not empty. -/
theorem length_writeHead_pos (major argument : ℕ) : 0 < (Encode.writeHead major argument).length := by
  unfold Encode.writeHead
  dsimp only
  split_ifs <;> simp

/-! ## Pieces -/

/-- A decoder reads `value` from exactly the given bytes, whatever follows them. -/
def Reads {α : Type} (item : Reader → Except CborError (α × Reader)) (bytes : List UInt8)
    (value : α) : Prop :=
  ∀ rest offset, item ⟨bytes ++ rest, offset⟩ = .ok (value, ⟨rest, offset + bytes.length⟩)

/-- No value is read from nothing. -/
theorem Reads.length_pos {levels : ℕ} {bytes : List UInt8} {v : CborValue}
    (h : Reads (decodeValue levels) bytes v) : 0 < bytes.length := by
  by_contra hempty
  obtain rfl : bytes = [] := List.length_eq_zero_iff.mp (by omega)
  have := h [] 0
  cases levels <;> simp [decodeValue, readHead, bind, Except.bind] at this

/-- Pieces that each read back read back one after the other. -/
theorem reads_decodeItems {item : Reader → Except CborError (CborValue × Reader)}
    {pieces : List (List UInt8)} {vs : List CborValue} (h : List.Forall₂ (Reads item) pieces vs) :
    Reads (decodeItems item vs.length) pieces.flatten vs := by
  induction h with
  | nil => intro rest offset; simp [decodeItems]
  | @cons piece v pieces vs hpiece _ ih =>
    intro rest offset
    rw [List.flatten_cons, List.append_assoc, List.length_cons, decodeItems]
    rw [hpiece]
    simp only [bind, Except.bind]
    rw [ih]
    simp [pure, Except.pure, Nat.add_assoc]

/-- The bytes of an entry: the head of its key, then those of its value. -/
def ReadsEntry (item : Reader → Except CborError (CborValue × Reader)) (bytes : List UInt8)
    (e : UInt64 × CborValue) : Prop :=
  ∃ piece, bytes = Encode.writeHead 0 e.1.toNat ++ piece ∧ Reads item piece e.2

/-- Entries that each read back, with keys that ascend from the previous one, read back one
after the other. -/
theorem reads_decodeEntries {item : Reader → Except CborError (CborValue × Reader)}
    {pieces : List (List UInt8)} {es : List (UInt64 × CborValue)}
    (h : List.Forall₂ (ReadsEntry item) pieces es) (seen : List UInt64) (prev : Option UInt64)
    (hseen : ∀ e ∈ es, e.1 ∉ seen) (hprev : ∀ e ∈ es, ∀ p ∈ prev, p ≤ e.1)
    (hasc : es.Pairwise fun a b => a.1 < b.1) :
    Reads (decodeEntries item es.length seen prev) pieces.flatten es := by
  induction h generalizing seen prev with
  | nil => intro rest offset; simp [decodeEntries]
  | @cons bytes e pieces es hentry _ ih =>
    intro rest offset
    obtain ⟨key, v⟩ := e
    obtain ⟨piece, rfl, hpiece⟩ := hentry
    obtain ⟨hlt, hasc⟩ := List.pairwise_cons.mp hasc
    obtain ⟨additional, hhead⟩ := readHead_writeHead (piece ++ (pieces.flatten ++ rest)) offset
      (show 0 < 7 by omega) key.toNat_lt
    have hkey : checkKey seen prev key offset = .ok () := by
      have hnot : key ∉ seen := hseen _ List.mem_cons_self
      cases prev with
      | none => simp [checkKey, hnot]
      | some p =>
        have hle : p ≤ key := hprev _ List.mem_cons_self p rfl
        simp [checkKey, hnot, UInt64.not_lt.mpr hle]
    have htail := ih (key :: seen) (some key)
      (fun e he hmem => by
        rcases List.mem_cons.mp hmem with heq | hmem
        · exact absurd heq.symm (UInt64.ne_of_lt (hlt e he))
        · exact hseen e (List.mem_cons_of_mem _ he) hmem)
      (fun e he p hp => Option.some.inj hp ▸ UInt64.le_of_lt (hlt e he)) hasc
    rw [List.flatten_cons, List.append_assoc, List.append_assoc, List.length_cons, decodeEntries,
      hhead]
    simp only [bind, Except.bind, ne_eq, not_true_eq_false, if_false, UInt64.ofNat_toNat, hkey]
    rw [hpiece]
    simp only
    rw [htail]
    simp [pure, Except.pure, Nat.add_assoc]

/-! ## Values -/

/-- Pieces that all succeed are concatenated. -/
theorem concatPieces_eq_ok {pieces : List (Except EncodeError (List UInt8))} {b : List UInt8}
    (h : Encode.concatPieces pieces = .ok b) :
    ∃ bs : List (List UInt8), pieces = bs.map .ok ∧ b = bs.flatten := by
  induction pieces generalizing b with
  | nil => exact ⟨[], rfl, (Except.ok.inj h).symm⟩
  | cons piece pieces ih =>
    rw [Encode.concatPieces] at h
    cases piece with
    | error e => cases h
    | ok bytes =>
      cases hrest : Encode.concatPieces pieces with
      | error e => rw [hrest] at h; cases h
      | ok rest =>
        rw [hrest] at h
        obtain ⟨bs, rfl, rfl⟩ := ih hrest
        exact ⟨bytes :: bs, rfl, (Except.ok.inj h).symm⟩

theorem encodeItems_eq (items : List CborValue) (depth : ℕ) :
    Encode.encodeItems items depth = items.map (Encode.encodeValue · depth) := by
  induction items with
  | nil => rfl
  | cons item items ih => simp [Encode.encodeItems, ih]

theorem encodeEntries_eq (entries : List (UInt64 × CborValue)) (depth : ℕ) :
    Encode.encodeEntries entries depth =
      entries.map fun e => (e.1, Encode.encodeValue e.2 depth) := by
  induction entries with
  | nil => rfl
  | cons entry entries ih =>
    obtain ⟨key, value⟩ := entry
    simp [Encode.encodeEntries, Encode.encodeEntry, ih]

/-- A short value that encodes at some depth decodes to its canonical form at the levels left
there. -/
def RoundTrips (v : CborValue) : Prop :=
  ∀ depth b, depth ≤ maxNestingDepth → Encode.encodeValue v depth = .ok b →
    v.Short → Reads (decodeValue (maxNestingDepth - depth)) b v.canon

/-- A scalar is read by its head, at any level. -/
theorem decodeValue_of_readHead {levels : ℕ} {r r' : Reader} {h : Head}
    (hread : readHead r = .ok (h, r')) (hmajor : h.major < 4) :
    decodeValue levels r = decodeScalar h r' := by
  have h4 : h.major ≠ 4 := by omega
  have h5 : h.major ≠ 5 := by omega
  cases levels <;> simp [decodeValue, hread, bind, Except.bind, h4, h5]

/-- A scalar of one of the first four major types reads back when its head is followed by
what `decodeScalar` expects. -/
theorem reads_scalar {levels major argument : ℕ} {body : List UInt8} {v : CborValue}
    (hmajor : major < 4) (harg : argument < 2 ^ 64)
    (h : ∀ additional headOffset rest offset,
      decodeScalar ⟨major, additional, argument, headOffset⟩ ⟨body ++ rest, offset⟩ =
        .ok (v, ⟨rest, offset + body.length⟩)) :
    Reads (decodeValue levels) (Encode.writeHead major argument ++ body) v := by
  intro rest offset
  obtain ⟨additional, hread⟩ :=
    readHead_writeHead (body ++ rest) offset (show major < 7 by omega) harg
  rw [List.append_assoc, decodeValue_of_readHead hread hmajor, h, List.length_append, Nat.add_assoc]

/-- A scalar of the last major type is a single byte. -/
theorem reads_simple {levels : ℕ} {byte : UInt8} {v : CborValue}
    (h : ∀ rest offset, decodeValue levels ⟨byte :: rest, offset⟩ = .ok (v, ⟨rest, offset + 1⟩)) :
    Reads (decodeValue levels) [byte] v := fun rest offset => h rest offset

theorem lengthToUsize_of_le {n headOffset : ℕ} (h : n ≤ maxSafeInteger) :
    lengthToUsize n headOffset = .ok n := if_neg (by omega)

theorem readSlice_append (body rest : List UInt8) (offset : ℕ) :
    Reader.readSlice ⟨body ++ rest, offset⟩ body.length =
      .ok (body, ⟨rest, offset + body.length⟩) := by
  simp [Reader.readSlice, Reader.remaining, Reader.advance]

theorem decodeValue_simple (levels : ℕ) (rest : List UInt8) (offset : ℕ) :
    decodeValue levels ⟨0xf6 :: rest, offset⟩ = .ok (.null, ⟨rest, offset + 1⟩) ∧
    decodeValue levels ⟨0xf4 :: rest, offset⟩ = .ok (.bool false, ⟨rest, offset + 1⟩) ∧
    decodeValue levels ⟨0xf5 :: rest, offset⟩ = .ok (.bool true, ⟨rest, offset + 1⟩) := by
  cases levels <;> exact ⟨rfl, rfl, rfl⟩

theorem roundTrips_negative (v : ℤ) : RoundTrips (.negative v) := by
  intro depth b _ h _
  rw [Encode.encodeValue] at h
  split_ifs at h with h0 h1
  obtain rfl := Except.ok.inj h
  rw [← List.append_nil (Encode.writeHead 1 (-1 - v).toNat)]
  refine reads_scalar (by omega) (by omega) ?_
  intro additional headOffset rest offset
  have hback : -1 - ((-1 - v).toNat : ℤ) = v := by omega
  simp only [decodeScalar, hback]
  simp [CborValue.canon]

theorem roundTrips_bytes (bytes : List UInt8) : RoundTrips (.bytes bytes) := by
  intro depth b _ h hle
  obtain rfl := Except.ok.inj h
  rw [CborValue.Short] at hle
  refine reads_scalar (by omega) (by unfold maxSafeInteger at hle; omega) ?_
  intro additional headOffset rest offset
  simp [decodeScalar, lengthToUsize_of_le hle, readSlice_append, bind, Except.bind, pure,
    Except.pure, CborValue.canon]

theorem roundTrips_text (t : String) : RoundTrips (.text t) := by
  intro depth b _ h hle
  obtain rfl := Except.ok.inj h
  rw [CborValue.Short] at hle
  refine reads_scalar (by omega) (by unfold maxSafeInteger at hle; omega) ?_
  intro additional headOffset rest offset
  simp [decodeScalar, lengthToUsize_of_le hle, readSlice_append, bind, Except.bind, pure,
    Except.pure, CborValue.canon]

/-- Encoded items read back piece by piece. -/
theorem reads_pieces {items : List CborValue} {depth : ℕ} {pieces : List (List UInt8)}
    (ih : ∀ item ∈ items, RoundTrips item) (hdepth : depth ≤ maxNestingDepth)
    (hpieces : items.map (Encode.encodeValue · depth) = pieces.map .ok)
    (hshort : ∀ item ∈ items, item.Short) :
    List.Forall₂ (Reads (decodeValue (maxNestingDepth - depth))) pieces
      (items.map CborValue.canon) := by
  induction items generalizing pieces with
  | nil =>
    obtain rfl : pieces = [] := by simpa using hpieces.symm
    exact .nil
  | cons item items ihs =>
    cases pieces with
    | nil => simp at hpieces
    | cons piece pieces =>
      rw [List.map_cons, List.map_cons, List.cons.injEq] at hpieces
      exact .cons
        (ih item List.mem_cons_self depth piece hdepth hpieces.1 (hshort item List.mem_cons_self))
        (ihs (fun i hi => ih i (List.mem_cons_of_mem _ hi)) hpieces.2
          fun i hi => hshort i (List.mem_cons_of_mem _ hi))

/-- Every piece of a list of readable pieces takes a byte at least. -/
theorem length_le_flatten {levels : ℕ} {pieces : List (List UInt8)} {vs : List CborValue}
    (h : List.Forall₂ (Reads (decodeValue levels)) pieces vs) :
    vs.length ≤ pieces.flatten.length := by
  induction h with
  | nil => simp
  | cons hpiece _ ih =>
    have := hpiece.length_pos
    simp only [List.flatten_cons, List.length_append, List.length_cons]
    omega

theorem roundTrips_array {items : List CborValue} (ih : ∀ item ∈ items, RoundTrips item) :
    RoundTrips (.array items) := by
  intro depth b _ h hshort
  rw [CborValue.Short, CborValue.shortItems_iff] at hshort
  obtain ⟨hcount, hshort⟩ := hshort
  rw [Encode.encodeValue] at h
  split_ifs at h with hdepth
  rw [encodeItems_eq] at h
  cases hbody : Encode.concatPieces (items.map (Encode.encodeValue · (depth + 1))) with
  | error e => rw [hbody] at h; cases h
  | ok body =>
    rw [hbody] at h
    obtain rfl := Except.ok.inj h
    obtain ⟨pieces, hpieces, rfl⟩ := concatPieces_eq_ok hbody
    have hreads := reads_pieces ih (by omega) hpieces hshort
    have hfits : items.length ≤ pieces.flatten.length := by
      simpa using length_le_flatten hreads
    obtain ⟨levels, hlevels⟩ : ∃ levels, maxNestingDepth - depth = levels + 1 :=
      ⟨maxNestingDepth - (depth + 1), by omega⟩
    intro rest offset
    obtain ⟨additional, hread⟩ := readHead_writeHead (pieces.flatten ++ rest) offset
      (show 4 < 7 by omega) (show items.length < 2 ^ 64 by unfold maxSafeInteger at hcount; omega)
    have hitems := reads_decodeItems hreads rest
      (offset + (Encode.writeHead 4 items.length).length)
    rw [List.length_map, show maxNestingDepth - (depth + 1) = levels by omega] at hitems
    have hroom : ¬ items.length > Reader.remaining ⟨pieces.flatten ++ rest,
        offset + (Encode.writeHead 4 items.length).length⟩ := by
      simp only [Reader.remaining, List.length_append]
      omega
    rw [hlevels, List.append_assoc, decodeValue, hread]
    simp only [bind, Except.bind, if_true, lengthToUsize_of_le hcount, if_neg hroom, hitems]
    simp [pure, Except.pure, CborValue.canon, CborValue.canonItems_eq, Nat.add_assoc]

/-- One encoded entry: the head of the key, then the value. -/
def encodeEntryBytes (depth : ℕ) (e : UInt64 × CborValue) : Except EncodeError (List UInt8) := do
  let v ← Encode.encodeValue e.2 depth
  return Encode.writeHead 0 e.1.toNat ++ v

/-- What `writeEntries` writes. -/
theorem writeEntries_eq_ok_iff {entries : List (UInt64 × CborValue)} {depth : ℕ}
    {b : List UInt8} :
    Encode.writeEntries (Encode.encodeEntries entries depth) = .ok b ↔
      entries.length ≤ maxMapEntries ∧ (entries.map Prod.fst).Nodup ∧
        ∃ body,
          Encode.concatPieces ((Control.sortByKey entries).map (encodeEntryBytes depth)) =
            .ok body ∧ b = Encode.writeHead 5 entries.length ++ body := by
  have hsorted : (Control.sortByKey (entries.map fun e => (e.1, Encode.encodeValue e.2 depth))).map
      (fun e => do
        let v ← e.2
        return Encode.writeHead 0 e.1.toNat ++ v) =
      (Control.sortByKey entries).map (encodeEntryBytes depth) := by
    rw [Control.sortByKey_map (fun v => Encode.encodeValue v depth), List.map_map]
    rfl
  have hkeys : (entries.map fun e => (e.1, Encode.encodeValue e.2 depth)).map Prod.fst =
      entries.map Prod.fst := by
    rw [List.map_map]
    rfl
  rw [Encode.writeEntries, encodeEntries_eq, List.length_map, hkeys]
  by_cases hcount : entries.length > maxMapEntries
  · simp [hcount, Nat.not_le.mpr hcount]
  by_cases hnodup : (entries.map Prod.fst).Nodup
  · rw [if_neg hcount]
    dsimp only
    rw [if_neg (not_not_intro hnodup), hsorted, Control.length_sortByKey, List.length_map]
    cases Encode.concatPieces ((Control.sortByKey entries).map (encodeEntryBytes depth)) with
    | error e => simp [bind, Except.bind]
    | ok body => simp [bind, Except.bind, pure, Except.pure, hnodup, eq_comm]; omega
  · simp [hcount, hnodup]

/-- Encoded entries read back piece by piece. -/
theorem readsEntry_pieces {entries : List (UInt64 × CborValue)} {depth : ℕ}
    {pieces : List (List UInt8)} (ih : ∀ e ∈ entries, RoundTrips e.2)
    (hdepth : depth ≤ maxNestingDepth)
    (hpieces : entries.map (encodeEntryBytes depth) = pieces.map .ok)
    (hshort : ∀ e ∈ entries, e.2.Short) :
    List.Forall₂ (ReadsEntry (decodeValue (maxNestingDepth - depth))) pieces
      (entries.map fun e => (e.1, e.2.canon)) := by
  induction entries generalizing pieces with
  | nil =>
    obtain rfl : pieces = [] := by simpa using hpieces.symm
    exact .nil
  | cons e entries ihs =>
    cases pieces with
    | nil => simp at hpieces
    | cons piece pieces =>
      rw [List.map_cons, List.map_cons, List.cons.injEq] at hpieces
      obtain ⟨hpiece, hrest⟩ := hpieces
      refine .cons ?_ (ihs (fun i hi => ih i (List.mem_cons_of_mem _ hi)) hrest
        fun i hi => hshort i (List.mem_cons_of_mem _ hi))
      unfold encodeEntryBytes at hpiece
      cases hvalue : Encode.encodeValue e.2 depth with
      | error err => rw [hvalue] at hpiece; cases hpiece
      | ok v =>
        rw [hvalue] at hpiece
        obtain rfl := Except.ok.inj hpiece
        exact ⟨v, rfl, ih e List.mem_cons_self depth v hdepth hvalue
          (hshort e List.mem_cons_self)⟩

/-- Every entry takes two bytes at least. -/
theorem two_mul_length_le_flatten {levels : ℕ} {pieces : List (List UInt8)}
    {es : List (UInt64 × CborValue)}
    (h : List.Forall₂ (ReadsEntry (decodeValue levels)) pieces es) :
    es.length * 2 ≤ pieces.flatten.length := by
  induction h with
  | nil => simp
  | cons hpiece _ ih =>
    obtain ⟨piece, rfl, hpiece⟩ := hpiece
    have := hpiece.length_pos
    have := length_writeHead_pos 0
    simp only [List.flatten_cons, List.length_append, List.length_cons]
    grind

theorem roundTrips_map {entries : List (UInt64 × CborValue)} (ih : ∀ e ∈ entries, RoundTrips e.2) :
    RoundTrips (.map entries) := by
  intro depth b _ h hshort
  rw [CborValue.Short, CborValue.shortEntries_iff] at hshort
  rw [Encode.encodeValue] at h
  split_ifs at h with hdepth
  obtain ⟨hcount, hnodup, body, hbody, rfl⟩ := writeEntries_eq_ok_iff.mp h
  obtain ⟨pieces, hpieces, rfl⟩ := concatPieces_eq_ok hbody
  have hreads := readsEntry_pieces (fun e he => ih e (Control.mem_sortByKey.mp he)) (by omega)
    hpieces fun e he => hshort e (Control.mem_sortByKey.mp he)
  have hroom : entries.length * 2 ≤ pieces.flatten.length := by
    simpa using two_mul_length_le_flatten hreads
  obtain ⟨levels, hlevels⟩ : ∃ levels, maxNestingDepth - depth = levels + 1 :=
    ⟨maxNestingDepth - (depth + 1), by omega⟩
  have hasc : ((Control.sortByKey entries).map fun e => (e.1, e.2.canon)).Pairwise
      fun a b => a.1 < b.1 :=
    List.pairwise_map.mpr (Control.sortByKey_ascending hnodup)
  intro rest offset
  obtain ⟨additional, hread⟩ := readHead_writeHead (pieces.flatten ++ rest) offset
    (show 5 < 7 by omega)
    (show entries.length < 2 ^ 64 by unfold maxMapEntries at hcount; omega)
  have hentries := reads_decodeEntries hreads [] none (by simp) (by simp) hasc rest
    (offset + (Encode.writeHead 5 entries.length).length)
  rw [List.length_map, Control.length_sortByKey,
    show maxNestingDepth - (depth + 1) = levels by omega] at hentries
  have hroom' : ¬ (entries.length > 0 ∧ entries.length * 2 > Reader.remaining
      ⟨pieces.flatten ++ rest, offset + (Encode.writeHead 5 entries.length).length⟩) := by
    simp only [Reader.remaining, List.length_append]
    omega
  have hcount' : ¬ entries.length > maxMapEntries := by omega
  have hsafe : entries.length ≤ maxSafeInteger := hcount.trans (by decide)
  rw [hlevels, List.append_assoc, decodeValue, hread]
  simp only [bind, Except.bind, show ¬ (5 = 4) by omega, if_false, if_true, if_neg hcount',
    lengthToUsize_of_le hsafe, if_neg hroom', hentries]
  simp [pure, Except.pure, CborValue.canon, CborValue.canonEntries_eq, Control.sortByKey_map,
    Nat.add_assoc]

mutual

/-- **Every value that encodes reads back** in canonical form. -/
theorem roundTrips : ∀ v : CborValue, RoundTrips v
  | .null => fun depth b _ h _ => by
    obtain rfl := Except.ok.inj h
    exact reads_simple fun rest offset => (decodeValue_simple _ rest offset).1
  | .bool false => fun depth b _ h _ => by
    obtain rfl := Except.ok.inj h
    exact reads_simple fun rest offset => (decodeValue_simple _ rest offset).2.1
  | .bool true => fun depth b _ h _ => by
    obtain rfl := Except.ok.inj h
    exact reads_simple fun rest offset => (decodeValue_simple _ rest offset).2.2
  | .unsigned v => fun depth b _ h _ => by
    obtain rfl := Except.ok.inj h
    rw [← List.append_nil (Encode.writeHead 0 v.toNat)]
    refine reads_scalar (by omega) v.toNat_lt ?_
    intro additional headOffset rest offset
    simp [decodeScalar, CborValue.canon]
  | .negative v => roundTrips_negative v
  | .bytes b => roundTrips_bytes b
  | .text t => roundTrips_text t
  | .array items => roundTrips_array (roundTrips_items items)
  | .map entries => roundTrips_map (roundTrips_entries entries)

theorem roundTrips_items : ∀ items : List CborValue, ∀ item ∈ items, RoundTrips item
  | [] => fun _ h => nomatch h
  | item :: items => fun i h => by
    rcases List.mem_cons.mp h with heq | h
    · rw [heq]
      exact roundTrips item
    · exact roundTrips_items items i h

theorem roundTrips_entries :
    ∀ entries : List (UInt64 × CborValue), ∀ e ∈ entries, RoundTrips e.2
  | [] => fun _ h => nomatch h
  | entry :: entries => fun e h => by
    rcases List.mem_cons.mp h with heq | h
    · rw [heq]
      exact roundTrips_entry entry
    · exact roundTrips_entries entries e h

theorem roundTrips_entry : ∀ entry : UInt64 × CborValue, RoundTrips entry.2
  | (_, value) => roundTrips value

end

/-- **What the encoder writes the decoder reads**, up to the order of map entries. -/
theorem decode_encode_of_short {v : CborValue} {b : List UInt8}
    (h : Encode.encodeDeterministicCbor v = .ok b) (hshort : v.Short) :
    decodeDeterministicCbor b = .ok v.canon := by
  have hreads := roundTrips v 0 b (by omega) h hshort
  have hpos := hreads.length_pos
  have hempty : b.isEmpty = false := by
    cases b with
    | nil => simp at hpos
    | cons => rfl
  have hread := hreads [] 0
  rw [List.append_nil, Nat.sub_zero] at hread
  simp [decodeDeterministicCbor, hempty, hread, bind, Except.bind, pure, Except.pure]

end Cbor
end Rclweb
