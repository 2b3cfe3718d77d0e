import Mathlib.Algebra.Order.BigOperators.Group.List
import Rclweb.Protocol.CborRoundTrip

/-!
# Which values encode, and to how many bytes

The encoder refuses a value for three reasons only: it nests too deep, a map has too many
entries or a key twice, or a negative number is out of range.  `Encodes` is that condition one
level at a time, and `size` the length of the result.
-/

namespace Rclweb

open BigEndian

namespace CborValue

/-- The length of a shortest-form head. -/
def headSize (argument : ℕ) : ℕ :=
  if argument ≤ 23 then 1
  else if argument ≤ 0xff then 2
  else if argument ≤ 0xffff then 3
  else if argument ≤ 0xffffffff then 5
  else 9

mutual

/-- **The number of bytes a value encodes to.** -/
def size : CborValue → ℕ
  | .null | .bool _ => 1
  | .unsigned v => headSize v.toNat
  | .negative v => headSize (-1 - v).toNat
  | .bytes b => headSize b.length + b.length
  | .text t => headSize (utf8 t).length + (utf8 t).length
  | .array items => headSize items.length + sizeItems items
  | .map entries => headSize entries.length + sizeEntries entries

def sizeItems : List CborValue → ℕ
  | [] => 0
  | item :: items => size item + sizeItems items

def sizeEntries : List (UInt64 × CborValue) → ℕ
  | [] => 0
  | entry :: entries => sizeEntry entry + sizeEntries entries

def sizeEntry : UInt64 × CborValue → ℕ
  | (key, value) => headSize key.toNat + size value

end

theorem headSize_le (argument : ℕ) : headSize argument ≤ 9 := by
  unfold headSize
  split_ifs <;> omega

theorem sizeItems_eq (items : List CborValue) : sizeItems items = (items.map size).sum := by
  induction items with
  | nil => rfl
  | cons item items ih => simp [sizeItems, ih]

theorem sizeEntries_eq (entries : List (UInt64 × CborValue)) :
    sizeEntries entries = (entries.map fun e => headSize e.1.toNat + size e.2).sum := by
  induction entries with
  | nil => rfl
  | cons entry entries ih =>
    obtain ⟨key, value⟩ := entry
    simp [sizeEntries, sizeEntry, ih]

theorem headSize_pos (argument : ℕ) : 0 < headSize argument := by
  unfold headSize
  split_ifs <;> omega

theorem size_pos (v : CborValue) : 0 < v.size := by
  cases v with
  | null | bool _ => exact Nat.one_pos
  | unsigned _ | negative _ => exact headSize_pos _
  | bytes _ | text _ | array _ | map _ => exact Nat.add_pos_left (headSize_pos _) _

mutual

/-- The lengths in a value are below its size. -/
theorem short_of_size_le : ∀ v : CborValue, v.size ≤ Cbor.maxSafeInteger → v.Short
  | .null | .bool _ | .unsigned _ | .negative _ => fun _ => trivial
  | .bytes b => fun h => by
    rw [size] at h
    exact (Nat.le_add_left _ _).trans h
  | .text t => fun h => by
    rw [size] at h
    exact (Nat.le_add_left _ _).trans h
  | .array items => fun h => by
    rw [size] at h
    have hitems : items.length ≤ sizeItems items := by
      rw [sizeItems_eq]
      simpa using List.length_le_sum_of_one_le (items.map size) fun n hn => by
        obtain ⟨v, -, rfl⟩ := List.mem_map.mp hn
        exact v.size_pos
    exact ⟨by omega, short_of_sizeItems_le items (by omega)⟩
  | .map entries => fun h => by
    rw [size] at h
    exact short_of_sizeEntries_le entries (by omega)

theorem short_of_sizeItems_le :
    ∀ items : List CborValue, sizeItems items ≤ Cbor.maxSafeInteger → ShortItems items
  | [] => fun _ => trivial
  | item :: items => fun h => by
    rw [sizeItems] at h
    exact ⟨short_of_size_le item (by omega), short_of_sizeItems_le items (by omega)⟩

theorem short_of_sizeEntries_le : ∀ entries : List (UInt64 × CborValue),
    sizeEntries entries ≤ Cbor.maxSafeInteger → ShortEntries entries
  | [] => fun _ => trivial
  | entry :: entries => fun h => by
    rw [sizeEntries] at h
    exact ⟨short_of_sizeEntry_le entry (by omega), short_of_sizeEntries_le entries (by omega)⟩

theorem short_of_sizeEntry_le :
    ∀ entry : UInt64 × CborValue, sizeEntry entry ≤ Cbor.maxSafeInteger → ShortEntry entry
  | (_, value) => fun h => by
    rw [sizeEntry] at h
    exact short_of_size_le value (by omega)

end

end CborValue

namespace Encode

open CborValue Cbor

theorem length_writeHead (major argument : ℕ) :
    (writeHead major argument).length = headSize argument := by
  unfold writeHead headSize
  dsimp only
  split_ifs <;> simp

/-- A value encodes inside `depth` containers. -/
def Encodes (depth : ℕ) (v : CborValue) : Prop := ∃ b, encodeValue v depth = .ok b

theorem concatPieces_map_ok (bs : List (List UInt8)) :
    concatPieces (bs.map .ok) = .ok bs.flatten := by
  induction bs with
  | nil => rfl
  | cons b bs ih => rw [List.map_cons, concatPieces, ih]; rfl

/-- Pieces are concatenated when all of them succeed. -/
theorem concatPieces_ok_iff {pieces : List (Except EncodeError (List UInt8))} :
    (∃ b, concatPieces pieces = .ok b) ↔ ∀ piece ∈ pieces, ∃ b, piece = .ok b := by
  induction pieces with
  | nil => simp [concatPieces]
  | cons piece pieces ih =>
    rw [List.forall_mem_cons, ← ih]
    constructor
    · rintro ⟨b, h⟩
      obtain ⟨bs, hbs, rfl⟩ := concatPieces_eq_ok h
      cases bs with
      | nil => simp at hbs
      | cons b bs =>
        rw [List.map_cons, List.cons.injEq] at hbs
        refine ⟨⟨b, hbs.1⟩, ?_⟩
        rw [hbs.2]
        exact ⟨_, concatPieces_map_ok bs⟩
    · rintro ⟨⟨b, rfl⟩, bs, hbs⟩
      exact ⟨b ++ bs, by rw [concatPieces, hbs]; rfl⟩

@[simp] theorem encodes_null (depth : ℕ) : Encodes depth .null := ⟨_, rfl⟩

@[simp] theorem encodes_bool (depth : ℕ) (b : Bool) : Encodes depth (.bool b) := by
  cases b <;> exact ⟨_, rfl⟩

@[simp] theorem encodes_unsigned (depth : ℕ) (v : UInt64) : Encodes depth (.unsigned v) :=
  ⟨_, rfl⟩

@[simp] theorem encodes_bytes (depth : ℕ) (b : List UInt8) : Encodes depth (.bytes b) := ⟨_, rfl⟩

@[simp] theorem encodes_text (depth : ℕ) (t : String) : Encodes depth (.text t) := ⟨_, rfl⟩

theorem encodes_array_iff {items : List CborValue} {depth : ℕ} :
    Encodes depth (.array items) ↔
      depth < maxNestingDepth ∧ ∀ item ∈ items, Encodes (depth + 1) item := by
  have hpieces : (∃ b, concatPieces (items.map (encodeValue · (depth + 1))) = .ok b) ↔
      ∀ item ∈ items, Encodes (depth + 1) item := by
    rw [concatPieces_ok_iff, List.forall_mem_map]
    rfl
  rw [← hpieces, Encodes, encodeValue, encodeItems_eq]
  by_cases hdepth : depth + 1 > maxNestingDepth
  · rw [if_pos hdepth]
    constructor
    · rintro ⟨b, h⟩
      cases h
    · rintro ⟨h, -⟩
      omega
  · rw [if_neg hdepth]
    cases concatPieces (items.map (encodeValue · (depth + 1))) with
    | error e => simp [bind, Except.bind]
    | ok body => simp [bind, Except.bind, pure, Except.pure]; omega

theorem encodes_map_iff {entries : List (UInt64 × CborValue)} {depth : ℕ} :
    Encodes depth (.map entries) ↔ depth < maxNestingDepth ∧ entries.length ≤ maxMapEntries ∧
      (entries.map Prod.fst).Nodup ∧ ∀ e ∈ entries, Encodes (depth + 1) e.2 := by
  have hentry (e : UInt64 × CborValue) :
      (∃ b, encodeEntryBytes (depth + 1) e = .ok b) ↔ Encodes (depth + 1) e.2 := by
    unfold encodeEntryBytes Encodes
    cases encodeValue e.2 (depth + 1) with
    | error err => simp [bind, Except.bind]
    | ok b => simp [bind, Except.bind, pure, Except.pure]
  have hpieces : (∃ b, concatPieces
      ((Control.sortByKey entries).map (encodeEntryBytes (depth + 1))) = .ok b) ↔
      ∀ e ∈ entries, Encodes (depth + 1) e.2 := by
    rw [concatPieces_ok_iff, List.forall_mem_map]
    simp only [hentry, Control.mem_sortByKey]
  rw [← hpieces, Encodes, encodeValue]
  by_cases hdepth : depth + 1 > maxNestingDepth
  · rw [if_pos hdepth]
    constructor
    · rintro ⟨b, h⟩
      cases h
    · rintro ⟨h, -⟩
      omega
  · rw [if_neg hdepth]
    simp only [writeEntries_eq_ok_iff]
    constructor
    · rintro ⟨_, hcount, hnodup, body, hbody, -⟩
      exact ⟨by omega, hcount, hnodup, body, hbody⟩
    · rintro ⟨-, hcount, hnodup, body, hbody⟩
      exact ⟨_, hcount, hnodup, body, hbody, rfl⟩

/-! ## Sizes -/

/-- The concatenation of encoded things has the sum of their sizes. -/
theorem length_concatPieces {α : Type} {encode : α → Except EncodeError (List UInt8)} {f : α → ℕ}
    {xs : List α} {b : List UInt8} (hf : ∀ x ∈ xs, ∀ b, encode x = .ok b → b.length = f x)
    (h : concatPieces (xs.map encode) = .ok b) : b.length = (xs.map f).sum := by
  induction xs generalizing b with
  | nil =>
    obtain rfl := Except.ok.inj h
    rfl
  | cons x xs ih =>
    obtain ⟨bs, hbs, rfl⟩ := concatPieces_eq_ok h
    cases bs with
    | nil => simp at hbs
    | cons piece pieces =>
      rw [List.map_cons, List.map_cons, List.cons.injEq] at hbs
      have hrest : concatPieces (xs.map encode) = .ok pieces.flatten := by
        rw [hbs.2]
        exact concatPieces_map_ok pieces
      rw [List.flatten_cons, List.length_append, hf x List.mem_cons_self piece hbs.1,
        ih (fun y hy => hf y (List.mem_cons_of_mem _ hy)) hrest, List.map_cons, List.sum_cons]

/-- A value encodes to as many bytes as its size says, at every depth. -/
def HasSize (v : CborValue) : Prop :=
  ∀ depth b, encodeValue v depth = .ok b → b.length = v.size

theorem hasSize_array {items : List CborValue} (ih : ∀ item ∈ items, HasSize item) :
    HasSize (.array items) := by
  intro depth b h
  rw [encodeValue] at h
  split_ifs at h with hdepth
  rw [encodeItems_eq] at h
  cases hbody : concatPieces (items.map (encodeValue · (depth + 1))) with
  | error e => rw [hbody] at h; cases h
  | ok body =>
    rw [hbody] at h
    obtain rfl := Except.ok.inj h
    rw [List.length_append, length_writeHead, CborValue.size, sizeItems_eq,
      length_concatPieces (fun item hitem => ih item hitem (depth + 1)) hbody]

theorem hasSize_map {entries : List (UInt64 × CborValue)} (ih : ∀ e ∈ entries, HasSize e.2) :
    HasSize (.map entries) := by
  intro depth b h
  rw [encodeValue] at h
  split_ifs at h with hdepth
  obtain ⟨-, -, body, hbody, rfl⟩ := writeEntries_eq_ok_iff.mp h
  have hentry : ∀ e ∈ Control.sortByKey entries, ∀ b, encodeEntryBytes (depth + 1) e = .ok b →
      b.length = headSize e.1.toNat + size e.2 := by
    intro e he b hb
    unfold encodeEntryBytes at hb
    cases hv : encodeValue e.2 (depth + 1) with
    | error err => rw [hv] at hb; cases hb
    | ok v =>
      rw [hv] at hb
      obtain rfl := Except.ok.inj hb
      rw [List.length_append, length_writeHead, ih e (Control.mem_sortByKey.mp he) _ _ hv]
  rw [List.length_append, length_writeHead, CborValue.size, sizeEntries_eq,
    length_concatPieces hentry hbody]
  congr 1
  exact ((Control.perm_sortByKey entries).map _).sum_eq

mutual

/-- **The size of a value is the length of its encoding.** -/
theorem hasSize : ∀ v : CborValue, HasSize v
  | .null => fun _ _ h => by rw [← Except.ok.inj h]; rfl
  | .bool false => fun _ _ h => by rw [← Except.ok.inj h]; rfl
  | .bool true => fun _ _ h => by rw [← Except.ok.inj h]; rfl
  | .unsigned v => fun _ _ h => by
    rw [← Except.ok.inj h, length_writeHead, CborValue.size]
  | .negative v => fun _ _ h => by
    rw [encodeValue] at h
    split_ifs at h
    rw [← Except.ok.inj h, length_writeHead, CborValue.size]
  | .bytes b => fun _ _ h => by
    rw [← Except.ok.inj h, List.length_append, length_writeHead, CborValue.size]
  | .text t => fun _ _ h => by
    rw [← Except.ok.inj h, List.length_append, length_writeHead, CborValue.size]
  | .array items => hasSize_array (hasSize_items items)
  | .map entries => hasSize_map (hasSize_entries entries)

theorem hasSize_items : ∀ items : List CborValue, ∀ item ∈ items, HasSize item
  | [] => fun _ h => nomatch h
  | item :: items => fun i h => by
    rcases List.mem_cons.mp h with heq | h
    · rw [heq]
      exact hasSize item
    · exact hasSize_items items i h

theorem hasSize_entries : ∀ entries : List (UInt64 × CborValue), ∀ e ∈ entries, HasSize e.2
  | [] => fun _ h => nomatch h
  | entry :: entries => fun e h => by
    rcases List.mem_cons.mp h with heq | h
    · rw [heq]
      exact hasSize_entry entry
    · exact hasSize_entries entries e h

theorem hasSize_entry : ∀ entry : UInt64 × CborValue, HasSize entry.2
  | (_, value) => hasSize value

end

/-- What is written in a safe number of bytes is read back. -/
theorem decode_encode {v : CborValue} {b : List UInt8} (h : encodeDeterministicCbor v = .ok b)
    (hlen : b.length ≤ maxSafeInteger) : decodeDeterministicCbor b = .ok v.canon :=
  decode_encode_of_short h (v.short_of_size_le (hasSize v 0 b h ▸ hlen))

/-- A value that encodes within a bound. -/
theorem encodeDeterministicCbor_ok_iff {v : CborValue} {n : ℕ} :
    (∃ b, encodeDeterministicCbor v = .ok b ∧ b.length ≤ n) ↔ Encodes 0 v ∧ v.size ≤ n := by
  constructor
  · rintro ⟨b, h, hlen⟩
    exact ⟨⟨b, h⟩, hasSize v 0 b h ▸ hlen⟩
  · rintro ⟨⟨b, h⟩, hsize⟩
    exact ⟨b, h, hasSize v 0 b h ▸ hsize⟩

end Encode
end Rclweb
