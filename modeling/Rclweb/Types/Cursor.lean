import Rclweb.Cdr.Fields

/-!
# A cursor over bytes

The decoders of the browser and the packed decoder of the engine read at an offset of a byte
string and move on.  A read asks for its bytes first, and fails when fewer are left.

`Passes c b c'` says that `b` stands at a cursor and that the other cursor is behind it.  What a
field looks like at an offset is a *form*; `LaidAs form` puts the forms of fields one after
another, and `chain_stands_iff` says that a run of reads passes exactly such a layout.
-/

namespace Rclweb

open Attempts Cdr

namespace Types

/-- **Bytes and an offset into them.** -/
structure Cursor where
  bytes : List UInt8
  o : ℕ
  deriving DecidableEq, Repr

namespace Cursor

variable {ε : Type} {e : ε} {c c' : Cursor} {a b : List UInt8} {n : ℕ}

/-- The bytes from the offset on. -/
def rest (c : Cursor) : List UInt8 := c.bytes.drop c.o

def advance (c : Cursor) (n : ℕ) : Cursor := { c with o := c.o + n }

/-- Fail when fewer bytes are left. -/
def need (n : ℕ) (e : ε) : EStateM ε Cursor Unit := do
  let c ← get
  refuse (c.bytes.length < c.o + n) e

/-- The next bytes. -/
def take (n : ℕ) (e : ε) : EStateM ε Cursor (List UInt8) := do
  need n e
  let c ← get
  modify (·.advance n)
  pure (c.rest.take n)

/-- A little-endian number of `k` bytes. -/
def number (k : ℕ) (e : ε) : EStateM ε Cursor ℕ := CdrEndian.little.ofBytes <$> take k e

def u8 (e : ε) : EStateM ε Cursor UInt8 := UInt8.ofNat <$> number 1 e

def u16 (e : ε) : EStateM ε Cursor UInt16 := UInt16.ofNat <$> number 2 e

def u32 (e : ε) : EStateM ε Cursor UInt32 := UInt32.ofNat <$> number 4 e

def u64 (e : ε) : EStateM ε Cursor UInt64 := UInt64.ofNat <$> number 8 e

def i8 (e : ε) : EStateM ε Cursor Int8 := UInt8.toInt8 <$> u8 e

def i16 (e : ε) : EStateM ε Cursor Int16 := UInt16.toInt16 <$> u16 e

def i32 (e : ε) : EStateM ε Cursor Int32 := UInt32.toInt32 <$> u32 e

def i64 (e : ε) : EStateM ε Cursor Int64 := UInt64.toInt64 <$> u64 e

/-! ## Bytes that are passed -/

/-- **The bytes at a cursor, and the cursor behind them.** -/
structure Passes (c : Cursor) (b : List UInt8) (c' : Cursor) : Prop where
  fits : c.o + b.length ≤ c.bytes.length
  stands : b <+: c.rest
  next : c.advance b.length = c'

theorem Passes.le (h : Passes c b c') : c'.o ≤ c'.bytes.length := by
  obtain ⟨hfits, -, rfl⟩ := h
  exact hfits

theorem Passes.bytes_eq (h : Passes c b c') : c'.bytes = c.bytes := by
  obtain ⟨-, -, rfl⟩ := h
  rfl

theorem Passes.o_eq (h : Passes c b c') : c'.o = c.o + b.length := by
  obtain ⟨-, -, rfl⟩ := h
  rfl

theorem rest_advance (c : Cursor) (n : ℕ) : (c.advance n).rest = c.rest.drop n := by
  rw [rest, rest, List.drop_drop]
  rfl

/-- What is passed is what stood there, and the rest is what is left. -/
theorem Passes.rest_eq (h : Passes c b c') : c.rest = b ++ c'.rest := by
  obtain ⟨-, ⟨tail, htail⟩, rfl⟩ := h
  rw [rest_advance, ← htail, List.drop_left]

theorem passes_nil (h : c.o ≤ c.bytes.length) : Passes c [] c' ↔ c = c' :=
  ⟨fun hpass => hpass.next, fun heq => ⟨h, List.nil_prefix, heq⟩⟩

theorem passes_append_iff : Passes c (a ++ b) c' ↔ ∃ d, Passes c a d ∧ Passes d b c' := by
  constructor
  · rintro ⟨hfits, ⟨tail, htail⟩, rfl⟩
    rw [List.length_append] at hfits
    have hmid : (c.advance a.length).rest = b ++ tail := by
      rw [rest_advance, ← htail, List.append_assoc, List.drop_left]
    refine ⟨c.advance a.length, ⟨by omega, ⟨b ++ tail, ?_⟩, rfl⟩, ⟨?_, ⟨tail, hmid.symm⟩, ?_⟩⟩
    · rw [← htail, List.append_assoc]
    · show c.o + a.length + b.length ≤ c.bytes.length
      omega
    · rw [List.length_append, advance, advance, advance, Nat.add_assoc]
  · rintro ⟨d, ha, hb⟩
    have hsplit := ha.rest_eq
    rw [hb.rest_eq, ← List.append_assoc] at hsplit
    obtain ⟨-, -, rfl⟩ := ha
    obtain ⟨hfits, -, rfl⟩ := hb
    refine ⟨?_, ⟨_, hsplit.symm⟩, ?_⟩
    · rw [List.length_append, ← Nat.add_assoc]
      exact hfits
    · rw [List.length_append, advance, advance, advance, Nat.add_assoc]

/-! ## The reads -/

@[simp] theorem need_ok_iff {u : Unit} :
    need n e c = .ok u c' ↔ c.o + n ≤ c.bytes.length ∧ c = c' := by
  simp only [need, bind_ok_iff, get_ok_iff, refuse_ok_iff, not_lt]
  constructor
  · rintro ⟨_, _, ⟨rfl, rfl⟩, hfits, rfl⟩
    exact ⟨hfits, rfl⟩
  · rintro ⟨hfits, rfl⟩
    exact ⟨_, _, ⟨rfl, rfl⟩, hfits, rfl⟩

theorem length_rest (c : Cursor) : c.rest.length = c.bytes.length - c.o := List.length_drop

theorem take_ok_iff : take n e c = .ok b c' ↔ b.length = n ∧ Passes c b c' := by
  simp only [take, bind_ok_iff, get_ok_iff, modify_ok_iff, need_ok_iff, pure_ok_iff]
  constructor
  · rintro ⟨_, _, ⟨hfits, rfl⟩, _, _, ⟨rfl, rfl⟩, _, _, rfl, rfl, rfl⟩
    have hlen : (c.rest.take n).length = n := by
      rw [List.length_take, length_rest]
      omega
    refine ⟨hlen, ⟨by rwa [hlen], List.take_prefix _ _, by rw [hlen]⟩⟩
  · rintro ⟨rfl, hfits, ⟨tail, htail⟩, rfl⟩
    refine ⟨(), c, ⟨hfits, rfl⟩, c, c, ⟨rfl, rfl⟩, ⟨⟩, _, rfl, ?_, rfl⟩
    rw [← htail, List.take_left]

theorem number_ok_iff {k : ℕ} :
    number k e c = .ok n c' ↔ n < 256 ^ k ∧ Passes c (CdrEndian.little.toBytes k n) c' := by
  rw [number, map_ok_iff]
  constructor
  · rintro ⟨b, htake, rfl⟩
    obtain ⟨rfl, hpass⟩ := take_ok_iff.mp htake
    have hlt := CdrEndian.little.ofBytes_lt b
    refine ⟨hlt, ?_⟩
    rwa [← (CdrEndian.little.eq_toBytes_iff hlt).mpr ⟨rfl, rfl⟩]
  · rintro ⟨hlt, hpass⟩
    obtain ⟨hlen, hof⟩ := (CdrEndian.little.eq_toBytes_iff hlt).mp rfl
    exact ⟨_, take_ok_iff.mpr ⟨hlen, hpass⟩, hof⟩

/-- A read that wraps the number it takes in a type of `k`-byte numbers. -/
theorem map_number_ok_iff {k : ℕ} {α : Type} {ofNat : ℕ → α} {toNat : α → ℕ}
    (hto : ∀ n < 256 ^ k, toNat (ofNat n) = n) (hlt : ∀ v, toNat v < 256 ^ k)
    (hof : ∀ v, ofNat (toNat v) = v) {v : α} :
    (ofNat <$> number k e) c = .ok v c' ↔
      Passes c (CdrEndian.little.toBytes k (toNat v)) c' := by
  rw [map_ok_iff]
  constructor
  · rintro ⟨n, hread, rfl⟩
    obtain ⟨hn, hpass⟩ := number_ok_iff.mp hread
    rwa [hto n hn]
  · exact fun hpass => ⟨toNat v, number_ok_iff.mpr ⟨hlt v, hpass⟩, hof v⟩

theorem u8_ok_iff {v : UInt8} :
    u8 e c = .ok v c' ↔ Passes c (CdrEndian.little.toBytes 1 v.toNat) c' :=
  map_number_ok_iff (fun _ hn => UInt8.toNat_ofNat_of_lt' hn) (fun v => v.toNat_lt)
    (fun _ => UInt8.ofNat_toNat)

theorem u16_ok_iff {v : UInt16} :
    u16 e c = .ok v c' ↔ Passes c (CdrEndian.little.toBytes 2 v.toNat) c' :=
  map_number_ok_iff (fun _ hn => UInt16.toNat_ofNat_of_lt' hn) (fun v => v.toNat_lt)
    (fun _ => UInt16.ofNat_toNat)

theorem u32_ok_iff {v : UInt32} :
    u32 e c = .ok v c' ↔ Passes c (CdrEndian.little.toBytes 4 v.toNat) c' :=
  map_number_ok_iff (fun _ hn => UInt32.toNat_ofNat_of_lt' hn) (fun v => v.toNat_lt)
    (fun _ => UInt32.ofNat_toNat)

theorem u64_ok_iff {v : UInt64} :
    u64 e c = .ok v c' ↔ Passes c (CdrEndian.little.toBytes 8 v.toNat) c' :=
  map_number_ok_iff (fun _ hn => UInt64.toNat_ofNat_of_lt' hn) (fun v => v.toNat_lt)
    (fun _ => UInt64.ofNat_toNat)

theorem i8_ok_iff {v : Int8} :
    i8 e c = .ok v c' ↔ Passes c (CdrEndian.little.toBytes 1 v.toUInt8.toNat) c' := by
  rw [← u8_ok_iff (e := e), ← Int8.toInt8_toUInt8 v]
  exact map_injective_ok_iff fun a a' h => by simpa using congrArg Int8.toUInt8 h

theorem i16_ok_iff {v : Int16} :
    i16 e c = .ok v c' ↔ Passes c (CdrEndian.little.toBytes 2 v.toUInt16.toNat) c' := by
  rw [← u16_ok_iff (e := e), ← Int16.toInt16_toUInt16 v]
  exact map_injective_ok_iff fun a a' h => by simpa using congrArg Int16.toUInt16 h

theorem i32_ok_iff {v : Int32} :
    i32 e c = .ok v c' ↔ Passes c (CdrEndian.little.toBytes 4 v.toUInt32.toNat) c' := by
  rw [← u32_ok_iff (e := e), ← Int32.toInt32_toUInt32 v]
  exact map_injective_ok_iff fun a a' h => by simpa using congrArg Int32.toUInt32 h

theorem i64_ok_iff {v : Int64} :
    i64 e c = .ok v c' ↔ Passes c (CdrEndian.little.toBytes 8 v.toUInt64.toNat) c' := by
  rw [← u64_ok_iff (e := e), ← Int64.toInt64_toUInt64 v]
  exact map_injective_ok_iff fun a a' h => by simpa using congrArg Int64.toUInt64 h

/-! ## Fields laid in forms -/

section Forms

variable {form : ℕ → CdrField → List UInt8 → Prop} {f : CdrField} {fields back : List CdrField}
  {bs : List UInt8} {pos : ℕ}

/-- **A field in its form at a cursor.** -/
def Stands (form : ℕ → CdrField → List UInt8 → Prop) (f : CdrField) (c c' : Cursor) : Prop :=
  ∃ b, form c.o f b ∧ Passes c b c'

/-- **Fields in their forms, one after another from a position.** -/
def LaidAs (form : ℕ → CdrField → List UInt8 → Prop) : ℕ → List CdrField → List UInt8 → Prop
  | _, [], bs => bs = []
  | pos, f :: fields, bs => ∃ b rest, form pos f b ∧ bs = b ++ rest ∧
      LaidAs form (pos + b.length) fields rest

theorem Stands.le (h : Stands form f c c') : c'.o ≤ c'.bytes.length := by
  obtain ⟨b, -, hpass⟩ := h
  exact hpass.le

/-- **A run over fields passes a layout of them.** -/
theorem chain_stands_iff (hc : c.o ≤ c.bytes.length) :
    Chain (Stands form) fields c c' ↔ ∃ laid, LaidAs form c.o fields laid ∧ Passes c laid c' := by
  induction fields generalizing c with
  | nil =>
    constructor
    · intro h
      exact ⟨[], rfl, (passes_nil hc).mpr h⟩
    · rintro ⟨laid, rfl, hpass⟩
      exact (passes_nil hc).mp hpass
  | cons f fields ih =>
    rw [chain_cons]
    constructor
    · rintro ⟨d, ⟨b, hform, hpass⟩, hrest⟩
      obtain ⟨laid, hlaid, hpassed⟩ := (ih hpass.le).mp hrest
      rw [hpass.o_eq] at hlaid
      exact ⟨b ++ laid, ⟨b, laid, hform, rfl, hlaid⟩, passes_append_iff.mpr ⟨d, hpass, hpassed⟩⟩
    · rintro ⟨laid, ⟨b, rest, hform, rfl, hlaid⟩, hpassed⟩
      obtain ⟨d, hpass, hrest⟩ := passes_append_iff.mp hpassed
      rw [← hpass.o_eq] at hlaid
      exact ⟨d, ⟨b, hform, hpass⟩, (ih hpass.le).mpr ⟨rest, hlaid, hrest⟩⟩

end Forms

end Cursor
end Types
end Rclweb
