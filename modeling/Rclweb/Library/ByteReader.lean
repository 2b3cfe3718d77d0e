import Mathlib.Data.List.Basic
import Mathlib.Tactic.Ring
import Rclweb.Library.BigEndian

/-!
# Reading records off a byte string

A reader takes values off the front of a byte string.  `need` asks for bytes to be there and fails
when they are not; the reads themselves take what is there, and a number reads as if zeros
followed.

* `Reads p bytes a`: on the bytes of a value the reader gives the value and leaves what follows.
  The rules put the reader of a record together from those of its parts.
* `Yields p P`: whatever the bytes, a value that is read has a property.
-/

namespace Rclweb

/-! ## Little-endian numbers -/

namespace LittleEndian

/-- The `k` low-order bytes of `n`, least significant first. -/
def toBytes : ℕ → ℕ → List UInt8
  | 0, _ => []
  | k + 1, n => UInt8.ofNat n :: toBytes k (n / 256)

/-- The number a byte string spells, least significant byte first. -/
def ofBytes : List UInt8 → ℕ
  | [] => 0
  | b :: bytes => b.toNat + 256 * ofBytes bytes

@[simp] theorem length_toBytes (k n : ℕ) : (toBytes k n).length = k := by
  induction k generalizing n with
  | zero => rfl
  | succ k ih => simp [toBytes, ih]

theorem ofBytes_toBytes (k n : ℕ) : ofBytes (toBytes k n) = n % 256 ^ k := by
  induction k generalizing n with
  | zero => simp [toBytes, ofBytes, Nat.mod_one]
  | succ k ih =>
    have hsplit : n % (256 * 256 ^ k) = n % 256 + 256 * (n / 256 % 256 ^ k) := Nat.mod_mul
    have hpow : 256 ^ (k + 1) = 256 * 256 ^ k := pow_succ' 256 k
    have hhead : (UInt8.ofNat n).toNat = n % 256 := UInt8.toNat_ofNat'
    rw [toBytes, ofBytes, ih, hhead, hpow, hsplit]

theorem ofBytes_lt {bytes : List UInt8} {k : ℕ} (h : bytes.length ≤ k) : ofBytes bytes < 256 ^ k := by
  induction bytes generalizing k with
  | nil => exact Nat.pow_pos (by norm_num)
  | cons b bytes ih =>
    obtain ⟨k, rfl⟩ : ∃ j, k = j + 1 := Nat.exists_eq_succ_of_ne_zero (by simp at h; omega)
    have hrest := ih (k := k) (by simpa using h)
    have hb : b.toNat < 256 := b.toNat_lt
    rw [ofBytes, pow_succ']
    omega

theorem toBytes_mod (k n : ℕ) : toBytes k (n % 256 ^ k) = toBytes k n := by
  induction k generalizing n with
  | zero => rfl
  | succ k ih =>
    have hdiv : n % (256 * 256 ^ k) / 256 = n / 256 % 256 ^ k := Nat.mod_mul_right_div_self n 256 _
    have hhead : UInt8.ofNat (n % (256 * 256 ^ k)) = UInt8.ofNat n := by
      apply UInt8.toNat_inj.mp
      rw [UInt8.toNat_ofNat', UInt8.toNat_ofNat']
      exact Nat.mod_mul_right_mod n 256 _
    rw [toBytes, toBytes, pow_succ', hhead, hdiv, ih]

end LittleEndian

/-! ## Readers -/

/-- A computation that takes values off the front of a byte string, or fails. -/
abbrev ByteReader (ε α : Type) := StateT (List UInt8) (Except ε) α

namespace ByteReader

variable {ε α β : Type}

/-- Fail when fewer bytes are left. -/
def need (n : ℕ) (e : ε) : ByteReader ε Unit := fun bytes =>
  if bytes.length < n then .error e else .ok ((), bytes)

def fail (e : ε) : ByteReader ε α := fun _ => .error e

/-- The next bytes, fewer when fewer are left. -/
def take (n : ℕ) : ByteReader ε (List UInt8) := fun bytes => .ok (bytes.take n, bytes.drop n)

def skip (n : ℕ) : ByteReader ε Unit := fun bytes => .ok ((), bytes.drop n)

/-- The next byte, if there is one. -/
def byte : ByteReader ε (Option UInt8) := fun bytes => .ok (bytes.head?, bytes.drop 1)

/-- A number of `k` bytes. -/
def nat (k : ℕ) : ByteReader ε ℕ := fun bytes =>
  .ok (LittleEndian.ofBytes (bytes.take k), bytes.drop k)

/-- The same record a number of times. -/
def repeated (p : ByteReader ε α) : ℕ → ByteReader ε (List α)
  | 0 => pure []
  | n + 1 => do
    let a ← p
    let as ← repeated p n
    pure (a :: as)

/-! ## On the bytes of a value -/

/-- **The reader gives a value on its bytes**, whatever follows. -/
def Reads (p : ByteReader ε α) (bytes : List UInt8) (a : α) : Prop :=
  ∀ rest, p (bytes ++ rest) = .ok (a, rest)

theorem bind_apply (p : ByteReader ε α) (f : α → ByteReader ε β) (bytes : List UInt8) :
    (p >>= f) bytes = (p bytes) >>= fun r => f r.1 r.2 := rfl

theorem bind_of_ok {p : ByteReader ε α} {f : α → ByteReader ε β} {bytes rest : List UInt8} {a : α}
    (h : p bytes = .ok (a, rest)) : (p >>= f) bytes = f a rest := by
  rw [bind_apply, h]
  rfl

theorem reads_pure (a : α) : Reads (pure a : ByteReader ε α) [] a := fun _ => rfl

theorem Reads.bind {p : ByteReader ε α} {f : α → ByteReader ε β} {bytes bytes' : List UInt8}
    {a : α} {b : β} (h : Reads p bytes a) (h' : Reads (f a) bytes' b) :
    Reads (p >>= f) (bytes ++ bytes') b := by
  intro rest
  rw [List.append_assoc, bind_apply, h (bytes' ++ rest)]
  exact h' rest

/-- A read whose value is only put into a record. -/
theorem Reads.last {p : ByteReader ε α} {bytes : List UInt8} {a : α} {f : α → β}
    (h : Reads p bytes a) : Reads (p >>= fun a => pure (f a)) bytes (f a) := by
  have hpure : Reads (p >>= fun a => pure (f a)) (bytes ++ []) (f a) := h.bind (reads_pure (f a))
  rwa [List.append_nil] at hpure

/-- Bytes that are there can be asked for. -/
theorem Reads.need {f : Unit → ByteReader ε β} {n : ℕ} {e : ε} {bytes : List UInt8} {b : β}
    (hn : n ≤ bytes.length) (h : Reads (f ()) bytes b) :
    Reads (ByteReader.need n e >>= f) bytes b := by
  intro rest
  have hneed : ByteReader.need n e (bytes ++ rest) = .ok ((), bytes ++ rest) :=
    if_neg (by rw [List.length_append]; omega)
  rw [bind_apply, hneed]
  exact h rest

theorem reads_take {n : ℕ} {bytes : List UInt8} (h : bytes.length = n) :
    Reads (take n : ByteReader ε _) bytes bytes := by
  intro rest
  rw [take, List.take_left' h, List.drop_left' h]

theorem reads_skip {n : ℕ} {bytes : List UInt8} (h : bytes.length = n) :
    Reads (skip n : ByteReader ε _) bytes () := by
  intro rest
  rw [skip, List.drop_left' h]

theorem reads_byte (b : UInt8) : Reads (byte : ByteReader ε _) [b] (some b) := fun _ => rfl

/-- A number is read modulo its width. -/
theorem reads_nat_mod (k n : ℕ) :
    Reads (nat k : ByteReader ε _) (LittleEndian.toBytes k n) (n % 256 ^ k) := by
  intro rest
  have hlen := LittleEndian.length_toBytes k n
  rw [nat, List.take_left' hlen, List.drop_left' hlen, LittleEndian.ofBytes_toBytes]

theorem reads_nat {k n : ℕ} (h : n < 256 ^ k) :
    Reads (nat k : ByteReader ε _) (LittleEndian.toBytes k n) n := by
  have hmod := reads_nat_mod (ε := ε) k n
  rwa [Nat.mod_eq_of_lt h] at hmod

/-- Records one after the other. -/
theorem reads_repeated {γ : Type} {p : ByteReader ε α} {encode : γ → List UInt8} {value : γ → α}
    {items : List γ} (h : ∀ i ∈ items, Reads p (encode i) (value i)) :
    Reads (repeated p items.length) (items.flatMap encode) (items.map value) := by
  induction items with
  | nil => exact reads_pure []
  | cons i items ih =>
    have hrest := ih fun j hj => h j (List.mem_cons_of_mem i hj)
    rw [List.flatMap_cons, List.map_cons]
    refine (h i List.mem_cons_self).bind ?_
    rw [← List.append_nil (List.flatMap encode items)]
    exact hrest.bind (reads_pure _)

/-! ## Whatever the bytes -/

/-- **Every value that is read has a property.** -/
def Yields (p : ByteReader ε α) (P : α → Prop) : Prop :=
  ∀ bytes a rest, p bytes = .ok (a, rest) → P a

theorem yields_pure {a : α} {P : α → Prop} (h : P a) : Yields (pure a : ByteReader ε α) P := by
  rintro bytes b rest heq
  cases heq
  exact h

theorem Yields.bind {p : ByteReader ε α} {f : α → ByteReader ε β} {P : α → Prop} {Q : β → Prop}
    (h : Yields p P) (h' : ∀ a, P a → Yields (f a) Q) : Yields (p >>= f) Q := by
  intro bytes b rest heq
  rw [bind_apply] at heq
  cases hp : p bytes with
  | error e =>
    rw [hp] at heq
    cases heq
  | ok r =>
    rw [hp] at heq
    exact h' r.1 (h bytes r.1 r.2 hp) r.2 b rest heq

theorem yields_trivial (p : ByteReader ε α) : Yields p fun _ => True := fun _ _ _ _ => trivial

/-- A step whose value does not matter. -/
theorem Yields.after {p : ByteReader ε α} {f : α → ByteReader ε β} {Q : β → Prop}
    (h : ∀ a, Yields (f a) Q) : Yields (p >>= f) Q :=
  (yields_trivial p).bind fun a _ => h a

theorem yields_fail {e : ε} {P : α → Prop} : Yields (fail e : ByteReader ε α) P := by
  rintro bytes a rest heq
  cases heq

theorem yields_nat (k : ℕ) : Yields (nat k : ByteReader ε _) (· < 256 ^ k) := by
  rintro bytes a rest heq
  cases heq
  exact LittleEndian.ofBytes_lt (List.length_take_le k bytes)

theorem yields_take (n : ℕ) : Yields (take n : ByteReader ε _) (·.length ≤ n) := by
  rintro bytes a rest heq
  cases heq
  exact List.length_take_le n bytes

theorem yields_repeated {p : ByteReader ε α} {P : α → Prop} (h : Yields p P) (n : ℕ) :
    Yields (repeated p n) fun as => as.length = n ∧ ∀ a ∈ as, P a := by
  induction n with
  | zero => exact yields_pure ⟨rfl, nofun⟩
  | succ n ih =>
    refine h.bind fun a ha => ih.bind fun as has => yields_pure ⟨by rw [List.length_cons, has.1], ?_⟩
    intro b hb
    rcases List.mem_cons.mp hb with rfl | hb
    · exact ha
    · exact has.2 b hb

end ByteReader
end Rclweb
