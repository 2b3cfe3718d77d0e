import Mathlib.Tactic.Ring
import Mathlib.Tactic.Linarith

/-!
# Fixed-width big-endian numbers and UTF-8 text

The two conversions between numbers or text and byte strings that a binary wire
format needs.  Nothing here knows of any particular format.

* `toBytes k n` writes the `k` low-order bytes of `n`, most significant first, and
  `ofBytes` reads any byte string back by the usual shift-and-add loop.  They are
  inverse to each other on `k`-byte strings (`toBytes_ofBytes`) and modulo `256 ^ k`
  on numbers (`ofBytes_toBytes`).
* `utf8` and `ofUtf8?` are Lean's own strings seen as byte lists.
-/

namespace Rclweb
namespace BigEndian

/-- The `k` low-order bytes of `n`, most significant first. -/
def toBytes : ℕ → ℕ → List UInt8
  | 0, _ => []
  | k + 1, n => UInt8.ofNat (n / 256 ^ k) :: toBytes k n

/-- The number a byte string spells, most significant byte first. -/
def ofBytes (bytes : List UInt8) : ℕ :=
  bytes.foldl (fun n b => n * 256 + b.toNat) 0

@[simp] theorem length_toBytes (k n : ℕ) : (toBytes k n).length = k := by
  induction k with
  | zero => rfl
  | succ k ih => simp [toBytes, ih]

/-- The loop with an accumulator is the loop from zero plus the shifted accumulator. -/
theorem foldl_eq (bytes : List UInt8) (n : ℕ) :
    bytes.foldl (fun n b => n * 256 + b.toNat) n = n * 256 ^ bytes.length + ofBytes bytes := by
  induction bytes generalizing n with
  | nil => simp [ofBytes]
  | cons b bytes ih =>
    simp only [ofBytes, List.foldl_cons, List.length_cons]
    rw [ih, ih (0 * 256 + b.toNat)]
    ring

theorem ofBytes_cons (b : UInt8) (bytes : List UInt8) :
    ofBytes (b :: bytes) = b.toNat * 256 ^ bytes.length + ofBytes bytes := by
  have h := foldl_eq bytes (0 * 256 + b.toNat)
  simpa [ofBytes] using h

theorem ofBytes_lt (bytes : List UInt8) : ofBytes bytes < 256 ^ bytes.length := by
  induction bytes with
  | nil => simp [ofBytes]
  | cons b bytes ih =>
    have hb : b.toNat < 256 := b.toNat_lt
    rw [ofBytes_cons, List.length_cons, pow_succ]
    nlinarith [Nat.pos_of_ne_zero (pow_ne_zero bytes.length (by norm_num : (256 : ℕ) ≠ 0))]

/-- Writing and reading back keeps the number modulo the width. -/
theorem ofBytes_toBytes (k n : ℕ) : ofBytes (toBytes k n) = n % 256 ^ k := by
  induction k with
  | zero => simp [toBytes, ofBytes, Nat.mod_one]
  | succ k ih =>
    have hsplit : n % 256 ^ (k + 1) = n % 256 ^ k + 256 ^ k * (n / 256 ^ k % 256) :=
      Nat.mod_mul
    rw [toBytes, ofBytes_cons, ih, length_toBytes, UInt8.toNat_ofNat', hsplit]
    ring

theorem ofBytes_toBytes_of_lt {k n : ℕ} (h : n < 256 ^ k) : ofBytes (toBytes k n) = n := by
  rw [ofBytes_toBytes, Nat.mod_eq_of_lt h]

/-- The bytes of a number depend on it modulo the width only. -/
theorem toBytes_add_mul (k n m : ℕ) : toBytes k (m * 256 ^ k + n) = toBytes k n := by
  induction k generalizing m with
  | zero => rfl
  | succ k ih =>
    have hpos : 0 < 256 ^ k := by positivity
    have hdiv : (m * 256 ^ (k + 1) + n) / 256 ^ k = m * 256 + n / 256 ^ k := by
      rw [pow_succ, show m * (256 ^ k * 256) + n = n + 256 ^ k * (m * 256) by ring,
        Nat.add_mul_div_left _ _ hpos]
      ring
    have htail : toBytes k (m * 256 ^ (k + 1) + n) = toBytes k n := by
      rw [pow_succ, show m * (256 ^ k * 256) = (m * 256) * 256 ^ k by ring]
      exact ih (m * 256)
    have hhead : UInt8.ofNat (m * 256 + n / 256 ^ k) = UInt8.ofNat (n / 256 ^ k) := by
      apply UInt8.toNat_inj.mp
      simp
    rw [toBytes, toBytes, hdiv, htail, hhead]

/-- Reading and writing back gives the byte string itself. -/
theorem toBytes_ofBytes (bytes : List UInt8) : toBytes bytes.length (ofBytes bytes) = bytes := by
  induction bytes with
  | nil => rfl
  | cons b bytes ih =>
    have hlt := ofBytes_lt bytes
    have hdiv : (b.toNat * 256 ^ bytes.length + ofBytes bytes) / 256 ^ bytes.length = b.toNat := by
      rw [Nat.add_comm, Nat.mul_comm, Nat.add_mul_div_left _ _ (by positivity),
        Nat.div_eq_of_lt hlt, Nat.zero_add]
    rw [List.length_cons, toBytes, ofBytes_cons, toBytes_add_mul, ih, hdiv, UInt8.ofNat_toNat]

/-- The UTF-8 bytes of a text. -/
def utf8 (s : String) : List UInt8 := s.toByteArray.data.toList

/-- The text a byte string spells, when it is valid UTF-8. -/
def ofUtf8? (bytes : List UInt8) : Option String := String.fromUTF8? ⟨⟨bytes⟩⟩

@[simp] theorem ofUtf8?_utf8 (s : String) : ofUtf8? (utf8 s) = some s := by
  simp [ofUtf8?, utf8, String.fromUTF8?, String.fromUTF8, s.isValidUTF8]

theorem utf8_of_ofUtf8? {bytes : List UInt8} {s : String} (h : ofUtf8? bytes = some s) :
    utf8 s = bytes := by
  unfold ofUtf8? String.fromUTF8? at h
  split at h
  · rw [Option.some.injEq] at h
    subst h
    rfl
  · contradiction

end BigEndian
end Rclweb
