import Mathlib.Data.List.Basic
import Mathlib.Data.Nat.Notation

/-!
# Byte arrays that are written in place

The arrays of a program live in a heap and are known by their addresses.  `set` and `copyWithin`
write into an array, `subarray` looks at a part of one; a slice is a part in an array of its own.
What is not written keeps its bytes (`read_write_of_ne`, `read_alloc_of_lt`).
-/

namespace Rclweb
namespace TypedArray

/-- The bytes from `start` to `stop`, as far as there are any. -/
def subarray (a : List UInt8) (start stop : ℕ) : List UInt8 := (a.drop start).take (stop - start)

/-- An array with another one copied in at an offset, unless that goes over its end. -/
def set (a src : List UInt8) (offset : ℕ) : Option (List UInt8) :=
  if offset + src.length ≤ a.length then
    some (a.take offset ++ (src ++ a.drop (offset + src.length)))
  else none

/-- An array with a part of it copied to `target`; the two places may overlap. -/
def copyWithin (a : List UInt8) (target start stop : ℕ) : List UInt8 :=
  let count := min (subarray a start stop).length (a.length - target)
  a.take target ++ ((subarray a start stop).take count ++ a.drop (target + count))

/-- The arrays of a program. -/
structure Heap where
  arrays : List (List UInt8)
  deriving DecidableEq, Repr

namespace Heap

def empty : Heap := ⟨[]⟩

def read (h : Heap) (address : ℕ) : List UInt8 := h.arrays.getD address []

/-- A new array, with its address. -/
def alloc (h : Heap) (bytes : List UInt8) : Heap × ℕ := (⟨h.arrays ++ [bytes]⟩, h.arrays.length)

def write (h : Heap) (address : ℕ) (bytes : List UInt8) : Heap := ⟨h.arrays.set address bytes⟩

/-- The addresses in use. -/
def size (h : Heap) : ℕ := h.arrays.length

variable {h : Heap} {address other : ℕ} {bytes : List UInt8}

@[simp] theorem size_alloc : (h.alloc bytes).1.size = h.size + 1 := List.length_append

@[simp] theorem size_write : (h.write address bytes).size = h.size := List.length_set

theorem read_alloc_self : (h.alloc bytes).1.read (h.alloc bytes).2 = bytes := by
  simp [alloc, read]

theorem read_alloc_of_lt (hlt : address < h.size) :
    (h.alloc bytes).1.read address = h.read address := by
  unfold size at hlt
  simp [alloc, read, List.getElem?_append_left hlt]

theorem read_write_self (hlt : address < h.size) :
    (h.write address bytes).read address = bytes := by
  unfold size at hlt
  simp [write, read, hlt]

theorem read_write_of_ne (hne : address ≠ other) :
    (h.write address bytes).read other = h.read other := by
  simp [write, read, List.getElem?_set_ne hne]

end Heap

variable {a b src : List UInt8} {start stop offset : ℕ}

theorem length_subarray (hstop : stop ≤ a.length) :
    (subarray a start stop).length = stop - start := by
  rw [subarray, List.length_take, List.length_drop]
  omega

theorem set_eq_some_iff : set a src offset = some b ↔
    offset + src.length ≤ a.length ∧ a.take offset ++ (src ++ a.drop (offset + src.length)) = b := by
  unfold set
  by_cases h : offset + src.length ≤ a.length
  · rw [if_pos h, Option.some.injEq, and_iff_right h]
  · rw [if_neg h]
    exact ⟨nofun, fun hb => absurd hb.1 h⟩

theorem length_of_set (h : set a src offset = some b) : b.length = a.length := by
  obtain ⟨hfits, rfl⟩ := set_eq_some_iff.mp h
  simp only [List.length_append, List.length_take, List.length_drop]
  omega

/-- What is copied in stands behind what was there. -/
theorem subarray_of_set (h : set a src offset = some b) (hstart : start ≤ offset) :
    subarray b start (offset + src.length) = subarray a start offset ++ src := by
  obtain ⟨hfits, rfl⟩ := set_eq_some_iff.mp h
  have hlength : (a.take offset).length = offset := by
    rw [List.length_take]
    omega
  have hfront : ((a.take offset).drop start).length = offset - start := by
    rw [List.length_drop, hlength]
  rw [subarray, subarray, List.drop_append_of_le_length (by omega),
    ← List.append_assoc, List.take_append_of_le_length, List.take_of_length_le, List.drop_take]
  · rw [List.length_append, hfront]
    omega
  · rw [List.length_append, hfront]
    omega

/-- A part that is copied to the front stands at the front. -/
theorem subarray_copyWithin (hstop : stop ≤ a.length) :
    subarray (copyWithin a 0 start stop) 0 (stop - start) = subarray a start stop := by
  have hlength : (subarray a start stop).length = stop - start := length_subarray hstop
  have hcount : min (subarray a start stop).length (a.length - 0) = stop - start := by
    rw [hlength]
    omega
  unfold copyWithin
  dsimp only
  rw [hcount, List.take_zero, List.nil_append, subarray, List.drop_zero, Nat.sub_zero,
    List.take_append_of_le_length, List.take_take, Nat.min_self,
    List.take_of_length_le (Nat.le_of_eq hlength)]
  · rewrite [List.length_take, hlength, Nat.min_self]
    exact Nat.le_refl _

theorem length_copyWithin (hstop : stop ≤ a.length) :
    (copyWithin a 0 start stop).length = a.length := by
  have hlength : (subarray a start stop).length = stop - start := length_subarray hstop
  unfold copyWithin
  simp only [List.take_zero, List.nil_append, List.length_append, List.length_take,
    List.length_drop, hlength]
  omega

end TypedArray
end Rclweb
