import Rclweb.Library.Attempts
import Rclweb.Library.BigEndian

/-!
# CDR errors, resource ceilings and byte order

The fault taxonomy of the CDR codec, the ceilings of one encode or decode, the byte order of a
stream and the alignment rule.  Sizes are those of a host with 64-bit `usize`.
-/

namespace Rclweb

open BigEndian Attempts

namespace Cdr

/-! ## Errors -/

/-- **Stable fault code from the CDR taxonomy.** -/
inductive CdrErrorCode where
  | invalidEncapsulation
  | unsupportedRepresentation
  | invalidLimits
  | truncated
  | invalidBoolean
  | invalidUtf8
  | invalidWstringScalar
  | missingStringTerminator
  | boundsExceeded
  | lengthOverflow
  | alignmentOverflow
  | trailingData
  deriving DecidableEq, Repr

/-- **A structured CDR fault**: the absolute fault site, the requested size and the capacity
there. -/
structure CdrError where
  code : CdrErrorCode
  offset : ℕ
  needed : ℕ
  remaining : ℕ
  deriving DecidableEq, Repr

namespace CdrError

def invalidEncapsulation (offset needed remaining : ℕ) : CdrError :=
  ⟨.invalidEncapsulation, offset, needed, remaining⟩

def unsupportedRepresentation (offset remaining : ℕ) : CdrError :=
  ⟨.unsupportedRepresentation, offset, 0, remaining⟩

/-- `needed` is the rejected limit and `remaining` the constraint it breaks. -/
def invalidLimits (needed remaining : ℕ) : CdrError := ⟨.invalidLimits, 0, needed, remaining⟩

def truncated (offset needed remaining : ℕ) : CdrError := ⟨.truncated, offset, needed, remaining⟩

def invalidBoolean (offset remaining : ℕ) : CdrError := ⟨.invalidBoolean, offset, 1, remaining⟩

def invalidUtf8 (offset needed remaining : ℕ) : CdrError :=
  ⟨.invalidUtf8, offset, needed, remaining⟩

def missingStringTerminator (offset needed remaining : ℕ) : CdrError :=
  ⟨.missingStringTerminator, offset, needed, remaining⟩

def invalidWstringScalar (offset remaining : ℕ) : CdrError :=
  ⟨.invalidWstringScalar, offset, 4, remaining⟩

def boundsExceeded (offset needed remaining : ℕ) : CdrError :=
  ⟨.boundsExceeded, offset, needed, remaining⟩

def lengthOverflow (offset needed remaining : ℕ) : CdrError :=
  ⟨.lengthOverflow, offset, needed, remaining⟩

def alignmentOverflow (offset needed remaining : ℕ) : CdrError :=
  ⟨.alignmentOverflow, offset, needed, remaining⟩

def trailingData (offset remaining : ℕ) : CdrError := ⟨.trailingData, offset, 0, remaining⟩

end CdrError

/-- A size as an error field, with `0` for one above the host's range. -/
def sizeFieldU64 (v : ℕ) : ℕ := if 2 ^ 64 ≤ v then 0 else v

/-! ## Ceilings -/

/-- Default and absolute maximum of stream bytes (64 MiB). -/
def defaultMaxStreamBytes : ℕ := 67108864

/-- Default and absolute maximum nesting depth. -/
def defaultMaxNestingDepth : ℕ := 64

/-- Default maximum of owned temporary storage of one codec operation. -/
def defaultMaxTemporaryAllocation : ℕ := 67108864

def minMaxStreamBytes : ℕ := 4

def minMaxNestingDepth : ℕ := 1

/-- Absolute offset of the body, behind the encapsulation header. -/
def bodyOrigin : ℕ := 4

def headerLength : ℕ := 4

def representationCdrLe : UInt16 := 0x0001

def representationCdrBe : UInt16 := 0x0000

/-- **Codec resource ceilings** for one encode or decode. -/
structure CdrLimits where
  maxStreamBytes : ℕ
  maxNestingDepth : ℕ
  maxTemporaryAllocation : ℕ
  deriving DecidableEq, Repr

namespace CdrLimits

def defaults : CdrLimits :=
  ⟨defaultMaxStreamBytes, defaultMaxNestingDepth, defaultMaxTemporaryAllocation⟩

/-- The absolute ranges, shared by reader and writer. -/
def validate (limits : CdrLimits) : Except CdrError Unit :=
  if limits.maxStreamBytes < minMaxStreamBytes ∨ defaultMaxStreamBytes < limits.maxStreamBytes then
    .error (.invalidLimits limits.maxStreamBytes defaultMaxStreamBytes)
  else if limits.maxNestingDepth < minMaxNestingDepth ∨
      defaultMaxNestingDepth < limits.maxNestingDepth then
    .error (.invalidLimits limits.maxNestingDepth defaultMaxNestingDepth)
  else if limits.maxStreamBytes < limits.maxTemporaryAllocation then
    .error (.invalidLimits limits.maxTemporaryAllocation limits.maxStreamBytes)
  else
    .ok ()

/-- **Limits within the absolute ranges.** -/
structure Valid (limits : CdrLimits) : Prop where
  stream_ge : minMaxStreamBytes ≤ limits.maxStreamBytes
  stream_le : limits.maxStreamBytes ≤ defaultMaxStreamBytes
  nesting_ge : minMaxNestingDepth ≤ limits.maxNestingDepth
  nesting_le : limits.maxNestingDepth ≤ defaultMaxNestingDepth
  temporary_le : limits.maxTemporaryAllocation ≤ limits.maxStreamBytes

theorem validate_eq_ok_iff {limits : CdrLimits} : limits.validate = .ok () ↔ limits.Valid := by
  unfold validate
  constructor
  · intro h
    split_ifs at h with hstream hnesting htemporary
    exact ⟨by omega, by omega, by omega, by omega, by omega⟩
  · rintro ⟨h₁, h₂, h₃, h₄, h₅⟩
    rw [if_neg (by omega), if_neg (by omega), if_neg (by omega)]

theorem defaults_valid : defaults.Valid := validate_eq_ok_iff.mp rfl

end CdrLimits

/-- Padding bytes required so that `(offset - bodyOrigin) % align = 0`. -/
def paddingFor (offset align : ℕ) : ℕ :=
  if align ≤ 1 then 0
  else if (offset - bodyOrigin) % align = 0 then 0
  else align - (offset - bodyOrigin) % align

theorem paddingFor_one (offset : ℕ) : paddingFor offset 1 = 0 := rfl

theorem paddingFor_lt {align : ℕ} (halign : 0 < align) (offset : ℕ) :
    paddingFor offset align < align := by
  unfold paddingFor
  have hrem := Nat.mod_lt (offset - bodyOrigin) halign
  split_ifs <;> omega

/-- Behind the padding the position is aligned, relative to the body. -/
theorem paddingFor_aligned {offset : ℕ} (horigin : bodyOrigin ≤ offset) {align : ℕ}
    (halign : 0 < align) : (offset + paddingFor offset align - bodyOrigin) % align = 0 := by
  unfold paddingFor
  split_ifs with hone hrem
  · have : align = 1 := by omega
    subst this
    exact Nat.mod_one _
  · rwa [Nat.add_zero]
  · have hlt := Nat.mod_lt (offset - bodyOrigin) halign
    have hdiv := Nat.div_add_mod (offset - bodyOrigin) align
    set q := (offset - bodyOrigin) / align
    have hsum : offset + (align - (offset - bodyOrigin) % align) - bodyOrigin
        = align * (q + 1) := by
      rw [Nat.mul_add, Nat.mul_one]
      omega
    rw [hsum, Nat.mul_mod_right]

/-- Effective writer capacity over the full stream, header included. -/
def writerCapacity (limits : CdrLimits) : ℕ :=
  min limits.maxStreamBytes limits.maxTemporaryAllocation

/-- `a + b` when the host's `usize` holds it. -/
def checkedAddUsize (a b : ℕ) : Option ℕ := if a + b < 2 ^ 64 then some (a + b) else none

theorem checkedAddUsize_eq_some_iff {a b c : ℕ} :
    checkedAddUsize a b = some c ↔ a + b < 2 ^ 64 ∧ a + b = c := by
  unfold checkedAddUsize
  by_cases h : a + b < 2 ^ 64
  · rw [if_pos h, Option.some.injEq]
    exact ⟨fun hc => ⟨h, hc⟩, fun hc => hc.2⟩
  · rw [if_neg h]
    exact ⟨nofun, fun hc => absurd hc.1 h⟩

/-- A `u32` type bound as a host ceiling. -/
def typeBoundCeiling (bound : Option UInt32) : Option ℕ := bound.map UInt32.toNat

/-- A count is at most the bound, when there is one. -/
def WithinBound (bound : Option UInt32) (n : ℕ) : Prop := ∀ b ∈ bound, n ≤ b.toNat

instance (bound : Option UInt32) (n : ℕ) : Decidable (WithinBound bound n) :=
  match bound with
  | none => .isTrue (by simp [WithinBound])
  | some b => decidable_of_iff (n ≤ b.toNat) (by simp [WithinBound])

/-- The check of a count against an optional bound, at a fault site. -/
def checkBound {σ : Type} (bound : Option ℕ) (n offset : ℕ) : EStateM CdrError σ Unit :=
  match bound with
  | some b => refuse (b < n) (.boundsExceeded offset n b)
  | none => pure ()

@[simp] theorem checkBound_map_ok_iff {σ : Type} {bound : Option UInt32} {n offset : ℕ} {s t : σ}
    {u : Unit} : checkBound (bound.map UInt32.toNat) n offset s = .ok u t ↔
      WithinBound bound n ∧ s = t := by
  cases bound <;> simp [checkBound, WithinBound]

@[simp] theorem checkBound_ok_iff {σ : Type} {bound : Option UInt32} {n offset : ℕ} {s t : σ}
    {u : Unit} : checkBound (typeBoundCeiling bound) n offset s = .ok u t ↔
      WithinBound bound n ∧ s = t :=
  checkBound_map_ok_iff

/-! ## Byte order -/

/-- Stream byte order, from the representation identifier. -/
inductive CdrEndian where
  | big
  | little
  deriving DecidableEq, Repr

namespace CdrEndian

def representation : CdrEndian → UInt16
  | .little => representationCdrLe
  | .big => representationCdrBe

/-- The `k` low-order bytes of a number in stream order (`to_le_bytes`, `to_be_bytes`). -/
def toBytes (endian : CdrEndian) (k n : ℕ) : List UInt8 :=
  match endian with
  | .little => (BigEndian.toBytes k n).reverse
  | .big => BigEndian.toBytes k n

/-- The number that bytes in stream order spell (`from_le_bytes`, `from_be_bytes`). -/
def ofBytes (endian : CdrEndian) (bytes : List UInt8) : ℕ :=
  match endian with
  | .little => BigEndian.ofBytes bytes.reverse
  | .big => BigEndian.ofBytes bytes

@[simp] theorem length_toBytes (endian : CdrEndian) (k n : ℕ) :
    (endian.toBytes k n).length = k := by
  cases endian <;> simp [toBytes]

/-- **A slice spells a number exactly when it is how the number is written.** -/
theorem eq_toBytes_iff (endian : CdrEndian) {k n : ℕ} (hn : n < 256 ^ k) {bytes : List UInt8} :
    bytes = endian.toBytes k n ↔ bytes.length = k ∧ endian.ofBytes bytes = n := by
  constructor
  · rintro rfl
    refine ⟨endian.length_toBytes k n, ?_⟩
    cases endian <;> simp [toBytes, ofBytes, ofBytes_toBytes_of_lt hn]
  · rintro ⟨rfl, rfl⟩
    cases endian with
    | big => exact (toBytes_ofBytes bytes).symm
    | little =>
      have h := toBytes_ofBytes bytes.reverse
      rw [List.length_reverse] at h
      rw [toBytes, ofBytes, h, List.reverse_reverse]

theorem ofBytes_lt (endian : CdrEndian) (bytes : List UInt8) :
    endian.ofBytes bytes < 256 ^ bytes.length := by
  cases endian with
  | big => exact BigEndian.ofBytes_lt bytes
  | little => simpa [ofBytes] using BigEndian.ofBytes_lt bytes.reverse

end CdrEndian

/-- **Immutable nesting-depth token**, carried by value. -/
structure CdrNesting where
  depth : ℕ
  deriving DecidableEq, Repr

def CdrNesting.root : CdrNesting := ⟨0⟩

end Cdr
end Rclweb
