import Rclweb.Types.HostValueScan

/-!
# Packed values on a machine of 32 bits

Each reader of a packed value agrees with itself on the unbounded machine.  The one sum that is
not a slice's is that of the numbers of a collection: the offset there is behind the count, so it
is not zero, and a product that stays at the largest word wraps to the byte before it.
-/

namespace Rclweb

open Scan

namespace Types
namespace Scanned

variable {c n w : ℕ}

/-! ## Reads -/

theorem agrees_number (h : w ≤ c) : Agrees word32 (number w) c (c - w) :=
  (Agrees.slice h).bind fun _ => (Agrees.advance h).bind fun _ => .pure _

theorem agrees_u8 (h : 1 ≤ c) : Agrees word32 u8 c (c - 1) :=
  (Agrees.byteAt (by omega)).bind fun _ => (Agrees.advance h).bind fun _ => .pure _

theorem agrees_u16 (h : 2 ≤ c) : Agrees word32 u16 c (c - 2) := (agrees_number h).map _

theorem agrees_u32 (h : 4 ≤ c) : Agrees word32 u32 c (c - 4) := (agrees_number h).map _

theorem agrees_u64 (h : 8 ≤ c) : Agrees word32 u64 c (c - 8) := (agrees_number h).map _

theorem agrees_i8 (h : 1 ≤ c) : Agrees word32 i8 c (c - 1) := (agrees_u8 h).map _

theorem agrees_i16 (h : 2 ≤ c) : Agrees word32 i16 c (c - 2) := (agrees_u16 h).map _

theorem agrees_i32 (h : 4 ≤ c) : Agrees word32 i32 c (c - 4) := (agrees_u32 h).map _

theorem agrees_i64 (h : 8 ≤ c) : Agrees word32 i64 c (c - 8) := (agrees_u64 h).map _

theorem agrees_flag (h : 1 ≤ c) : Agrees word32 flag c (c - 1) := (agrees_u8 h).map _

theorem agrees_readU16 : Agrees word32 readU16 c 0 :=
  (Agrees.require32 _ (by omega)).bind fun _ => agrees_u16 le_rfl

theorem agrees_readU32 : Agrees word32 readU32 c 0 :=
  (Agrees.require32 _ (by omega)).bind fun _ => agrees_u32 le_rfl

theorem agrees_readU16Str : Agrees word32 readU16Str c 0 := by
  refine agrees_readU16.bind fun len => ?_
  have hlen : len.toNat < 2 ^ 16 := len.toNat_lt
  refine (Agrees.require32 _ (by omega)).bind fun _ => ?_
  refine (Agrees.slice le_rfl).bind fun raw => ?_
  refine (Agrees.text raw _).bind fun _ => ?_
  refine (Agrees.advance le_rfl).bind fun _ => ?_
  exact (Agrees.pure _).mono le_rfl (Nat.zero_le _)

/-- A checked number is behind the offset it is read at. -/
theorem pos_of_readU32 {bytes : List UInt8} {o o' : ℕ} {v : UInt32}
    (h : (readU32 unbounded bytes o).outcome = .ok v o') : 0 < o' := by
  obtain ⟨_, o₁, -, hnumber⟩ := ok_of_bind_ok h
  obtain ⟨n, o₂, hread, hpure⟩ := ok_of_bind_ok hnumber
  obtain ⟨raw, o₃, -, hadvance⟩ := ok_of_bind_ok hread
  obtain ⟨_, o₄, hmoved, hlast⟩ := ok_of_bind_ok hadvance
  obtain ⟨-, rfl⟩ := Outcome.ok.inj hmoved
  obtain ⟨-, rfl⟩ := Outcome.ok.inj hlast
  obtain ⟨-, rfl⟩ := Outcome.ok.inj hpure
  rw [wrap_unbounded]
  omega

/-! ## Messages -/

theorem agrees_readPrimitiveScalars : Agrees word32 readPrimitiveScalars c 0 := by
  refine (Agrees.require32 _ (by omega)).bind fun _ => ?_
  refine (agrees_flag (by omega)).bind fun _ => ?_
  refine (agrees_u8 (by omega)).bind fun _ => ?_
  refine (agrees_u8 (by omega)).bind fun _ => ?_
  refine (agrees_u32 (by omega)).bind fun _ => ?_
  refine (agrees_u64 (by omega)).bind fun _ => ?_
  refine (agrees_i8 (by omega)).bind fun _ => ?_
  refine (agrees_u8 (by omega)).bind fun _ => ?_
  refine (agrees_i16 (by omega)).bind fun _ => ?_
  refine (agrees_u16 (by omega)).bind fun _ => ?_
  refine (agrees_i32 (by omega)).bind fun _ => ?_
  refine (agrees_u32 (by omega)).bind fun _ => ?_
  refine (agrees_i64 (by omega)).bind fun _ => ?_
  refine (agrees_u64 (by omega)).bind fun _ => ?_
  refine agrees_readU16Str.bind fun _ => ?_
  refine agrees_readU16Str.bind fun _ => ?_
  exact .pure _

theorem agrees_readF64s : Agrees word32 readF64s c 0 := by
  intro bytes o hlen ho
  refine (agrees_readU32 bytes o hlen ho).bind fun f64Len o' hread ho' => ?_
  refine agreesAt_requireRecords _ hlen (pos_of_readU32 hread) ho' fun _ => ?_
  show Agrees word32 _ (f64Len.toNat * 8 + 0) 0
  refine Agrees.repeatedOf (fun _ left => ?_) 0 f64Len.toNat
  exact (agrees_u64 (by omega)).mono le_rfl (by omega)

theorem agrees_readByteSequence : Agrees word32 readByteSequence c 0 := by
  refine agrees_readU32.bind fun bytesLen => ?_
  refine Agrees.requireSlice _ bytesLen.toNat_lt fun _ => ?_
  refine (Agrees.advance le_rfl).bind fun _ => ?_
  exact (Agrees.pure _).mono le_rfl (Nat.zero_le _)

theorem agrees_readCollections : Agrees word32 readCollections c 0 := by
  refine (Agrees.require32 _ (by omega)).bind fun _ => ?_
  refine (agrees_i32 (by omega)).bind fun _ => ?_
  refine (agrees_i32 (by omega)).bind fun _ => ?_
  refine (agrees_i32 (by omega)).bind fun _ => ?_
  refine agrees_readF64s.bind fun _ => ?_
  refine agrees_readByteSequence.bind fun _ => ?_
  refine agrees_readU16Str.bind fun _ => ?_
  refine agrees_readU16Str.bind fun _ => ?_
  exact .pure _

theorem agrees_readNestedSample : Agrees word32 readNestedSample c 0 := by
  refine (Agrees.require32 _ (by omega)).bind fun _ => ?_
  refine (agrees_i32 (by omega)).bind fun _ => ?_
  refine (agrees_u32 (by omega)).bind fun _ => ?_
  refine agrees_readPrimitiveScalars.bind fun _ => ?_
  refine agrees_readCollections.bind fun _ => ?_
  exact .pure _

theorem agrees_readEchoNestedResponse : Agrees word32 readEchoNestedResponse c 0 := by
  refine agrees_readNestedSample.bind fun _ => ?_
  refine (Agrees.requireLeft _).bind fun _ => ?_
  refine (agrees_flag le_rfl).bind fun _ => ?_
  exact .pure _

theorem agrees_readMeasureSequenceFeedback : Agrees word32 readMeasureSequenceFeedback c 0 := by
  refine (Agrees.require32 _ (by omega)).bind fun _ => ?_
  refine (agrees_u32 (by omega)).bind fun _ => ?_
  refine agrees_readNestedSample.bind fun _ => ?_
  exact .pure _

/-- **Every reader of a type agrees with itself.** -/
theorem agrees_readHostValue (typeName : String) : Agrees word32 (readHostValue typeName) c 0 := by
  unfold readHostValue
  refine .ite (agrees_readPrimitiveScalars.map _) ?_
  refine .ite (agrees_readCollections.map _) ?_
  refine .ite (agrees_readNestedSample.map _) ?_
  refine .ite (agrees_readNestedSample.map _) ?_
  refine .ite (agrees_readEchoNestedResponse.map _) ?_
  refine .ite (agrees_readCollections.map _) ?_
  refine .ite (agrees_readNestedSample.map _) ?_
  exact .ite (agrees_readMeasureSequenceFeedback.map _) (.fail _)

theorem agrees_decodeHostValue (typeName : String) :
    Agrees word32 (decodeHostValue typeName) 0 0 :=
  (agrees_readHostValue typeName).bind fun _ => (Agrees.requireEnd _).bind fun _ => .pure _

end Scanned
end Types
end Rclweb
