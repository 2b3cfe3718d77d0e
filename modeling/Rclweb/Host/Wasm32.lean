import Rclweb.Host.BatchSafe
import Rclweb.Types.HostValueMirrors
import Rclweb.Types.HostValueSafe

/-!
# What the engine may be handed on the 32-bit target

In the browser the engine runs on a machine whose `usize` has 32 bits and whose release build wraps
sums.  A byte string there has less than `2 ^ 31` bytes.  A batch or a packed value declares
lengths and counts of up to 32 bits, and the parsers add them to their offset before they compare.

The parsers are safe exactly on the inputs whose declarations fit: every length that is reached
ends below `2 ^ 32`, and every count that is reached is of records that the bytes behind it can
hold.
-/

namespace Rclweb

open Scan Rclweb.Types

namespace Host

/-- **A byte string in the memory of the 32-bit target**: no slice has more than `isize::MAX`
bytes. -/
abbrev Slice32 := { bytes : List UInt8 // bytes.length < 2 ^ 31 }

/-- All lengths and counts that an input declares fit. -/
def Declares32 {ε α : Type} (r : Scan ε α) (bytes : Slice32) : Prop :=
  ∀ d ∈ declared r bytes.1, d.Fits word32

instance {ε α : Type} (r : Scan ε α) (bytes : Slice32) : Decidable (Declares32 r bytes) :=
  inferInstanceAs (Decidable (∀ d ∈ declared r bytes.1, d.Fits word32))

/-- **The parsers are safe on the 32-bit target exactly where the declarations fit**: then they
return a value or an error without an index or a slice outside the input, and ask for no memory
that the rest of the input cannot justify. -/
theorem safe_on_word32_iff_declares (bytes : Slice32) :
    (∀ resolveWs, (decodeHostBatch resolveWs word32 bytes.1 0).Safe ↔
      Declares32 (decodeHostBatch resolveWs) bytes) ∧
    (∀ typeName, (Scanned.decodeHostValue typeName word32 bytes.1 0).Safe ↔
      Declares32 (Scanned.decodeHostValue typeName) bytes) :=
  ⟨fun resolveWs => (agrees_decodeHostBatch resolveWs).safe_iff bytes.2,
    fun typeName => (Scanned.agrees_decodeHostValue typeName).safe_iff bytes.2⟩

/-- A batch of 12 bytes that announces `2 ^ 32 - 1` events, and an empty packed collection that
announces `2 ^ 32 - 1` bytes: the first asks for the memory of all events, and in the second the
length wraps to a slice that ends before it starts. -/
theorem not_safe_on_word32 :
    ¬ (decodeHostBatch (fun _ _ _ _ => .ok []) word32
        [0x42, 0x4c, 0x43, 0x52, 1, 0, 0, 0, 0xff, 0xff, 0xff, 0xff] 0).Safe ∧
      ¬ (Scanned.decodeHostValue collectionsTypeName word32
        (List.replicate 16 0 ++ List.replicate 4 0xff) 0).Safe := by
  constructor
  · intro h
    exact absurd (h.2 (.slots 4294967295 8 0) (by decide)) (by decide)
  · intro h
    have hout : (Scanned.decodeHostValue collectionsTypeName word32
        (List.replicate 16 0 ++ List.replicate 4 0xff) 0).outcome = .fault .slice := by
      rfl
    rw [Run.Safe, hout] at h
    exact h.1

/-- Where the declarations fit, the 32-bit target reads what the layout of packed values says. -/
theorem decodeHostValue_word32 (typeName : String) (bytes : Slice32)
    (h : Declares32 (Scanned.decodeHostValue typeName) bytes) :
    (Scanned.decodeHostValue typeName word32 bytes.1 0).outcome.result =
      some (Types.decodeHostValue typeName bytes.1) := by
  rw [(Scanned.agrees_decodeHostValue typeName).eq_unbounded bytes.2 h]
  exact Scanned.decodeHostValue_unbounded typeName bytes.1

end Host
end Rclweb
