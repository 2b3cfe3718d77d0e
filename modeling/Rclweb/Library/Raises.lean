import Mathlib.Tactic.SplitIfs

/-!
# The errors of a computation

`Raises P x` says that whatever error a computation ends in satisfies `P`.  A sequence of steps
raises what its steps raise, so the errors of a parser can be bounded without following its
successes.
-/

namespace Rclweb

/-- **Every error of the computation satisfies `P`.** -/
def Raises {ε α : Type} (P : ε → Prop) (x : Except ε α) : Prop := ∀ e, x = .error e → P e

namespace Raises

variable {ε α β : Type} {P : ε → Prop}

theorem ok (a : α) : Raises P (.ok a) := nofun

theorem error {e : ε} (h : P e) : Raises P (.error e : Except ε α) := by
  intro e' he
  obtain rfl := Except.error.inj he
  exact h

theorem bind {x : Except ε α} {f : α → Except ε β} (hx : Raises P x)
    (hf : ∀ a, Raises P (f a)) : Raises P (x >>= f) := by
  intro e he
  cases x with
  | error e' =>
    obtain rfl := Except.error.inj he
    exact hx e' rfl
  | ok a => exact hf a e he

theorem map {x : Except ε α} (f : α → β) (hx : Raises P x) : Raises P (f <$> x) := by
  intro e he
  cases x with
  | error e' =>
    obtain rfl := Except.error.inj he
    exact hx e' rfl
  | ok a => cases he

theorem ite {c : Prop} [Decidable c] {x y : Except ε α} (hx : c → Raises P x)
    (hy : ¬ c → Raises P y) : Raises P (if c then x else y) := by
  split_ifs with h
  · exact hx h
  · exact hy h

end Raises
end Rclweb
