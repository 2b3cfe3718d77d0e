import Mathlib.Data.Nat.Basic
import Mathlib.Order.Basic

/-!
# Programs that may stop at a fault

A checked program computes a value, reports an error of its own, or stops at a fault: a sum that is
no machine word, an index or a slice outside its bytes, a value that is not there, a loop that does
not come to its end.  Words are natural numbers below a size `m`.

`Matches R x y` compares a checked program with one that knows no faults: both return, and their
values are related, or both report an error.  The rules put the comparison together step by step;
a program that matches another has no fault.
-/

namespace Rclweb

namespace Checked

inductive Fault where
  | overflow
  | index
  | slice
  | unwrap
  | endless
  deriving DecidableEq, Repr

/-- Why a program stops before its end. -/
inductive Stop (ε : Type) where
  | error (e : ε)
  | fault (f : Fault)
  deriving DecidableEq, Repr

end Checked

/-- **A program that may stop at a fault.** -/
abbrev Checked (ε α : Type) : Type := Except (Checked.Stop ε) α

namespace Checked

variable {ε ε' α β γ δ : Type}

/-- An error of the program's own. -/
def raise (e : ε) : Checked ε α := .error (.error e)

def stuck (f : Fault) : Checked ε α := .error (.fault f)

/-- A program that has no faults. -/
def lift : Except ε α → Checked ε α
  | .ok a => .ok a
  | .error e => raise e

def mapError (f : ε → ε') : Checked ε α → Checked ε' α
  | .ok a => .ok a
  | .error (.error e) => raise (f e)
  | .error (.fault g) => stuck g

/-! ## Words, bytes and options -/

def add (m a b : ℕ) : Checked ε ℕ := if a + b < m then .ok (a + b) else stuck .overflow

def sub (a b : ℕ) : Checked ε ℕ := if b ≤ a then .ok (a - b) else stuck .overflow

/-- `checked_add`. -/
def checkedAdd (m a b : ℕ) : Option ℕ := if a + b < m then some (a + b) else none

/-- `saturating_add`. -/
def saturatingAdd (m a b : ℕ) : ℕ := min (a + b) (m - 1)

/-- `saturating_mul`. -/
def saturatingMul (m a b : ℕ) : ℕ := min (a * b) (m - 1)

def index (bytes : List UInt8) (i : ℕ) : Checked ε UInt8 :=
  match bytes[i]? with
  | some b => .ok b
  | none => stuck .index

/-- `bytes[start..stop]`. -/
def slice (bytes : List UInt8) (start stop : ℕ) : Checked ε (List UInt8) :=
  if start ≤ stop ∧ stop ≤ bytes.length then .ok ((bytes.drop start).take (stop - start))
  else stuck .slice

def unwrap : Option α → Checked ε α
  | some a => .ok a
  | none => stuck .unwrap

/-- **A checked program and one without faults**: both return related values, or both report an
error. -/
inductive Matches (R : α → β → Prop) : Checked ε α → Except ε' β → Prop where
  | ok {a : α} {b : β} (h : R a b) : Matches R (.ok a) (.ok b)
  | error (e : ε) (e' : ε') : Matches R (raise e) (.error e')

namespace Matches

variable {R : α → β → Prop} {S : γ → δ → Prop} {x : Checked ε α} {y : Except ε' β}

/-- A program that matches another returns a value or an error, and the value is related to what
the other returns. -/
theorem returns (h : Matches R x y) :
    ∃ result, x = lift result ∧ ∀ a, result = .ok a → ∃ b, y = .ok b ∧ R a b := by
  cases h with
  | ok h => exact ⟨.ok _, rfl, fun _ ha => ⟨_, rfl, Except.ok.inj ha ▸ h⟩⟩
  | error e e' => exact ⟨.error e, rfl, nofun⟩

theorem bind {f : α → Checked ε γ} {g : β → Except ε' δ} (h : Matches R x y)
    (hf : ∀ a b, R a b → Matches S (f a) (g b)) : Matches S (x >>= f) (y >>= g) := by
  cases h with
  | ok h => exact hf _ _ h
  | error e e' => exact .error e e'

theorem map {f : α → γ} {g : β → γ} (h : Matches R x y) (hf : ∀ a b, R a b → f a = g b) :
    Matches Eq (f <$> x) (g <$> y) := by
  cases h with
  | ok h => exact .ok (hf _ _ h)
  | error e e' => exact .error e e'

/-- A step that only the checked program makes. -/
theorem step {a : α} {f : α → Checked ε γ} {z : Except ε' δ} (h : x = .ok a)
    (hf : Matches S (f a) z) : Matches S (x >>= f) z := by
  subst h
  exact hf

theorem ite {p q : Prop} [Decidable p] [Decidable q] {x' : Checked ε α} {y' : Except ε' β}
    (hpq : p ↔ q) (h : p → Matches R x y) (h' : ¬ p → Matches R x' y') :
    Matches R (if p then x else x') (if q then y else y') := by
  by_cases hp : p
  · rw [if_pos hp, if_pos (hpq.mp hp)]
    exact h hp
  · rw [if_neg hp, if_neg fun hq => hp (hpq.mpr hq)]
    exact h' hp

theorem mapError {ε₁ ε₂ : Type} {f : ε → ε₁} {g : ε' → ε₂} (h : Matches R x y) :
    Matches R (Checked.mapError f x) (y.mapError g) := by
  cases h with
  | ok h => exact .ok h
  | error e e' => exact .error (f e) (g e')

end Matches

end Checked
end Rclweb
