import Mathlib.Data.Nat.Notation
import Mathlib.Order.Bounds.Defs

/-!
# Checks in a published order

A receiver is given a numbered list of checks, each of which fails or not, whatever the others
do.  A program that runs them one by one and stops at the first that fails is to report exactly
that one.  `Reports` says so of a part of the program that is responsible for a range of numbers;
parts that follow each other are put together by `Reports.bind`.
-/

namespace Rclweb
namespace Checklist

variable {ε α β : Type}

/-- The published side: which checks fail, and what is said of a check that fails. -/
structure Published (ε : Type) where
  fails : ℕ → Prop
  /-- The number an error is reported with. -/
  step : ε → ℕ
  /-- Whether the rest of an error is what is published for its number. -/
  agrees : ε → Prop

/-- **A part that runs the checks from `first` up to `last`** reports the first that fails. -/
def Reports (p : Published ε) (first last : ℕ) : Except ε α → Prop
  | .ok _ => ∀ k, first ≤ k → k < last → ¬ p.fails k
  | .error e => p.agrees e ∧ p.step e < last ∧ IsLeast {k | first ≤ k ∧ p.fails k} (p.step e)

namespace Reports

variable {p : Published ε} {first middle last : ℕ} {x : Except ε α}

/-- Nothing is left to check. -/
theorem done (a : α) : Reports p first first (.ok a : Except ε α) :=
  fun _ hle hlt => absurd hlt (Nat.not_lt.mpr hle)

/-- The check at hand fails, and is reported. -/
theorem fail {e : ε} (hstep : p.step e = first) (hlast : first < last) (hfails : p.fails first)
    (hagrees : p.agrees e) : Reports p first last (.error e : Except ε α) :=
  ⟨hagrees, hstep ▸ hlast, ⟨Nat.le_of_eq hstep.symm, hstep ▸ hfails⟩, fun _ hk => hstep ▸ hk.1⟩

/-- The check at hand does not fail, and the rest is run. -/
theorem next (hpass : ¬ p.fails first) (h : Reports p (first + 1) last x) :
    Reports p first last x := by
  have hrest : ∀ k, first ≤ k → p.fails k → first + 1 ≤ k := fun k hle hk =>
    Nat.lt_of_le_of_ne hle fun heq => hpass (heq ▸ hk)
  cases x with
  | ok a => exact fun k hle hlt hk => h k (hrest k hle hk) hlt hk
  | error e =>
    obtain ⟨hagrees, hlast, hmem, hleast⟩ := h
    refine ⟨hagrees, hlast, ⟨Nat.le_of_succ_le hmem.1, hmem.2⟩, fun k hk => ?_⟩
    exact hleast ⟨hrest k hk.1 hk.2, hk.2⟩

/-- **A check that is written out**: it rejects where it fails, and the rest is run where it does
not. -/
theorem check {c : Prop} [Decidable c] {e : ε} (hstep : p.step e = first) (hlast : first < last)
    (hagrees : p.agrees e) (hfails : c → p.fails first) (hpass : ¬ c → ¬ p.fails first)
    (h : ¬ c → Reports p (first + 1) last x) :
    Reports p first last (if c then .error e else x) := by
  by_cases hc : c
  · rw [if_pos hc]
    exact fail hstep hlast (hfails hc) hagrees
  · rw [if_neg hc]
    exact next (hpass hc) (h hc)

/-- **One part after another.** -/
theorem bind {f : α → Except ε β} (hle : first ≤ middle) (hlast : middle ≤ last)
    (h : Reports p first middle x) (h' : ∀ a, x = .ok a → Reports p middle last (f a)) :
    Reports p first last (x >>= f) := by
  cases x with
  | error e => exact ⟨h.1, Nat.lt_of_lt_of_le h.2.1 hlast, h.2.2⟩
  | ok a =>
    have hrest : ∀ k, first ≤ k → p.fails k → middle ≤ k := fun k hge hk =>
      Nat.le_of_not_lt fun hlt => h k hge hlt hk
    have hpart := h' a rfl
    show Reports p first last (f a)
    cases hf : f a with
    | ok b =>
      rw [hf] at hpart
      exact fun k hge hlt hk => hpart k (hrest k hge hk) hlt hk
    | error e =>
      rw [hf] at hpart
      obtain ⟨hagrees, hbound, hmem, hleast⟩ := hpart
      refine ⟨hagrees, hbound, ⟨Nat.le_trans hle hmem.1, hmem.2⟩, fun k hk => ?_⟩
      exact hleast ⟨hrest k hk.1 hk.2, hk.2⟩

/-- A part succeeds exactly when none of its checks fails. -/
theorem ok_iff (h : Reports p first last x) :
    (∃ a, x = .ok a) ↔ ∀ k, first ≤ k → k < last → ¬ p.fails k := by
  cases x with
  | ok a => exact iff_of_true ⟨a, rfl⟩ h
  | error e =>
    obtain ⟨-, hlast, hmem, -⟩ := h
    exact iff_of_false nofun fun hnone => hnone _ hmem.1 hlast hmem.2

end Reports

/-- **The first check that fails is reported**: an error has the number of the least check that
fails and what is published for it, and there is none exactly when no check fails. -/
structure FirstReported (p : Published ε) (count : ℕ) (x : Except ε α) : Prop where
  rejects : ∀ e, x = .error e →
    IsLeast {k | 1 ≤ k ∧ k ≤ count ∧ p.fails k} (p.step e) ∧ p.agrees e
  accepts : (∃ a, x = .ok a) ↔ ∀ k, 1 ≤ k → k ≤ count → ¬ p.fails k

theorem Reports.firstReported {p : Published ε} {count : ℕ} {x : Except ε α}
    (h : Reports p 1 (count + 1) x) : FirstReported p count x where
  rejects e heq := by
    subst heq
    obtain ⟨hagrees, hlast, hmem, hleast⟩ := h
    exact ⟨⟨⟨hmem.1, Nat.le_of_lt_succ hlast, hmem.2⟩, fun k hk => hleast ⟨hk.1, hk.2.2⟩⟩, hagrees⟩
  accepts := h.ok_iff.trans
    ⟨fun hnone k hle hcount => hnone k hle (Nat.lt_succ_of_le hcount),
      fun hnone k hle hlast => hnone k hle (Nat.le_of_lt_succ hlast)⟩

/-! ## What errors say -/

/-- Every error of a computation is as `P` says. -/
def Faults (P : ε → Prop) (x : Except ε α) : Prop :=
  ∀ e, x = .error e → P e

namespace Faults

variable {P : ε → Prop}

theorem ok (a : α) : Faults P (.ok a : Except ε α) := nofun

theorem error {e : ε} (h : P e) : Faults P (.error e : Except ε α) := by
  rintro _ ⟨⟩
  exact h

theorem bind {x : Except ε α} {f : α → Except ε β} (h : Faults P x)
    (h' : ∀ a, Faults P (f a)) : Faults P (x >>= f) := by
  cases x with
  | error e =>
    rintro _ ⟨⟩
    exact h e rfl
  | ok a => exact h' a

theorem map {x : Except ε α} {f : α → β} (h : Faults P x) : Faults P (f <$> x) := by
  cases x with
  | error e =>
    rintro _ ⟨⟩
    exact h e rfl
  | ok a => exact ok _

end Faults

end Checklist
end Rclweb
