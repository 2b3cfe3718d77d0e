/-!
# Machines that are driven by acts

A machine makes one step for each act it is given.  `Meets` says that every act of a run has a
property in the state it meets; an invariant carries a run from one such property to another.
-/

namespace Rclweb
namespace Acts

variable {S A : Type} (step : S → A → S)

/-- The state behind a list of acts. -/
def run (s : S) (acts : List A) : S := acts.foldl step s

/-- **Every act of a run has a property in the state it meets.** -/
def Meets (P : S → A → Prop) : S → List A → Prop
  | _, [] => True
  | s, act :: acts => P s act ∧ Meets P (step s act) acts

variable {step} {P Q : S → A → Prop} {s : S} {acts : List A}

@[simp] theorem run_nil : run step s [] = s := rfl

@[simp] theorem run_cons (act : A) : run step s (act :: acts) = run step (step s act) acts := rfl

theorem run_append (acts' : List A) :
    run step s (acts ++ acts') = run step (run step s acts) acts' := List.foldl_append

theorem meets_append {acts' : List A} :
    Meets step P s (acts ++ acts') ↔ Meets step P s acts ∧ Meets step P (run step s acts) acts' := by
  induction acts generalizing s with
  | nil => exact (and_iff_right trivial).symm
  | cons act acts ih =>
    show P s act ∧ Meets step P (step s act) (acts ++ acts') ↔ _
    rw [ih]
    exact and_assoc.symm

/-- What every step keeps holds at the end. -/
theorem invariant_run_of_step (I : S → Prop) (hstep : ∀ s act, I s → I (step s act)) (hs : I s)
    (acts : List A) : I (run step s acts) :=
  List.foldlRecOn acts step hs fun s hs act _ => hstep s act hs

/-- **The induction over a run**: what every step keeps under a property of its act holds at the
end. -/
theorem invariant_run (I : S → Prop) (hstep : ∀ s act, I s → P s act → I (step s act)) (hs : I s)
    (hmeets : Meets step P s acts) : I (run step s acts) := by
  induction acts generalizing s with
  | nil => exact hs
  | cons act acts ih => exact ih (hstep s act hs hmeets.1) hmeets.2

/-- With an invariant, one property of every act gives another. -/
theorem Meets.of_invariant (I : S → Prop) (hstep : ∀ s act, I s → P s act → I (step s act))
    (hmeets : ∀ s act, I s → P s act → Q s act) (hs : I s) (h : Meets step P s acts) :
    Meets step Q s acts := by
  induction acts generalizing s with
  | nil => trivial
  | cons act acts ih => exact ⟨hmeets s act hs h.1, ih (hstep s act hs h.1) h.2⟩

end Acts
end Rclweb
