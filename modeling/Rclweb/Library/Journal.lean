import Mathlib.Data.List.Basic

/-!
# Journals

A journal is the list of what happened, each entry under the key of what it happened to.  `of key`
is what happened to one key.  `Each` says of every entry how it stands to what came before it and
to what has come since; where more that comes since does no harm, it is shown block by block.
-/

namespace Rclweb
namespace Journal

variable {κ ε : Type} [DecidableEq κ] {P Q : List ε → ε → List ε → Prop}

/-- What happened to one key. -/
def of (key : κ) (journal : List (κ × ε)) : List ε :=
  (journal.filter fun entry => entry.1 = key).map Prod.snd

@[simp] theorem of_nil (key : κ) : of key ([] : List (κ × ε)) = [] := rfl

theorem of_append (key : κ) (j k : List (κ × ε)) : of key (j ++ k) = of key j ++ of key k := by
  rw [of, List.filter_append, List.map_append]
  rfl

/-- A block under its own key. -/
theorem of_map_self (key : κ) (events : List ε) : of key (events.map (key, ·)) = events := by
  have hall : ∀ entry ∈ events.map (key, ·), decide (entry.1 = key) = true := by
    intro entry hentry
    obtain ⟨e, -, rfl⟩ := List.mem_map.mp hentry
    exact decide_eq_true rfl
  rw [of, List.filter_eq_self.mpr hall, List.map_map]
  exact List.map_id' events

/-- A block under another key. -/
theorem of_map_of_ne {key key' : κ} (h : key' ≠ key) (events : List ε) :
    of key (events.map (key', ·)) = [] := by
  have hnone : ∀ entry ∈ events.map (key', ·), ¬ decide (entry.1 = key) = true := by
    intro entry hentry
    obtain ⟨e, -, rfl⟩ := List.mem_map.mp hentry
    exact fun heq => h (of_decide_eq_true heq)
  rw [of, List.filter_eq_nil_iff.mpr hnone, List.map_nil]

/-- **Every entry of a list, with what came before it and what has come since.** -/
def Each (P : List ε → ε → List ε → Prop) : List ε → List ε → Prop
  | _, [] => True
  | pre, e :: post => P pre e post ∧ Each P (pre ++ [e]) post

@[simp] theorem each_nil (pre : List ε) : Each P pre [] := trivial

theorem each_cons {pre post : List ε} {e : ε} :
    Each P pre (e :: post) ↔ P pre e post ∧ Each P (pre ++ [e]) post := Iff.rfl

/-- **One more block**: the entries before it bear what comes, and its own are in order. -/
theorem Each.append {pre events block : List ε} (h : Each P pre events)
    (hmono : ∀ pre e post more, P pre e post → P pre e (post ++ more))
    (hblock : Each P (pre ++ events) block) : Each P pre (events ++ block) := by
  induction events generalizing pre with
  | nil => rwa [List.append_nil] at hblock
  | cons e events ih =>
    refine ⟨hmono _ _ _ _ h.1, ih h.2 ?_⟩
    rwa [List.append_assoc, List.singleton_append]

end Journal
end Rclweb
