import Mathlib.Logic.Function.Basic
import Rclweb.Library.Table

/-!
# Buffers that are lent

A store keeps buffers with a reference count.  Parts of them are lent under an id and given back
by it, and a sweep returns the buffers that nothing is lent from.

A store is *consistent* when the counts are right and every loan has its buffer, which every step
keeps.  In a consistent store a loan holds until it is given back (`Holds.steps`): its id is not
used for another loan, and its buffer is there, unchanged and not returned.  A buffer stays until
a sweep returns it (`isSome_step`), which it does exactly when nothing is lent from it
(`returns_iff`), and is gone then (`none_step`).
-/

namespace Rclweb
namespace Lending

/-- **Buffers with their reference counts, and what is lent of them.** -/
structure Store (κ ι β ρ : Type) where
  buffer : κ → Option (β × ℕ)
  loans : Table ι ρ

inductive Act (κ ι β ρ : Type) where
  | retain (b : κ) (x : β)
  | lend (i : ι) (r : ρ)
  | giveBack (i : ι)
  | sweep

variable {κ ι β ρ : Type} [DecidableEq κ]

namespace Store

/-- The buffers, with the reference count of one changed. -/
def recount (s : Store κ ι β ρ) (b : κ) (f : ℕ → ℕ) : κ → Option (β × ℕ) :=
  Function.update s.buffer b ((s.buffer b).map fun p => (p.1, f p.2))

/-- Whether a sweep returns a buffer. -/
def returns (s : Store κ ι β ρ) (b : κ) : Bool := (s.buffer b).any fun p => p.2 == 0

theorem recount_self (s : Store κ ι β ρ) {b : κ} {x : β} {n : ℕ} (h : s.buffer b = some (x, n))
    (f : ℕ → ℕ) : s.recount b f b = some (x, f n) := by
  rw [recount, Function.update_self, h]
  rfl

theorem recount_of_ne (s : Store κ ι β ρ) {b b' : κ} (h : b' ≠ b) (f : ℕ → ℕ) :
    s.recount b f b' = s.buffer b' := by
  rw [recount, Function.update_of_ne h]

/-- Counting changes no buffer. -/
theorem map_recount (s : Store κ ι β ρ) (b : κ) (f : ℕ → ℕ) (b' : κ) :
    (s.recount b f b').map Prod.fst = (s.buffer b').map Prod.fst := by
  by_cases h : b' = b
  · subst h
    rw [recount, Function.update_self, Option.map_map]
    rfl
  · rw [s.recount_of_ne h]

end Store

open Store

variable [DecidableEq ι] (owner : ρ → κ)

/-- **One step.**  What is retained or lent gets an id that is not in use. -/
inductive Step : Store κ ι β ρ → Act κ ι β ρ → Store κ ι β ρ → Prop
  | retain (s : Store κ ι β ρ) (b : κ) (x : β) : s.buffer b = none →
      Step s (.retain b x) { s with buffer := Function.update s.buffer b (some (x, 0)) }
  | lend (s : Store κ ι β ρ) (i : ι) (r : ρ) : s.loans.find? i = none →
      (s.buffer (owner r)).isSome = true →
        Step s (.lend i r) ⟨s.recount (owner r) (· + 1), s.loans.set i r⟩
  | giveBack (s : Store κ ι β ρ) (i : ι) (r : ρ) : s.loans.find? i = some r →
      Step s (.giveBack i) ⟨s.recount (owner r) (· - 1), s.loans.remove i⟩
  | unknown (s : Store κ ι β ρ) (i : ι) : s.loans.find? i = none → Step s (.giveBack i) s
  | sweep (s : Store κ ι β ρ) :
      Step s .sweep { s with buffer := fun b => (s.buffer b).filter fun p => p.2 != 0 }

/-- A sequence of steps. -/
inductive Steps : Store κ ι β ρ → List (Act κ ι β ρ) → Store κ ι β ρ → Prop
  | nil (s : Store κ ι β ρ) : Steps s [] s
  | cons {s s' s'' : Store κ ι β ρ} {a : Act κ ι β ρ} {as : List (Act κ ι β ρ)} :
      Step owner s a s' → Steps s' as s'' → Steps s (a :: as) s''

/-- **The counts are right, and every loan has its buffer.** -/
structure Consistent (s : Store κ ι β ρ) : Prop where
  count : ∀ b x n, s.buffer b = some (x, n) → n = s.loans.count fun r => owner r == b
  backed : ∀ i r, s.loans.find? i = some r → (s.buffer (owner r)).isSome = true

/-- **A loan and the buffer it is of.** -/
structure Holds (s : Store κ ι β ρ) (i : ι) (r : ρ) (x : β) : Prop where
  loan : s.loans.find? i = some r
  buffer : (s.buffer (owner r)).map Prod.fst = some x

variable {owner} {s s' : Store κ ι β ρ} {a : Act κ ι β ρ} {as : List (Act κ ι β ρ)}

/-! ## What a step keeps -/

/-- The count of a buffer something is lent from is positive. -/
theorem Consistent.pos (h : Consistent owner s) {i : ι} {r : ρ} (hloan : s.loans.find? i = some r)
    {x : β} {n : ℕ} (hbuffer : s.buffer (owner r) = some (x, n)) : 0 < n := by
  rw [h.count _ x n hbuffer, Table.count_remove hloan, if_pos (by simp)]
  exact Nat.succ_pos _

theorem Consistent.retain (h : Consistent owner s) {b : κ} (hnone : s.buffer b = none) (x : β) :
    Consistent owner { s with buffer := Function.update s.buffer b (some (x, 0)) } := by
  constructor
  · show ∀ b' y n, Function.update s.buffer b (some (x, 0)) b' = some (y, n) → n = _
    intro b' y n hb'
    by_cases hb : b' = b
    · subst hb
      rw [Function.update_self] at hb'
      cases hb'
      refine (Table.count_eq_zero fun i r hloan => ?_).symm
      rw [beq_eq_false_iff_ne]
      intro howner
      have hsome := h.backed i r hloan
      rw [howner, hnone] at hsome
      cases hsome
    · rw [Function.update_of_ne hb] at hb'
      exact h.count b' y n hb'
  · show ∀ i r, s.loans.find? i = some r →
      (Function.update s.buffer b (some (x, 0)) (owner r)).isSome = true
    intro i r hloan
    by_cases hb : owner r = b
    · rw [hb, Function.update_self]
      rfl
    · rw [Function.update_of_ne hb]
      exact h.backed i r hloan

/-- Counting keeps every buffer something is lent from. -/
theorem Consistent.isSome_recount (h : Consistent owner s) {i : ι} {r : ρ}
    (hloan : s.loans.find? i = some r) (b : κ) (f : ℕ → ℕ) :
    (s.recount b f (owner r)).isSome = true := by
  rw [← Option.isSome_map (f := Prod.fst), s.map_recount, Option.isSome_map]
  exact h.backed i r hloan

theorem Consistent.lend (h : Consistent owner s) {i : ι} (hnone : s.loans.find? i = none) {r : ρ}
    (hsome : (s.buffer (owner r)).isSome = true) :
    Consistent owner ⟨s.recount (owner r) (· + 1), s.loans.set i r⟩ := by
  constructor
  · show ∀ b x n, s.recount (owner r) (· + 1) b = some (x, n) → n = (s.loans.set i r).count _
    intro b x n hb
    rw [Table.count_set_of_none hnone]
    by_cases heq : owner r = b
    · subst heq
      obtain ⟨⟨y, m⟩, hy⟩ := Option.isSome_iff_exists.mp hsome
      rw [s.recount_self hy] at hb
      cases hb
      rw [h.count _ _ _ hy, if_pos (by simp)]
    · rw [s.recount_of_ne (Ne.symm heq)] at hb
      rw [h.count b x n hb, if_neg (by simpa using heq), Nat.add_zero]
  · show ∀ j q, (s.loans.set i r).find? j = some q →
      (s.recount (owner r) (· + 1) (owner q)).isSome = true
    intro j q hq
    rw [Table.find?_set] at hq
    split_ifs at hq with hj
    · cases hq
      obtain ⟨p, hp⟩ := Option.isSome_iff_exists.mp hsome
      rw [s.recount_self hp]
      rfl
    · exact h.isSome_recount hq _ _

theorem Consistent.giveBack (h : Consistent owner s) {i : ι} {r : ρ}
    (hloan : s.loans.find? i = some r) :
    Consistent owner ⟨s.recount (owner r) (· - 1), s.loans.remove i⟩ := by
  constructor
  · show ∀ b x n, s.recount (owner r) (· - 1) b = some (x, n) → n = (s.loans.remove i).count _
    intro b x n hb
    by_cases heq : owner r = b
    · subst heq
      obtain ⟨⟨y, m⟩, hy⟩ := Option.isSome_iff_exists.mp (h.backed i r hloan)
      rw [s.recount_self hy] at hb
      cases hb
      rw [h.count _ _ _ hy, Table.count_remove hloan, if_pos (by simp), Nat.add_sub_cancel]
    · rw [s.recount_of_ne (Ne.symm heq)] at hb
      rw [h.count b x n hb, Table.count_remove hloan, if_neg (by simpa using heq), Nat.add_zero]
  · show ∀ j q, (s.loans.remove i).find? j = some q →
      (s.recount (owner r) (· - 1) (owner q)).isSome = true
    intro j q hq
    rw [Table.find?_remove] at hq
    split_ifs at hq
    exact h.isSome_recount hq _ _

theorem Consistent.sweep (h : Consistent owner s) :
    Consistent owner { s with buffer := fun b => (s.buffer b).filter fun p => p.2 != 0 } := by
  constructor
  · show ∀ b x n, ((s.buffer b).filter fun p => p.2 != 0) = some (x, n) → n = _
    intro b x n hb
    exact h.count b x n (Option.filter_eq_some_iff.mp hb).1
  · show ∀ i r, s.loans.find? i = some r →
      ((s.buffer (owner r)).filter fun p => p.2 != 0).isSome = true
    intro i r hloan
    obtain ⟨⟨x, n⟩, hx⟩ := Option.isSome_iff_exists.mp (h.backed i r hloan)
    have hpos := h.pos hloan hx
    rw [hx, Option.filter_some, if_pos (by simpa using Nat.ne_of_gt hpos)]
    rfl

/-- **Every step keeps a store consistent.** -/
theorem Consistent.step (h : Consistent owner s) (hstep : Step owner s a s') :
    Consistent owner s' := by
  cases hstep with
  | retain b x hnone => exact h.retain hnone x
  | lend i r hnone hsome => exact h.lend hnone hsome
  | giveBack i r hloan => exact h.giveBack hloan
  | unknown => exact h
  | sweep => exact h.sweep

theorem Consistent.steps (h : Consistent owner s) (hsteps : Steps owner s as s') :
    Consistent owner s' := by
  induction hsteps with
  | nil => exact h
  | cons hstep _ ih => exact ih (h.step hstep)

/-! ## Loans -/

variable {i : ι} {r : ρ} {x : β}

/-- The id of a loan that holds is not used for another one. -/
theorem Holds.not_lend (h : Holds owner s i r x) {q : ρ} (hstep : Step owner s (.lend i q) s') :
    False := by
  cases hstep with
  | lend _ _ hnone _ =>
    rw [h.loan] at hnone
    cases hnone

/-- The buffer of a loan that holds is not returned by a sweep. -/
theorem Holds.not_returns (hs : Consistent owner s) (h : Holds owner s i r x) :
    s.returns (owner r) = false := by
  obtain ⟨⟨y, n⟩, hy, -⟩ := Option.map_eq_some_iff.mp h.buffer
  have hpos := hs.pos h.loan hy
  rw [returns, hy]
  simpa using Nat.ne_of_gt hpos

/-- **A loan holds through a step** that does not give it back. -/
theorem Holds.step (hs : Consistent owner s) (h : Holds owner s i r x) (hstep : Step owner s a s')
    (ha : a ≠ .giveBack i) : Holds owner s' i r x := by
  cases hstep with
  | retain b y hnone =>
    refine ⟨h.loan, ?_⟩
    show (Function.update s.buffer b _ (owner r)).map Prod.fst = some x
    have hne : owner r ≠ b := by
      intro heq
      have hbuffer := h.buffer
      rw [heq, hnone] at hbuffer
      cases hbuffer
    rw [Function.update_of_ne hne]
    exact h.buffer
  | lend j q hnone hsome =>
    have hne : i ≠ j := fun heq => by
      subst heq
      rw [h.loan] at hnone
      cases hnone
    refine ⟨?_, ?_⟩
    · show (s.loans.set j q).find? i = some r
      rw [Table.find?_set, if_neg hne]
      exact h.loan
    · show (s.recount (owner q) _ (owner r)).map Prod.fst = some x
      rw [s.map_recount]
      exact h.buffer
  | giveBack j q hloan =>
    have hne : i ≠ j := fun heq => ha (by rw [heq])
    refine ⟨?_, ?_⟩
    · show (s.loans.remove j).find? i = some r
      rw [Table.find?_remove, if_neg hne]
      exact h.loan
    · show (s.recount (owner q) (· - 1) (owner r)).map Prod.fst = some x
      rw [s.map_recount]
      exact h.buffer
  | unknown => exact h
  | sweep =>
    refine ⟨h.loan, ?_⟩
    show ((s.buffer (owner r)).filter fun p => p.2 != 0).map Prod.fst = some x
    obtain ⟨⟨y, n⟩, hy, hx⟩ := Option.map_eq_some_iff.mp h.buffer
    have hpos := hs.pos h.loan hy
    rw [hy, Option.filter_some, if_pos (by simpa using Nat.ne_of_gt hpos), Option.map_some, hx]

/-- **A loan holds until it is given back**, and its id is not used for another one. -/
theorem Holds.steps (hs : Consistent owner s) (h : Holds owner s i r x)
    (hsteps : Steps owner s as s') (has : .giveBack i ∉ as) :
    Holds owner s' i r x ∧ ∀ q, .lend i q ∉ as := by
  induction hsteps with
  | nil => exact ⟨h, fun _ => List.not_mem_nil⟩
  | cons hstep _ ih =>
    rw [List.mem_cons, not_or] at has
    obtain ⟨hholds, hlend⟩ := ih (hs.step hstep) (h.step hs hstep (Ne.symm has.1)) has.2
    refine ⟨hholds, fun q hq => ?_⟩
    rcases List.mem_cons.mp hq with rfl | hq
    · exact h.not_lend hstep
    · exact hlend q hq

/-- What is lent of a buffer that was just retained holds. -/
theorem holds_of_retain (h : Steps owner s [.retain (owner r) x, .lend i r] s') :
    Holds owner s' i r x := by
  obtain ⟨s₁, hretain, s₂, hlend, hnil⟩ : ∃ s₁, Step owner s (.retain (owner r) x) s₁ ∧
      ∃ s₂, Step owner s₁ (.lend i r) s₂ ∧ Steps owner s₂ [] s' := by
    cases h with
    | cons hretain h =>
      cases h with
      | cons hlend hnil => exact ⟨_, hretain, _, hlend, hnil⟩
  cases hnil
  cases hretain
  cases hlend
  refine ⟨Table.find?_set_self .., ?_⟩
  show (recount _ (owner r) (· + 1) (owner r)).map Prod.fst = some x
  rw [map_recount]
  show (Function.update s.buffer (owner r) (some (x, 0)) (owner r)).map Prod.fst = some x
  rw [Function.update_self]
  rfl

/-! ## Buffers -/

variable {b : κ}

/-- **A sweep returns a buffer exactly when nothing is lent from it.** -/
theorem returns_iff (hs : Consistent owner s) :
    s.returns b = true ↔
      (s.buffer b).isSome = true ∧ (s.loans.count fun r => owner r == b) = 0 := by
  cases hb : s.buffer b with
  | none => simp [returns, hb]
  | some p => simp [returns, hb, ← hs.count b p.1 p.2 hb]

/-- A buffer stays until a sweep returns it. -/
theorem isSome_step (hstep : Step owner s a s') (hb : (s.buffer b).isSome = true)
    (ha : a = .sweep → s.returns b = false) : (s'.buffer b).isSome = true := by
  have hrecount (c : κ) (f : ℕ → ℕ) : (s.recount c f b).isSome = true := by
    rw [← Option.isSome_map (f := Prod.fst), s.map_recount, Option.isSome_map]
    exact hb
  cases hstep with
  | retain c y hnone =>
    have hne : b ≠ c := fun heq => by
      subst heq
      rw [hnone] at hb
      cases hb
    show (Function.update s.buffer c _ b).isSome = true
    rw [Function.update_of_ne hne]
    exact hb
  | lend => exact hrecount _ _
  | giveBack => exact hrecount _ (· - 1)
  | unknown => exact hb
  | sweep =>
    obtain ⟨p, hp⟩ := Option.isSome_iff_exists.mp hb
    have hreturns := ha rfl
    rw [returns, hp, Option.any_some] at hreturns
    show ((s.buffer b).filter fun p => p.2 != 0).isSome = true
    rw [hp, Option.filter_some, if_pos (by simpa using hreturns)]
    rfl

theorem isSome_steps (hsteps : Steps owner s as s') (hb : (s.buffer b).isSome = true)
    (has : .sweep ∉ as) : (s'.buffer b).isSome = true := by
  induction hsteps with
  | nil => exact hb
  | cons hstep _ ih =>
    rw [List.mem_cons, not_or] at has
    exact ih (isSome_step hstep hb fun heq => absurd heq.symm has.1) has.2

/-- A buffer that is not there comes only by being retained. -/
theorem none_step (hstep : Step owner s a s') (hb : s.buffer b = none)
    (ha : ∀ x, a ≠ .retain b x) : s'.buffer b = none := by
  have hrecount (c : κ) (f : ℕ → ℕ) : s.recount c f b = none := by
    rw [← Option.map_eq_none_iff (f := Prod.fst), s.map_recount, hb]
    rfl
  cases hstep with
  | retain c y hnone =>
    have hne : b ≠ c := fun heq => ha y (by rw [heq])
    show Function.update s.buffer c _ b = none
    rw [Function.update_of_ne hne]
    exact hb
  | lend => exact hrecount _ _
  | giveBack => exact hrecount _ (· - 1)
  | unknown => exact hb
  | sweep =>
    show ((s.buffer b).filter fun p => p.2 != 0) = none
    rw [hb]
    rfl

theorem none_steps (hsteps : Steps owner s as s') (hb : s.buffer b = none)
    (has : ∀ x, .retain b x ∉ as) : s'.buffer b = none := by
  induction hsteps with
  | nil => exact hb
  | cons hstep _ ih =>
    refine ih (none_step hstep hb fun x heq => has x (heq ▸ List.mem_cons_self)) fun x hx => ?_
    exact has x (List.mem_cons_of_mem _ hx)

end Lending
end Rclweb
