import Mathlib.Data.Nat.Notation
import Mathlib.Logic.Basic

/-!
# Operations that change a state or fail

`EStateM ε σ α` is an operation on a state that ends in a value or in an error, and leaves a
state behind in both cases.  The rules below say when a composed operation succeeds, which is
what a proof about a run that succeeded takes apart.

An operation that `Restores` a state leaves that state behind whenever it fails.

`Chain step items s t` runs one step for each item of a list, in order.
-/

namespace Rclweb
namespace Attempts

section Rules

variable {ε σ α β : Type} {s t : σ} {a : α} {b : β} {e : ε}

theorem bind_ok_iff {x : EStateM ε σ α} {f : α → EStateM ε σ β} :
    (x >>= f) s = .ok b t ↔ ∃ a u, x s = .ok a u ∧ f a u = .ok b t := by
  show EStateM.bind x f s = .ok b t ↔ _
  unfold EStateM.bind
  rcases x s with ⟨a, u⟩ | ⟨e, u⟩
  · constructor
    · exact fun h => ⟨a, u, rfl, h⟩
    · rintro ⟨a', u', h, hf⟩
      obtain ⟨rfl, rfl⟩ := EStateM.Result.ok.inj h
      exact hf
  · simp

theorem bind_of_ok {x : EStateM ε σ α} {f : α → EStateM ε σ β} (h : x s = .ok a t) :
    (x >>= f) s = f a t := by
  show EStateM.bind x f s = f a t
  rw [EStateM.bind, h]

theorem bind_of_error {x : EStateM ε σ α} {f : α → EStateM ε σ β} (h : x s = .error e t) :
    (x >>= f) s = .error e t := by
  show EStateM.bind x f s = .error e t
  rw [EStateM.bind, h]

/-- Operations that do the same in a state do the same before any other. -/
theorem bind_congr_left {x y : EStateM ε σ α} {f : α → EStateM ε σ β} (h : x s = y s) :
    (x >>= f) s = (y >>= f) s := by
  show EStateM.bind x f s = EStateM.bind y f s
  rw [EStateM.bind, EStateM.bind, h]

@[simp] theorem pure_ok_iff {a' : α} :
    (pure a : EStateM ε σ α) s = .ok a' t ↔ a = a' ∧ s = t := by
  show EStateM.Result.ok a s = .ok a' t ↔ _
  simp

@[simp] theorem throw_ok_iff : (throw e : EStateM ε σ α) s = .ok a t ↔ False := by
  show EStateM.Result.error e s = .ok a t ↔ _
  simp

@[simp] theorem get_ok_iff {u : σ} : (get : EStateM ε σ σ) s = .ok u t ↔ s = u ∧ s = t := by
  show EStateM.Result.ok s s = .ok u t ↔ _
  simp

@[simp] theorem modify_ok_iff {f : σ → σ} {u : PUnit} :
    (modify f : EStateM ε σ PUnit) s = .ok u t ↔ f s = t := by
  show EStateM.Result.ok PUnit.unit (f s) = .ok u t ↔ _
  simp

theorem map_ok_iff {x : EStateM ε σ α} {f : α → β} :
    (f <$> x) s = .ok b t ↔ ∃ a, x s = .ok a t ∧ f a = b := by
  show EStateM.map f x s = .ok b t ↔ _
  unfold EStateM.map
  rcases x s with ⟨a, u⟩ | ⟨e, u⟩
  · constructor
    · intro h
      obtain ⟨rfl, rfl⟩ := EStateM.Result.ok.inj h
      exact ⟨a, rfl, rfl⟩
    · rintro ⟨a', h, rfl⟩
      obtain ⟨rfl, rfl⟩ := EStateM.Result.ok.inj h
      rfl
  · simp

/-- Renaming the values of an operation by an injective function. -/
theorem map_injective_ok_iff {x : EStateM ε σ α} {f : α → β} (hf : ∀ a a', f a = f a' → a = a') :
    (f <$> x) s = .ok (f a) t ↔ x s = .ok a t := by
  rw [map_ok_iff]
  constructor
  · rintro ⟨a', h, heq⟩
    rwa [← hf a' a heq]
  · exact fun h => ⟨a, h, rfl⟩

/-- Fails when the condition holds, and does nothing otherwise. -/
def refuse (c : Prop) [Decidable c] (e : ε) : EStateM ε σ Unit := if c then throw e else pure ()

@[simp] theorem refuse_ok_iff {c : Prop} [Decidable c] {u : Unit} :
    (refuse c e : EStateM ε σ Unit) s = .ok u t ↔ ¬ c ∧ s = t := by
  unfold refuse
  by_cases hc : c
  · rw [if_pos hc]
    simp [hc]
  · rw [if_neg hc]
    simp [hc]

/-- The value of an option, with an error for its absence. -/
def orFail (o : Option α) (e : ε) : EStateM ε σ α :=
  match o with
  | some a => pure a
  | none => throw e

@[simp] theorem orFail_ok_iff {o : Option α} :
    (orFail o e : EStateM ε σ α) s = .ok a t ↔ o = some a ∧ s = t := by
  cases o <;> simp [orFail]

/-- A result without a state of its own, as an operation that keeps the state. -/
def lift (x : Except ε α) : EStateM ε σ α :=
  match x with
  | .ok a => pure a
  | .error e => throw e

@[simp] theorem lift_ok_iff {x : Except ε α} :
    (lift x : EStateM ε σ α) s = .ok a t ↔ x = .ok a ∧ s = t := by
  cases x <;> simp [lift]

/-- The operation repeated, with its values in order. -/
def repeated (x : EStateM ε σ α) : ℕ → EStateM ε σ (List α)
  | 0 => pure []
  | n + 1 => do
    let a ← x
    let rest ← repeated x n
    pure (a :: rest)

end Rules

/-! ## Failures that restore a state -/

section Restores

variable {ε σ α β : Type} {s₀ s t : σ}

/-- **A failure of the operation leaves the state `s₀`.** -/
def Restores (s₀ : σ) (x : EStateM ε σ α) (s : σ) : Prop := ∀ e t, x s = .error e t → t = s₀

theorem Restores.bind {x : EStateM ε σ α} {f : α → EStateM ε σ β} (hx : Restores s₀ x s)
    (hf : ∀ a t, x s = .ok a t → Restores s₀ (f a) t) : Restores s₀ (x >>= f) s := by
  intro e t h
  change EStateM.bind x f s = .error e t at h
  unfold EStateM.bind at h
  cases hs : x s with
  | ok a u =>
    rw [hs] at h
    exact hf a u hs e t h
  | error e' u =>
    rw [hs] at h
    obtain ⟨-, rfl⟩ := EStateM.Result.error.inj h
    exact hx e' u hs

theorem Restores.map {x : EStateM ε σ α} (hx : Restores s₀ x s) (f : α → β) :
    Restores s₀ (f <$> x) s := by
  intro e t h
  change EStateM.map f x s = .error e t at h
  unfold EStateM.map at h
  cases hs : x s with
  | ok a u =>
    rw [hs] at h
    cases h
  | error e' u =>
    rw [hs] at h
    obtain ⟨-, rfl⟩ := EStateM.Result.error.inj h
    exact hx e' u hs

theorem restores_pure (a : α) : Restores s₀ (pure a : EStateM ε σ α) s := by
  intro e t h
  cases h

theorem restores_get : Restores s₀ (get : EStateM ε σ σ) s := by
  intro e t h
  cases h

theorem restores_modify (f : σ → σ) : Restores s₀ (modify f : EStateM ε σ PUnit) s := by
  intro e t h
  cases h

theorem restores_refuse {c : Prop} [Decidable c] {e : ε} (hs : c → s = s₀) :
    Restores s₀ (refuse c e : EStateM ε σ Unit) s := by
  intro e' t h
  unfold refuse at h
  by_cases hc : c
  · rw [if_pos hc] at h
    cases h
    exact hs hc
  · rw [if_neg hc] at h
    cases h

theorem restores_orFail {o : Option α} {e : ε} (hs : s = s₀) :
    Restores s₀ (orFail o e : EStateM ε σ α) s := by
  intro e' t h
  cases o with
  | some a => cases h
  | none =>
    cases h
    exact hs

end Restores

/-! ## One step for each item -/

section Chains

variable {ι σ : Type} {step : ι → σ → σ → Prop} {s t : σ}

/-- **The run of a list of steps.** -/
def Chain (step : ι → σ → σ → Prop) : List ι → σ → σ → Prop
  | [], s, t => s = t
  | i :: is, s, t => ∃ u, step i s u ∧ Chain step is u t

@[simp] theorem chain_nil : Chain step [] s t ↔ s = t := Iff.rfl

theorem chain_cons {i : ι} {is : List ι} :
    Chain step (i :: is) s t ↔ ∃ u, step i s u ∧ Chain step is u t := Iff.rfl

@[simp] theorem chain_singleton {i : ι} : Chain step [i] s t ↔ step i s t := by
  simp [chain_cons]

theorem chain_append {is js : List ι} :
    Chain step (is ++ js) s t ↔ ∃ u, Chain step is s u ∧ Chain step js u t := by
  induction is generalizing s with
  | nil => simp
  | cons i is ih =>
    rw [List.cons_append, chain_cons]
    constructor
    · rintro ⟨u, hi, hrest⟩
      obtain ⟨v, his, hjs⟩ := ih.mp hrest
      exact ⟨v, ⟨u, hi, his⟩, hjs⟩
    · rintro ⟨v, ⟨u, hi, his⟩, hjs⟩
      exact ⟨u, hi, ih.mpr ⟨v, his, hjs⟩⟩

/-- What every step keeps, a run keeps. -/
theorem Chain.keeps {P : σ → Prop} (hstep : ∀ i s t, step i s t → P s → P t) {is : List ι}
    (h : Chain step is s t) (hs : P s) : P t := by
  induction is generalizing s with
  | nil => exact h ▸ hs
  | cons i is ih =>
    obtain ⟨u, hi, hrest⟩ := h
    exact ih hrest (hstep i s u hi hs)

end Chains

end Attempts
end Rclweb
