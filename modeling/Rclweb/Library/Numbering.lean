import Mathlib.Data.List.Range
import Mathlib.Logic.Function.Basic

/-!
# Numbered streams

Messages of several streams, told apart by a key, each with a number.  A receiver that expects
the numbers `0, 1, 2, …` of every key takes the messages one after the other
(`contiguousFrom_cons`).  A sender that numbers all its attempts in one row and loses some of
them meets that expectation only in one way: what it sends comes first and is of one key
(`contiguous_numbered_iff`).
-/

namespace Rclweb
namespace Numbering

variable {κ : Type} [DecidableEq κ]

/-- The numbers of one key, in order. -/
def ofKey (k : κ) (l : List (κ × ℕ)) : List ℕ := (l.filter fun m => m.1 = k).map Prod.snd

/-- The numbers of every key count up from a start. -/
def ContiguousFrom (start : κ → ℕ) (l : List (κ × ℕ)) : Prop :=
  ∀ k, ofKey k l = List.range' (start k) (ofKey k l).length

/-- **The numbers of every key are `0, 1, 2, …` in order.** -/
def Contiguous (l : List (κ × ℕ)) : Prop := ContiguousFrom (fun _ => 0) l

@[simp] theorem ofKey_nil (k : κ) : ofKey k [] = [] := rfl

theorem ofKey_cons_self (k : κ) (n : ℕ) (l : List (κ × ℕ)) :
    ofKey k ((k, n) :: l) = n :: ofKey k l := by
  simp [ofKey]

theorem ofKey_cons_of_ne {k k' : κ} (h : k ≠ k') (n : ℕ) (l : List (κ × ℕ)) :
    ofKey k' ((k, n) :: l) = ofKey k' l := by
  simp [ofKey, h]

@[simp] theorem contiguousFrom_nil (start : κ → ℕ) : ContiguousFrom start [] := fun _ => rfl

/-- **The receiver's rule**: the next message of a key has the expected number, and the one
after it is expected next. -/
theorem contiguousFrom_cons (start : κ → ℕ) (k : κ) (n : ℕ) (l : List (κ × ℕ)) :
    ContiguousFrom start ((k, n) :: l) ↔
      n = start k ∧ ContiguousFrom (Function.update start k (start k + 1)) l := by
  have hself : ofKey k ((k, n) :: l) = List.range' (start k) (ofKey k ((k, n) :: l)).length ↔
      n = start k ∧ ofKey k l = List.range' (start k + 1) (ofKey k l).length := by
    rw [ofKey_cons_self, List.length_cons, List.range'_succ, List.cons.injEq]
  constructor
  · intro h
    refine ⟨(hself.mp (h k)).1, fun k' => ?_⟩
    by_cases hk : k = k'
    · subst hk
      simpa using (hself.mp (h k)).2
    · have hk' := h k'
      rw [ofKey_cons_of_ne hk] at hk'
      rwa [Function.update_of_ne (Ne.symm hk)]
  · rintro ⟨hn, h⟩ k'
    by_cases hk : k = k'
    · subst hk
      exact hself.mpr ⟨hn, by simpa using h k⟩
    · have hk' := h k'
      rw [Function.update_of_ne (Ne.symm hk)] at hk'
      rwa [ofKey_cons_of_ne hk]

/-! ## One row of numbers for all keys -/

/-- Number the attempts in one row, from `n` on, and keep the ones that are sent. -/
def numbered : ℕ → List (κ × Bool) → List (κ × ℕ)
  | _, [] => []
  | n, (k, sent) :: as => if sent then (k, n) :: numbered (n + 1) as else numbered (n + 1) as

omit [DecidableEq κ] in
theorem numbered_cons_sent (n : ℕ) (k : κ) (as : List (κ × Bool)) :
    numbered n ((k, true) :: as) = (k, n) :: numbered (n + 1) as := by simp [numbered]

omit [DecidableEq κ] in
theorem numbered_cons_lost (n : ℕ) (k : κ) (as : List (κ × Bool)) :
    numbered n ((k, false) :: as) = numbered (n + 1) as := by simp [numbered]

/-- The attempts of one key that are sent come first, and nothing else is sent. -/
def OneKeyFirst (as : List (κ × Bool)) : Prop :=
  ∃ k m rest, as = List.replicate m (k, true) ++ rest ∧ ∀ a ∈ rest, a.2 = false

omit [DecidableEq κ] in
theorem numbered_of_lost (n : ℕ) (as : List (κ × Bool)) (h : ∀ a ∈ as, a.2 = false) :
    numbered n as = [] := by
  induction as generalizing n with
  | nil => rfl
  | cons a as ih =>
    obtain ⟨k, sent⟩ := a
    obtain rfl : sent = false := h (k, sent) List.mem_cons_self
    rw [numbered_cons_lost]
    exact ih (n + 1) fun a ha => h a (List.mem_cons_of_mem _ ha)

/-- Numbers that run ahead of what every key expects are never right again. -/
theorem lost_of_contiguousFrom {start : κ → ℕ} {n : ℕ} {as : List (κ × Bool)}
    (h : ContiguousFrom start (numbered n as)) (hahead : ∀ k, start k < n) :
    ∀ a ∈ as, a.2 = false := by
  induction as generalizing n with
  | nil => simp
  | cons a as ih =>
    obtain ⟨k, sent⟩ := a
    cases sent with
    | true =>
      rw [numbered_cons_sent, contiguousFrom_cons] at h
      exact absurd h.1 (by have := hahead k; omega)
    | false =>
      rw [numbered_cons_lost] at h
      intro a ha
      rcases List.mem_cons.mp ha with rfl | ha
      · rfl
      · exact ih h (fun k => (hahead k).trans (Nat.lt_succ_self n)) a ha

/-- After `n` messages of one key the row goes on with that key, or with nothing. -/
theorem oneKey_of_contiguousFrom {k : κ} {n : ℕ} {as : List (κ × Bool)} (hn : 0 < n)
    (h : ContiguousFrom (Function.update (fun _ => 0) k n) (numbered n as)) :
    ∃ m rest, as = List.replicate m (k, true) ++ rest ∧ ∀ a ∈ rest, a.2 = false := by
  induction as generalizing n with
  | nil => exact ⟨0, [], rfl, by simp⟩
  | cons a as ih =>
    obtain ⟨k', sent⟩ := a
    cases sent with
    | true =>
      rw [numbered_cons_sent, contiguousFrom_cons] at h
      obtain ⟨hnext, h⟩ := h
      by_cases hk : k' = k
      · subst hk
        rw [Function.update_self, Function.update_idem] at h
        obtain ⟨m, rest, rfl, hrest⟩ := ih (Nat.succ_pos n) h
        exact ⟨m + 1, rest, by rw [List.replicate_succ, List.cons_append], hrest⟩
      · rw [Function.update_of_ne hk] at hnext
        omega
    | false =>
      refine ⟨0, (k', false) :: as, rfl, fun a ha => ?_⟩
      rw [numbered_cons_lost] at h
      rcases List.mem_cons.mp ha with rfl | ha
      · rfl
      refine lost_of_contiguousFrom h (fun k'' => ?_) a ha
      by_cases hk : k'' = k
      · rw [hk, Function.update_self]
        exact Nat.lt_succ_self n
      · rw [Function.update_of_ne hk]
        exact Nat.succ_pos n

/-- The numbers of a row of one key count up. -/
theorem contiguousFrom_replicate {k : κ} (start : κ → ℕ) (m : ℕ) {rest : List (κ × Bool)}
    (hrest : ∀ a ∈ rest, a.2 = false) :
    ContiguousFrom start (numbered (start k) (List.replicate m (k, true) ++ rest)) := by
  induction m generalizing start with
  | zero =>
    rw [List.replicate_zero, List.nil_append, numbered_of_lost _ rest hrest]
    exact contiguousFrom_nil start
  | succ m ih =>
    rw [List.replicate_succ, List.cons_append, numbered_cons_sent, contiguousFrom_cons]
    refine ⟨rfl, ?_⟩
    simpa using ih (Function.update start k (start k + 1))

/-- **One row of numbers serves every key exactly when one key is sent, and sent first.** -/
theorem contiguous_numbered_iff (as : List (κ × Bool)) :
    Contiguous (numbered 0 as) ↔ as = [] ∨ OneKeyFirst as := by
  constructor
  · intro h
    cases as with
    | nil => exact .inl rfl
    | cons a as =>
      obtain ⟨k, sent⟩ := a
      refine .inr ?_
      cases sent with
      | true =>
        rw [Contiguous, numbered_cons_sent, contiguousFrom_cons] at h
        obtain ⟨m, rest, rfl, hrest⟩ := oneKey_of_contiguousFrom (Nat.succ_pos 0) h.2
        exact ⟨k, m + 1, rest, by rw [List.replicate_succ, List.cons_append], hrest⟩
      | false =>
        refine ⟨k, 0, (k, false) :: as, rfl, fun a ha => ?_⟩
        rw [Contiguous, numbered_cons_lost] at h
        rcases List.mem_cons.mp ha with rfl | ha
        · rfl
        · exact lost_of_contiguousFrom h (fun _ => Nat.succ_pos 0) a ha
  · rintro (rfl | ⟨k, m, rest, rfl, hrest⟩)
    · exact contiguousFrom_nil _
    · exact contiguousFrom_replicate _ m hrest

omit [DecidableEq κ] in
/-- Numbers grow along the row, and stay below its end. -/
theorem lt_of_mem_numbered {n : ℕ} {as : List (κ × Bool)} {e : κ × ℕ} (h : e ∈ numbered n as) :
    e.2 < n + as.length := by
  induction as generalizing n with
  | nil => simp [numbered] at h
  | cons a as ih =>
    obtain ⟨k, sent⟩ := a
    rw [List.length_cons]
    cases sent with
    | true =>
      rw [numbered_cons_sent] at h
      rcases List.mem_cons.mp h with rfl | h
      · simp
      · have := ih h
        omega
    | false =>
      rw [numbered_cons_lost] at h
      have := ih h
      omega

omit [DecidableEq κ] in
theorem length_numbered_le (n : ℕ) (as : List (κ × Bool)) :
    (numbered n as).length ≤ as.length := by
  induction as generalizing n with
  | nil => exact Nat.le_refl 0
  | cons a as ih =>
    obtain ⟨k, sent⟩ := a
    have := ih (n + 1)
    cases sent with
    | true =>
      rw [numbered_cons_sent, List.length_cons, List.length_cons]
      omega
    | false =>
      rw [numbered_cons_lost, List.length_cons]
      omega

end Numbering
end Rclweb
