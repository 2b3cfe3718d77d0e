import Mathlib.Data.List.AList

/-!
# Finite maps

Association lists without repeated keys, at a fixed value type, with lookup after each
operation stated as one conditional.  `count` says how many values satisfy a predicate, and
what adding, replacing and removing an entry does to that number.
-/

namespace Rclweb

/-- A finite map from keys to values. -/
abbrev Table (κ ν : Type) := AList fun _ : κ => ν

namespace Table

variable {κ ν : Type} [DecidableEq κ]

/-- The value under a key. -/
def find? (t : Table κ ν) (k : κ) : Option ν := t.lookup k

/-- Add or replace the value under a key. -/
def set (t : Table κ ν) (k : κ) (v : ν) : Table κ ν := t.insert k v

/-- Remove a key. -/
def remove (t : Table κ ν) (k : κ) : Table κ ν := t.erase k

@[simp] theorem find?_empty (k : κ) : find? (∅ : Table κ ν) k = none := rfl

theorem find?_set (t : Table κ ν) (k : κ) (v : ν) (k' : κ) :
    (set t k v).find? k' = if k' = k then some v else t.find? k' := by
  by_cases h : k' = k
  · subst h
    simp [find?, set]
  · simp [find?, set, h]

@[simp] theorem find?_set_self (t : Table κ ν) (k : κ) (v : ν) :
    (set t k v).find? k = some v := by
  simp [find?_set]

theorem find?_remove (t : Table κ ν) (k k' : κ) :
    (remove t k).find? k' = if k' = k then none else t.find? k' := by
  by_cases h : k' = k
  · subst h
    simp [find?, remove]
  · simp [find?, remove, h]

/-- Removing the keys of a list. -/
theorem find?_foldl_remove {α : Type} (key : α → κ) (items : List α) (t : Table κ ν) (k : κ) :
    (items.foldl (fun t item => t.remove (key item)) t).find? k =
      if k ∈ items.map key then none else t.find? k := by
  induction items generalizing t with
  | nil => simp
  | cons item items ih =>
    rw [List.foldl_cons, ih, find?_remove]
    by_cases hk : k = key item
    · simp [hk]
    · simp [hk]

/-- Changing the value under a key, when there is one. -/
theorem find?_change {t t' : Table κ ν} {k : κ} (f : ν → ν)
    (hsome : ∀ v, t.find? k = some v → t' = t.set k (f v)) (hnone : t.find? k = none → t' = t)
    (k' : κ) : t'.find? k' = (t.find? k').map fun v => if k' = k then f v else v := by
  cases hv : t.find? k with
  | none =>
    rw [hnone hv]
    by_cases h : k' = k
    · rw [h, hv]
      rfl
    · simp [h]
  | some v =>
    rw [hsome v hv, find?_set]
    by_cases h : k' = k
    · rw [if_pos h, h, hv]
      simp
    · simp [h]

/-! ## Counting values -/

/-- How many values satisfy `p`. -/
def count (p : ν → Bool) (t : Table κ ν) : ℕ := t.entries.countP fun e => p e.2

omit [DecidableEq κ] in
@[simp] theorem count_empty (p : ν → Bool) : count p (∅ : Table κ ν) = 0 := rfl

omit [DecidableEq κ] in
theorem count_eq_countP_map (p : ν → Bool) (t : Table κ ν) :
    t.count p = (t.entries.map (·.2)).countP p := by
  rw [List.countP_map]
  rfl

/-- Nothing counts when no entry does. -/
theorem count_eq_zero {t : Table κ ν} {p : ν → Bool}
    (h : ∀ k v, t.find? k = some v → p v = false) : t.count p = 0 := by
  refine List.countP_eq_zero.mpr fun e he => ?_
  have hfind : t.find? e.1 = some e.2 := AList.mem_lookup_iff.mpr he
  rw [h e.1 e.2 hfind]
  exact Bool.false_ne_true

/-- Removing an entry takes its value out of the count. -/
theorem count_remove {t : Table κ ν} {k : κ} {v : ν} (h : t.find? k = some v) (p : ν → Bool) :
    t.count p = (t.remove k).count p + if p v then 1 else 0 := by
  have hmem : k ∈ t.keys := AList.lookup_isSome.mp (by rw [show t.lookup k = some v from h]; rfl)
  obtain ⟨w, l₁, l₂, hnot, hl, herase⟩ := List.exists_of_kerase hmem
  have hw : w = v := by
    have hlookup : t.lookup k = some w :=
      AList.mem_lookup_iff.mpr (by rw [hl]; simp)
    exact Option.some.inj (hlookup.symm.trans h)
  subst hw
  show t.entries.countP _ = (List.kerase k t.entries).countP _ + _
  rw [herase, hl, List.countP_append, List.countP_append, List.countP_cons]
  exact (Nat.add_assoc _ _ _).symm

/-- A removed key that was not there changes no count. -/
theorem count_remove_of_none {t : Table κ ν} {k : κ} (h : t.find? k = none) (p : ν → Bool) :
    (t.remove k).count p = t.count p := by
  have hnot : k ∉ t.keys := fun hmem => by
    have hsome := AList.lookup_isSome.mpr hmem
    rw [show t.lookup k = none from h] at hsome
    cases hsome
  show (List.kerase k t.entries).countP _ = _
  rw [List.kerase_of_notMem_keys hnot]
  rfl

theorem count_set (t : Table κ ν) (k : κ) (v : ν) (p : ν → Bool) :
    (t.set k v).count p = (t.remove k).count p + if p v then 1 else 0 := by
  show (t.insert k v).entries.countP _ = _
  rw [AList.entries_insert, List.countP_cons]
  rfl

/-- A new entry adds its value to the count. -/
theorem count_set_of_none {t : Table κ ν} {k : κ} (h : t.find? k = none) (v : ν) (p : ν → Bool) :
    (t.set k v).count p = t.count p + if p v then 1 else 0 := by
  rw [count_set, count_remove_of_none h]

/-- A replaced value that counts as much as the old one changes no count. -/
theorem count_set_of_eq {t : Table κ ν} {k : κ} {v w : ν} {p : ν → Bool}
    (h : t.find? k = some v) (hp : p w = p v) : (t.set k w).count p = t.count p := by
  rw [count_set, count_remove h, hp]

end Table
end Rclweb
