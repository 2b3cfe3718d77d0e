import Mathlib.Order.Lattice
import Mathlib.Tactic.Common

/-!
# Maps in the order of their keys

An association list whose keys ascend, with the operations of a tree map: put a value under a key,
build a map from entries in any order, look a key up.
-/

namespace Rclweb
namespace SortedMap

variable {κ ν : Type} [LinearOrder κ]

/-- The keys ascend. -/
def Sorted (m : List (κ × ν)) : Prop := m.Pairwise fun a b => a.1 < b.1

/-- **Put a value under a key**, in place of the one that is there. -/
def insert (k : κ) (v : ν) : List (κ × ν) → List (κ × ν)
  | [] => [(k, v)]
  | entry :: rest =>
    if k < entry.1 then (k, v) :: entry :: rest
    else if entry.1 < k then entry :: insert k v rest
    else (k, v) :: rest

/-- **The map of some entries**; of two entries with one key the later one counts. -/
def ofEntries (entries : List (κ × ν)) : List (κ × ν) :=
  entries.foldl (fun m entry => insert entry.1 entry.2 m) []

variable {m : List (κ × ν)} {k : κ} {v : ν}

theorem mem_keys_insert {k' : κ} :
    k' ∈ (insert k v m).map Prod.fst ↔ k' = k ∨ k' ∈ m.map Prod.fst := by
  induction m with
  | nil => simp [insert]
  | cons entry rest ih =>
    rw [insert]
    by_cases hlt : k < entry.1
    · rw [if_pos hlt, List.map_cons, List.mem_cons]
    · rw [if_neg hlt]
      by_cases hgt : entry.1 < k
      · rw [if_pos hgt, List.map_cons, List.mem_cons, ih, List.map_cons, List.mem_cons]
        exact or_left_comm
      · rw [if_neg hgt, List.map_cons, List.mem_cons, List.map_cons, List.mem_cons,
          le_antisymm (not_lt.mp hlt) (not_lt.mp hgt)]
        simp

theorem sorted_cons {entry : κ × ν} :
    Sorted (entry :: m) ↔ (∀ k ∈ m.map Prod.fst, entry.1 < k) ∧ Sorted m := by
  rw [Sorted, List.pairwise_cons, List.forall_mem_map]
  rfl

/-- Putting a value keeps the order. -/
theorem sorted_insert (h : Sorted m) (k : κ) (v : ν) : Sorted (insert k v m) := by
  induction m with
  | nil => exact List.pairwise_singleton _ _
  | cons entry rest ih =>
    obtain ⟨hentry, hrest⟩ := sorted_cons.mp h
    rw [insert]
    by_cases hlt : k < entry.1
    · rw [if_pos hlt]
      refine sorted_cons.mpr ⟨?_, h⟩
      intro k' hk'
      rcases List.mem_cons.mp hk' with rfl | hk'
      · exact hlt
      · exact lt_trans hlt (hentry k' hk')
    · rw [if_neg hlt]
      by_cases hgt : entry.1 < k
      · rw [if_pos hgt]
        refine sorted_cons.mpr ⟨?_, ih hrest⟩
        intro k' hk'
        rcases mem_keys_insert.mp hk' with rfl | hk'
        · exact hgt
        · exact hentry k' hk'
      · rw [if_neg hgt]
        refine sorted_cons.mpr ⟨?_, hrest⟩
        rw [le_antisymm (not_lt.mp hgt) (not_lt.mp hlt)]
        exact hentry

theorem sorted_foldl_insert {entries : List (κ × ν)} (h : Sorted m) :
    Sorted (entries.foldl (fun m entry => insert entry.1 entry.2 m) m) :=
  List.foldlRecOn entries _ h fun _ hm entry _ => sorted_insert hm entry.1 entry.2

theorem sorted_ofEntries (entries : List (κ × ν)) : Sorted (ofEntries entries) :=
  sorted_foldl_insert List.Pairwise.nil

theorem insert_of_forall_lt (h : ∀ k' ∈ m.map Prod.fst, k' < k) : insert k v m = m ++ [(k, v)] := by
  induction m with
  | nil => rfl
  | cons entry rest ih =>
    have hentry := h entry.1 List.mem_cons_self
    rw [insert, if_neg (not_lt.mpr (le_of_lt hentry)), if_pos hentry,
      ih fun k' hk' => h k' (List.mem_cons_of_mem _ hk'), List.cons_append]

/-- **A sorted list is the map of its entries.** -/
theorem ofEntries_of_sorted (h : Sorted m) : ofEntries m = m := by
  have hfold : ∀ (rest front : List (κ × ν)), Sorted (front ++ rest) →
      rest.foldl (fun m entry => insert entry.1 entry.2 m) front = front ++ rest := by
    intro rest
    induction rest with
    | nil =>
      intro front _
      exact (List.append_nil front).symm
    | cons entry rest ih =>
      intro front hsorted
      have hfront : ∀ k' ∈ front.map Prod.fst, k' < entry.1 := by
        rw [List.forall_mem_map]
        intro other hother
        exact (List.pairwise_append.mp hsorted).2.2 other hother entry List.mem_cons_self
      rw [List.foldl_cons, insert_of_forall_lt hfront, ih _ (by rwa [List.append_assoc]),
        List.append_assoc]
      rfl
  exact hfold m [] h

/-- **The value just put is found.** -/
@[simp] theorem lookup_insert_self : (insert k v m).lookup k = some v := by
  induction m with
  | nil => exact List.lookup_cons_self
  | cons entry rest ih =>
    rw [insert]
    by_cases hlt : k < entry.1
    · rw [if_pos hlt]
      exact List.lookup_cons_self
    · rw [if_neg hlt]
      by_cases hgt : entry.1 < k
      · rw [if_pos hgt, List.lookup_cons, beq_false_of_ne (ne_of_gt hgt), ih]
      · rw [if_neg hgt]
        exact List.lookup_cons_self

/-- The other keys keep their values. -/
theorem lookup_insert_of_ne {k' : κ} (hne : k' ≠ k) : (insert k v m).lookup k' = m.lookup k' := by
  induction m with
  | nil => rw [insert, List.lookup_cons, beq_false_of_ne hne]
  | cons entry rest ih =>
    rw [insert]
    by_cases hlt : k < entry.1
    · rw [if_pos hlt, List.lookup_cons, beq_false_of_ne hne]
    · rw [if_neg hlt]
      by_cases hgt : entry.1 < k
      · rw [if_pos hgt, List.lookup_cons, ih, ← List.lookup_cons]
      · have hentry : entry.1 = k := le_antisymm (not_lt.mp hlt) (not_lt.mp hgt)
        rw [if_neg hgt, List.lookup_cons, beq_false_of_ne hne, List.lookup_cons, hentry,
          beq_false_of_ne hne]

/-- **Without the key just put, a map is what it was**, when the key was not there. -/
theorem filter_insert (h : k ∉ m.map Prod.fst) :
    (insert k v m).filter (fun entry => entry.1 != k) = m := by
  induction m with
  | nil => simp [insert]
  | cons entry rest ih =>
    have hne : entry.1 ≠ k := by
      rintro rfl
      exact h List.mem_cons_self
    have hrest : k ∉ rest.map Prod.fst := fun hmem => h (List.mem_cons_of_mem _ hmem)
    have hkeep : rest.filter (fun entry => entry.1 != k) = rest := by
      rw [List.filter_eq_self]
      intro other hother
      refine bne_iff_ne.mpr ?_
      rintro rfl
      exact hrest (List.mem_map_of_mem hother)
    rw [insert]
    by_cases hlt : k < entry.1
    · rw [if_pos hlt, List.filter_cons_of_neg (by simp),
        List.filter_cons_of_pos (by simpa using hne), hkeep]
    · rw [if_neg hlt, if_pos (lt_of_le_of_ne (not_lt.mp hlt) hne),
        List.filter_cons_of_pos (by simpa using hne), ih hrest]

/-- Entries under other keys leave a key's value. -/
theorem lookup_foldl_insert {entries : List (κ × ν)} (h : ∀ entry ∈ entries, entry.1 ≠ k) :
    (entries.foldl (fun m entry => insert entry.1 entry.2 m) m).lookup k = m.lookup k := by
  induction entries generalizing m with
  | nil => rfl
  | cons entry entries ih =>
    rw [List.foldl_cons, ih fun other hother => h other (List.mem_cons_of_mem _ hother),
      lookup_insert_of_ne (h entry List.mem_cons_self).symm]

theorem notMem_keys_foldl_insert {entries : List (κ × ν)} (h : ∀ entry ∈ entries, entry.1 ≠ k)
    (hk : k ∉ m.map Prod.fst) :
    k ∉ (entries.foldl (fun m entry => insert entry.1 entry.2 m) m).map Prod.fst := by
  induction entries generalizing m with
  | nil => exact hk
  | cons entry entries ih =>
    refine ih (fun other hother => h other (List.mem_cons_of_mem _ hother)) ?_
    intro hmem
    rcases mem_keys_insert.mp hmem with heq | hmem
    · exact h entry List.mem_cons_self heq.symm
    · exact hk hmem

end SortedMap
end Rclweb
