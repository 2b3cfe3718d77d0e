import Mathlib.Data.List.Nodup

/-!
# Maps in the order of insertion

A finite map that keeps its entries in the order in which their keys came: a new key goes to the end,
a new value under an old key takes the place of the old one.  Walking through such a map is
walking through `entries`.
-/

namespace Rclweb

/-- **A finite map in the order of insertion.** -/
@[ext] structure InsertionMap (κ ν : Type) where
  entries : List (κ × ν) := []
  nodup : (entries.map Prod.fst).Nodup := by exact List.nodup_nil

namespace InsertionMap

variable {κ ν : Type}

instance : EmptyCollection (InsertionMap κ ν) := ⟨{}⟩

instance : Inhabited (InsertionMap κ ν) := ⟨∅⟩

instance [DecidableEq κ] [DecidableEq ν] : DecidableEq (InsertionMap κ ν) := fun m m' =>
  decidable_of_iff (m.entries = m'.entries) InsertionMap.ext_iff.symm

def keys (m : InsertionMap κ ν) : List κ := m.entries.map Prod.fst

def values (m : InsertionMap κ ν) : List ν := m.entries.map Prod.snd

@[simp] theorem entries_empty : (∅ : InsertionMap κ ν).entries = [] := rfl

theorem eq_empty_iff (m : InsertionMap κ ν) : m = ∅ ↔ m.entries = [] := InsertionMap.ext_iff

/-- Keep the entries with a property. -/
def filter (m : InsertionMap κ ν) (p : κ × ν → Bool) : InsertionMap κ ν where
  entries := m.entries.filter p
  nodup := (List.filter_sublist.map Prod.fst).nodup m.nodup

theorem mem_values_of_mem_filter {m : InsertionMap κ ν} {p : κ × ν → Bool} {v : ν}
    (h : v ∈ (m.filter p).values) : v ∈ m.values :=
  (List.filter_sublist.map Prod.snd).subset h

theorem mem_values_filter_or {m : InsertionMap κ ν} {v : ν} (h : v ∈ m.values)
    (p : κ × ν → Bool) :
    v ∈ (m.filter p).values ∨ v ∈ (m.filter fun entry => !p entry).values := by
  obtain ⟨entry, hentry, rfl⟩ := List.mem_map.mp h
  cases hp : p entry with
  | true => exact .inl (List.mem_map_of_mem (List.mem_filter.mpr ⟨hentry, hp⟩))
  | false => exact .inr (List.mem_map_of_mem (List.mem_filter.mpr ⟨hentry, by rw [hp]; rfl⟩))

theorem forall_values_filter {m : InsertionMap κ ν} {p : κ × ν → Bool} {R : ν → Prop}
    (h : ∀ v ∈ m.values, R v) : ∀ v ∈ (m.filter p).values, R v :=
  fun v hv => h v (mem_values_of_mem_filter hv)

theorem forall_keys_filter {m : InsertionMap κ ν} {p : κ × ν → Bool} {R : κ → Prop}
    (h : ∀ k ∈ m.keys, R k) : ∀ k ∈ (m.filter p).keys, R k :=
  fun k hk => h k ((List.filter_sublist.map Prod.fst).subset hk)

variable [DecidableEq κ]

/-- The value under a key. -/
def find? (m : InsertionMap κ ν) (k : κ) : Option ν := m.entries.lookup k

/-- The entries after a value is put under a key. -/
def setEntries (k : κ) (v : ν) : List (κ × ν) → List (κ × ν)
  | [] => [(k, v)]
  | entry :: rest => if entry.1 = k then (k, v) :: rest else entry :: setEntries k v rest

theorem keys_setEntries (k : κ) (v : ν) (entries : List (κ × ν)) :
    (setEntries k v entries).map Prod.fst =
      if k ∈ entries.map Prod.fst then entries.map Prod.fst else entries.map Prod.fst ++ [k] := by
  induction entries with
  | nil => rfl
  | cons entry rest ih =>
    rw [setEntries]
    by_cases h : entry.1 = k
    · rw [if_pos h, List.map_cons, List.map_cons, h, if_pos List.mem_cons_self]
    · rw [if_neg h, List.map_cons, ih, List.map_cons]
      have hiff : k ∈ entry.1 :: rest.map Prod.fst ↔ k ∈ rest.map Prod.fst := by
        simp [Ne.symm h]
      simp only [hiff]
      split_ifs <;> rfl

/-- Put a value under a key. -/
def set (m : InsertionMap κ ν) (k : κ) (v : ν) : InsertionMap κ ν where
  entries := setEntries k v m.entries
  nodup := by
    rw [keys_setEntries]
    split_ifs with h
    · exact m.nodup
    · exact List.nodup_append.mpr ⟨m.nodup, List.nodup_singleton k, by
        rintro a ha b hb rfl
        exact h (List.mem_singleton.mp hb ▸ ha)⟩

/-- Remove a key. -/
def remove (m : InsertionMap κ ν) (k : κ) : InsertionMap κ ν := m.filter fun entry => entry.1 ≠ k

/-! ## Looking up -/

@[simp] theorem find?_empty (k : κ) : find? (∅ : InsertionMap κ ν) k = none := rfl

theorem find?_eq_some_iff {m : InsertionMap κ ν} {k : κ} {v : ν} :
    m.find? k = some v ↔ (k, v) ∈ m.entries := by
  obtain ⟨entries, hnodup⟩ := m
  show entries.lookup k = some v ↔ _
  induction entries with
  | nil => simp
  | cons entry rest ih =>
    rw [List.map_cons, List.nodup_cons] at hnodup
    rw [List.lookup_cons, List.mem_cons]
    by_cases h : k = entry.1
    · subst h
      rw [beq_self_eq_true]
      refine ⟨fun hv => .inl ?_, ?_⟩
      · rw [← Option.some.inj hv]
      · rintro (hv | hv)
        · rw [← hv]
        · exact absurd (List.mem_map_of_mem hv) hnodup.1
    · rw [beq_eq_false_iff_ne.mpr h]
      refine (ih hnodup.2).trans ⟨.inr, ?_⟩
      rintro (hv | hv)
      · exact absurd (congrArg Prod.fst hv) h
      · exact hv

theorem find?_isSome_iff {m : InsertionMap κ ν} {k : κ} :
    (m.find? k).isSome = true ↔ k ∈ m.keys := by
  rw [Option.isSome_iff_exists, keys, List.mem_map]
  refine ⟨?_, ?_⟩
  · rintro ⟨v, hv⟩
    exact ⟨(k, v), find?_eq_some_iff.mp hv, rfl⟩
  · rintro ⟨⟨k', v⟩, hmem, rfl⟩
    exact ⟨v, find?_eq_some_iff.mpr hmem⟩

theorem mem_keys_of_find? {m : InsertionMap κ ν} {k : κ} {v : ν} (h : m.find? k = some v) :
    k ∈ m.keys :=
  find?_isSome_iff.mp (Option.isSome_of_eq_some h)

theorem find?_eq_none_iff {m : InsertionMap κ ν} {k : κ} : m.find? k = none ↔ k ∉ m.keys := by
  rw [← find?_isSome_iff, Option.not_isSome_iff_eq_none]

theorem find?_set (m : InsertionMap κ ν) (k : κ) (v : ν) (k' : κ) :
    (m.set k v).find? k' = if k' = k then some v else m.find? k' := by
  show (setEntries k v m.entries).lookup k' = if k' = k then some v else m.entries.lookup k'
  induction m.entries with
  | nil =>
    by_cases h : k' = k
    · simp [setEntries, h]
    · simp [setEntries, h]
  | cons entry rest ih =>
    rw [setEntries]
    by_cases hentry : entry.1 = k
    · rw [if_pos hentry, List.lookup_cons, List.lookup_cons, hentry]
      by_cases h : k' = k
      · rw [if_pos h, h, beq_self_eq_true]
      · rw [if_neg h, beq_eq_false_iff_ne.mpr h]
    · rw [if_neg hentry, List.lookup_cons, List.lookup_cons, ih]
      by_cases h : k' = k
      · subst h
        rw [beq_eq_false_iff_ne.mpr (Ne.symm hentry)]
      · rw [if_neg h, if_neg h]

@[simp] theorem find?_set_self (m : InsertionMap κ ν) (k : κ) (v : ν) :
    (m.set k v).find? k = some v := by
  rw [find?_set, if_pos rfl]

theorem find?_remove (m : InsertionMap κ ν) (k k' : κ) :
    (m.remove k).find? k' = if k' = k then none else m.find? k' := by
  by_cases h : k' = k
  · rw [if_pos h, find?_eq_none_iff, h]
    simp [keys, remove, filter]
  · rw [if_neg h]
    refine Option.ext fun v => ?_
    rw [find?_eq_some_iff, find?_eq_some_iff]
    simp [remove, filter, h]

@[simp] theorem mem_entries_remove {m : InsertionMap κ ν} {k : κ} {entry : κ × ν} :
    entry ∈ (m.remove k).entries ↔ entry ∈ m.entries ∧ entry.1 ≠ k := by
  simp [remove, filter]

theorem mem_entries_set {m : InsertionMap κ ν} {k : κ} {v : ν} {entry : κ × ν} :
    entry ∈ (m.set k v).entries ↔ entry = (k, v) ∨ (entry ∈ m.entries ∧ entry.1 ≠ k) := by
  obtain ⟨k', v'⟩ := entry
  rw [← find?_eq_some_iff, ← find?_eq_some_iff, find?_set]
  by_cases h : k' = k
  · rw [if_pos h, h, Option.some_inj]
    simp [eq_comm]
  · simp [h]

theorem keys_set (m : InsertionMap κ ν) (k : κ) (v : ν) :
    (m.set k v).keys = if k ∈ m.keys then m.keys else m.keys ++ [k] :=
  keys_setEntries k v m.entries

@[simp] theorem mem_keys_set {m : InsertionMap κ ν} {k k' : κ} {v : ν} :
    k' ∈ (m.set k v).keys ↔ k' = k ∨ k' ∈ m.keys := by
  rw [keys_set]
  split_ifs with h
  · exact ⟨.inr, fun hk => hk.elim (fun heq => heq ▸ h) id⟩
  · rw [List.mem_append, List.mem_singleton, or_comm]

@[simp] theorem mem_keys_remove {m : InsertionMap κ ν} {k k' : κ} :
    k' ∈ (m.remove k).keys ↔ k' ∈ m.keys ∧ k' ≠ k := by
  simp only [keys, List.mem_map, mem_entries_remove]
  constructor
  · rintro ⟨entry, ⟨hentry, hne⟩, rfl⟩
    exact ⟨⟨entry, hentry, rfl⟩, hne⟩
  · rintro ⟨⟨entry, hentry, rfl⟩, hne⟩
    exact ⟨entry, ⟨hentry, hne⟩, rfl⟩

theorem mem_values_of_find? {m : InsertionMap κ ν} {k : κ} {v : ν} (h : m.find? k = some v) :
    v ∈ m.values :=
  List.mem_map_of_mem (find?_eq_some_iff.mp h)

theorem mem_values_of_mem_set {m : InsertionMap κ ν} {k : κ} {v v' : ν}
    (h : v' ∈ (m.set k v).values) : v' = v ∨ v' ∈ m.values := by
  obtain ⟨entry, hentry, rfl⟩ := List.mem_map.mp h
  rcases mem_entries_set.mp hentry with rfl | hold
  · exact .inl rfl
  · exact .inr (List.mem_map_of_mem hold.1)

theorem mem_values_set_self {m : InsertionMap κ ν} {k : κ} {v : ν} : v ∈ (m.set k v).values :=
  mem_values_of_find? (find?_set_self m k v)

/-- A new key hides no value. -/
theorem mem_values_set_of_notMem {m : InsertionMap κ ν} {k : κ} {v v' : ν} (hk : k ∉ m.keys)
    (h : v' ∈ m.values) : v' ∈ (m.set k v).values := by
  obtain ⟨entry, hentry, rfl⟩ := List.mem_map.mp h
  refine List.mem_map_of_mem (mem_entries_set.mpr (.inr ⟨hentry, fun hkey => hk ?_⟩))
  exact hkey ▸ List.mem_map_of_mem hentry

theorem mem_values_remove_or {m : InsertionMap κ ν} {v : ν} (h : v ∈ m.values) (k : κ) :
    v ∈ (m.remove k).values ∨ m.find? k = some v := by
  obtain ⟨entry, hentry, rfl⟩ := List.mem_map.mp h
  by_cases hk : entry.1 = k
  · exact .inr (find?_eq_some_iff.mpr (hk ▸ hentry))
  · exact .inl (List.mem_map_of_mem (mem_entries_remove.mpr ⟨hentry, hk⟩))

theorem forall_values_set {m : InsertionMap κ ν} {k : κ} {v : ν} {R : ν → Prop}
    (h : ∀ v' ∈ m.values, R v') (hv : R v) : ∀ v' ∈ (m.set k v).values, R v' := by
  intro v' hv'
  rcases mem_values_of_mem_set hv' with rfl | hold
  · exact hv
  · exact h v' hold

theorem forall_keys_set {m : InsertionMap κ ν} {k : κ} {v : ν} {R : κ → Prop}
    (h : ∀ k' ∈ m.keys, R k') (hk : R k) : ∀ k' ∈ (m.set k v).keys, R k' := by
  intro k' hk'
  rcases mem_keys_set.mp hk' with rfl | hold
  · exact hk
  · exact h k' hold

/-- A new key goes to the end. -/
theorem entries_set_of_notMem {m : InsertionMap κ ν} {k : κ} (v : ν) (h : k ∉ m.keys) :
    (m.set k v).entries = m.entries ++ [(k, v)] := by
  show setEntries k v m.entries = m.entries ++ [(k, v)]
  rw [keys] at h
  generalize m.entries = entries at h ⊢
  induction entries with
  | nil => rfl
  | cons entry rest ih =>
    rw [List.map_cons, List.mem_cons, not_or] at h
    rw [setEntries, if_neg (Ne.symm h.1), ih h.2, List.cons_append]

/-! ## Taking out entries -/

/-- Taking out the entries with a property takes out one key, when these are the entries under it. -/
theorem filter_eq_remove_iff {m : InsertionMap κ ν} {k : κ} {p : κ × ν → Bool} :
    (m.filter fun entry => !p entry) = m.remove k ↔
      ∀ entry ∈ m.entries, p entry = true ↔ entry.1 = k := by
  have hext : (m.filter fun entry => !p entry) = m.remove k ↔
      m.entries.filter (fun entry => !p entry) = m.entries.filter fun entry => entry.1 ≠ k :=
    InsertionMap.ext_iff
  rw [hext]
  constructor
  · intro h entry hentry
    have hmem : entry ∈ m.entries.filter (fun entry => !p entry) ↔
        entry ∈ m.entries.filter fun entry => entry.1 ≠ k := by rw [h]
    simp only [List.mem_filter, hentry, true_and, Bool.not_eq_true', decide_eq_true_eq] at hmem
    rw [← not_iff_not, Bool.not_eq_true]
    exact hmem
  · intro h
    refine List.filter_congr fun entry hentry => ?_
    rw [Bool.eq_iff_iff, Bool.not_eq_true', ← Bool.not_eq_true, decide_eq_true_eq]
    exact not_congr (h entry hentry)

/-- The values under the keys with a property are the one under a key. -/
theorem values_filter_of_iff {m : InsertionMap κ ν} {k : κ} {p : κ × ν → Bool}
    (h : ∀ entry ∈ m.entries, p entry = true ↔ entry.1 = k) :
    (m.filter p).values = (m.find? k).toList := by
  obtain ⟨entries, hnodup⟩ := m
  show (entries.filter p).map Prod.snd = (entries.lookup k).toList
  induction entries with
  | nil => rfl
  | cons entry rest ih =>
    rw [List.map_cons, List.nodup_cons] at hnodup
    have hrest := ih hnodup.2 fun e he => h e (List.mem_cons_of_mem entry he)
    rw [List.lookup_cons]
    by_cases hk : entry.1 = k
    · have hnone : rest.filter p = [] := by
        rw [List.filter_eq_nil_iff]
        intro e he hp
        have heq := (h e (List.mem_cons_of_mem entry he)).mp hp
        exact hnodup.1 (hk ▸ heq ▸ List.mem_map_of_mem he)
      rw [List.filter_cons_of_pos ((h entry List.mem_cons_self).mpr hk), hnone, hk,
        beq_self_eq_true]
      rfl
    · have hp : ¬ p entry = true := fun hp => hk ((h entry List.mem_cons_self).mp hp)
      rw [List.filter_cons_of_neg hp, hrest, beq_eq_false_iff_ne.mpr (Ne.symm hk)]

@[simp] theorem remove_empty (k : κ) : (∅ : InsertionMap κ ν).remove k = ∅ := rfl

end InsertionMap
end Rclweb
