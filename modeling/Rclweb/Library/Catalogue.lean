import Mathlib.Data.List.Nodup
import Mathlib.Data.List.Perm.Basic
import Mathlib.Data.List.Sort
import Rclweb.Library.SortedMap

/-!
# Catalogues

A catalogue files rows under keys of their own, in the order of the keys.  A row is filed once: it
may come again, but another row under its key is refused, and so is a new row when the catalogue
is full.

`fileAll_ok_iff` says what filing comes to: a list of rows can be filed when some catalogue that
is not over the capacity holds just these rows, and then that catalogue is the result.  Nothing is
said of the order of the rows, which does not matter.
-/

namespace Rclweb

/-- **Rows under keys of their own**, in the order of the keys. -/
structure Catalogue {ρ κ : Type} [LinearOrder κ] (key : ρ → κ) where
  entries : List (κ × ρ)
  sorted : SortedMap.Sorted entries
  keyed : ∀ e ∈ entries, key e.2 = e.1

namespace Catalogue

/-- Why a row is not filed. -/
inductive Refusal (ρ : Type) where
  | conflict (existing : ρ)
  | full (rows : ℕ)

variable {ρ κ : Type} [LinearOrder κ] {key : ρ → κ}

def empty : Catalogue key := ⟨[], List.Pairwise.nil, List.forall_mem_nil _⟩

instance : EmptyCollection (Catalogue key) := ⟨empty⟩

def find? (c : Catalogue key) (k : κ) : Option ρ := c.entries.lookup k

def size (c : Catalogue key) : ℕ := c.entries.length

/-- The rows in the order of their keys. -/
def rows (c : Catalogue key) : List ρ := c.entries.map Prod.snd

instance : Membership ρ (Catalogue key) := ⟨fun c row => c.find? (key row) = some row⟩

/-! ## What is held -/

variable {c c' : Catalogue key} {row row' : ρ}

theorem mem_def : row ∈ c ↔ c.find? (key row) = some row := Iff.rfl

theorem notMem_empty : row ∉ (∅ : Catalogue key) := by
  intro h
  cases mem_def.mp h

theorem lookup_eq_some_iff {m : List (κ × ρ)} (h : SortedMap.Sorted m) {k : κ} :
    m.lookup k = some row ↔ (k, row) ∈ m := by
  induction m with
  | nil => exact iff_of_false (by simp) List.not_mem_nil
  | cons e m ih =>
    obtain ⟨k', row'⟩ := e
    obtain ⟨hfirst, hrest⟩ := SortedMap.sorted_cons.mp h
    rw [List.lookup_cons]
    by_cases hk : k = k'
    · subst hk
      rw [beq_self_eq_true]
      constructor
      · rintro ⟨⟩
        exact List.mem_cons_self
      · intro hmem
        rcases List.mem_cons.mp hmem with heq | hmem
        · rw [(Prod.mk.inj heq).2]
        · exact absurd (hfirst k (List.mem_map_of_mem hmem)) (lt_irrefl k)
    · rw [beq_false_of_ne hk]
      refine (ih hrest).trans ⟨List.mem_cons_of_mem _, fun hmem => ?_⟩
      rcases List.mem_cons.mp hmem with heq | hmem
      · exact absurd (Prod.mk.inj heq).1 hk
      · exact hmem

theorem mem_iff_entry : row ∈ c ↔ (key row, row) ∈ c.entries := lookup_eq_some_iff c.sorted

/-- What is found under a key is held, and the key is its own. -/
theorem find?_eq_some_iff {k : κ} : c.find? k = some row ↔ key row = k ∧ row ∈ c := by
  constructor
  · intro h
    have hkey := c.keyed _ ((lookup_eq_some_iff c.sorted).mp h)
    exact ⟨hkey, by rwa [mem_def, hkey]⟩
  · rintro ⟨rfl, h⟩
    exact h

/-- Under a key where nothing is found no row is held. -/
theorem key_ne_of_find?_eq_none {k : κ} (h : c.find? k = none) (hrow : row ∈ c) : key row ≠ k := by
  rintro rfl
  rw [mem_def.mp hrow] at h
  cases h

/-- Of the rows with one key at most one is held. -/
theorem eq_of_key_eq (h : row ∈ c) (h' : row' ∈ c) (hkey : key row = key row') : row = row' := by
  rw [mem_def, hkey, mem_def.mp h'] at h
  exact (Option.some.inj h).symm

theorem mem_rows : row ∈ c.rows ↔ row ∈ c := by
  rw [rows, List.mem_map, mem_iff_entry]
  constructor
  · rintro ⟨e, he, rfl⟩
    rwa [c.keyed e he]
  · exact fun h => ⟨_, h, rfl⟩

theorem nodup_entries (c : Catalogue key) : c.entries.Nodup := by
  refine c.sorted.imp ?_
  rintro e _ hlt rfl
  exact lt_irrefl _ hlt

/-- What one catalogue holds the other one holds, entry by entry. -/
theorem entries_subset (h : ∀ row ∈ c, row ∈ c') : c.entries ⊆ c'.entries := by
  intro e he
  have hkey := c.keyed e he
  have hmem : e.2 ∈ c := by
    rw [mem_iff_entry, hkey]
    exact he
  have hmem' := mem_iff_entry.mp (h e.2 hmem)
  rwa [hkey] at hmem'

theorem size_le_of_subset (h : ∀ row ∈ c, row ∈ c') : c.size ≤ c'.size :=
  (List.subperm_of_subset c.nodup_entries (entries_subset h)).length_le

/-- **A catalogue is what it holds.** -/
theorem ext_mem (h : ∀ row, row ∈ c ↔ row ∈ c') : c = c' := by
  have hperm : c.entries.Perm c'.entries :=
    (List.perm_ext_iff_of_nodup c.nodup_entries c'.nodup_entries).mpr fun e =>
      ⟨fun he => entries_subset (fun row => (h row).mp) he,
        fun he => entries_subset (fun row => (h row).mpr) he⟩
  have hentries : c.entries = c'.entries :=
    hperm.eq_of_pairwise (fun _ _ _ _ hlt hgt => absurd hlt (lt_asymm hgt)) c.sorted c'.sorted
  cases c
  cases c'
  cases hentries
  rfl

/-! ## Filing a row -/

/-- A row is put under its key. -/
def insert (c : Catalogue key) (row : ρ) : Catalogue key where
  entries := SortedMap.insert (key row) row c.entries
  sorted := SortedMap.sorted_insert c.sorted _ _
  keyed := by
    intro e he
    have hfound := (lookup_eq_some_iff (SortedMap.sorted_insert c.sorted (key row) row)).mpr
      (show (e.1, e.2) ∈ _ from he)
    by_cases hk : e.1 = key row
    · rw [hk, SortedMap.lookup_insert_self] at hfound
      rw [← Option.some.inj hfound, hk]
    · rw [SortedMap.lookup_insert_of_ne hk] at hfound
      exact c.keyed e ((lookup_eq_some_iff c.sorted).mp hfound)

theorem mem_insert (h : c.find? (key row) = none) :
    row' ∈ c.insert row ↔ row' ∈ c ∨ row' = row := by
  rw [mem_def, find?, insert]
  by_cases hk : key row' = key row
  · rw [hk, SortedMap.lookup_insert_self]
    constructor
    · rintro ⟨⟩
      exact .inr rfl
    · rintro (hmem | rfl)
      · rw [mem_def, hk, h] at hmem
        cases hmem
      · rfl
  · rw [SortedMap.lookup_insert_of_ne hk]
    refine ⟨.inl, ?_⟩
    rintro (hmem | rfl)
    · exact hmem
    · exact absurd rfl hk

theorem length_insert {m : List (κ × ρ)} {k : κ} (h : m.lookup k = none) :
    (SortedMap.insert k row m).length = m.length + 1 := by
  induction m with
  | nil => rfl
  | cons e m ih =>
    rw [List.lookup_cons] at h
    by_cases hk : k = e.1
    · rw [hk, beq_self_eq_true] at h
      cases h
    · rw [beq_false_of_ne hk] at h
      rw [SortedMap.insert]
      split_ifs with hlt hgt
      · rfl
      · rw [List.length_cons, ih h, List.length_cons]
      · exact absurd (le_antisymm (not_lt.mp hgt) (not_lt.mp hlt)) hk

theorem size_insert (h : c.find? (key row) = none) : (c.insert row).size = c.size + 1 :=
  length_insert h

variable [DecidableEq ρ]

/-- **File a row**: one that is held is left, another one under its key is a conflict. -/
def file (capacity : Option ℕ) (c : Catalogue key) (row : ρ) :
    Except (Refusal ρ) (Catalogue key) :=
  match c.find? (key row) with
  | some existing => if existing = row then .ok c else .error (.conflict existing)
  | none => if capacity.any (· ≤ c.size) then .error (.full c.size) else .ok (c.insert row)

omit [DecidableEq ρ] in
theorem room_iff {capacity : Option ℕ} :
    capacity.any (· ≤ c.size) = false ↔ ∀ n ∈ capacity, c.size < n := by
  cases capacity <;> simp

/-- **What filing a row comes to**: it is there, or there is room for it. -/
theorem file_ok_iff {capacity : Option ℕ} : file capacity c row = .ok c' ↔
    (row ∈ c ∧ c' = c) ∨
      (c.find? (key row) = none ∧ (∀ n ∈ capacity, c.size < n) ∧ c' = c.insert row) := by
  rw [file, ← room_iff]
  cases hfind : c.find? (key row) with
  | some existing =>
    obtain ⟨hkey, hmem⟩ := find?_eq_some_iff.mp hfind
    dsimp only
    rw [or_iff_left (by simp)]
    by_cases heq : existing = row
    · subst heq
      rw [if_pos rfl, Except.ok.injEq, and_iff_right hmem, eq_comm]
    · rw [if_neg heq]
      refine iff_of_false (by simp) ?_
      rintro ⟨hrow, -⟩
      exact heq (eq_of_key_eq hmem hrow hkey)
  | none =>
    dsimp only
    have hnot : row ∉ c := by
      rw [mem_def, hfind]
      simp
    rw [or_iff_right (not_and_of_not_left _ hnot), and_iff_right rfl]
    cases capacity.any (· ≤ c.size) with
    | true => simp
    | false => simp [eq_comm]

/-- Rows are filed one after another. -/
def fileAll (capacity : Option ℕ) (c : Catalogue key) (rows : List ρ) :
    Except (Refusal ρ) (Catalogue key) := rows.foldlM (file capacity) c

theorem fileAll_nil {capacity : Option ℕ} : fileAll capacity c [] = .ok c' ↔ c' = c := by
  rw [fileAll, List.foldlM_nil]
  exact (Except.ok.injEq ..).to_iff.trans eq_comm

theorem fileAll_cons {capacity : Option ℕ} {rows : List ρ} :
    fileAll capacity c (row :: rows) = .ok c' ↔
      ∃ middle, file capacity c row = .ok middle ∧ fileAll capacity middle rows = .ok c' := by
  rw [fileAll, List.foldlM_cons]
  cases file capacity c row with
  | error e => simp [bind, Except.bind]
  | ok middle => simp [bind, Except.bind, fileAll]

theorem fileAll_singleton {capacity : Option ℕ} :
    fileAll capacity c [row] = .ok c' ↔ file capacity c row = .ok c' := by
  rw [fileAll_cons]
  constructor
  · rintro ⟨middle, hfile, hnil⟩
    rwa [fileAll_nil.mp hnil]
  · exact fun h => ⟨c', h, fileAll_nil.mpr rfl⟩

theorem fileAll_append {capacity : Option ℕ} {rows rows' : List ρ} :
    fileAll capacity c (rows ++ rows') = .ok c' ↔
      ∃ middle, fileAll capacity c rows = .ok middle ∧ fileAll capacity middle rows' = .ok c' := by
  rw [fileAll, List.foldlM_append]
  unfold fileAll
  cases rows.foldlM (file capacity) c <;> simp [bind, Except.bind]

omit [DecidableEq ρ] in
/-- Nothing under a key that a held row has, unless it is that row. -/
theorem find?_eq_none_of_subset (h : ∀ r ∈ c, r ∈ c') (hrow : row ∈ c') (hnot : row ∉ c) :
    c.find? (key row) = none := by
  cases hfind : c.find? (key row) with
  | none => rfl
  | some existing =>
    obtain ⟨hkey, hmem⟩ := find?_eq_some_iff.mp hfind
    rw [eq_of_key_eq (h existing hmem) hrow hkey] at hmem
    exact absurd hmem hnot

/-- **What filing rows comes to**: the one catalogue that holds what was there and the rows. -/
theorem fileAll_ok_iff {capacity : Option ℕ} {rows : List ρ} :
    fileAll capacity c rows = .ok c' ↔
      (∀ r, r ∈ c' ↔ r ∈ c ∨ r ∈ rows) ∧ (c'.size = c.size ∨ ∀ n ∈ capacity, c'.size ≤ n) := by
  induction rows generalizing c with
  | nil =>
    rw [fileAll_nil]
    constructor
    · rintro rfl
      exact ⟨fun r => (or_iff_left List.not_mem_nil).symm, .inl rfl⟩
    · rintro ⟨hholds, -⟩
      exact ext_mem fun r => (hholds r).trans (or_iff_left List.not_mem_nil)
  | cons row rows ih =>
    rw [fileAll_cons]
    constructor
    · rintro ⟨middle, hfile, hrest⟩
      obtain ⟨hholds, hsize⟩ := ih.mp hrest
      rcases file_ok_iff.mp hfile with ⟨hmem, rfl⟩ | ⟨hnone, hroom, rfl⟩
      · refine ⟨fun r => ?_, hsize⟩
        rw [hholds, List.mem_cons, ← or_assoc]
        refine or_congr_left (or_iff_left_of_imp ?_).symm
        rintro rfl
        exact hmem
      · refine ⟨fun r => ?_, .inr fun n hn => ?_⟩
        · rw [hholds, mem_insert hnone, or_assoc, List.mem_cons]
        · rcases hsize with hsize | hsize
          · rw [hsize, size_insert hnone]
            exact hroom n hn
          · exact hsize n hn
    · rintro ⟨hholds, hsize⟩
      have hrow : row ∈ c' := (hholds row).mpr (.inr List.mem_cons_self)
      by_cases hmem : row ∈ c
      · refine ⟨c, file_ok_iff.mpr (.inl ⟨hmem, rfl⟩), ih.mpr ⟨fun r => ?_, hsize⟩⟩
        rw [hholds, List.mem_cons, ← or_assoc]
        refine or_congr_left (or_iff_left_of_imp ?_)
        rintro rfl
        exact hmem
      · have hnone : c.find? (key row) = none :=
          find?_eq_none_of_subset (fun r hr => (hholds r).mpr (.inl hr)) hrow hmem
        have hle : (c.insert row).size ≤ c'.size := by
          refine size_le_of_subset fun r hr => ?_
          rcases (mem_insert hnone).mp hr with hr | rfl
          · exact (hholds r).mpr (.inl hr)
          · exact hrow
        rw [size_insert hnone] at hle
        have hroom := hsize.resolve_left (by omega)
        refine ⟨c.insert row, file_ok_iff.mpr (.inr ⟨hnone, fun n hn => ?_, rfl⟩),
          ih.mpr ⟨fun r => ?_, .inr hroom⟩⟩
        · have hbound := hroom n hn
          omega
        · rw [hholds, mem_insert hnone, List.mem_cons, or_assoc]

end Catalogue
end Rclweb
