import Mathlib.Data.List.Nodup
import Mathlib.Data.List.Perm.Basic

/-!
# Association lists in key order

A list of pairs whose keys ascend is determined by what is under each key.  `present` lists the
members that are there, out of a list of possible ones; `eq_present_iff` says when a given
association list is the one with the given members.

The order is any asymmetric relation on the keys.
-/

namespace Rclweb
namespace Members

variable {κ α : Type}

/-- **The members that are there**, with their keys. -/
def present (members : List (κ × Option α)) : List (κ × α) :=
  members.filterMap fun m => m.2.map (m.1, ·)

theorem mem_present {members : List (κ × Option α)} {k : κ} {v : α} :
    (k, v) ∈ present members ↔ (k, some v) ∈ members := by
  rw [present, List.mem_filterMap]
  constructor
  · rintro ⟨⟨k', o⟩, hmem, ho⟩
    obtain ⟨v', rfl, hv⟩ := Option.map_eq_some_iff.mp ho
    obtain ⟨rfl, rfl⟩ := Prod.mk.inj hv
    exact hmem
  · intro h
    exact ⟨(k, some v), h, rfl⟩

section Order

variable {r : κ → κ → Prop}

/-- Leaving members out keeps the order. -/
theorem pairwise_present {members : List (κ × Option α)}
    (h : members.Pairwise fun a b => r a.1 b.1) :
    (present members).Pairwise fun a b => r a.1 b.1 := by
  refine List.Pairwise.filterMap _ (fun m m' hr => ?_) h
  intro e he e' he'
  obtain ⟨v, -, rfl⟩ := Option.map_eq_some_iff.mp he
  obtain ⟨v', -, rfl⟩ := Option.map_eq_some_iff.mp he'
  exact hr

variable (hasymm : ∀ a b, r a b → ¬ r b a)
include hasymm

theorem nodup_of_pairwise {es : List (κ × α)} (h : es.Pairwise fun a b => r a.1 b.1) :
    es.Nodup := by
  refine h.imp fun {a b} hr heq => ?_
  rw [heq] at hr
  exact hasymm _ _ hr hr

/-- Two lists in the same order with the same entries are the same. -/
theorem ext_of_pairwise {es es' : List (κ × α)} (h : es.Pairwise fun a b => r a.1 b.1)
    (h' : es'.Pairwise fun a b => r a.1 b.1) (hmem : ∀ e, e ∈ es ↔ e ∈ es') : es = es' := by
  have hperm : es.Perm es' := by
    rw [List.perm_ext_iff_of_nodup (nodup_of_pairwise hasymm h) (nodup_of_pairwise hasymm h')]
    exact hmem
  exact hperm.eq_of_pairwise (fun a b _ _ hab hba => absurd hba (hasymm _ _ hab)) h h'

variable [BEq κ] [LawfulBEq κ]

/-- Under an asymmetric order a key stands once. -/
theorem mem_iff_lookup {es : List (κ × α)} (h : es.Pairwise fun a b => r a.1 b.1) {k : κ} {v : α} :
    (k, v) ∈ es ↔ es.lookup k = some v := by
  rw [List.lookup_eq_some_iff]
  constructor
  · intro hmem
    obtain ⟨front, back, rfl⟩ := List.append_of_mem hmem
    refine ⟨front, back, rfl, fun p hp => ?_⟩
    have hr : r p.1 k := (List.pairwise_append.mp h).2.2 p hp (k, v) List.mem_cons_self
    rw [bne_iff_ne]
    intro heq
    rw [heq] at hr
    exact hasymm _ _ hr hr
  · rintro ⟨front, back, rfl, -⟩
    exact List.mem_append_right _ List.mem_cons_self

/-- **An association list is its members.** -/
theorem eq_present_iff {es : List (κ × α)} {members : List (κ × Option α)}
    (hes : es.Pairwise fun a b => r a.1 b.1) (hmembers : members.Pairwise fun a b => r a.1 b.1) :
    es = present members ↔
      (∀ e ∈ es, e.1 ∈ members.map Prod.fst) ∧ ∀ m ∈ members, es.lookup m.1 = m.2 := by
  have hpresent := pairwise_present hmembers
  constructor
  · rintro rfl
    refine ⟨fun e he => List.mem_map_of_mem (mem_present.mp he), fun m hm => ?_⟩
    obtain ⟨k, o⟩ := m
    refine Option.ext fun v => ?_
    rw [← mem_iff_lookup hasymm hpresent, mem_present]
    constructor
    · intro hv
      have hlookup := (mem_iff_lookup hasymm hmembers).mp hm
      rw [(mem_iff_lookup hasymm hmembers).mp hv] at hlookup
      exact (Option.some.inj hlookup).symm
    · rintro rfl
      exact hm
  · rintro ⟨hkeys, hlookup⟩
    refine ext_of_pairwise hasymm hes hpresent ?_
    rintro ⟨k, v⟩
    rw [mem_present, mem_iff_lookup hasymm hes]
    constructor
    · intro hv
      obtain ⟨⟨k', o⟩, hm, hk⟩ :=
        List.mem_map.mp (hkeys (k, v) ((mem_iff_lookup hasymm hes).mpr hv))
      obtain rfl : k' = k := hk
      have ho : es.lookup k' = o := hlookup _ hm
      rw [← hv, ho]
      exact hm
    · exact fun hm => hlookup _ hm

end Order

end Members
end Rclweb
