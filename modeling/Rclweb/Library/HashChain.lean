import Mathlib.Data.List.Chain
import Mathlib.Data.List.Induction
import Mathlib.Tactic.Common

/-!
# Hash chains

Each record of a chain names the digest of the record before it.  When no two records of two chains
have one digest unless they are the same, the last digest says what stands before it: of two chains
with one last digest, one is the end of the other.
-/

namespace Rclweb
namespace HashChain

variable {ρ δ : Type} (prev digest : ρ → δ)

/-- Every record but the first names the digest of the record before it. -/
def Linked (records : List ρ) : Prop := records.IsChain fun a b => prev b = digest a

variable {prev digest} {records records' : List ρ}

theorem linked_nil : Linked prev digest [] := List.isChain_nil

theorem linked_singleton (r : ρ) : Linked prev digest [r] := List.isChain_singleton r

/-- Two chains meet when the second begins with the last digest of the first. -/
theorem linked_append_iff : Linked prev digest (records ++ records') ↔
    Linked prev digest records ∧ Linked prev digest records' ∧
      ∀ a ∈ records.getLast?, ∀ b ∈ records'.head?, prev b = digest a := List.isChain_append

theorem Linked.left (h : Linked prev digest (records ++ records')) : Linked prev digest records :=
  (linked_append_iff.mp h).1

theorem Linked.right (h : Linked prev digest (records ++ records')) : Linked prev digest records' :=
  (linked_append_iff.mp h).2.1

theorem Linked.of_suffix (h : Linked prev digest records) (hsuffix : records' <:+ records) :
    Linked prev digest records' := by
  obtain ⟨front, rfl⟩ := hsuffix
  exact h.right

/-- The digest a further record has to name: that of the last record, or the beginning. -/
def last (digest : ρ → δ) (start : δ) (records : List ρ) : δ :=
  (records.getLast?.map digest).getD start

@[simp] theorem last_nil (start : δ) : last digest start [] = start := rfl

@[simp] theorem last_concat (start : δ) (r : ρ) :
    last digest start (records ++ [r]) = digest r := by
  rw [last, List.getLast?_concat]; rfl

/-- **A record that names the last digest continues the chain.** -/
theorem Linked.concat {start : δ} {r : ρ} (h : Linked prev digest records)
    (hr : prev r = last digest start records) : Linked prev digest (records ++ [r]) := by
  refine linked_append_iff.mpr ⟨h, linked_singleton r, fun a ha b hb => ?_⟩
  obtain rfl : r = b := Option.some.inj hb
  rw [hr, last, Option.mem_def.mp ha]; rfl

/-- **Of two chains with one last digest, one is the end of the other**, when no two of their
records share a digest. -/
theorem suffix_or_suffix (h : Linked prev digest records) (h' : Linked prev digest records')
    (hdigest : ∀ a ∈ records, ∀ b ∈ records', digest a = digest b → a = b)
    (hlast : ∀ a ∈ records.getLast?, ∀ b ∈ records'.getLast?, digest a = digest b) :
    records <:+ records' ∨ records' <:+ records := by
  induction records using List.reverseRecOn generalizing records' with
  | nil => exact .inl List.nil_suffix
  | append_singleton front a ih =>
    rcases List.eq_nil_or_concat records' with rfl | ⟨front', b, rfl⟩
    · exact .inr List.nil_suffix
    · rw [List.concat_eq_append] at *
      obtain rfl : a = b := hdigest a (by simp) b (by simp)
        (hlast a List.getLast?_concat b List.getLast?_concat)
      have hlinks := (linked_append_iff.mp h).2.2
      have hlinks' := (linked_append_iff.mp h').2.2
      have hfront : front <:+ front' ∨ front' <:+ front := by
        refine ih h.left h'.left
          (fun x hx y hy => hdigest x (List.mem_append_left _ hx) y (List.mem_append_left _ hy))
          fun x hx y hy => ?_
        rw [← hlinks x hx a rfl, hlinks' y hy a rfl]
      rcases hfront with ⟨more, rfl⟩ | ⟨more, rfl⟩
      · exact .inl ⟨more, (List.append_assoc more front [a]).symm⟩
      · exact .inr ⟨more, (List.append_assoc more front' [a]).symm⟩

end HashChain
end Rclweb
