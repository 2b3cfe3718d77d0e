import Mathlib.Data.List.Basic
import Mathlib.Data.Nat.Notation

/-!
# Items laid out one after another, with gaps

A layout puts items one after another from a position, each behind a gap whose width depends on
the position reached.  What stands in the gaps is free (`Lays ok` only asks every gap element to
be `ok`), and `lay fill` is the layout that fills them with one element.

Two layouts of the same items have the same length whatever stands in their gaps
(`Lays.length_eq`), a layout of two lists is a layout of the first and one of the second from
where the first ends (`lays_append`), and `gapsOf` reads the gap elements back off.
-/

namespace Rclweb
namespace Aligned

variable {ι α : Type} (gap : ℕ → ι → ℕ) (body : ι → List α)

/-- **The items from a position, every gap filled with one element.** -/
def lay (fill : α) : ℕ → List ι → List α
  | _, [] => []
  | pos, i :: is =>
    List.replicate (gap pos i) fill ++ (body i ++ lay fill (pos + (gap pos i + (body i).length)) is)

/-- **A layout of the items from a position**, with `ok` elements in its gaps. -/
def Lays (ok : α → Prop) : ℕ → List ι → List α → Prop
  | _, [], bs => bs = []
  | pos, i :: is, bs => ∃ front rest, front.length = gap pos i ∧ (∀ x ∈ front, ok x) ∧
      bs = front ++ (body i ++ rest) ∧ Lays ok (pos + (gap pos i + (body i).length)) is rest

/-- The elements a layout takes, for items of the given widths. -/
def extent (width : ι → ℕ) : ℕ → List ι → ℕ
  | _, [] => 0
  | pos, i :: is => gap pos i + width i + extent width (pos + (gap pos i + width i)) is

/-- The elements in the gaps of a layout, in order. -/
def gapsOf (width : ι → ℕ) : ℕ → List ι → List α → List α
  | _, [], _ => []
  | pos, i :: is, bs =>
    bs.take (gap pos i) ++
      gapsOf width (pos + (gap pos i + width i)) is (bs.drop (gap pos i + width i))

variable {gap body} {ok ok' : α → Prop} {fill : α} {width : ι → ℕ} {pos : ℕ} {is js : List ι}
  {bs : List α}

@[simp] theorem lays_nil : Lays gap body ok pos [] bs ↔ bs = [] := Iff.rfl

theorem lays_cons {i : ι} :
    Lays gap body ok pos (i :: is) bs ↔ ∃ front rest, front.length = gap pos i ∧
      (∀ x ∈ front, ok x) ∧ bs = front ++ (body i ++ rest) ∧
        Lays gap body ok (pos + (gap pos i + (body i).length)) is rest := Iff.rfl

/-- **The length of a layout does not depend on what its gaps hold.** -/
theorem Lays.length_eq (hwidth : ∀ i, (body i).length = width i)
    (h : Lays gap body ok pos is bs) : bs.length = extent gap width pos is := by
  induction is generalizing pos bs with
  | nil => rw [lays_nil.mp h, extent, List.length_nil]
  | cons i is ih =>
    obtain ⟨front, rest, hfront, -, rfl, hrest⟩ := h
    have htail := ih hrest
    rw [hwidth] at htail
    simp only [List.length_append, extent, hfront, hwidth, htail]
    omega

theorem lays_append : Lays gap body ok pos (is ++ js) bs ↔
    ∃ b₁ b₂, bs = b₁ ++ b₂ ∧ Lays gap body ok pos is b₁ ∧
      Lays gap body ok (pos + b₁.length) js b₂ := by
  induction is generalizing pos bs with
  | nil => simp
  | cons i is ih =>
    rw [List.cons_append, lays_cons]
    constructor
    · rintro ⟨front, rest, hfront, hok, rfl, hrest⟩
      obtain ⟨b₁, b₂, rfl, h₁, h₂⟩ := ih.mp hrest
      refine ⟨front ++ (body i ++ b₁), b₂, by simp, ⟨front, b₁, hfront, hok, rfl, h₁⟩, ?_⟩
      have hpos : pos + (front ++ (body i ++ b₁)).length
          = pos + (gap pos i + (body i).length) + b₁.length := by
        simp only [List.length_append, hfront]
        omega
      rwa [hpos]
    · rintro ⟨b₁, b₂, rfl, ⟨front, rest, hfront, hok, rfl, h₁⟩, h₂⟩
      refine ⟨front, rest ++ b₂, hfront, hok, by simp, ih.mpr ⟨rest, b₂, rfl, h₁, ?_⟩⟩
      have hpos : pos + (front ++ (body i ++ rest)).length
          = pos + (gap pos i + (body i).length) + rest.length := by
        simp only [List.length_append, hfront]
        omega
      rwa [hpos] at h₂

theorem Lays.mono (hok : ∀ x, ok x → ok' x) (h : Lays gap body ok pos is bs) :
    Lays gap body ok' pos is bs := by
  induction is generalizing pos bs with
  | nil => exact h
  | cons i is ih =>
    obtain ⟨front, rest, hfront, hgap, rfl, hrest⟩ := h
    exact ⟨front, rest, hfront, fun x hx => hok x (hgap x hx), rfl, ih hrest⟩

/-- A layout whose gaps hold one element only is the filled one. -/
theorem lays_eq_iff : Lays gap body (· = fill) pos is bs ↔ bs = lay gap body fill pos is := by
  induction is generalizing pos bs with
  | nil => rfl
  | cons i is ih =>
    rw [lays_cons, lay]
    constructor
    · rintro ⟨front, rest, hfront, hgap, rfl, hrest⟩
      rw [ih.mp hrest, ← hfront, List.eq_replicate_of_mem hgap, List.length_replicate]
    · rintro rfl
      exact ⟨_, _, List.length_replicate, fun x hx => List.eq_of_mem_replicate hx, rfl, ih.mpr rfl⟩

theorem lays_lay (hfill : ok fill) : Lays gap body ok pos is (lay gap body fill pos is) := by
  have hfilled : Lays gap body (· = fill) pos is (lay gap body fill pos is) := lays_eq_iff.mpr rfl
  refine hfilled.mono ?_
  rintro x rfl
  exact hfill

/-- **What stands in the gaps is what `gapsOf` reads**, also when more follows the layout. -/
theorem lays_iff_gapsOf (hwidth : ∀ i, (body i).length = width i) {rest : List α} :
    Lays gap body ok pos is bs ↔ Lays gap body (fun _ => True) pos is bs ∧
      ∀ x ∈ gapsOf gap width pos is (bs ++ rest), ok x := by
  induction is generalizing pos bs with
  | nil => simp [gapsOf]
  | cons i is ih =>
    have hgaps (front tail : List α) (hfront : front.length = gap pos i) :
        gapsOf gap width pos (i :: is) (front ++ (body i ++ tail) ++ rest)
          = front ++ gapsOf gap width (pos + (gap pos i + (body i).length)) is (tail ++ rest) := by
      have hlen : (front ++ body i).length = gap pos i + (body i).length := by
        rw [List.length_append, hfront]
      have hbs : front ++ (body i ++ tail) ++ rest = front ++ (body i ++ (tail ++ rest)) := by simp
      rw [gapsOf, hbs, ← hwidth i, List.take_left' hfront, ← List.append_assoc front,
        List.drop_left' hlen]
    constructor
    · rintro ⟨front, tail, hfront, hgap, rfl, htail⟩
      obtain ⟨hany, hok⟩ := ih.mp htail
      refine ⟨⟨front, tail, hfront, fun _ _ => trivial, rfl, hany⟩, ?_⟩
      rw [hgaps front tail hfront]
      intro x hx
      rcases List.mem_append.mp hx with hx | hx
      · exact hgap x hx
      · exact hok x hx
    · rintro ⟨⟨front, tail, hfront, -, rfl, htail⟩, hok⟩
      rw [hgaps front tail hfront] at hok
      have hrest := ih.mpr ⟨htail, fun x hx => hok x (List.mem_append_right front hx)⟩
      exact ⟨front, tail, hfront, fun x hx => hok x (List.mem_append_left _ hx), rfl, hrest⟩

end Aligned
end Rclweb
