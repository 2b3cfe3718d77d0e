import Mathlib.Data.List.Basic
import Mathlib.Tactic.Common

/-!
# The lines of a file

A reader of lines takes the bytes up to each newline and drops the newline, and a carriage return
in front of it.  A last line needs no newline, and then keeps its carriage return; nothing at all
behind the last newline is no line.
-/

namespace Rclweb
namespace Lines

def lf : UInt8 := 10

def cr : UInt8 := 13

/-- A line without the carriage return of its ending. -/
def stripCr (line : List UInt8) : List UInt8 :=
  if line.getLast? = some cr then line.dropLast else line

/-- The lines of the bytes to come, when `line` has been read of the present one. -/
def linesFrom (line : List UInt8) : List UInt8 → List (List UInt8)
  | [] => if line = [] then [] else [line]
  | b :: bytes =>
    if b = lf then stripCr line :: linesFrom [] bytes else linesFrom (line ++ [b]) bytes

/-- **The lines of a file.** -/
def lines (bytes : List UInt8) : List (List UInt8) := linesFrom [] bytes

/-- A text that one newline can end and nothing is lost. -/
structure IsLine (line : List UInt8) : Prop where
  nonempty : line ≠ []
  no_lf : lf ∉ line
  no_cr : line.getLast? ≠ some cr

/-- The file of some lines, each with its newline. -/
def file (texts : List (List UInt8)) : List UInt8 := texts.flatMap (· ++ [lf])

@[simp] theorem file_nil : file [] = [] := rfl

@[simp] theorem file_cons (text : List UInt8) (texts : List (List UInt8)) :
    file (text :: texts) = text ++ lf :: file texts := by
  rw [file, List.flatMap_cons, List.append_assoc]; rfl

@[simp] theorem file_append (texts texts' : List (List UInt8)) :
    file (texts ++ texts') = file texts ++ file texts' := List.flatMap_append

theorem file_eq_nil {texts : List (List UInt8)} : file texts = [] ↔ texts = [] := by
  cases texts with
  | nil => exact iff_of_true rfl rfl
  | cons text texts =>
    refine iff_of_false ?_ (List.cons_ne_nil _ _)
    intro h
    rw [file_cons] at h
    exact List.cons_ne_nil _ _ (List.append_eq_nil_iff.mp h).2

theorem suffix_file {texts texts' : List (List UInt8)} (h : texts <:+ texts') :
    file texts <:+ file texts' := by
  obtain ⟨front, rfl⟩ := h
  exact ⟨file front, (file_append front texts).symm⟩

@[simp] theorem lines_nil : lines [] = [] := rfl

theorem stripCr_of_ne {line : List UInt8} (h : line.getLast? ≠ some cr) : stripCr line = line :=
  if_neg h

/-- Bytes without a newline belong to the present line. -/
theorem linesFrom_append {text : List UInt8} (h : lf ∉ text) (line rest : List UInt8) :
    linesFrom line (text ++ rest) = linesFrom (line ++ text) rest := by
  induction text generalizing line with
  | nil => rw [List.nil_append, List.append_nil]
  | cons b text ih =>
    have hb : b ≠ lf := fun hb => h (hb ▸ List.mem_cons_self)
    rw [List.cons_append, linesFrom, if_neg hb, ih fun hmem => h (List.mem_cons_of_mem _ hmem),
      List.append_assoc, List.singleton_append]

/-- The first line of a file is read back. -/
theorem lines_line_append {line : List UInt8} (h : IsLine line) (rest : List UInt8) :
    lines (line ++ lf :: rest) = line :: lines rest := by
  rw [lines, linesFrom_append h.no_lf, linesFrom, if_pos rfl, List.nil_append,
    stripCr_of_ne h.no_cr, lines]

/-- **Lines and what follows them.** -/
theorem lines_file_append {texts : List (List UInt8)} (h : ∀ text ∈ texts, IsLine text)
    (rest : List UInt8) : lines (file texts ++ rest) = texts ++ lines rest := by
  induction texts with
  | nil => rfl
  | cons text texts ih =>
    rw [file_cons, List.append_assoc, List.cons_append,
      lines_line_append (h text List.mem_cons_self), ih fun t ht => h t (List.mem_cons_of_mem _ ht),
      List.cons_append]

theorem lines_file {texts : List (List UInt8)} (h : ∀ text ∈ texts, IsLine text) :
    lines (file texts) = texts := by
  have hlines := lines_file_append h []
  rwa [List.append_nil, lines_nil, List.append_nil] at hlines

/-- A text behind the last newline is the last line. -/
theorem lines_of_no_lf {text : List UInt8} (hne : text ≠ []) (h : lf ∉ text) :
    lines text = [text] := by
  have hlines := linesFrom_append h [] []
  rw [List.append_nil, List.nil_append, linesFrom, if_neg hne] at hlines
  exact hlines

/-! ## Other endings of the last line -/

private theorem linesFrom_append_end {bytes : List UInt8} (hlast : bytes.getLast? ≠ some lf)
    (line ending : List UInt8) (hne : line ++ bytes ≠ [])
    (hend : ∀ text : List UInt8, text ≠ [] → text.getLast? = (line ++ bytes).getLast? →
      linesFrom text ending = [text]) :
    linesFrom line (bytes ++ ending) = linesFrom line bytes := by
  induction bytes generalizing line with
  | nil =>
    have hline : line ≠ [] := by rwa [List.append_nil] at hne
    rw [List.nil_append, hend line hline (by rw [List.append_nil]), linesFrom, if_neg hline]
  | cons b bytes ih =>
    rw [List.cons_append, linesFrom, linesFrom]
    have hlast' : bytes.getLast? ≠ some lf := by
      cases bytes with
      | nil => exact nofun
      | cons b' bytes => rwa [List.getLast?_cons_cons] at hlast
    by_cases hb : b = lf
    · rw [if_pos hb, if_pos hb]
      have hbytes : bytes ≠ [] := by
        rintro rfl
        exact hlast (by rw [hb]; rfl)
      rw [ih hlast' [] hbytes fun text htext hlast => hend text htext ?_]
      obtain ⟨b', bytes', rfl⟩ := List.exists_cons_of_ne_nil hbytes
      rw [hlast, List.nil_append, List.getLast?_append_of_ne_nil _ (List.cons_ne_nil _ _),
        List.getLast?_cons_cons]
    · rw [if_neg hb, if_neg hb]
      refine ih hlast' _ (by simp) fun text htext hlast => hend text htext ?_
      rwa [List.append_assoc, List.singleton_append] at hlast

/-- **A last line may end in a carriage return and a newline.** -/
theorem lines_append_crlf {bytes : List UInt8} (hne : bytes ≠ [])
    (hlast : bytes.getLast? ≠ some lf) : lines (bytes ++ [cr, lf]) = lines bytes := by
  refine linesFrom_append_end hlast [] [cr, lf] hne fun text _ _ => ?_
  show linesFrom (text ++ [cr]) [lf] = [text]
  show [stripCr (text ++ [cr])] = [text]
  rw [stripCr, if_pos List.getLast?_concat, List.dropLast_concat]

/-- **A last line may end in a newline, or in nothing.** -/
theorem lines_append_lf {bytes : List UInt8} (hne : bytes ≠ []) (hlast : bytes.getLast? ≠ some lf)
    (hcr : bytes.getLast? ≠ some cr) : lines (bytes ++ [lf]) = lines bytes := by
  refine linesFrom_append_end hlast [] [lf] hne fun text _ htext => ?_
  show [stripCr text] = [text]
  rw [stripCr_of_ne (by rw [htext]; exact hcr)]

/-- A newline right behind a newline, or in front, makes an empty line. -/
theorem nil_mem_lines_append {bytes ending : List UInt8}
    (hending : ending = [lf] ∨ ending = [cr, lf])
    (hbytes : bytes = [] ∨ bytes.getLast? = some lf) : [] ∈ lines (bytes ++ ending) := by
  have hend : linesFrom [] ending = [[]] := by
    rcases hending with rfl | rfl <;> rfl
  have hfrom : ∀ (bytes line : List UInt8), bytes.getLast? = some lf →
      [] ∈ linesFrom line (bytes ++ ending) := by
    intro bytes
    induction bytes with
    | nil => exact nofun
    | cons b bytes ih =>
      intro line hlast
      rw [List.cons_append, linesFrom]
      cases bytes with
      | nil =>
        obtain rfl : b = lf := Option.some.inj hlast
        rw [if_pos rfl, List.nil_append, hend]
        exact List.mem_cons_of_mem _ List.mem_cons_self
      | cons b' bytes =>
        rw [List.getLast?_cons_cons] at hlast
        by_cases hb : b = lf
        · rw [if_pos hb]
          exact List.mem_cons_of_mem _ (ih [] hlast)
        · rw [if_neg hb]
          exact ih _ hlast
  rcases hbytes with rfl | hlast
  · rw [List.nil_append, lines, hend]
    exact List.mem_cons_self
  · exact hfrom bytes [] hlast

end Lines
end Rclweb
