import Rclweb.Library.Json
import Mathlib.Data.List.Basic

/-!
# Spelling JSON

A text spells a value when the parser reads the value back from it, whatever follows in an array,
an object or the text.  The spellings of texts, integers, arrays and objects are put together here
from those of their parts, so that a writer is checked part by part.

The parser's fuel bounds its depth and the items of an array; more fuel than characters is enough
(`Spells.read`), which is what `parse` gives.
-/

namespace Rclweb
namespace Json

/-! ## Texts -/

/-- The inside of a string, with its escapes, stands for some characters. -/
def SpellsText (body text : List Char) : Prop :=
  ∀ rest, codePoints (body ++ rest) =
    (codePoints rest).map fun p => (text.map Char.toNat ++ p.1, p.2)

theorem SpellsText.nil : SpellsText [] [] := by
  intro rest
  rw [List.nil_append]
  cases codePoints rest with
  | none => rfl
  | some p => rfl

theorem SpellsText.append {body body' text text' : List Char} (h : SpellsText body text)
    (h' : SpellsText body' text') : SpellsText (body ++ body') (text ++ text') := by
  intro rest
  rw [List.append_assoc, h, h', Option.map_map, List.map_append]
  congr 1
  funext p
  exact Prod.ext (List.append_assoc _ _ _).symm rfl

/-- Characters that are spelled one by one. -/
theorem SpellsText.flatMap {spell : Char → List Char} {text : List Char}
    (h : ∀ c ∈ text, SpellsText (spell c) [c]) : SpellsText (text.flatMap spell) text := by
  induction text with
  | nil => exact SpellsText.nil
  | cons c text ih =>
    obtain ⟨hc, htext⟩ := List.forall_mem_cons.mp h
    rw [List.flatMap_cons]
    exact hc.append (ih htext)

/-- A character that needs no escape. -/
def Plain (c : Char) : Prop := c ≠ '"' ∧ c ≠ '\\' ∧ 0x20 ≤ c.toNat

instance (c : Char) : Decidable (Plain c) := inferInstanceAs (Decidable (_ ∧ _ ∧ _))

theorem SpellsText.plain {c : Char} (h : Plain c) : SpellsText [c] [c] := by
  obtain ⟨hquote, hslash, hlow⟩ := h
  intro rest
  rw [List.singleton_append, codePoints, if_neg (by simp [hslash]; omega)]
  · rfl
  · exact hquote
  · exact fun _ _ _ _ _ heq => absurd heq hslash
  · exact fun _ _ heq => absurd heq hslash

/-- A plain text spells itself. -/
theorem SpellsText.of_plain {text : List Char} (h : ∀ c ∈ text, Plain c) :
    SpellsText text text := by
  have hmap := SpellsText.flatMap fun c hc => SpellsText.plain (h c hc)
  rwa [List.flatMap_singleton'] at hmap

theorem SpellsText.of_all_plain {text : List Char} (h : text.all fun c => Plain c) :
    SpellsText text text :=
  SpellsText.of_plain fun c hc => of_decide_eq_true (List.all_eq_true.mp h c hc)

/-- A character behind a backslash. -/
theorem SpellsText.escape {c e : Char} (h : escape? e = some c) : SpellsText ['\\', e] [c] := by
  have hu : e ≠ 'u' := by
    rintro rfl
    rw [show escape? 'u' = none by decide] at h
    cases h
  intro rest
  show codePoints ('\\' :: e :: rest) = _
  rw [codePoints, h]
  · rfl
  · exact fun _ _ _ _ _ heq => absurd heq hu

/-- A character as four hex digits. -/
theorem SpellsText.hex {a b c d char : Char} (h : hex4? a b c d = some char.toNat) :
    SpellsText ['\\', 'u', a, b, c, d] [char] := by
  intro rest
  show codePoints ('\\' :: 'u' :: a :: b :: c :: d :: rest) = _
  rw [codePoints, h]
  rfl

theorem not_isHigh_toNat (c : Char) : isHigh c.toNat = false := by
  have hvalid := c.valid
  rw [isHigh]
  rcases hvalid with hlow | hhigh
  · have : c.toNat < 0xD800 := hlow
    simp
    omega
  · have : 0xDFFF < c.toNat := hhigh.1
    simp
    omega

theorem not_isLow_toNat (c : Char) : isLow c.toNat = false := by
  have hvalid := c.valid
  rw [isLow]
  rcases hvalid with hlow | hhigh
  · have : c.toNat < 0xD800 := hlow
    simp
    omega
  · have : 0xDFFF < c.toNat := hhigh.1
    simp
    omega

theorem charOf_toNat (c : Char) : charOf c.toNat = c := by
  rw [charOf, not_isHigh_toNat, not_isLow_toNat]
  exact Char.ofNat_toNat c

/-- Characters are no halves of surrogate pairs. -/
theorem chars_map_toNat (text : List Char) : chars (text.map Char.toNat) = text := by
  induction text with
  | nil => rfl
  | cons c text ih =>
    cases text with
    | nil => exact congrArg (· :: []) (charOf_toNat c)
    | cons d text =>
      show chars (c.toNat :: d.toNat :: text.map Char.toNat) = _
      rw [chars, not_isHigh_toNat, charOf_toNat]
      exact congrArg (c :: ·) ih

/-- **A text between quotes.** -/
theorem SpellsText.text {body : List Char} {s : String} (h : SpellsText body s.toList)
    (rest : List Char) : Json.text (body ++ '"' :: rest) = some (s, rest) := by
  rw [Json.text, h, codePoints, Option.map_some, Option.map_some, List.append_nil, chars_map_toNat,
    String.ofList_toList]

/-! ## Values -/

/-- What stands behind a value in a text. -/
def Follows (rest : List Char) : Prop := ∀ c ∈ rest.head?, c = ',' ∨ c = ']' ∨ c = '\x7d'

/-- **A text spells a value.** -/
structure Spells (cs : List Char) (v : Json) : Prop where
  head : ∃ c tail, cs = c :: tail ∧ isSpace c = false ∧ c ≠ ']'
  read : ∀ fuel rest, cs.length < fuel → Follows rest → value fuel (cs ++ rest) = some (v, rest)

theorem skipSpace_cons {c : Char} (h : isSpace c = false) (cs : List Char) :
    skipSpace (c :: cs) = c :: cs :=
  List.dropWhile_cons_of_neg (by rw [h]; exact Bool.false_ne_true)

theorem Spells.skipSpace {cs : List Char} {v : Json} (h : Spells cs v) (rest : List Char) :
    Json.skipSpace (cs ++ rest) = cs ++ rest := by
  obtain ⟨c, tail, rfl, hspace, -⟩ := h.head
  exact skipSpace_cons hspace _

/-- A string. -/
theorem SpellsText.spells {body : List Char} {s : String} (h : SpellsText body s.toList) :
    Spells ('"' :: body ++ ['"']) (.string s) := by
  refine ⟨⟨'"', _, rfl, by decide, by decide⟩, fun fuel rest hfuel _ => ?_⟩
  obtain ⟨fuel, rfl⟩ : ∃ n, fuel = n + 1 := ⟨fuel - 1, by omega⟩
  have hbody : '"' :: body ++ ['"'] ++ rest = '"' :: (body ++ '"' :: rest) := by simp
  rw [hbody, value, skipSpace_cons (by decide)]
  show (Json.text (body ++ '"' :: rest)).map _ = _
  rw [h.text rest]
  rfl

/-! ## Integers -/

theorem Follows.notDigit {rest : List Char} (h : Follows rest) :
    ∀ c ∈ rest.head?, isDigit c = false ∧ c ≠ '.' ∧ c ≠ 'e' ∧ c ≠ 'E' := by
  intro c hc
  rcases h c hc with rfl | rfl | rfl <;> decide

theorem isDigit_of_mem_toDigits {n : ℕ} {c : Char} (h : c ∈ Nat.toDigits 10 n) :
    isDigit c = true := by
  have hdigit := Nat.isDigit_of_mem_toDigits (by decide) (by decide) h
  rw [Char.isDigit, Bool.and_eq_true, decide_eq_true_iff, decide_eq_true_iff] at hdigit
  rw [isDigit, Bool.and_eq_true, decide_eq_true_iff, decide_eq_true_iff]
  exact hdigit

/-- Only zero begins with the digit zero. -/
theorem head?_toDigits_ne {n : ℕ} (hn : n ≠ 0) : (Nat.toDigits 10 n).head? ≠ some '0' := by
  induction n using Nat.strong_induction_on with
  | _ n ih =>
    rcases Nat.lt_or_ge n 10 with hlt | hge
    · have hdigit : ∀ m : ℕ, m < 10 → m ≠ 0 → m.digitChar ≠ '0' := by decide
      rw [Nat.toDigits_of_lt_base hlt, List.head?_cons]
      exact fun heq => hdigit n hlt hn (Option.some.inj heq)
    · have hdigits : Nat.toDigits 10 n ≠ [] := Nat.toDigits_ne_nil
      have hfront : Nat.toDigits 10 (n / 10) ≠ [] := Nat.toDigits_ne_nil
      rw [Nat.toDigits_of_base_le (by decide) hge, List.head?_append_of_ne_nil _ hfront]
      exact ih (n / 10) (by omega) (by omega)

theorem digits_append {ds rest : List Char} (hds : ∀ c ∈ ds, isDigit c = true) (hne : ds ≠ [])
    (hrest : Follows rest) : digits (ds ++ rest) = some (ds, rest) := by
  have htail : rest.takeWhile isDigit = [] ∧ rest.dropWhile isDigit = rest := by
    cases rest with
    | nil => exact ⟨rfl, rfl⟩
    | cons c tail =>
      have hc := (hrest.notDigit c rfl).1
      exact ⟨List.takeWhile_cons_of_neg (by rw [hc]; exact Bool.false_ne_true),
        List.dropWhile_cons_of_neg (by rw [hc]; exact Bool.false_ne_true)⟩
  have htake : (ds ++ rest).takeWhile isDigit = ds := by
    rw [List.takeWhile_append_of_pos hds, htail.1, List.append_nil]
  have hdrop : (ds ++ rest).dropWhile isDigit = rest := by
    rw [List.dropWhile_append_of_pos hds, htail.2]
  rw [digits, htake, hdrop, if_neg hne]

theorem wholePart_toDigits (n : ℕ) {rest : List Char} (hrest : Follows rest) :
    wholePart (Nat.toDigits 10 n ++ rest) = some (Nat.toDigits 10 n, rest) := by
  by_cases hn : n = 0
  · rw [hn, Nat.toDigits_zero]
    rfl
  have hhead := head?_toDigits_ne hn
  have hne : Nat.toDigits 10 n ≠ [] := Nat.toDigits_ne_nil
  have hdigits := digits_append (fun c hc => isDigit_of_mem_toDigits hc) hne hrest
  generalize Nat.toDigits 10 n = ds at hhead hne hdigits ⊢
  rw [wholePart]
  · exact hdigits
  · intro cs heq
    cases ds with
    | nil => exact hne rfl
    | cons c ds => exact hhead (congrArg some (List.cons.inj heq).1)

theorem fraction_of_follows {rest : List Char} (h : Follows rest) :
    fraction rest = some ([], rest) := by
  cases rest with
  | nil => rfl
  | cons c tail =>
    rw [fraction]
    exact fun _ heq => (h.notDigit c rfl).2.1 (List.cons.inj heq).1

theorem exponent_of_follows {rest : List Char} (h : Follows rest) :
    exponent rest = some ([], rest) := by
  cases rest with
  | nil => rfl
  | cons c tail =>
    obtain ⟨-, -, he, hE⟩ := h.notDigit c rfl
    show (if c = 'e' ∨ c = 'E' then _ else _) = _
    rw [if_neg (not_or.mpr ⟨he, hE⟩)]

theorem valueOf_toDigits (n : ℕ) : valueOf (Nat.toDigits 10 n) = n := by
  have hvalue : Nat.ofDigitChars 10 (Nat.toDigits 10 n) 0 = n := Nat.ofDigitChars_ten_toDigits
  rw [Nat.ofDigitChars_eq_foldl] at hvalue
  simpa only [valueOf, Nat.mul_comm 10] using hvalue

/-- A value that begins with a digit is a number. -/
theorem value_of_isDigit {c : Char} (h : isDigit c = true) (fuel : ℕ) (cs : List Char) :
    value (fuel + 1) (c :: cs) = number (c :: cs) := by
  have hne : ∀ d, isDigit d = false → ∀ ds, c :: cs ≠ d :: ds := by
    rintro d hd ds heq
    rw [(List.cons.inj heq).1, hd] at h
    cases h
  have hspace : isSpace c = false := by
    rw [← Bool.not_eq_true]
    intro hspace
    simp only [isSpace, Bool.or_eq_true, decide_eq_true_eq] at hspace
    rcases hspace with ((rfl | rfl) | rfl) | rfl <;> exact absurd h (by decide)
  rw [value, skipSpace_cons hspace]
  split
  all_goals first
    | rfl
    | next heq => exact absurd heq (hne _ (by decide) _)

/-- **An integer in decimal digits.** -/
theorem spells_toDigits (n : ℕ) : Spells (Nat.toDigits 10 n) (.integer n) := by
  obtain ⟨c, tail, hdigits⟩ :=
    List.exists_cons_of_ne_nil (Nat.toDigits_ne_nil : Nat.toDigits 10 n ≠ [])
  have hc : isDigit c = true := by
    have hmem : c ∈ Nat.toDigits 10 n := by
      rw [hdigits]
      exact List.mem_cons_self
    exact isDigit_of_mem_toDigits hmem
  refine ⟨⟨c, tail, hdigits, ?_, ?_⟩, fun fuel rest hfuel hrest => ?_⟩
  · rw [← Bool.not_eq_true]
    intro hspace
    simp only [isSpace, Bool.or_eq_true, decide_eq_true_eq] at hspace
    rcases hspace with ((rfl | rfl) | rfl) | rfl <;> exact absurd hc (by decide)
  · rintro rfl
    exact absurd hc (by decide)
  obtain ⟨fuel, rfl⟩ : ∃ m, fuel = m + 1 := ⟨fuel - 1, by omega⟩
  have hsign : (Nat.toDigits 10 n ++ rest).head? ≠ some '-' := by
    rw [hdigits]
    rintro ⟨⟩
    exact absurd hc (by decide)
  have hnumber : number (Nat.toDigits 10 n ++ rest) = some (.integer n, rest) := by
    rw [number, if_neg hsign]
    simp only [List.length_nil, List.drop_zero, wholePart_toDigits n hrest,
      fraction_of_follows hrest, exponent_of_follows hrest, Option.bind_eq_bind, Option.bind_some]
    rw [valueOf_toDigits]
    rfl
  rw [hdigits, List.cons_append] at hnumber ⊢
  rw [value_of_isDigit hc, hnumber]

/-! ## Arrays -/

theorem follows_cons {c : Char} (h : c = ',' ∨ c = ']' ∨ c = '\x7d') (rest : List Char) :
    Follows (c :: rest) := by
  rintro d ⟨⟩
  exact h

/-- **The items of an array**, with commas between them. -/
theorem items_of_spells {texts : List (List Char)} {vs : List Json}
    (h : List.Forall₂ Spells texts vs) (hne : texts ≠ []) {fuel : ℕ} {rest : List Char}
    (hfuel : (List.intercalate [','] texts).length + 1 < fuel) :
    items fuel (List.intercalate [','] texts ++ ']' :: rest) = some (vs, rest) := by
  induction h generalizing fuel with
  | nil => exact absurd rfl hne
  | @cons text v texts vs hhead htail ih =>
    obtain ⟨fuel, rfl⟩ : ∃ m, fuel = m + 1 := ⟨fuel - 1, by omega⟩
    cases texts with
    | nil =>
      cases htail
      rw [List.intercalate_singleton] at hfuel ⊢
      rw [items, hhead.read fuel _ (by omega) (follows_cons (.inr (.inl rfl)) rest),
        Option.bind_some, skipSpace_cons (by decide)]
      rfl
    | cons next texts =>
      rw [List.intercalate_cons_cons] at hfuel ⊢
      simp only [List.length_append, List.length_singleton] at hfuel
      rw [List.append_assoc, List.append_assoc, List.singleton_append, items,
        hhead.read fuel _ (by omega) (follows_cons (.inl rfl) _), Option.bind_some,
        skipSpace_cons (by decide)]
      show (items fuel (List.intercalate [','] (next :: texts) ++ ']' :: rest)).map _ = _
      rw [ih (List.cons_ne_nil _ _) (by omega)]
      rfl

/-- An array is read behind its bracket. -/
theorem value_bracket (fuel : ℕ) (cs : List Char) :
    value (fuel + 1) ('[' :: cs) = match skipSpace cs with
      | ']' :: rest => some (Json.array [], rest)
      | rest => (items fuel rest).map fun p => (Json.array p.1, p.2) := by
  rw [value, skipSpace_cons (by decide)]
  rfl

/-- **An array.** -/
theorem spells_array {texts : List (List Char)} {vs : List Json}
    (h : List.Forall₂ Spells texts vs) :
    Spells ('[' :: List.intercalate [','] texts ++ [']']) (.array vs) := by
  refine ⟨⟨'[', _, rfl, by decide, by decide⟩, fun fuel rest hfuel _ => ?_⟩
  obtain ⟨fuel, rfl⟩ : ∃ m, fuel = m + 1 := ⟨fuel - 1, by omega⟩
  have htext : '[' :: List.intercalate [','] texts ++ [']'] ++ rest =
      '[' :: (List.intercalate [','] texts ++ ']' :: rest) := by simp
  rw [htext, value_bracket]
  simp only [List.length_append, List.length_cons, List.length_nil] at hfuel
  cases h with
  | nil => rfl
  | @cons text v texts vs hhead htail =>
    have hitems : items fuel (List.intercalate [','] (text :: texts) ++ ']' :: rest) =
        some (v :: vs, rest) :=
      items_of_spells (.cons hhead htail) (List.cons_ne_nil _ _) (by omega)
    obtain ⟨c, tail, hfirst, hspace, hbracket⟩ : ∃ c tail,
        List.intercalate [','] (text :: texts) ++ ']' :: rest = c :: tail ∧ isSpace c = false ∧
          c ≠ ']' := by
      obtain ⟨c, tail, rfl, hspace, hbracket⟩ := hhead.head
      cases texts with
      | nil => exact ⟨c, _, by rw [List.intercalate_singleton]; rfl, hspace, hbracket⟩
      | cons next texts => exact ⟨c, _, by rw [List.intercalate_cons_cons]; rfl, hspace, hbracket⟩
    rw [hfirst] at hitems ⊢
    rw [skipSpace_cons hspace]
    split
    · next heq => exact absurd (List.cons.inj heq).1 hbracket
    · rw [hitems]
      rfl

/-! ## Objects -/

/-- A member: a name, a colon and a value. -/
def SpellsMember (text : List Char) (member : String × Json) : Prop :=
  ∃ name value, text = '"' :: name ++ '"' :: ':' :: value ∧ SpellsText name member.1.toList ∧
    Spells value member.2

theorem insertMember_eq_append {name : String} {v : Json} {before : List (String × Json)}
    (h : name ∉ before.map Prod.fst) : insertMember name v before = before ++ [(name, v)] := by
  induction before with
  | nil => rfl
  | cons entry before ih =>
    rw [List.map_cons, List.mem_cons, not_or] at h
    rw [insertMember, if_neg (Ne.symm h.1), ih h.2]
    rfl

/-- A member and what follows it. -/
theorem members_of_spelled {body vtext : List Char} {name : String} {v : Json}
    (hname : SpellsText body name.toList) (hvalue : Spells vtext v)
    {before : List (String × Json)} (hfresh : name ∉ before.map Prod.fst) {fuel : ℕ}
    {more : List Char} (hmore : Follows more) (hlt : vtext.length < fuel) :
    members (fuel + 1) before ('"' :: body ++ '"' :: ':' :: vtext ++ more) =
      match skipSpace more with
      | ',' :: cs => members fuel (before ++ [(name, v)]) cs
      | '\x7d' :: cs => some (before ++ [(name, v)], cs)
      | _ => none := by
  have htext : '"' :: body ++ '"' :: ':' :: vtext ++ more =
      '"' :: (body ++ '"' :: (':' :: (vtext ++ more))) := by simp
  rw [htext, members, skipSpace_cons (by decide)]
  show ((Json.text (body ++ '"' :: (':' :: (vtext ++ more)))).bind _) = _
  rw [hname.text, Option.bind_some, skipSpace_cons (by decide)]
  show ((Json.value fuel (vtext ++ more)).bind _) = _
  rw [hvalue.read fuel more hlt hmore, Option.bind_some]
  have hinsert := insertMember_eq_append (v := v) hfresh
  generalize insertMember name v before = members' at hinsert ⊢
  subst hinsert
  rfl

/-- **The members of an object**, with commas between them, and without a repeated name. -/
theorem members_of_spells {texts : List (List Char)} {ms : List (String × Json)}
    (h : List.Forall₂ SpellsMember texts ms) (hne : texts ≠ []) {fuel : ℕ} {rest : List Char}
    {before : List (String × Json)} (hnames : ((before ++ ms).map Prod.fst).Nodup)
    (hfuel : (List.intercalate [','] texts).length + 1 < fuel) :
    members fuel before (List.intercalate [','] texts ++ '\x7d' :: rest) =
      some (before ++ ms, rest) := by
  induction h generalizing fuel before with
  | nil => exact absurd rfl hne
  | @cons text member texts ms hhead htail ih =>
    obtain ⟨fuel, rfl⟩ : ∃ m, fuel = m + 1 := ⟨fuel - 1, by omega⟩
    obtain ⟨name, v⟩ := member
    obtain ⟨body, vtext, rfl, hname, hvalue⟩ := hhead
    have hfresh : name ∉ before.map Prod.fst := by
      rw [List.map_append, List.nodup_append] at hnames
      exact fun hmem => hnames.2.2 name hmem name List.mem_cons_self rfl
    have hmember : ∀ {more}, Follows more → vtext.length < fuel → _ := fun hmore hlt =>
      members_of_spelled hname hvalue hfresh hmore hlt
    cases texts with
    | nil =>
      cases htail
      rw [List.intercalate_singleton] at hfuel ⊢
      simp only [List.length_append, List.length_cons] at hfuel
      rw [hmember (follows_cons (.inr (.inr rfl)) rest) (by omega), skipSpace_cons (by decide)]
      rfl
    | cons next texts =>
      rw [List.intercalate_cons_cons] at hfuel ⊢
      simp only [List.length_append, List.length_cons] at hfuel
      rw [List.append_assoc, List.append_assoc, List.singleton_append,
        hmember (follows_cons (.inl rfl) _) (by omega), skipSpace_cons (by decide)]
      show members fuel (before ++ [(name, v)]) _ = _
      rw [ih (List.cons_ne_nil _ _) (by simpa using hnames) (by omega), List.append_assoc]
      rfl

/-- **An object** with some members. -/
theorem spells_object {texts : List (List Char)} {ms : List (String × Json)}
    (h : List.Forall₂ SpellsMember texts ms) (hnames : (ms.map Prod.fst).Nodup) (hne : ms ≠ []) :
    Spells ('\x7b' :: List.intercalate [','] texts ++ ['\x7d']) (.object ms) := by
  refine ⟨⟨'\x7b', _, rfl, by decide, by decide⟩, fun fuel rest hfuel _ => ?_⟩
  obtain ⟨fuel, rfl⟩ : ∃ m, fuel = m + 1 := ⟨fuel - 1, by omega⟩
  have htext : '\x7b' :: List.intercalate [','] texts ++ ['\x7d'] ++ rest =
      '\x7b' :: (List.intercalate [','] texts ++ '\x7d' :: rest) := by simp
  rw [htext, value, skipSpace_cons (by decide)]
  simp only [List.length_append, List.length_cons, List.length_nil] at hfuel
  have htexts : texts ≠ [] := by
    rintro rfl
    cases h
    exact hne rfl
  have hmembers : members fuel [] (List.intercalate [','] texts ++ '\x7d' :: rest) =
      some ([] ++ ms, rest) := members_of_spells h htexts hnames (by omega)
  obtain ⟨tail, hfirst⟩ : ∃ tail,
      List.intercalate [','] texts ++ '\x7d' :: rest = '"' :: tail := by
    cases h with
    | nil => exact absurd rfl htexts
    | @cons text member texts ms hhead htail =>
      obtain ⟨body, vtext, rfl, -, -⟩ := hhead
      cases texts with
      | nil => exact ⟨_, by rw [List.intercalate_singleton]; rfl⟩
      | cons next texts => exact ⟨_, by rw [List.intercalate_cons_cons]; rfl⟩
  rw [hfirst] at hmembers ⊢
  show (members fuel [] ('"' :: tail)).map _ = _
  rw [hmembers]
  rfl

/-! ## Whole texts -/

/-- **A text that spells a value parses to it.** -/
theorem Spells.parse {s : String} {v : Json} (h : Spells s.toList v) : Json.parse s = some v := by
  have hread := h.read (s.toList.length + 1) [] (Nat.lt_succ_self _) nofun
  rw [List.append_nil] at hread
  rw [Json.parse, hread]
  rfl

end Json
end Rclweb
