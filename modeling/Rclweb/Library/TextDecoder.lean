import Mathlib.Data.List.Basic
import Mathlib.Tactic.SplitIfs
import Rclweb.Library.BigEndian

/-!
# The UTF-8 decoder of the Web

The decoder of the encoding standard, one byte at a time.  It never fails: a byte that cannot
continue a character ends it with an error and is read again as the first byte of the next, and a
text that ends within a character ends with an error.  A `TextDecoder` replaces errors, or throws
when it is fatal, and drops one leading byte order mark.

On the bytes of a text it gives the text, without the mark (`decode_utf8`), and there are no errors
exactly on the bytes of a text (`run_eq_map_some_iff`).
-/

namespace Rclweb
namespace TextDecoder

/-- How far a character has been read: the bits so far, how many bytes are missing, and the bounds
of the next one. -/
structure State where
  codePoint : ℕ
  needed : ℕ
  lower : ℕ
  upper : ℕ

def start : State := ⟨0, 0, 0x80, 0xBF⟩

/-- The first byte of a character; `none` is an error. -/
def lead (b : UInt8) : State × List (Option Char) :=
  let n := b.toNat
  if n ≤ 0x7F then (start, [some (Char.ofNat n)])
  else if 0xC2 ≤ n ∧ n ≤ 0xDF then (⟨n % 32, 1, 0x80, 0xBF⟩, [])
  else if 0xE0 ≤ n ∧ n ≤ 0xEF then
    (⟨n % 16, 2, if n = 0xE0 then 0xA0 else 0x80, if n = 0xED then 0x9F else 0xBF⟩, [])
  else if 0xF0 ≤ n ∧ n ≤ 0xF4 then
    (⟨n % 8, 3, if n = 0xF0 then 0x90 else 0x80, if n = 0xF4 then 0x8F else 0xBF⟩, [])
  else (start, [none])

/-- The next byte. -/
def step (q : State) (b : UInt8) : State × List (Option Char) :=
  if q.needed = 0 then lead b
  else if b.toNat < q.lower ∨ q.upper < b.toNat then ((lead b).1, none :: (lead b).2)
  else
    let codePoint := q.codePoint * 64 + b.toNat % 64
    if q.needed = 1 then (start, [some (Char.ofNat codePoint)])
    else (⟨codePoint, q.needed - 1, 0x80, 0xBF⟩, [])

/-- The characters and errors of a byte string. -/
def run : State → List UInt8 → List (Option Char)
  | q, [] => if q.needed = 0 then [] else [none]
  | q, b :: bytes => (step q b).2 ++ run (step q b).1 bytes

def byteOrderMark : Char := Char.ofNat 0xFEFF

/-- Drop one leading byte order mark. -/
def dropMark : List Char → List Char
  | c :: cs => if c = byteOrderMark then cs else c :: cs
  | [] => []

/-- **`new TextDecoder().decode(bytes)`**: errors become replacement characters. -/
def decode (bytes : List UInt8) : String :=
  String.ofList (dropMark ((run start bytes).map (·.getD (Char.ofNat 0xFFFD))))

/-- **`new TextDecoder("utf-8", { fatal: true }).decode(bytes)`**: an error throws. -/
def decodeFatal (bytes : List UInt8) : Option String :=
  ((run start bytes).mapM id).map fun cs => String.ofList (dropMark cs)

/-- A text without one leading byte order mark. -/
def withoutMark (s : String) : String := String.ofList (dropMark s.toList)

/-! ## One character -/

theorem run_cons_of_ascii {b : UInt8} {bytes : List UInt8} (h : b.toNat ≤ 0x7F) :
    run start (b :: bytes) = some (Char.ofNat b.toNat) :: run start bytes := by
  have hlead : lead b = (start, [some (Char.ofNat b.toNat)]) := by
    rw [lead]
    exact if_pos h
  have hstep : step start b = lead b := if_pos rfl
  rw [run, hstep, hlead]
  rfl

/-- A byte that continues a character. -/
theorem run_cons_of_needed {q : State} {b : UInt8} {bytes : List UInt8} {n : ℕ}
    (hneeded : q.needed = n + 2) (hlower : q.lower ≤ b.toNat) (hupper : b.toNat ≤ q.upper) :
    run q (b :: bytes) =
      run ⟨q.codePoint * 64 + b.toNat % 64, n + 1, 0x80, 0xBF⟩ bytes := by
  have hstep : step q b = (⟨q.codePoint * 64 + b.toNat % 64, n + 1, 0x80, 0xBF⟩, []) := by
    rw [step, if_neg (by omega), if_neg (by omega), if_neg (by omega), hneeded]
    rfl
  rw [run, hstep]
  rfl

/-- The byte that ends a character. -/
theorem run_cons_of_last {q : State} {b : UInt8} {bytes : List UInt8} (hneeded : q.needed = 1)
    (hlower : q.lower ≤ b.toNat) (hupper : b.toNat ≤ q.upper) :
    run q (b :: bytes) =
      some (Char.ofNat (q.codePoint * 64 + b.toNat % 64)) :: run start bytes := by
  have hstep : step q b = (start, [some (Char.ofNat (q.codePoint * 64 + b.toNat % 64))]) := by
    rw [step, if_neg (by omega), if_neg (by omega), if_pos hneeded]
  rw [run, hstep]
  rfl

theorem run_cons_of_two {b : UInt8} {bytes : List UInt8} (hlower : 0xC2 ≤ b.toNat)
    (hupper : b.toNat ≤ 0xDF) :
    run start (b :: bytes) = run ⟨b.toNat % 32, 1, 0x80, 0xBF⟩ bytes := by
  have hlead : lead b = (⟨b.toNat % 32, 1, 0x80, 0xBF⟩, []) := by
    rw [lead]
    exact (if_neg (by omega)).trans (if_pos ⟨hlower, hupper⟩)
  have hstep : step start b = lead b := if_pos rfl
  rw [run, hstep, hlead]
  rfl

theorem run_cons_of_three {b : UInt8} {bytes : List UInt8} (hlower : 0xE0 ≤ b.toNat)
    (hupper : b.toNat ≤ 0xEF) :
    run start (b :: bytes) = run ⟨b.toNat % 16, 2, if b.toNat = 0xE0 then 0xA0 else 0x80,
      if b.toNat = 0xED then 0x9F else 0xBF⟩ bytes := by
  have hlead : lead b = (⟨b.toNat % 16, 2, if b.toNat = 0xE0 then 0xA0 else 0x80,
      if b.toNat = 0xED then 0x9F else 0xBF⟩, []) := by
    rw [lead]
    exact ((if_neg (by omega)).trans (if_neg (by omega))).trans (if_pos ⟨hlower, hupper⟩)
  have hstep : step start b = lead b := if_pos rfl
  rw [run, hstep, hlead]
  rfl

theorem run_cons_of_four {b : UInt8} {bytes : List UInt8} (hlower : 0xF0 ≤ b.toNat)
    (hupper : b.toNat ≤ 0xF4) :
    run start (b :: bytes) = run ⟨b.toNat % 8, 3, if b.toNat = 0xF0 then 0x90 else 0x80,
      if b.toNat = 0xF4 then 0x8F else 0xBF⟩ bytes := by
  have hlead : lead b = (⟨b.toNat % 8, 3, if b.toNat = 0xF0 then 0x90 else 0x80,
      if b.toNat = 0xF4 then 0x8F else 0xBF⟩, []) := by
    rw [lead]
    exact (((if_neg (by omega)).trans (if_neg (by omega))).trans (if_neg (by omega))).trans
      (if_pos ⟨hlower, hupper⟩)
  have hstep : step start b = lead b := if_pos rfl
  rw [run, hstep, hlead]
  rfl

theorem toNat_ofNat_of_lt {n : ℕ} (h : n < 256) : (UInt8.ofNat n).toNat = n :=
  UInt8.toNat_ofNat_of_lt' h

/-- The scalar values: below the surrogates or between them and `0x110000`. -/
theorem toNat_bounds (c : Char) : c.toNat < 0xD800 ∨ 0xDFFF < c.toNat ∧ c.toNat < 0x110000 :=
  c.valid

/-- **The bytes of a character give the character.** -/
theorem run_utf8EncodeChar (c : Char) (bytes : List UInt8) :
    run start (String.utf8EncodeChar c ++ bytes) = some c :: run start bytes := by
  have hbounds := toNat_bounds c
  have hv : c.val.toNat = c.toNat := rfl
  rw [String.utf8EncodeChar]
  simp only [hv]
  split_ifs with h₁ h₂ h₃
  · have hn : (UInt8.ofNat c.toNat).toNat = c.toNat := toNat_ofNat_of_lt (by omega)
    rw [List.singleton_append, run_cons_of_ascii (by omega), hn, Char.ofNat_toNat]
  · have hn : (UInt8.ofNat (c.toNat / 64 % 0x20 + 0xc0)).toNat = c.toNat / 64 % 0x20 + 0xc0 :=
      toNat_ofNat_of_lt (by omega)
    have hn' : (UInt8.ofNat (c.toNat % 0x40 + 0x80)).toNat = c.toNat % 0x40 + 0x80 :=
      toNat_ofNat_of_lt (by omega)
    rw [List.cons_append, List.singleton_append, run_cons_of_two (by omega) (by omega),
      run_cons_of_last rfl (by dsimp only; omega) (by dsimp only; omega), hn, hn']
    have hc : (c.toNat / 64 % 0x20 + 0xc0) % 32 * 64 + (c.toNat % 0x40 + 0x80) % 64 = c.toNat := by
      omega
    rw [hc, Char.ofNat_toNat]
  · have hn : (UInt8.ofNat (c.toNat / 4096 % 0x10 + 0xe0)).toNat = c.toNat / 4096 % 0x10 + 0xe0 :=
      toNat_ofNat_of_lt (by omega)
    have hn' : (UInt8.ofNat (c.toNat / 64 % 0x40 + 0x80)).toNat = c.toNat / 64 % 0x40 + 0x80 :=
      toNat_ofNat_of_lt (by omega)
    have hn'' : (UInt8.ofNat (c.toNat % 0x40 + 0x80)).toNat = c.toNat % 0x40 + 0x80 :=
      toNat_ofNat_of_lt (by omega)
    rw [List.cons_append, List.cons_append, List.singleton_append,
      run_cons_of_three (by omega) (by omega),
      run_cons_of_needed (n := 0) rfl (by dsimp only; split_ifs <;> omega)
        (by dsimp only; split_ifs <;> omega),
      run_cons_of_last rfl (by dsimp only; omega) (by dsimp only; omega), hn, hn', hn'']
    have hc : ((c.toNat / 4096 % 0x10 + 0xe0) % 16 * 64 + (c.toNat / 64 % 0x40 + 0x80) % 64) * 64 +
        (c.toNat % 0x40 + 0x80) % 64 = c.toNat := by
      omega
    rw [hc, Char.ofNat_toNat]
  · have hn : (UInt8.ofNat (c.toNat / 262144 % 0x08 + 0xf0)).toNat =
        c.toNat / 262144 % 0x08 + 0xf0 := toNat_ofNat_of_lt (by omega)
    have hn' : (UInt8.ofNat (c.toNat / 4096 % 0x40 + 0x80)).toNat = c.toNat / 4096 % 0x40 + 0x80 :=
      toNat_ofNat_of_lt (by omega)
    have hn'' : (UInt8.ofNat (c.toNat / 64 % 0x40 + 0x80)).toNat = c.toNat / 64 % 0x40 + 0x80 :=
      toNat_ofNat_of_lt (by omega)
    have hn''' : (UInt8.ofNat (c.toNat % 0x40 + 0x80)).toNat = c.toNat % 0x40 + 0x80 :=
      toNat_ofNat_of_lt (by omega)
    rw [List.cons_append, List.cons_append, List.cons_append, List.singleton_append,
      run_cons_of_four (by omega) (by omega),
      run_cons_of_needed (n := 1) rfl (by dsimp only; split_ifs <;> omega)
        (by dsimp only; split_ifs <;> omega),
      run_cons_of_needed (n := 0) rfl (by dsimp only; omega) (by dsimp only; omega),
      run_cons_of_last rfl (by dsimp only; omega) (by dsimp only; omega), hn, hn', hn'', hn''']
    have hc : (((c.toNat / 262144 % 0x08 + 0xf0) % 8 * 64 +
        (c.toNat / 4096 % 0x40 + 0x80) % 64) * 64 + (c.toNat / 64 % 0x40 + 0x80) % 64) * 64 +
        (c.toNat % 0x40 + 0x80) % 64 = c.toNat := by
      omega
    rw [hc, Char.ofNat_toNat]

/-! ## Texts -/

theorem utf8_eq_flatMap (s : String) :
    BigEndian.utf8 s = s.toList.flatMap String.utf8EncodeChar := by
  have h : (String.ofList s.toList).toByteArray = s.toList.utf8Encode := String.toByteArray_ofList
  rw [String.ofList_toList] at h
  rw [BigEndian.utf8, h, List.utf8Encode]
  simp

theorem run_flatMap (cs : List Char) (bytes : List UInt8) :
    run start (cs.flatMap String.utf8EncodeChar ++ bytes) = cs.map some ++ run start bytes := by
  induction cs with
  | nil => rfl
  | cons c cs ih =>
    rw [List.flatMap_cons, List.append_assoc, run_utf8EncodeChar, ih]
    rfl

/-- The bytes of a text give its characters, without an error. -/
theorem run_utf8 (s : String) : run start (BigEndian.utf8 s) = s.toList.map some := by
  have h := run_flatMap s.toList []
  have hend : run start [] = [] := rfl
  rwa [List.append_nil, ← utf8_eq_flatMap, hend, List.append_nil] at h

/-- **A decoder gives a text back without its byte order mark.** -/
theorem decode_utf8 (s : String) : decode (BigEndian.utf8 s) = withoutMark s := by
  rw [decode, run_utf8, List.map_map, withoutMark]
  have hid : ((fun c : Option Char => c.getD (Char.ofNat 0xFFFD)) ∘ some) = id := rfl
  rw [hid, List.map_id]

theorem mapM_map_some (cs : List Char) : (cs.map some).mapM id = some cs := by
  induction cs with
  | nil => rfl
  | cons c cs ih => simp [List.mapM_cons, ih]

theorem decodeFatal_utf8 (s : String) : decodeFatal (BigEndian.utf8 s) = some (withoutMark s) := by
  rw [decodeFatal, run_utf8, mapM_map_some]
  rfl

/-- Only a text that begins with a byte order mark is changed. -/
theorem withoutMark_eq_self_iff {s : String} :
    withoutMark s = s ↔ s.toList.head? ≠ some byteOrderMark := by
  have hlist : withoutMark s = s ↔ dropMark s.toList = s.toList := by
    rw [withoutMark]
    constructor
    · intro h
      have h' := congrArg String.toList h
      rwa [String.toList_ofList] at h'
    · intro h
      rw [h, String.ofList_toList]
  rw [hlist]
  cases s.toList with
  | nil => simp [dropMark]
  | cons c cs =>
    rw [dropMark, List.head?_cons]
    split_ifs with hc
    · simp [hc]
    · simp [hc]

/-! ## What is no text -/

theorem toNat_ofNat_of_bounds {n : ℕ} (h : n < 0xD800 ∨ 0xDFFF < n ∧ n < 0x110000) :
    (Char.ofNat n).toNat = n := by
  have hvalid : n.isValidChar := h
  rw [Char.ofNat, dif_pos hvalid]
  exact UInt32.toNat_ofNatLT

/-- Within a character an error is the only alternative to a byte that continues it. -/
theorem exists_of_needed {q : State} {bytes : List UInt8} {c : Char} {out : List (Option Char)}
    (hneeded : q.needed ≠ 0) (h : run q bytes = some c :: out) :
    ∃ b rest, bytes = b :: rest ∧ q.lower ≤ b.toNat ∧ b.toNat ≤ q.upper := by
  cases bytes with
  | nil =>
    rw [run, if_neg hneeded] at h
    cases h
  | cons b rest =>
    refine ⟨b, rest, rfl, ?_⟩
    by_contra hout
    have hstep : step q b = ((lead b).1, none :: (lead b).2) := by
      rw [step, if_neg hneeded, if_pos (by omega)]
    rw [run, hstep] at h
    cases h

theorem run_of_bad_lead {b : UInt8} {bytes : List UInt8}
    (h : 0x7F < b.toNat ∧ b.toNat < 0xC2 ∨ 0xF4 < b.toNat) :
    run start (b :: bytes) = none :: run start bytes := by
  have hlead : lead b = (start, [none]) := by
    rw [lead]
    exact (((if_neg (by omega)).trans (if_neg (by omega))).trans (if_neg (by omega))).trans
      (if_neg (by omega))
  have hstep : step start b = lead b := if_pos rfl
  rw [run, hstep, hlead]
  rfl

theorem ofNat_eq_of_toNat {n : ℕ} {b : UInt8} (h : n = b.toNat) : UInt8.ofNat n = b := by
  rw [h, UInt8.ofNat_toNat]

/-- **A character that has been read was written by its bytes.** -/
theorem exists_of_run_eq_cons {b : UInt8} {bytes : List UInt8} {c : Char} {out : List (Option Char)}
    (h : run start (b :: bytes) = some c :: out) :
    ∃ rest, b :: bytes = String.utf8EncodeChar c ++ rest ∧ out = run start rest := by
  have hb : b.toNat < 256 := b.toNat_lt
  by_cases hbad : 0x7F < b.toNat ∧ b.toNat < 0xC2 ∨ 0xF4 < b.toNat
  · rw [run_of_bad_lead hbad] at h
    cases h
  · by_cases h₁ : b.toNat ≤ 0x7F
    · rw [run_cons_of_ascii h₁, List.cons.injEq, Option.some.injEq] at h
      obtain ⟨rfl, rfl⟩ := h
      refine ⟨bytes, ?_, rfl⟩
      have hn : (Char.ofNat b.toNat).val.toNat = b.toNat := toNat_ofNat_of_bounds (by omega)
      rw [String.utf8EncodeChar]
      simp only [hn]
      rw [if_pos h₁, ofNat_eq_of_toNat rfl, List.singleton_append]
    · by_cases h₂ : b.toNat ≤ 0xDF
      · rw [run_cons_of_two (by omega) h₂] at h
        obtain ⟨b₁, rest, rfl, hl₁, hu₁⟩ := exists_of_needed (Nat.succ_ne_zero _) h
        dsimp only at hl₁ hu₁
        rw [run_cons_of_last rfl hl₁ hu₁, List.cons.injEq, Option.some.injEq] at h
        obtain ⟨rfl, rfl⟩ := h
        refine ⟨rest, ?_, rfl⟩
        dsimp only
        generalize hv : b.toNat % 32 * 64 + b₁.toNat % 64 = v
        have hn : (Char.ofNat v).val.toNat = v := toNat_ofNat_of_bounds (by omega)
        rw [String.utf8EncodeChar]
        simp only [hn]
        rw [if_neg (by omega), if_pos (by omega), ofNat_eq_of_toNat (b := b) (by omega),
          ofNat_eq_of_toNat (b := b₁) (by omega)]
        rfl
      · by_cases h₃ : b.toNat ≤ 0xEF
        · rw [run_cons_of_three (by omega) h₃] at h
          obtain ⟨b₁, rest, rfl, hl₁, hu₁⟩ := exists_of_needed (Nat.succ_ne_zero _) h
          dsimp only at hl₁ hu₁
          rw [run_cons_of_needed (n := 0) rfl hl₁ hu₁] at h
          obtain ⟨b₂, rest, rfl, hl₂, hu₂⟩ := exists_of_needed (Nat.succ_ne_zero _) h
          dsimp only at hl₂ hu₂
          rw [run_cons_of_last rfl hl₂ hu₂, List.cons.injEq, Option.some.injEq] at h
          obtain ⟨rfl, rfl⟩ := h
          refine ⟨rest, ?_, rfl⟩
          dsimp only
          generalize hv : (b.toNat % 16 * 64 + b₁.toNat % 64) * 64 + b₂.toNat % 64 = v
          have hbounds : v < 0xD800 ∨ 0xDFFF < v ∧ v < 0x110000 := by
            split_ifs at hl₁ hu₁ <;> omega
          have hlow : 0x7FF < v := by
            split_ifs at hl₁ hu₁ <;> omega
          have hmid : b₁.toNat < 0xC0 ∧ 0x80 ≤ b₁.toNat := by
            split_ifs at hl₁ hu₁ <;> omega
          have hn : (Char.ofNat v).val.toNat = v := toNat_ofNat_of_bounds hbounds
          rw [String.utf8EncodeChar]
          simp only [hn]
          rw [if_neg (by omega), if_neg (by omega), if_pos (by omega),
            ofNat_eq_of_toNat (b := b) (by omega), ofNat_eq_of_toNat (b := b₁) (by omega),
            ofNat_eq_of_toNat (b := b₂) (by omega)]
          rfl
        · rw [run_cons_of_four (by omega) (by omega)] at h
          obtain ⟨b₁, rest, rfl, hl₁, hu₁⟩ := exists_of_needed (Nat.succ_ne_zero _) h
          dsimp only at hl₁ hu₁
          rw [run_cons_of_needed (n := 1) rfl hl₁ hu₁] at h
          obtain ⟨b₂, rest, rfl, hl₂, hu₂⟩ := exists_of_needed (Nat.succ_ne_zero _) h
          dsimp only at hl₂ hu₂
          rw [run_cons_of_needed (n := 0) rfl hl₂ hu₂] at h
          obtain ⟨b₃, rest, rfl, hl₃, hu₃⟩ := exists_of_needed (Nat.succ_ne_zero _) h
          dsimp only at hl₃ hu₃
          rw [run_cons_of_last rfl hl₃ hu₃, List.cons.injEq, Option.some.injEq] at h
          obtain ⟨rfl, rfl⟩ := h
          refine ⟨rest, ?_, rfl⟩
          dsimp only
          generalize hv : ((b.toNat % 8 * 64 + b₁.toNat % 64) * 64 + b₂.toNat % 64) * 64 +
            b₃.toNat % 64 = v
          have hbounds : 0xFFFF < v ∧ v < 0x110000 := by
            split_ifs at hl₁ hu₁ <;> omega
          have hmid : b₁.toNat < 0xC0 ∧ 0x80 ≤ b₁.toNat := by
            split_ifs at hl₁ hu₁ <;> omega
          have hn : (Char.ofNat v).val.toNat = v := toNat_ofNat_of_bounds (by omega)
          rw [String.utf8EncodeChar]
          simp only [hn]
          rw [if_neg (by omega), if_neg (by omega), if_neg (by omega),
            ofNat_eq_of_toNat (b := b) (by omega), ofNat_eq_of_toNat (b := b₁) (by omega),
            ofNat_eq_of_toNat (b := b₂) (by omega), ofNat_eq_of_toNat (b := b₃) (by omega)]
          rfl

/-- Whatever follows, a character that has begun comes to an end. -/
theorem run_ne_nil_of_needed {q : State} {bytes : List UInt8} (h : q.needed ≠ 0) :
    run q bytes ≠ [] := by
  induction bytes generalizing q with
  | nil => simp [run, h]
  | cons b bytes ih =>
    rw [run, step, if_neg h]
    split_ifs with hout hlast
    · nofun
    · nofun
    · exact ih (show q.needed - 1 ≠ 0 by omega)

theorem run_cons_ne_nil (b : UInt8) (bytes : List UInt8) : run start (b :: bytes) ≠ [] := by
  have hstep : step start b = lead b := if_pos rfl
  rw [run, hstep, lead]
  split_ifs
  all_goals
    first
    | exact List.cons_ne_nil _ _
    | exact run_ne_nil_of_needed (Nat.succ_ne_zero _)

/-- **There are no errors exactly on the bytes of a text.** -/
theorem run_eq_map_some_iff {cs : List Char} {bytes : List UInt8} :
    run start bytes = cs.map some ↔ bytes = cs.flatMap String.utf8EncodeChar := by
  constructor
  · intro h
    induction cs generalizing bytes with
    | nil =>
      cases bytes with
      | nil => rfl
      | cons b bytes => exact absurd h (run_cons_ne_nil b bytes)
    | cons c cs ih =>
      cases bytes with
      | nil => cases h
      | cons b bytes =>
        obtain ⟨rest, heq, hout⟩ := exists_of_run_eq_cons h
        rw [heq, List.flatMap_cons, ← ih hout.symm]
  · rintro rfl
    have h := run_flatMap cs []
    have hend : run start [] = [] := rfl
    rwa [List.append_nil, hend, List.append_nil] at h

theorem mapM_id_eq_some {out : List (Option Char)} {cs : List Char} (h : out.mapM id = some cs) :
    out = cs.map some := by
  induction out generalizing cs with
  | nil =>
    cases h
    rfl
  | cons o out ih =>
    cases o with
    | none => simp [List.mapM_cons] at h
    | some c =>
      cases hout : out.mapM id with
      | none => simp [List.mapM_cons, hout] at h
      | some cs' =>
        have hcs : c :: cs' = cs := by simpa [List.mapM_cons, hout] using h
        rw [← hcs, ih hout]
        rfl

/-- **A fatal decoder takes exactly the bytes of texts**, and gives them without their byte order
mark. -/
theorem decodeFatal_eq_some_iff {bytes : List UInt8} {t : String} :
    decodeFatal bytes = some t ↔ ∃ s, bytes = BigEndian.utf8 s ∧ t = withoutMark s := by
  constructor
  · intro h
    obtain ⟨cs, hcs, rfl⟩ := Option.map_eq_some_iff.mp h
    have hbytes := run_eq_map_some_iff.mp (mapM_id_eq_some hcs)
    refine ⟨String.ofList cs, ?_, ?_⟩
    · rw [utf8_eq_flatMap, String.toList_ofList]
      exact hbytes
    · rw [withoutMark, String.toList_ofList]
  · rintro ⟨s, rfl, rfl⟩
    exact decodeFatal_utf8 s

end TextDecoder
end Rclweb
