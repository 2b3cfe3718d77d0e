import Rclweb.Audit.Chain
import Rclweb.Library.HashChain
import Rclweb.Protocol.Error

/-!
# What a verified file holds

`Held` says that a line passes the check and what record it holds.  `verifyFile_ok_iff` turns the
check of a file into a statement about its records: there is at least one, every line holds one, and
each names the hash of the one before.
-/

namespace Rclweb
namespace Audit

open BigEndian (utf8 ofUtf8? ofUtf8?_utf8 utf8_of_ofUtf8?)

/-! ## Hashes in hex -/

private def hexValue (c : Char) : UInt8 :=
  if c.toNat < 58 then UInt8.ofNat (c.toNat - 48) else UInt8.ofNat (c.toNat - 87)

private def unhex : List Char → List UInt8
  | high :: low :: rest => (hexValue high * 16 + hexValue low) :: unhex rest
  | _ => []

private theorem unhex_hexByte (b : UInt8) (rest : List Char) :
    unhex (hexByte b ++ rest) = b :: unhex rest := by
  have hall : ∀ n < 256, hexValue (hexDigit (UInt8.ofNat n >>> 4)) * 16 +
      hexValue (hexDigit (UInt8.ofNat n &&& 0x0f)) = UInt8.ofNat n := by decide +kernel
  have hb := hall b.toNat b.toNat_lt
  rw [UInt8.ofNat_toNat] at hb
  show (_ * 16 + _) :: unhex rest = _
  rw [hb]

private theorem unhex_flatMap (bytes : List UInt8) : unhex (bytes.flatMap hexByte) = bytes := by
  induction bytes with
  | nil => rfl
  | cons b bytes ih => rw [List.flatMap_cons, unhex_hexByte, ih]

/-- Two hashes in hex are the same only when the hashes are. -/
theorem hexEncode_inj {bytes bytes' : List UInt8} (h : hexEncode bytes = hexEncode bytes') :
    bytes = bytes' := by
  rw [← unhex_flatMap bytes, ← unhex_flatMap bytes', String.ofList_injective h]

/-- A digit is one byte of UTF-8. -/
private theorem utf8_hexDigit {n : UInt8} (h : n.toNat < 16) :
    (String.utf8EncodeChar (hexDigit n)).length = 1 ∧
      ∀ x ∈ String.utf8EncodeChar (hexDigit n),
        ((48 ≤ x && x ≤ 57) || (97 ≤ x && x ≤ 102)) = true := by
  -- `List.all`: a bounded `∀ x` over bytes would be decided at all 256 of them
  have hall : ∀ m < 16, (String.utf8EncodeChar (hexDigit (UInt8.ofNat m))).length = 1 ∧
      (String.utf8EncodeChar (hexDigit (UInt8.ofNat m))).all
        (fun x => (48 ≤ x && x ≤ 57) || (97 ≤ x && x ≤ 102)) = true := by decide +kernel
  have hn := hall n.toNat h
  rw [UInt8.ofNat_toNat, List.all_eq_true] at hn
  exact hn

private theorem utf8_hexByte (b : UInt8) :
    ((hexByte b).flatMap String.utf8EncodeChar).length = 2 ∧
      ∀ x ∈ (hexByte b).flatMap String.utf8EncodeChar,
        ((48 ≤ x && x ≤ 57) || (97 ≤ x && x ≤ 102)) = true := by
  have hhigh : (b >>> 4).toNat < 16 := by
    have hb := b.toNat_lt
    have hshift : (b >>> 4).toNat = b.toNat / 16 := by
      simpa using Nat.shiftRight_eq_div_pow b.toNat 4
    omega
  have hlow : (b &&& 0x0f).toNat < 16 := by
    have hmask : (b &&& 0x0f).toNat = b.toNat % 16 := by
      simpa using Nat.and_two_pow_sub_one_eq_mod b.toNat 4
    omega
  obtain ⟨hlength, hin⟩ := utf8_hexDigit hhigh
  obtain ⟨hlength', hin'⟩ := utf8_hexDigit hlow
  rw [hexByte, List.flatMap_cons, List.flatMap_cons, List.flatMap_nil, List.append_nil]
  refine ⟨by rw [List.length_append, hlength, hlength'], ?_⟩
  intro x hx
  rcases List.mem_append.mp hx with hx | hx
  · exact hin x hx
  · exact hin' x hx

private theorem utf8_hexEncode (bytes : List UInt8) :
    utf8 (hexEncode bytes) = bytes.flatMap fun b => (hexByte b).flatMap String.utf8EncodeChar := by
  rw [utf8, hexEncode, String.toByteArray_ofList, List.utf8Encode, ← List.flatMap_assoc]
  simp

/-- **A hash in hex looks like one.** -/
theorem isSha256Hex_hexEncode {bytes : List UInt8} (h : bytes.length = 32) :
    isSha256Hex (hexEncode bytes) = true := by
  have hlength : (utf8 (hexEncode bytes)).length = 64 := by
    rw [utf8_hexEncode, List.length_flatMap]
    simp only [fun b => (utf8_hexByte b).1]
    simp [h]
  rw [isSha256Hex, hlength, Bool.and_eq_true, List.all_eq_true]
  refine ⟨rfl, ?_⟩
  intro x hx
  rw [utf8_hexEncode] at hx
  obtain ⟨b, _, hb⟩ := List.mem_flatMap.mp hx
  exact (utf8_hexByte b).2 x hb

theorem isSha256Hex_digest (c : Crates) (prev : String) (members : Members) :
    isSha256Hex (digest c prev members) = true :=
  isSha256Hex_hexEncode (by rw [hashRecord]; simp)

theorem length_of_isSha256Hex {value : String} (h : isSha256Hex value = true) :
    (utf8 value).length = 64 := by
  rw [isSha256Hex, Bool.and_eq_true, beq_iff_eq] at h
  exact h.1

theorem isSha256Hex_genesisPrev : isSha256Hex genesisPrev = true := by decide +kernel

/-- The hashed bytes show the hash they continue and the printed members. -/
theorem message_inj {prev prev' : String} {bytes bytes' : List UInt8}
    (hprev : isSha256Hex prev = true) (hprev' : isSha256Hex prev' = true)
    (h : message prev bytes = message prev' bytes') : utf8 prev = utf8 prev' ∧ bytes = bytes' := by
  have hlength : (utf8 prev).length = (utf8 prev').length := by
    rw [length_of_isSha256Hex hprev, length_of_isSha256Hex hprev']
  obtain ⟨hutf8, hrest⟩ := List.append_inj h hlength
  exact ⟨hutf8, (List.cons.inj hrest).2⟩

theorem utf8_inj {s t : String} (h : utf8 s = utf8 t) : s = t := by
  have hs := ofUtf8?_utf8 s
  rw [h, ofUtf8?_utf8] at hs
  exact (Option.some.inj hs).symm

/-! ## Records -/

/-- What a line says: its number, the hash it continues, its members but for its own hash. -/
@[ext] structure Record where
  seq : ℕ
  prev : String
  members : Members

namespace Record

variable (c : Crates)

def digest (r : Record) : String := Audit.digest c r.prev r.members

/-- What is hashed. -/
def message (r : Record) : List UInt8 := Audit.message r.prev (canonical c r.members)

/-- The line that the sink writes for a record. -/
def line (r : Record) : List UInt8 := utf8 (lineOf c r.prev r.members)

end Record

variable {c : Crates} {φ : Type} {path : φ}

/-- **A line passes the check, and holds a record.** -/
structure Held (c : Crates) (line : String) (r : Record) : Prop where
  read : ∃ obj, c.fromStr line = some (.object obj) ∧
    obj.lookup "sha256" = some (.string (r.digest c)) ∧
    obj.lookup "prev_sha256" = some (.string r.prev) ∧
    obj.lookup "seq" = some (.posInt r.seq) ∧
    r.members = SortedMap.ofEntries (obj.filter fun entry => entry.1 != "sha256")
  prev : isSha256Hex r.prev = true

theorem orReason_ok_iff {α : Type} {o : Option α} {reason : Reason} {a : α} :
    orReason o reason = .ok a ↔ o = some a := by
  cases o <;> simp [orReason]

theorem bind_asStr {o : Option Value} {text : String} :
    o.bind Value.asStr = some text ↔ o = some (.string text) := by
  cases o <;> simp [Value.asStr_eq_some]

theorem bind_asU64 {o : Option Value} {n : ℕ} :
    o.bind Value.asU64 = some n ↔ o = some (.posInt n) := by
  cases o <;> simp [Value.asU64_eq_some]

/-- **What it means that a line passes.** -/
theorem verifyLine_ok_iff {line : String} {out : ℕ × String × String} :
    verifyLine c line = .ok out ↔ ∃ r, Held c line r ∧ out = (r.seq, r.prev, r.digest c) := by
  simp only [verifyLine, bind_eq_ok, orReason_ok_iff, bind_asStr, Value.asObject_eq_some]
  constructor
  · rintro ⟨value, hvalue, obj, rfl, claimed, hclaimed, prev, hprev, h⟩
    by_cases hhex : (!isSha256Hex prev || !isSha256Hex claimed) = true
    · rw [if_pos hhex] at h
      cases h
    · rw [if_neg hhex] at h
      obtain ⟨seq, hseq, h⟩ := bind_eq_ok.mp h
      by_cases hdigest : Audit.digest c prev
          (SortedMap.ofEntries (obj.filter fun entry => entry.1 != "sha256")) = claimed
      · rw [if_pos hdigest] at h
        have hprev' : isSha256Hex prev = true := by
          rw [Bool.or_eq_true, not_or, Bool.not_eq_true', Bool.not_eq_false] at hhex
          exact hhex.1
        refine ⟨⟨seq, prev, _⟩, ⟨⟨obj, hvalue, ?_, hprev, bind_asU64.mp (orReason_ok_iff.mp hseq),
          rfl⟩, hprev'⟩, (Except.ok.inj h).symm⟩
        rw [hclaimed, ← hdigest]
        rfl
      · rw [if_neg hdigest] at h
        cases h
  · rintro ⟨r, ⟨⟨obj, hvalue, hsha, hprev, hseq, hmembers⟩, hhex⟩, rfl⟩
    refine ⟨.object obj, hvalue, obj, rfl, r.digest c, hsha, r.prev, hprev, ?_⟩
    have hdigest : isSha256Hex (r.digest c) = true := isSha256Hex_digest c r.prev r.members
    rw [hhex, hdigest, if_neg (by decide), ← hmembers]
    exact bind_eq_ok.mpr ⟨r.seq, orReason_ok_iff.mpr (bind_asU64.mpr hseq), if_pos rfl⟩

/-- A line holds one record. -/
theorem Held.unique {line : String} {r r' : Record} (h : Held c line r) (h' : Held c line r') :
    r = r' := by
  obtain ⟨⟨obj, hread, -, hprev, hseq, hmembers⟩, -⟩ := h
  obtain ⟨⟨obj', hread', -, hprev', hseq', hmembers'⟩, -⟩ := h'
  rw [hread'] at hread
  obtain rfl : obj' = obj := Value.object.inj (Option.some.inj hread)
  rw [hprev'] at hprev
  rw [hseq'] at hseq
  cases r
  cases r'
  simp_all

/-! ## Files -/

/-- The bytes of a line that passes. -/
def HeldBytes (c : Crates) (bytes : List UInt8) (r : Record) : Prop :=
  bytes ≠ [] ∧ ∃ line, bytes = utf8 line ∧ Held c line r

/-- What the check has found behind some more records. -/
def Progress.after (c : Crates) (p : Progress) (rs : List Record) : Progress where
  records := p.records + rs.length
  lastSeq := (rs.getLast?.map Record.seq).getD p.lastSeq
  lastSha256 := HashChain.last (Record.digest c) p.lastSha256 rs
  firstPrev := p.firstPrev.or (rs.head?.map Record.prev)
  expectedPrev := (rs.getLast?.map (Record.digest c)).or p.expectedPrev

theorem Progress.after_nil (p : Progress) : p.after c [] = p := by
  cases p
  simp [after]

theorem Progress.after_cons (p : Progress) (r : Record) (rs : List Record) :
    (p.after c [r]).after c rs = p.after c (r :: rs) := by
  cases hrs : rs.getLast? with
  | none =>
    obtain rfl := List.getLast?_eq_none_iff.mp hrs
    simp [after, HashChain.last]
  | some r' => simp [after, HashChain.last, List.getLast?_cons, hrs, Nat.add_assoc, Nat.add_comm 1]

theorem verifyNext_ok_iff {p p' : Progress} {bytes : List UInt8} :
    verifyNext c p bytes = .ok p' ↔
      ∃ r, HeldBytes c bytes r ∧ (∀ e ∈ p.expectedPrev, r.prev = e) ∧ p' = p.after c [r] := by
  simp only [verifyNext, bind_eq_ok, orReason_ok_iff]
  have hexpected : ∀ prev, p.expectedPrev.any (fun e => decide (prev ≠ e)) = true ↔
      ¬∀ e ∈ p.expectedPrev, prev = e := by
    intro prev
    cases p.expectedPrev <;> simp
  constructor
  · rintro ⟨line, hline, h⟩
    by_cases hempty : bytes = []
    · rw [if_pos hempty] at h
      cases h
    · rw [if_neg hempty] at h
      obtain ⟨⟨seq, prev, hash⟩, hverify, h⟩ := bind_eq_ok.mp h
      obtain ⟨r, hheld, hout⟩ := verifyLine_ok_iff.mp hverify
      cases hout
      by_cases hprev : ∀ e ∈ p.expectedPrev, r.prev = e
      · refine ⟨r, ⟨hempty, line, (utf8_of_ofUtf8? hline).symm, hheld⟩, hprev, ?_⟩
        simp only [(hexpected r.prev).not_left.mpr hprev] at h
        exact (Except.ok.inj h).symm
      · simp only [(hexpected r.prev).mpr hprev, if_true] at h
        cases h
  · rintro ⟨r, ⟨hempty, line, rfl, hheld⟩, hprev, rfl⟩
    refine ⟨line, ofUtf8?_utf8 line, ?_⟩
    rw [if_neg hempty]
    refine bind_eq_ok.mpr ⟨_, verifyLine_ok_iff.mpr ⟨r, hheld, rfl⟩, ?_⟩
    have hany := (hexpected r.prev).not_left.mpr hprev
    simp only [hany]
    rfl

/-- The bytes of a text are checked as the text. -/
theorem verifyNext_utf8 (p : Progress) {text : String} (h : utf8 text ≠ []) :
    verifyNext c p (utf8 text) = (do
      let (seq, prev, digest) ← verifyLine c text
      if p.expectedPrev.any (prev ≠ ·) then .error .unlinked
      else .ok ⟨p.records + 1, seq, digest, p.firstPrev.or (some prev), some digest⟩) := by
  rw [verifyNext, ofUtf8?_utf8, orReason]
  exact if_neg h

/-- **The lines of a file**, from what is expected of the first. -/
theorem verifyLines_ok_iff {idx : ℕ} {p p' : Progress} {lines : List (List UInt8)} :
    verifyLines c path idx p lines = .ok p' ↔
      ∃ rs, List.Forall₂ (HeldBytes c) lines rs ∧
        HashChain.Linked Record.prev (Record.digest c) rs ∧
        (∀ e ∈ p.expectedPrev, ∀ r ∈ rs.head?, r.prev = e) ∧ p' = p.after c rs := by
  induction lines generalizing idx p with
  | nil =>
    rw [verifyLines]
    constructor
    · intro h
      cases h
      exact ⟨[], .nil, HashChain.linked_nil, nofun, (Progress.after_nil _).symm⟩
    · rintro ⟨rs, hheld, -, -, rfl⟩
      cases hheld
      rw [Progress.after_nil]
  | cons bytes lines ih =>
    rw [verifyLines]
    constructor
    · intro h
      cases hnext : verifyNext c p bytes with
      | error reason =>
        rw [hnext] at h
        cases h
      | ok p₁ =>
        rw [hnext] at h
        obtain ⟨r, hr, hprev, rfl⟩ := verifyNext_ok_iff.mp hnext
        obtain ⟨rs, hrs, hlinked, hhead, rfl⟩ := ih.mp h
        refine ⟨r :: rs, .cons hr hrs, ?_, ?_, Progress.after_cons p r rs⟩
        · refine HashChain.linked_append_iff.mpr ⟨HashChain.linked_singleton r, hlinked, ?_⟩
          intro a ha b hb
          obtain rfl : r = a := Option.some.inj ha
          exact hhead _ rfl b hb
        · intro e he r' hr'
          obtain rfl : r = r' := Option.some.inj hr'
          exact hprev e he
    · rintro ⟨rs, hheld, hlinked, hhead, rfl⟩
      cases hheld with
      | @cons _ r _ rs hr hrs =>
        have hnext := verifyNext_ok_iff.mpr ⟨r, hr, fun e he => hhead e he r rfl, rfl⟩
        rw [hnext]
        have hlinks := HashChain.linked_append_iff.mp
          (show HashChain.Linked _ _ ([r] ++ rs) from hlinked)
        refine ih.mpr ⟨rs, hrs, hlinks.2.1, ?_, (Progress.after_cons p r rs).symm⟩
        intro e he b hb
        obtain rfl : r.digest c = e := Option.some.inj he
        exact hlinks.2.2 r rfl b hb

/-- What the check reports of a file with some records. -/
def report (c : Crates) (path : φ) (rs : List Record) : VerifiedFile φ where
  path := path
  records := rs.length
  lastSeq := (rs.getLast?.map Record.seq).getD 0
  lastSha256 := HashChain.last (Record.digest c) genesisPrev rs
  firstPrevSha256 := (rs.head?.map Record.prev).getD genesisPrev

/-- The records of a file whose check succeeds. -/
structure Records (c : Crates) (bytes : List UInt8) (rs : List Record) : Prop where
  held : List.Forall₂ (HeldBytes c) (Lines.lines bytes) rs
  linked : HashChain.Linked Record.prev (Record.digest c) rs
  nonempty : rs ≠ []

/-- **A file passes the check exactly when it has records.** -/
theorem verifyFile_ok_iff {bytes : List UInt8} {v : VerifiedFile φ} :
    verifyFile c path bytes = .ok v ↔ ∃ rs, Records c bytes rs ∧ v = report c path rs := by
  simp only [verifyFile, bind_eq_ok]
  have hreport : ∀ rs : List Record, Progress.start.after c rs =
      ⟨rs.length, (report c path rs).lastSeq, (report c path rs).lastSha256,
        rs.head?.map Record.prev, rs.getLast?.map (Record.digest c)⟩ := by
    intro rs
    simp [Progress.after, Progress.start, report]
  constructor
  · rintro ⟨p, hlines, h⟩
    obtain ⟨rs, hheld, hlinked, -, rfl⟩ := verifyLines_ok_iff.mp hlines
    rw [hreport] at h
    by_cases hempty : rs.length = 0
    · rw [if_pos hempty] at h
      cases h
    · rw [if_neg hempty] at h
      exact ⟨rs, ⟨hheld, hlinked, fun hnil => hempty (List.length_eq_zero_iff.mpr hnil)⟩,
        (Except.ok.inj h).symm⟩
  · rintro ⟨rs, ⟨hheld, hlinked, hne⟩, rfl⟩
    refine ⟨_, verifyLines_ok_iff.mpr ⟨rs, hheld, hlinked, nofun, rfl⟩, ?_⟩
    rw [hreport, if_neg fun h => hne (List.length_eq_zero_iff.mp h)]
    rfl

end Audit
end Rclweb
