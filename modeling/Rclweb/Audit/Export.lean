import Rclweb.Audit.Kept

/-!
# The export of the rotation stack

`exportChain` finds the rotations by probing their names from 1 on, verifies each file, checks that
each continues the one before, and writes them into one file, oldest first.

When the files hold the parts of one ledger the export is the file of that ledger.
-/

namespace Rclweb
namespace Audit

variable {c : Crates} {disk : Disk}

/-! ## The files of the stack -/

/-- The first rotation that is not there, from `n` on; the search ends behind `fuel` more. -/
def probe (disk : Disk) : ℕ → ℕ → ℕ
  | 0, n => n
  | fuel + 1, n => if (disk (.rotation n)).isSome then probe disk fuel (n + 1) else n

/-- The rotations below `n`, the oldest first. -/
def rotationsBelow : ℕ → List FileName
  | 0 => []
  | n + 1 => .rotation (n + 1) :: rotationsBelow n

/-- **The files to export**, the oldest first. -/
def rotationStack (disk : Disk) : List FileName :=
  rotationsBelow (probe disk 128 1 - 1) ++ if (disk .live).isSome then [FileName.live] else []

/-! ## The export -/

inductive ExportError where
  | noFile
  | refused (error : VerifyError FileName)
  | unstitched (newer older : FileName)
  | drifted

structure ExportReport where
  files : ℕ
  records : ℕ
  lastSha256 : String

def verifyAll (c : Crates) (disk : Disk) :
    List FileName → Except ExportError (List (VerifiedFile FileName))
  | [] => .ok []
  | path :: paths => do
    let v ← (verifyFile c path ((disk path).getD [])).mapError .refused
    let vs ← verifyAll c disk paths
    return v :: vs

/-- Each file continues the one before. -/
def checkStitches : List (VerifiedFile FileName) → Except ExportError Unit
  | older :: newer :: rest =>
    if newer.firstPrevSha256 = older.lastSha256 then checkStitches (newer :: rest)
    else .error (.unstitched newer.path older.path)
  | _ => .ok ()

/-- A file's text, with a newline at its end. -/
def exportText (text : List UInt8) : List UInt8 :=
  if text = [] ∨ text.getLast? = some Lines.lf then text else text ++ [Lines.lf]

def exportBytes (disk : Disk) (files : List FileName) : List UInt8 :=
  files.flatMap fun path => exportText ((disk path).getD [])

def countRecords (verified : List (VerifiedFile FileName)) (files : List FileName) : ℕ :=
  (files.map fun path => ((verified.find? (·.path = path)).map (·.records)).getD 0).sum

/-- **`export_chain`**: the report, and the file that is written. -/
def exportChain (c : Crates) (disk : Disk) : Except ExportError (ExportReport × List UInt8) := do
  let files := rotationStack disk
  if files = [] then .error .noFile
  else
    let verified ← verifyAll c disk files
    checkStitches verified
    let out := exportBytes disk files
    let records := countRecords verified files
    let check ← (verifyFile c .exported out).mapError .refused
    if check.records = records then
      .ok (⟨files.length, records, (verified.getLast?.map (·.lastSha256)).getD ""⟩, out)
    else .error .drifted

theorem verifyFile_of_verifyAll {c : Crates} {disk : Disk} {paths : List FileName}
    {vs : List (VerifiedFile FileName)} (h : verifyAll c disk paths = .ok vs) {path : FileName}
    (hpath : path ∈ paths) : ∃ v, verifyFile c path ((disk path).getD []) = .ok v := by
  induction paths generalizing vs with
  | nil => exact absurd hpath List.not_mem_nil
  | cons head paths ih =>
    obtain ⟨v, hhead, htail⟩ := bind_eq_ok.mp h
    obtain ⟨vs, htail, -⟩ := bind_eq_ok.mp htail
    rcases List.mem_cons.mp hpath with rfl | hpath
    · cases hverify : verifyFile c path ((disk path).getD []) with
      | error e =>
        rw [hverify] at hhead
        cases hhead
      | ok v => exact ⟨v, rfl⟩
    · exact ih htail hpath

/-- An export that succeeds has verified every file of the stack. -/
theorem verifyFile_of_exportChain {c : Crates} {disk : Disk} {r : ExportReport × List UInt8}
    (h : exportChain c disk = .ok r) {path : FileName} (hpath : path ∈ rotationStack disk) :
    ∃ v, verifyFile c path ((disk path).getD []) = .ok v := by
  rw [exportChain, if_neg (List.ne_nil_of_mem hpath)] at h
  obtain ⟨vs, hall, -⟩ := bind_eq_ok.mp h
  exact verifyFile_of_verifyAll hall hpath

/-! ## The parts of a ledger -/

/-- Files with the records they hold. -/
abbrev Parts := List (FileName × List Record)

def Parts.records (parts : Parts) : List Record := parts.flatMap Prod.snd

/-- The files are on disk with their records, and together they are a ledger. -/
structure Holding (c : Crates) (disk : Disk) (parts : Parts) : Prop where
  held : ∀ p ∈ parts, disk p.1 = some (fileOf c p.2)
  nonempty : ∀ p ∈ parts, p.2 ≠ []
  ledger : Ledger c parts.records
  nodup : (parts.map Prod.fst).Nodup

variable {parts : Parts} {p : FileName × List Record}

theorem Parts.records_cons : Parts.records (p :: parts) = p.2 ++ Parts.records parts :=
  List.flatMap_cons

theorem Holding.tail (h : Holding c disk (p :: parts)) : Holding c disk parts where
  held q hq := h.held q (List.mem_cons_of_mem _ hq)
  nonempty q hq := h.nonempty q (List.mem_cons_of_mem _ hq)
  ledger := by
    have hledger := h.ledger
    rw [Parts.records_cons] at hledger
    exact ⟨fun r hr => hledger.good r (List.mem_append_right _ hr), hledger.linked.right⟩
  nodup := (List.nodup_cons.mp h.nodup).2

theorem Holding.head_ledger (h : Holding c disk (p :: parts)) : Ledger c p.2 := by
  have hledger := h.ledger
  rw [Parts.records_cons] at hledger
  exact ⟨fun r hr => hledger.good r (List.mem_append_left _ hr), hledger.linked.left⟩

def reportOf (c : Crates) (p : FileName × List Record) : VerifiedFile FileName := report c p.1 p.2

theorem Holding.verifyAll (h : Holding c disk parts) :
    verifyAll c disk (parts.map Prod.fst) = .ok (parts.map (reportOf c)) := by
  induction parts with
  | nil => rfl
  | cons p parts ih =>
    have hverify : verifyFile c p.1 ((disk p.1).getD []) = .ok (reportOf c p) := by
      rw [h.held p List.mem_cons_self]
      exact verifyFile_ok_iff.mpr
        ⟨p.2, h.head_ledger.records (h.nonempty p List.mem_cons_self), rfl⟩
    rw [List.map_cons, Audit.verifyAll, hverify, ih h.tail]
    rfl

/-- The files of a ledger stitch. -/
theorem Holding.checkStitches (h : Holding c disk parts) :
    checkStitches (parts.map (reportOf c)) = .ok () := by
  induction parts with
  | nil => rfl
  | cons p parts ih =>
    cases parts with
    | nil => rfl
    | cons q parts =>
      have hlinked := h.ledger.linked
      rw [Parts.records_cons, Parts.records_cons, HashChain.linked_append_iff] at hlinked
      obtain ⟨front, a, ha⟩ := (List.eq_nil_or_concat p.2).resolve_left
        (h.nonempty p List.mem_cons_self)
      obtain ⟨b, rest, hb⟩ := List.exists_cons_of_ne_nil
        (h.nonempty q (List.mem_cons_of_mem _ List.mem_cons_self))
      rw [List.concat_eq_append] at ha
      have hstitch : b.prev = a.digest c :=
        hlinked.2.2 a (by rw [ha, List.getLast?_concat]; rfl) b (by rw [hb]; rfl)
      rw [List.map_cons, List.map_cons, Audit.checkStitches, if_pos ?_]
      · exact ih h.tail
      · simp only [reportOf, report, ha, hb, HashChain.last_concat]
        exact hstitch

theorem getLast?_fileOf {rs : List Record} (hne : rs ≠ []) :
    (fileOf c rs).getLast? = some Lines.lf := by
  obtain ⟨front, r, rfl⟩ := (List.eq_nil_or_concat rs).resolve_left hne
  rw [List.concat_eq_append, fileOf_concat, ← List.append_assoc, List.getLast?_concat]

theorem Holding.exportBytes (h : Holding c disk parts) :
    exportBytes disk (parts.map Prod.fst) = fileOf c parts.records := by
  induction parts with
  | nil => rfl
  | cons p parts ih =>
    have htext : exportText ((disk p.1).getD []) = fileOf c p.2 := by
      rw [h.held p List.mem_cons_self]
      exact if_pos (.inr (getLast?_fileOf (h.nonempty p List.mem_cons_self)))
    rw [List.map_cons, Audit.exportBytes, List.flatMap_cons, htext, Parts.records_cons, fileOf,
      fileOf, List.map_append, Lines.file_append]
    exact congrArg _ (ih h.tail)

theorem find?_reportOf {parts : Parts} (hnodup : (parts.map Prod.fst).Nodup) (hp : p ∈ parts) :
    (parts.map (reportOf c)).find? (·.path = p.1) = some (reportOf c p) := by
  induction parts with
  | nil => cases hp
  | cons q parts ih =>
    obtain ⟨hq, hnodup⟩ := List.nodup_cons.mp hnodup
    rcases List.mem_cons.mp hp with rfl | hp
    · exact List.find?_cons_of_pos (decide_eq_true rfl)
    · have hne : q.1 ≠ p.1 := fun heq => hq (heq ▸ List.mem_map_of_mem hp)
      rw [List.map_cons, List.find?_cons_of_neg (by simp [reportOf, report, hne]), ih hnodup hp]

theorem Holding.countRecords (h : Holding c disk parts) :
    countRecords (parts.map (reportOf c)) (parts.map Prod.fst) = parts.records.length := by
  rw [Audit.countRecords, List.map_map, Parts.records, List.length_flatMap]
  congr 1
  refine List.map_congr_left ?_
  intro p hp
  show (((parts.map (reportOf c)).find? (·.path = p.1)).map (·.records)).getD 0 = p.2.length
  rw [find?_reportOf h.nodup hp]
  rfl

/-- **The export of the parts of a ledger is the ledger.** -/
theorem Holding.exportChain (h : Holding c disk parts)
    (hstack : rotationStack disk = parts.map Prod.fst) (hne : parts ≠ []) :
    ∃ out, exportChain c disk = .ok (out, fileOf c parts.records) ∧
      Records c (fileOf c parts.records) parts.records := by
  have hrecords : Records c (fileOf c parts.records) parts.records := by
    refine h.ledger.records ?_
    obtain ⟨p, rest, rfl⟩ := List.exists_cons_of_ne_nil hne
    intro hnil
    exact h.nonempty p List.mem_cons_self (List.append_eq_nil_iff.mp hnil).1
  have hcheck : (verifyFile c FileName.exported (fileOf c parts.records)).mapError
      ExportError.refused = .ok (report c .exported parts.records) := by
    rw [verifyFile_ok_iff.mpr ⟨parts.records, hrecords, rfl⟩]
    rfl
  have hfiles : parts.map Prod.fst ≠ [] := by rwa [Ne, List.map_eq_nil_iff]
  refine ⟨⟨(parts.map Prod.fst).length, parts.records.length,
    ((parts.map (reportOf c)).getLast?.map (·.lastSha256)).getD ""⟩, ?_, hrecords⟩
  simp only [Audit.exportChain, hstack, if_neg hfiles, h.verifyAll, h.checkStitches, h.exportBytes,
    h.countRecords, bind, Except.bind, hcheck]
  exact if_pos rfl

end Audit
end Rclweb
