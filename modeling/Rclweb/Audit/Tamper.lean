import Rclweb.Audit.Verified

/-!
# What the hash chain protects

The hash covers the members of a line, not its bytes.  So two files that verify with one last hash
hold the same records from the end on, but the bytes may differ: the last line may or may not have
its newline, or have another ending.  Only among files in the sink's own spelling are the bytes
determined.
-/

namespace Rclweb
namespace Audit

open BigEndian (utf8)

variable {c : Crates} {φ ψ : Type} {path : φ} {path' : ψ}

/-! ## Endings of the last line -/

theorem Records.nil_notMem {bytes : List UInt8} {rs : List Record} (h : Records c bytes rs) :
    [] ∉ Lines.lines bytes := by
  intro hmem
  have hheld : ∀ {lines : List (List UInt8)} {rs : List Record},
      List.Forall₂ (HeldBytes c) lines rs → [] ∉ lines := by
    intro lines rs hheld
    induction hheld with
    | nil => exact List.not_mem_nil
    | cons hr _ ih =>
      intro hmem
      rcases List.mem_cons.mp hmem with hnil | hmem
      · exact hr.1 hnil.symm
      · exact ih hmem
  exact hheld h.held hmem

theorem Records.of_lines_eq {bytes bytes' : List UInt8} {rs : List Record}
    (h : Records c bytes rs) (hlines : Lines.lines bytes' = Lines.lines bytes) :
    Records c bytes' rs := ⟨by rw [hlines]; exact h.held, h.linked, h.nonempty⟩

theorem Records.bytes_ne_nil {bytes : List UInt8} {rs : List Record} (h : Records c bytes rs) :
    bytes ≠ [] := by
  rintro rfl
  have hheld := h.held
  rw [Lines.lines_nil, List.forall₂_nil_left_iff] at hheld
  exact h.nonempty hheld

private theorem not_suffix_append {bytes ending : List UInt8} {b : UInt8} (hbytes : bytes ≠ [])
    (hending : ending.getLast? = some b) (hlast : bytes.getLast? ≠ some b) :
    ¬bytes <:+ bytes ++ ending := by
  rintro ⟨front, hfront⟩
  have hlasts := congrArg List.getLast? hfront
  have hne : ending ≠ [] := by
    rintro rfl
    exact nomatch hending
  rw [List.getLast?_append_of_ne_nil _ hbytes, List.getLast?_append_of_ne_nil _ hne, hending]
    at hlasts
  exact hlast hlasts

private theorem not_append_suffix {bytes ending : List UInt8} (hending : ending ≠ []) :
    ¬bytes ++ ending <:+ bytes := by
  intro h
  have hlength := h.length_le
  rw [List.length_append] at hlength
  have hpos := List.length_pos_iff.mpr hending
  omega

/-- **A file with the same lines, of which neither is the end of the other.** -/
theorem exists_twin {bytes : List UInt8} (hne : bytes ≠ []) (hlines : [] ∉ Lines.lines bytes) :
    ∃ bytes', Lines.lines bytes' = Lines.lines bytes ∧ ¬bytes <:+ bytes' ∧ ¬bytes' <:+ bytes := by
  by_cases hlf : bytes.getLast? = some Lines.lf
  · obtain ⟨front, rfl⟩ : ∃ front, bytes = front ++ [Lines.lf] :=
      ⟨bytes.dropLast, (List.dropLast_append_getLast? _ hlf).symm⟩
    by_cases hcr : front.getLast? = some Lines.cr
    · -- the line ends in a carriage return and a newline: leave both away
      obtain ⟨front, rfl⟩ : ∃ front', front = front' ++ [Lines.cr] :=
        ⟨front.dropLast, (List.dropLast_append_getLast? _ hcr).symm⟩
      rw [List.append_assoc, List.singleton_append] at hlines ⊢
      have hfront : ¬(front = [] ∨ front.getLast? = some Lines.lf) := fun h =>
        hlines (Lines.nil_mem_lines_append (.inr rfl) h)
      obtain ⟨hfront, hlast⟩ := not_or.mp hfront
      exact ⟨front, (Lines.lines_append_crlf hfront hlast).symm, not_append_suffix (by simp),
        not_suffix_append hfront rfl hlast⟩
    · have hfront : ¬(front = [] ∨ front.getLast? = some Lines.lf) := fun h =>
        hlines (Lines.nil_mem_lines_append (.inl rfl) h)
      obtain ⟨hfront, hlast⟩ := not_or.mp hfront
      exact ⟨front, (Lines.lines_append_lf hfront hlast hcr).symm, not_append_suffix (by simp),
        not_suffix_append hfront rfl hlast⟩
  · exact ⟨bytes ++ [Lines.cr, Lines.lf], Lines.lines_append_crlf hne hlf,
      not_suffix_append hne rfl hlf, not_append_suffix (by simp)⟩

/-- A file has one list of records. -/
theorem Records.unique {bytes : List UInt8} {rs rs' : List Record} (h : Records c bytes rs)
    (h' : Records c bytes rs') : rs = rs' := by
  have hheld : ∀ {lines : List (List UInt8)} {rs rs' : List Record},
      List.Forall₂ (HeldBytes c) lines rs → List.Forall₂ (HeldBytes c) lines rs' → rs = rs' := by
    intro lines rs rs' hheld
    induction hheld generalizing rs' with
    | nil =>
      intro h
      cases h
      rfl
    | cons hr _ ih =>
      intro h
      cases h with
      | cons hr' hrs' =>
        obtain ⟨_, line, rfl, hheld⟩ := hr
        obtain ⟨_, line', hline, hheld'⟩ := hr'
        obtain rfl := utf8_inj hline
        rw [hheld.unique hheld', ih hrs']
  exact hheld h.held h'.held

/-! ## Records that share a hash -/

/-- A line of a file holds a record. -/
def Holds (c : Crates) (bytes : List UInt8) (r : Record) : Prop :=
  ∃ line ∈ Lines.lines bytes, HeldBytes c line r

/-- No two of the messages hashed for two files have one hash. -/
def NoCollision (c : Crates) (bytes bytes' : List UInt8) : Prop :=
  ∀ r r', Holds c bytes r → Holds c bytes' r' → c.sha256 (r.message c) = c.sha256 (r'.message c) →
    r.message c = r'.message c

/-- No two of the objects printed for the hashes of two files have one text. -/
def PrintsApart (c : Crates) (bytes bytes' : List UInt8) : Prop :=
  ∀ r r', Holds c bytes r → Holds c bytes' r' →
    c.toString (.object r.members) = c.toString (.object r'.members) → r.members = r'.members

/-- The sink's own spelling: every line as it is composed, with a newline alone behind it. -/
structure Spelled (c : Crates) (bytes : List UInt8) : Prop where
  file : bytes = Lines.file (Lines.lines bytes)
  line : ∀ line ∈ Lines.lines bytes, ∀ r, HeldBytes c line r → line = r.line c

private theorem lookup_filter_ne {m : Members} {key other : String} (h : key ≠ other) :
    (m.filter fun entry => entry.1 != other).lookup key = m.lookup key := by
  induction m with
  | nil => rfl
  | cons entry rest ih =>
    by_cases hentry : entry.1 = other
    · rw [List.filter_cons_of_neg (by simp [hentry]), ih, List.lookup_cons,
        beq_false_of_ne (by rwa [hentry])]
    · rw [List.filter_cons_of_pos (by simpa using hentry), List.lookup_cons, List.lookup_cons, ih]

/-- A record is in its members. -/
theorem Held.eq_of_members {line line' : String} {r r' : Record} (h : Held c line r)
    (h' : Held c line' r') (hmembers : r.members = r'.members) : r = r' := by
  have hfound : ∀ {line : String} {r : Record}, Held c line r →
      r.members.lookup "prev_sha256" = some (.string r.prev) ∧
        r.members.lookup "seq" = some (.posInt r.seq) := by
    intro line r h
    obtain ⟨⟨obj, hread, -, hprev, hseq, hmembers⟩, -⟩ := h
    rw [hmembers, SortedMap.ofEntries_of_sorted ((c.sorted _ _ hread).sublist List.filter_sublist),
      lookup_filter_ne (by decide), lookup_filter_ne (by decide)]
    exact ⟨hprev, hseq⟩
  obtain ⟨hprev, hseq⟩ := hfound h
  obtain ⟨hprev', hseq'⟩ := hfound h'
  rw [hmembers, hprev'] at hprev
  rw [hmembers, hseq'] at hseq
  have hp : r'.prev = r.prev := Value.string.inj (Option.some.inj hprev)
  have hs : r'.seq = r.seq := Value.posInt.inj (Option.some.inj hseq)
  exact Record.ext hs.symm hp.symm hmembers

/-- **Two records with one hash are one record.** -/
theorem eq_of_digest_eq {bytes bytes' : List UInt8} (hsha : NoCollision c bytes bytes')
    (hprint : PrintsApart c bytes bytes') {r r' : Record} (h : Holds c bytes r)
    (h' : Holds c bytes' r') (hdigest : r.digest c = r'.digest c) : r = r' := by
  have hhash : c.sha256 (r.message c) = c.sha256 (r'.message c) :=
    Vector.toList_inj.mp (hexEncode_inj hdigest)
  have hmessage := hsha r r' h h' hhash
  have hapart := hprint r r' h h'
  obtain ⟨_, _, _, line, _, hheld⟩ := h
  obtain ⟨_, _, _, line', _, hheld'⟩ := h'
  have hcanonical := (message_inj hheld.prev hheld'.prev hmessage).2
  exact hheld.eq_of_members hheld' (hapart (utf8_inj hcanonical))

theorem Records.holds {bytes : List UInt8} {rs : List Record} (h : Records c bytes rs) {r : Record}
    (hr : r ∈ rs) : Holds c bytes r := by
  have hheld : ∀ {lines : List (List UInt8)} {rs : List Record},
      List.Forall₂ (HeldBytes c) lines rs → r ∈ rs → ∃ line ∈ lines, HeldBytes c line r := by
    intro lines rs hheld hr
    induction hheld with
    | nil => exact absurd hr List.not_mem_nil
    | @cons line r' _ _ hline _ ih =>
      rcases List.mem_cons.mp hr with rfl | hr
      · exact ⟨line, List.mem_cons_self, hline⟩
      · obtain ⟨line, hmem, hline⟩ := ih hr
        exact ⟨line, List.mem_cons_of_mem _ hmem, hline⟩
  exact hheld h.held hr

theorem digest_last_eq {rs rs' : List Record}
    (hlast : (report c path' rs').lastSha256 = (report c path rs).lastSha256) :
    ∀ r ∈ rs.getLast?, ∀ r' ∈ rs'.getLast?, r.digest c = r'.digest c := by
  intro r hr r' hr'
  simp only [report, HashChain.last, Option.mem_def.mp hr, Option.mem_def.mp hr'] at hlast
  exact hlast.symm

/-- **The records of two files with one last hash**: those of one are the last ones of the other. -/
theorem Records.suffix_or_suffix {bytes bytes' : List UInt8} {rs rs' : List Record}
    (h : Records c bytes rs) (h' : Records c bytes' rs')
    (hlast : (report c path' rs').lastSha256 = (report c path rs).lastSha256)
    (hsha : NoCollision c bytes bytes') (hprint : PrintsApart c bytes bytes') :
    rs <:+ rs' ∨ rs' <:+ rs :=
  HashChain.suffix_or_suffix h.linked h'.linked
    (fun _ hr _ hr' => eq_of_digest_eq hsha hprint (h.holds hr) (h'.holds hr'))
    (digest_last_eq hlast)

/-- In the sink's own spelling the records are the bytes. -/
theorem Records.bytes_eq {bytes : List UInt8} {rs : List Record} (h : Records c bytes rs)
    (hspelled : Spelled c bytes) : bytes = Lines.file (rs.map (Record.line c)) := by
  have hlines : ∀ {lines : List (List UInt8)} {rs : List Record},
      List.Forall₂ (HeldBytes c) lines rs →
      (∀ line ∈ lines, ∀ r, HeldBytes c line r → line = r.line c) →
      lines = rs.map (Record.line c) := by
    intro lines rs hheld hline
    induction hheld with
    | nil => rfl
    | @cons line r _ _ hr _ ih =>
      rw [List.map_cons, hline line List.mem_cons_self r hr,
        ih fun line hmem => hline line (List.mem_cons_of_mem _ hmem)]
  rw [hspelled.file, hlines h.held hspelled.line]

theorem suffix_map {rs rs' : List Record} (h : rs <:+ rs') :
    Lines.file (rs.map (Record.line c)) <:+ Lines.file (rs'.map (Record.line c)) := by
  obtain ⟨front, rfl⟩ := h
  exact Lines.suffix_file ⟨front.map (Record.line c), (List.map_append).symm⟩

/-- **A verified file has a twin**: other bytes, neither of which is the end of the other, verify
with as many records and the same last hash.  What the hash determines are the records; it
determines the bytes among files in the sink's own spelling. -/
theorem verified_file_has_twin {bytes : List UInt8} {v : VerifiedFile φ}
    (h : verifyFile c path bytes = .ok v) (path' : ψ) :
    (∃ bytes' v', verifyFile c path' bytes' = .ok v' ∧ v'.records = v.records ∧
      v'.lastSha256 = v.lastSha256 ∧ ¬bytes <:+ bytes' ∧ ¬bytes' <:+ bytes) ∧
    ∀ bytes' v', verifyFile c path' bytes' = .ok v' → v'.lastSha256 = v.lastSha256 →
      NoCollision c bytes bytes' → PrintsApart c bytes bytes' →
        (∀ rs rs', Records c bytes rs → Records c bytes' rs' → rs <:+ rs' ∨ rs' <:+ rs) ∧
        (Spelled c bytes → Spelled c bytes' → bytes <:+ bytes' ∨ bytes' <:+ bytes) := by
  obtain ⟨rs, hrs, rfl⟩ := verifyFile_ok_iff.mp h
  constructor
  · obtain ⟨bytes', hlines, hsuffix, hsuffix'⟩ := exists_twin hrs.bytes_ne_nil hrs.nil_notMem
    exact ⟨bytes', report c path' rs,
      verifyFile_ok_iff.mpr ⟨rs, hrs.of_lines_eq hlines, rfl⟩, rfl, rfl, hsuffix, hsuffix'⟩
  · intro bytes' v' h' hlast hsha hprint
    obtain ⟨rs', hrs', rfl⟩ := verifyFile_ok_iff.mp h'
    have hends := hrs.suffix_or_suffix hrs' hlast hsha hprint
    constructor
    · intro _ _ hother hother'
      rw [hother.unique hrs, hother'.unique hrs']
      exact hends
    · intro hspelled hspelled'
      rw [hrs.bytes_eq hspelled, hrs'.bytes_eq hspelled']
      exact hends.imp suffix_map suffix_map

/-- The first line of the sample file. -/
def sampleLine : List UInt8 :=
  utf8 (sampleText (.object (sampleObject 0 genesisPrev sampleHash)))

theorem isLine_sampleLine : Lines.IsLine sampleLine where
  nonempty := by decide +kernel
  no_lf := by decide +kernel
  no_cr := by decide +kernel

theorem lines_sampleLine : Lines.lines sampleLine = [sampleLine] :=
  Lines.lines_of_no_lf isLine_sampleLine.nonempty isLine_sampleLine.no_lf

theorem lines_file_sampleLine : Lines.lines (Lines.file [sampleLine]) = [sampleLine] :=
  Lines.lines_file (List.forall_mem_singleton.mpr isLine_sampleLine)

/-- Every file of this one line verifies. -/
theorem verifyFile_sampleLine (path : ℕ) {bytes : List UInt8}
    (h : Lines.lines bytes = [sampleLine]) : verifyFile sampleCrates path bytes =
      .ok ⟨path, 1, 1, hexEncode sampleHash.toList, genesisPrev⟩ := by
  have hline : verifyLine sampleCrates
      (sampleText (.object (sampleObject 0 genesisPrev sampleHash))) =
        .ok (1, genesisPrev, hexEncode sampleHash.toList) := by decide +kernel
  have hnext : verifyNext sampleCrates .start sampleLine = .ok ⟨1, 1, hexEncode sampleHash.toList,
      some genesisPrev, some (hexEncode sampleHash.toList)⟩ := by
    rw [sampleLine, verifyNext_utf8 _ isLine_sampleLine.nonempty, hline]
    rfl
  rw [verifyFile, h, verifyLines, hnext]
  rfl

theorem verified_file_has_twin_of_sample :
    ∃ bytes' v', verifyFile sampleCrates 1 bytes' = .ok v' ∧ v'.records = 1 ∧
      v'.lastSha256 = hexEncode sampleHash.toList ∧ ¬Lines.file [sampleLine] <:+ bytes' ∧
      ¬bytes' <:+ Lines.file [sampleLine] :=
  (verified_file_has_twin (verifyFile_sampleLine 0 lines_file_sampleLine) 1).1

/-- Without its last newline the file verifies all the same. -/
theorem not_bytes_of_last_sha256 :
    ¬∀ (c : Crates) (bytes bytes' : List UInt8) (v v' : VerifiedFile ℕ),
      verifyFile c 0 bytes = .ok v → verifyFile c 1 bytes' = .ok v' →
      v'.lastSha256 = v.lastSha256 → NoCollision c bytes bytes' →
      bytes <:+ bytes' ∨ bytes' <:+ bytes := by
  intro h
  have hcollision : NoCollision sampleCrates (Lines.file [sampleLine]) sampleLine := by
    rintro r r' ⟨line, hmem, -, _, rfl, hheld⟩ ⟨line', hmem', -, _, rfl, hheld'⟩ -
    rw [lines_file_sampleLine, List.mem_singleton] at hmem
    rw [lines_sampleLine, List.mem_singleton] at hmem'
    obtain rfl := utf8_inj (hmem.trans hmem'.symm)
    rw [hheld.unique hheld']
  have hnot : ¬(Lines.file [sampleLine] <:+ sampleLine ∨
      sampleLine <:+ Lines.file [sampleLine]) := by decide +kernel
  exact hnot (h _ _ _ _ _ (verifyFile_sampleLine 0 lines_file_sampleLine)
    (verifyFile_sampleLine 1 lines_sampleLine) rfl hcollision)

end Audit
end Rclweb
