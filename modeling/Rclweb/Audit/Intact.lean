import Rclweb.Audit.Sink

/-!
# The live file over a run

A line is `Good` when it passes the check as the record it was composed from, ends in nothing that
the reader of lines would drop, and does not pass when it is cut off.  The lines that the sink
composes are good, as far as the JSON crate reads back what it prints.

A live file of good lines, perhaps with a torn one behind them, is found by the next start for what
it is.  So every run in which no append fails behind some of its bytes leaves a live file that
verifies and holds what the sink has reported.
-/

namespace Rclweb
namespace Audit

open BigEndian (utf8)

variable {c : Crates}

/-! ## Composed lines -/

/-- A record with its hash. -/
def sealed (c : Crates) (r : Record) : Value :=
  .object (SortedMap.insert "sha256" (.string (r.digest c)) r.members)

/-- **What the sink relies on for the text of a value**: it is read back, it is one line, and no
part of it that is cut off is read. -/
structure Prints (c : Crates) (value : Value) : Prop where
  read : c.fromStr (c.toString value) = some value
  line : Lines.IsLine (utf8 (c.toString value))
  torn : ∀ text, utf8 text <+: utf8 (c.toString value) → text ≠ c.toString value →
    c.fromStr text = none

/-- Bytes behind the last newline that do not pass as a line. -/
structure Torn (c : Crates) (bytes : List UInt8) : Prop where
  no_lf : Lines.lf ∉ bytes
  refused : ∀ r, ¬HeldBytes c bytes r

/-- **A good line.** -/
structure Good (c : Crates) (r : Record) : Prop where
  held : HeldBytes c (r.line c) r
  line : Lines.IsLine (r.line c)
  torn : ∀ bytes, bytes <+: r.line c → bytes ≠ r.line c → Torn c bytes

/-- The envelope of a line, whatever the event sets. -/
theorem nextMembers_spec (chain : Chain) (event : Value) (ts : ℕ) :
    SortedMap.Sorted (nextMembers chain event ts) ∧
      "sha256" ∉ (nextMembers chain event ts).map Prod.fst ∧
      (nextMembers chain event ts).lookup "prev_sha256" = some (.string chain.prevHex) ∧
      (nextMembers chain event ts).lookup "seq" = some (.posInt (chain.seq + 1)) := by
  let start : Members := SortedMap.insert "prev_sha256" (.string chain.prevHex)
    (SortedMap.insert "ts" (.posInt ts) (SortedMap.insert "seq" (.posInt (chain.seq + 1)) []))
  have hsorted : SortedMap.Sorted start :=
    SortedMap.sorted_insert (SortedMap.sorted_insert (SortedMap.sorted_insert List.Pairwise.nil _ _)
      _ _) _ _
  have hsha : "sha256" ∉ start.map Prod.fst := by
    simp only [start, SortedMap.mem_keys_insert]
    decide
  have hprev : start.lookup "prev_sha256" = some (.string chain.prevHex) :=
    SortedMap.lookup_insert_self
  have hseq : start.lookup "seq" = some (.posInt (chain.seq + 1)) := by
    rw [SortedMap.lookup_insert_of_ne (by decide), SortedMap.lookup_insert_of_ne (by decide),
      SortedMap.lookup_insert_self]
  -- only members under other keys are put on top of these
  have hmore : ∀ entries : Members,
      (∀ entry ∈ entries, entry.1 ≠ "sha256" ∧ entry.1 ≠ "prev_sha256" ∧ entry.1 ≠ "seq") →
      nextMembers chain event ts =
        entries.foldl (fun map entry => SortedMap.insert entry.1 entry.2 map) start →
      SortedMap.Sorted (nextMembers chain event ts) ∧
        "sha256" ∉ (nextMembers chain event ts).map Prod.fst ∧
        (nextMembers chain event ts).lookup "prev_sha256" = some (.string chain.prevHex) ∧
        (nextMembers chain event ts).lookup "seq" = some (.posInt (chain.seq + 1)) := by
    intro entries hne heq
    rw [heq]
    refine ⟨SortedMap.sorted_foldl_insert hsorted,
      SortedMap.notMem_keys_foldl_insert (fun entry h => (hne entry h).1) hsha, ?_, ?_⟩
    · rw [SortedMap.lookup_foldl_insert fun entry h => (hne entry h).2.1, hprev]
    · rw [SortedMap.lookup_foldl_insert fun entry h => (hne entry h).2.2, hseq]
  have hother (value : Value) :
      (∀ entry ∈ ([("event", .string "opaque"), ("value", value)] : Members),
        entry.1 ≠ "sha256" ∧ entry.1 ≠ "prev_sha256" ∧ entry.1 ≠ "seq") ∧
      SortedMap.insert "value" value (SortedMap.insert "event" (.string "opaque") start) =
        ([("event", .string "opaque"), ("value", value)] : Members).foldl
          (fun map entry => SortedMap.insert entry.1 entry.2 map) start := by
    refine ⟨fun entry hentry => ?_, by rw [List.foldl_cons, List.foldl_cons, List.foldl_nil]⟩
    simp only [List.mem_cons, List.not_mem_nil, or_false] at hentry
    rcases hentry with rfl | rfl
    · exact ⟨by decide, by decide, by decide⟩
    · exact ⟨(by decide : "value" ≠ "sha256"), (by decide : "value" ≠ "prev_sha256"),
        (by decide : "value" ≠ "seq")⟩
  cases event with
  | object obj =>
    refine hmore (obj.filter fun entry => !reserved entry.1) ?_ rfl
    intro entry hentry
    have hfree := (List.mem_filter.mp hentry).2
    simp only [reserved, Bool.not_eq_true', Bool.or_eq_false_iff, beq_eq_false_iff_ne] at hfree
    exact ⟨hfree.2, hfree.1.2, hfree.1.1.1⟩
  | _ => exact hmore _ (hother _).1 (hother _).2

theorem nextMembers_prev (chain : Chain) (event : Value) (ts : ℕ) :
    (nextMembers chain event ts).lookup "prev_sha256" = some (.string chain.prevHex) :=
  (nextMembers_spec chain event ts).2.2.1

/-- **A composed line is good**, when its text is what the sink relies on. -/
theorem good_of_prints {chain : Chain} {event : Value} {ts : ℕ}
    (hprev : isSha256Hex chain.prevHex = true)
    (hprints : Prints c (sealed c (nextRecord chain event ts))) :
    Good c (nextRecord chain event ts) := by
  obtain ⟨hsorted, hsha, hlookup, hseq⟩ := nextMembers_spec chain event ts
  set r := nextRecord chain event ts with hr
  have hheld : Held c (c.toString (sealed c r)) r := by
    refine ⟨⟨_, hprints.read, SortedMap.lookup_insert_self, ?_, ?_, ?_⟩, hprev⟩
    · rw [SortedMap.lookup_insert_of_ne (by decide)]
      exact hlookup
    · rw [SortedMap.lookup_insert_of_ne (by decide)]
      exact hseq
    · have hfilter := SortedMap.filter_insert (v := .string (r.digest c)) hsha
      rw [show r.members = nextMembers chain event ts from rfl, hfilter,
        SortedMap.ofEntries_of_sorted hsorted]
  refine ⟨⟨hprints.line.nonempty, _, rfl, hheld⟩, hprints.line, ?_⟩
  intro bytes hcut hne
  refine ⟨fun hmem => hprints.line.no_lf (hcut.subset hmem), ?_⟩
  rintro r' ⟨-, text, rfl, ⟨⟨obj, hread, -⟩, -⟩⟩
  have hnone := hprints.torn text hcut fun htext => hne (htext ▸ rfl)
  rw [hnone] at hread
  cases hread

/-! ## Files of good lines -/

/-- **Good records, each of which continues the one before.** -/
structure Ledger (c : Crates) (rs : List Record) : Prop where
  good : ∀ r ∈ rs, Good c r
  linked : HashChain.Linked Record.prev (Record.digest c) rs

/-- The file of some records. -/
def fileOf (c : Crates) (rs : List Record) : List UInt8 := Lines.file (rs.map (Record.line c))

namespace Ledger

variable {rs rs' : List Record} {r : Record}

theorem nil : Ledger c [] := ⟨nofun, HashChain.linked_nil⟩

theorem lines (h : Ledger c rs) : ∀ text ∈ rs.map (Record.line c), Lines.IsLine text := by
  rw [List.forall_mem_map]
  exact fun r hr => (h.good r hr).line

theorem held (h : Ledger c rs) : List.Forall₂ (HeldBytes c) (rs.map (Record.line c)) rs := by
  rw [List.forall₂_map_left_iff, List.forall₂_same]
  exact fun r hr => (h.good r hr).held

/-- **The file of a ledger holds its records.** -/
theorem records (h : Ledger c rs) (hne : rs ≠ []) : Records c (fileOf c rs) rs :=
  ⟨by rw [fileOf, Lines.lines_file h.lines]; exact h.held, h.linked, hne⟩

/-- A torn line behind a ledger does not pass. -/
theorem not_records_torn (h : Ledger c rs) {bytes : List UInt8} (hne : bytes ≠ [])
    (htorn : Torn c bytes) : ¬Records c (fileOf c rs ++ bytes) rs' := by
  rintro ⟨hheld, -, -⟩
  rw [fileOf, Lines.lines_file_append h.lines, Lines.lines_of_no_lf hne htorn.no_lf] at hheld
  have hlast := List.forall₂_drop_append _ _ _ hheld.flip
  obtain ⟨r, _, hr, -, -⟩ := List.forall₂_cons_right_iff.mp hlast
  exact htorn.refused r hr

theorem concat (h : Ledger c rs) (hr : Good c r)
    (hprev : ∀ a ∈ rs.getLast?, r.prev = a.digest c) : Ledger c (rs ++ [r]) := by
  constructor
  · intro r' hr'
    rcases List.mem_append.mp hr' with hr' | hr'
    · exact h.good r' hr'
    · rw [List.mem_singleton.mp hr']
      exact hr
  · refine HashChain.linked_append_iff.mpr ⟨h.linked, HashChain.linked_singleton r, ?_⟩
    intro a ha b hb
    obtain rfl : r = b := Option.some.inj hb
    exact hprev a ha

theorem of_suffix (h : Ledger c rs) (hsuffix : rs' <:+ rs) : Ledger c rs' :=
  ⟨fun r hr => h.good r (hsuffix.subset hr), h.linked.of_suffix hsuffix⟩

end Ledger

theorem fileOf_concat (rs : List Record) (r : Record) :
    fileOf c (rs ++ [r]) = fileOf c rs ++ (r.line c ++ [Lines.lf]) := by
  rw [fileOf, List.map_append, Lines.file_append]
  exact congrArg _ (Lines.file_cons _ _)

theorem fileOf_eq_nil {rs : List Record} : fileOf c rs = [] ↔ rs = [] :=
  Lines.file_eq_nil.trans List.map_eq_nil_iff

theorem torn_nil : Torn c [] := ⟨List.not_mem_nil, fun _ h => h.1 rfl⟩

end Audit
end Rclweb
