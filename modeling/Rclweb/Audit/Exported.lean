import Rclweb.Audit.Stack
import Mathlib.Data.List.Nodup

/-!
# The stack always exports

Whatever the order of events, rotations, deaths and starts: as long as every rotation is followed by
a whole line before the process dies, and no start finds a rotation beyond its `retain`, the export
succeeds and holds the last of the records that were written.
-/

namespace Rclweb
namespace Audit

open BigEndian (utf8)

variable {c : Crates}

/-! ## The stack of files -/

/-- The rotations up to `m`, the oldest first, with their records. -/
def shelved (shelf : ℕ → List Record) : ℕ → Parts
  | 0 => []
  | m + 1 => (.rotation (m + 1), shelf (m + 1)) :: shelved shelf m

variable {shelf shelf' : ℕ → List Record} {m : ℕ}

theorem map_fst_shelved : (shelved shelf m).map Prod.fst = rotationsBelow m := by
  induction m with
  | zero => rfl
  | succ m ih => rw [shelved, List.map_cons, ih, rotationsBelow]

theorem mem_shelved {p : FileName × List Record} (h : p ∈ shelved shelf m) :
    ∃ i, 1 ≤ i ∧ i ≤ m ∧ p = (.rotation i, shelf i) := by
  induction m with
  | zero => cases h
  | succ m ih =>
    rcases List.mem_cons.mp h with rfl | h
    · exact ⟨m + 1, by omega, le_rfl, rfl⟩
    · obtain ⟨i, hi, him, hp⟩ := ih h
      exact ⟨i, hi, by omega, hp⟩

theorem nodup_rotationsBelow : (rotationsBelow m).Nodup ∧
    ∀ name ∈ rotationsBelow m, ∃ i ≤ m, name = .rotation i := by
  induction m with
  | zero => exact ⟨List.nodup_nil, nofun⟩
  | succ m ih =>
    obtain ⟨hnodup, hmem⟩ := ih
    refine ⟨List.nodup_cons.mpr ⟨?_, hnodup⟩, ?_⟩
    · intro hname
      obtain ⟨i, hi, hname⟩ := hmem _ hname
      have := FileName.rotation.inj hname
      omega
    · intro name hname
      rcases List.mem_cons.mp hname with rfl | hname
      · exact ⟨m + 1, le_rfl, rfl⟩
      · obtain ⟨i, hi, hname⟩ := hmem name hname
        exact ⟨i, by omega, hname⟩

/-- The lower rotations hold the later records. -/
theorem records_shelved_suffix {j : ℕ} (h : j ≤ m) :
    (shelved shelf j).records <:+ (shelved shelf m).records := by
  induction m with
  | zero =>
    obtain rfl := Nat.le_zero.mp h
    exact List.suffix_refl _
  | succ m ih =>
    rcases Nat.lt_or_ge m j with hm | hm
    · obtain rfl : j = m + 1 := by omega
      exact List.suffix_refl _
    · rw [shelved, Parts.records_cons]
      exact (ih hm).trans (List.suffix_append _ _)

theorem records_shelved_congr (h : ∀ i, 1 ≤ i → i ≤ m → shelf' i = shelf i) :
    (shelved shelf' m).records = (shelved shelf m).records := by
  induction m with
  | zero => rfl
  | succ m ih =>
    rw [shelved, shelved, Parts.records_cons, Parts.records_cons, h (m + 1) (by omega) le_rfl,
      ih fun i hi him => h i hi (by omega)]

/-- The live file becomes rotation 1. -/
def pushed (shelf : ℕ → List Record) (rs : List Record) : ℕ → List Record
  | 0 => []
  | 1 => rs
  | i + 2 => shelf (i + 1)

theorem records_pushed (rs : List Record) :
    (shelved (pushed shelf rs) (m + 1)).records = (shelved shelf m).records ++ rs := by
  induction m with
  | zero => exact List.append_nil rs
  | succ m ih =>
    rw [shelved, Parts.records_cons, ih, shelved, Parts.records_cons, List.append_assoc]
    rfl

/-- **The stack on disk**: rotations up to `m`, and the live file with `rs`. -/
structure Stacked (c : Crates) (disk : Disk) (written : List Record) (shelf : ℕ → List Record)
    (m : ℕ) (rs : List Record) : Prop where
  live : (disk .live).getD [] = fileOf c rs
  rotated : ∀ i, 1 ≤ i → i ≤ m → disk (.rotation i) = some (fileOf c (shelf i))
  room : disk (.rotation (m + 1)) = none
  few : m ≤ 64
  nonempty : ∀ i, 1 ≤ i → i ≤ m → shelf i ≠ []
  ledger : Ledger c ((shelved shelf m).records ++ rs)
  suffix : (shelved shelf m).records ++ rs <:+ written
  bare : rs = [] → ∀ n, disk (.rotation n) = none

/-- **A sink on its stack.** -/
structure Open (c : Crates) (disk : Disk) (sink : AuditSink) (rs : List Record) : Prop where
  live : disk .live = some (fileOf c rs)
  file : sink.state.file = true
  bytes : sink.state.bytes = (fileOf c rs).length
  last : ∀ a ∈ rs.getLast?, sink.state.chain.prevHex = a.digest c
  hex : isSha256Hex sink.state.chain.prevHex = true
  maxBytes : sink.maxBytes ≠ 0
  retain : 1 ≤ sink.retain ∧ sink.retain ≤ 64
  room : disk (.rotation (sink.retain + 1)) = none

/-- **What holds between two acts.** -/
def Whole (c : Crates) (s : System) : Prop :=
  ∃ shelf m rs, Stacked c s.disk s.written shelf m rs ∧
    ∀ sink ∈ s.process, Open c s.disk sink rs

variable {disk disk' : Disk} {written written' : List Record} {s : System} {sink : AuditSink}
  {rs : List Record} {event : Value} {ts : ℕ}

theorem Stacked.eq_zero (h : Stacked c disk written shelf m []) : m = 0 := by
  rcases Nat.eq_zero_or_pos m with hm | hm
  · exact hm
  · have hthere := h.rotated 1 le_rfl hm
    rw [h.bare rfl] at hthere
    cases hthere

/-- The stack does not see where the process is, nor a live file that is created. -/
theorem Stacked.congr (h : Stacked c disk written shelf m rs)
    (hlive : (disk' .live).getD [] = (disk .live).getD [])
    (hrotation : ∀ n, disk' (.rotation n) = disk (.rotation n)) (hwritten : written' = written) :
    Stacked c disk' written' shelf m rs where
  live := hlive.trans h.live
  rotated i hi him := (hrotation i).trans (h.rotated i hi him)
  room := (hrotation _).trans h.room
  few := h.few
  nonempty := h.nonempty
  ledger := h.ledger
  suffix := hwritten ▸ h.suffix
  bare hrs n := (hrotation n).trans (h.bare hrs n)

/-! ## The export of a stack -/

theorem probe_eq {disk : Disk} {fuel n : ℕ} (hn : n ≤ m + 1) (hfuel : m + 1 ≤ n + fuel)
    (hthere : ∀ i, n ≤ i → i ≤ m → (disk (.rotation i)).isSome = true)
    (hroom : disk (.rotation (m + 1)) = none) : probe disk fuel n = m + 1 := by
  induction fuel generalizing n with
  | zero => exact le_antisymm hn hfuel
  | succ fuel ih =>
    rw [probe]
    rcases Nat.lt_or_ge m n with hmn | hnm
    · obtain rfl : n = m + 1 := by omega
      rw [hroom]
      rfl
    · rw [if_pos (hthere n le_rfl hnm)]
      exact ih (by omega) (by omega) fun i hi him => hthere i (by omega) him

/-- **A stack exports** all its records. -/
theorem Stacked.exportChain (h : Stacked c disk written shelf m rs) (hne : rs ≠ []) :
    ∃ out, exportChain c disk = .ok (out, fileOf c ((shelved shelf m).records ++ rs)) ∧
      Records c (fileOf c ((shelved shelf m).records ++ rs)) ((shelved shelf m).records ++ rs) := by
  have hlive : disk .live = some (fileOf c rs) := by
    cases hdisk : disk .live with
    | none =>
      have hlive := h.live
      rw [hdisk] at hlive
      exact absurd (fileOf_eq_nil.mp hlive.symm) hne
    | some bytes =>
      have hlive := h.live
      rw [hdisk] at hlive
      exact congrArg some hlive
  let parts : Parts := shelved shelf m ++ [(.live, rs)]
  have hrecords : parts.records = (shelved shelf m).records ++ rs := by
    rw [Parts.records, List.flatMap_append]
    exact congrArg _ (List.append_nil rs)
  have hfst : parts.map Prod.fst = rotationsBelow m ++ [FileName.live] := by
    rw [List.map_append, map_fst_shelved]
    rfl
  have hholding : Holding c disk parts := by
    refine ⟨?_, ?_, hrecords ▸ h.ledger, ?_⟩
    · intro p hp
      rcases List.mem_append.mp hp with hp | hp
      · obtain ⟨i, hi, him, rfl⟩ := mem_shelved hp
        exact h.rotated i hi him
      · rw [List.mem_singleton.mp hp]
        exact hlive
    · intro p hp
      rcases List.mem_append.mp hp with hp | hp
      · obtain ⟨i, hi, him, rfl⟩ := mem_shelved hp
        exact h.nonempty i hi him
      · rw [List.mem_singleton.mp hp]
        exact hne
    · rw [hfst]
      obtain ⟨hnodup, hmem⟩ := nodup_rotationsBelow (m := m)
      refine List.nodup_append.mpr ⟨hnodup, List.nodup_singleton _, ?_⟩
      rintro name hname other hother rfl
      obtain ⟨i, -, hi⟩ := hmem name hname
      rw [List.mem_singleton.mp hother] at hi
      cases hi
  have hstack : rotationStack disk = parts.map Prod.fst := by
    have hprobe : probe disk 128 1 = m + 1 := by
      refine probe_eq (by omega) (by have := h.few; omega) ?_ h.room
      intro i hi him
      rw [h.rotated i hi him]
      rfl
    rw [hfst, rotationStack, hprobe, hlive]
    rfl
  have hexport := hholding.exportChain hstack (by simp [parts])
  rwa [hrecords] at hexport

/-! ## The condition on a run -/

/-- **A line is written whole, and a rotation is followed by one.**  The process may die while the
`shelve` older files move up, and behind the newline. -/
def SeamlessCourse (c : Crates) (shelve before : ℕ) (due : Bool) (r : Record) : Course → Prop
  | .ends rotation fault => rotation = none ∧ fault = none ∧ Prints c (sealed c r)
  | .dies ops written =>
    due = true ∧ ops ≤ shelve ∨ due = false ∧ written = 0 ∨
      before ≤ ops ∧ (r.line c).length < written ∧ Prints c (sealed c r)

/-- The condition on an act. -/
def Act.Seamless (c : Crates) (s : System) : Act → Prop
  | .start _ retain _ _ _ _ => s.disk (.rotation (retain + 1)) = none
  | .emit event ts course => ∀ sink ∈ s.process,
    SeamlessCourse c (shelveOps s.disk sink.retain).length (sink.opsDue s.disk).length sink.due
      (nextRecord sink.state.chain event ts) course
  | .die => True

/-! ## Every act keeps the stack -/

/-- The chain behind the whole stack is the one behind the live file. -/
theorem Stacked.concat_ledger (h : Stacked c disk written shelf m rs) {r : Record}
    (hgood : Good c r) (hprev : ∀ a ∈ rs.getLast?, r.prev = a.digest c) :
    Ledger c ((shelved shelf m).records ++ (rs ++ [r])) := by
  rw [← List.append_assoc]
  refine h.ledger.concat hgood ?_
  intro a ha
  cases hrs : rs.getLast? with
  | none =>
    obtain rfl := List.getLast?_eq_none_iff.mp hrs
    obtain rfl := h.eq_zero
    cases ha
  | some b =>
    rw [List.getLast?_append, hrs, Option.some_or] at ha
    exact hprev a (hrs.trans ha)

/-- **A line is on disk whole**, behind a live file that its record continues. -/
theorem Stacked.append (h : Stacked c disk written shelf m rs) (hopen : Open c disk sink rs)
    (hprints : Prints c (sealed c (nextRecord sink.state.chain event ts)))
    (hlive : (disk' .live).getD [] = fileOf c (rs ++ [nextRecord sink.state.chain event ts]))
    (hrotation : ∀ n, disk' (.rotation n) = disk (.rotation n))
    (hwritten : written' = written ++ [nextRecord sink.state.chain event ts]) :
    Stacked c disk' written' shelf m (rs ++ [nextRecord sink.state.chain event ts]) where
  live := hlive
  rotated i hi him := (hrotation i).trans (h.rotated i hi him)
  room := (hrotation _).trans h.room
  few := h.few
  nonempty := h.nonempty
  ledger := h.concat_ledger (good_of_prints hopen.hex hprints) hopen.last
  suffix := by
    obtain ⟨front, hfront⟩ := h.suffix
    refine ⟨front, ?_⟩
    rw [hwritten, ← hfront]
    simp only [List.append_assoc]
  bare hnil := absurd hnil (by simp)

/-- The live file of a sink that rotates has records. -/
theorem Open.ne_nil_of_due (h : Open c disk sink rs) (hdue : sink.due = true) : rs ≠ [] := by
  rintro rfl
  have hle : sink.maxBytes ≤ sink.state.bytes := of_decide_eq_true hdue
  rw [h.bytes] at hle
  exact h.maxBytes (Nat.le_zero.mp hle)

/-- The stack is not higher than `retain`. -/
theorem Stacked.le_retain (h : Stacked c disk written shelf m rs) {retain : ℕ}
    (hroom : disk (.rotation (retain + 1)) = none) : m ≤ retain := by
  by_contra hlt
  have hthere := h.rotated (retain + 1) (by omega) (by omega)
  rw [hroom] at hthere
  cases hthere

/-- **A rotation puts the live file on the stack**, drops what is beyond `retain`, and a line
follows it. -/
theorem Stacked.rotate (h : Stacked c disk written shelf m rs) (hopen : Open c disk sink rs)
    (hprints : Prints c (sealed c (nextRecord sink.state.chain event ts)))
    (hlive : (disk' .live).getD [] = fileOf c [nextRecord sink.state.chain event ts])
    (hne : rs ≠ [])
    (hrotation : ∀ n, disk' (.rotation n) =
      perform disk (rotateOps disk sink.retain) (.rotation n))
    (hwritten : written' = written ++ [nextRecord sink.state.chain event ts]) :
    disk' (.rotation (sink.retain + 1)) = none ∧
      ∃ shelf' m', Stacked c disk' written' shelf' m' [nextRecord sink.state.chain event ts] := by
  obtain ⟨hfirst, hmid, hhigh⟩ := perform_rotateOps_rotation disk hopen.retain.1
  have hle := h.le_retain hopen.room
  have hbeyond : disk' (.rotation (sink.retain + 1)) = none :=
    (hrotation _).trans ((hhigh (sink.retain + 1) (by omega)).trans hopen.room)
  have hwhole := h.concat_ledger (good_of_prints hopen.hex hprints) hopen.last
  rw [← List.append_assoc, ← records_pushed] at hwhole
  have hkept : min (m + 1) sink.retain ≤ m + 1 := Nat.min_le_left _ _
  have hsuffix : (shelved (pushed shelf rs) (min (m + 1) sink.retain)).records <:+
      (shelved (pushed shelf rs) (m + 1)).records := records_shelved_suffix hkept
  have hsuffix' : (shelved (pushed shelf rs) (min (m + 1) sink.retain)).records ++
      [nextRecord sink.state.chain event ts] <:+
        (shelved (pushed shelf rs) (m + 1)).records ++ [nextRecord sink.state.chain event ts] := by
    obtain ⟨front, hfront⟩ := hsuffix
    exact ⟨front, by rw [← hfront, List.append_assoc]⟩
  refine ⟨hbeyond, pushed shelf rs, min (m + 1) sink.retain, hlive, ?_, ?_,
    (Nat.min_le_right _ _).trans hopen.retain.2, ?_, hwhole.of_suffix hsuffix', ?_,
    fun hnil => absurd hnil (by simp)⟩
  · intro i hi him
    rw [hrotation]
    rcases Nat.eq_or_lt_of_le hi with rfl | hi
    · exact hfirst.trans hopen.live
    · obtain ⟨j, rfl⟩ : ∃ j, i = j + 2 := ⟨i - 2, by omega⟩
      exact (hmid (j + 1) (by omega) (by omega)).trans (h.rotated (j + 1) (by omega) (by omega))
  · rcases Nat.lt_or_ge m sink.retain with hm | hm
    · rw [Nat.min_eq_left (by omega)]
      rcases Nat.eq_or_lt_of_le hm with hm | hm
      · rw [show m + 1 + 1 = sink.retain + 1 by omega]
        exact hbeyond
      · exact (hrotation _).trans ((hmid (m + 1) (by omega) hm).trans h.room)
    · rw [Nat.min_eq_right (by omega)]
      exact hbeyond
  · intro i hi him
    rcases Nat.eq_or_lt_of_le hi with rfl | hi
    · exact hne
    · obtain ⟨j, rfl⟩ : ∃ j, i = j + 2 := ⟨i - 2, by omega⟩
      exact h.nonempty (j + 1) (by omega) (by omega)
  · refine hsuffix'.trans ?_
    obtain ⟨front, hfront⟩ := h.suffix
    rw [records_pushed, hwritten, ← hfront]
    exact ⟨front, by simp only [List.append_assoc]⟩

/-- **A rotation that has not yet taken the live file** leaves a lower stack. -/
theorem Stacked.shelve (h : Stacked c disk written shelf m rs) (hne : rs ≠ []) {retain k : ℕ}
    (hretain : 1 ≤ retain) (hlive : (disk' .live).getD [] = (disk .live).getD [])
    (hrotation : ∀ n, disk' (.rotation n) =
      perform disk ((shelveOps disk retain).take k) (.rotation n))
    (hwritten : written' = written) : ∃ j, Stacked c disk' written' shelf j rs := by
  obtain ⟨j, hj, hbelow⟩ := exists_below_take_shelveOps (k := k) hretain h.room
  have hsuffix : (shelved shelf j).records ++ rs <:+ (shelved shelf m).records ++ rs := by
    have hlow : (shelved shelf j).records <:+ (shelved shelf m).records :=
      records_shelved_suffix hj
    obtain ⟨front, hfront⟩ := hlow
    exact ⟨front, by rw [← hfront, List.append_assoc]⟩
  refine ⟨j, hlive.trans h.live, ?_, (hrotation _).trans hbelow.room, hj.trans h.few, ?_,
    h.ledger.of_suffix hsuffix, hwritten ▸ hsuffix.trans h.suffix, fun hnil => absurd hnil hne⟩
  · intro i hi hij
    rw [hrotation, hbelow.same i hi hij]
    exact h.rotated i hi (hij.trans hj)
  · exact fun i hi hij => h.nonempty i hi (hij.trans hj)

theorem fileOf_singleton (r : Record) : fileOf c [r] = r.line c ++ [Lines.lf] :=
  (fileOf_concat [] r).trans (List.nil_append _)

/-- The sink behind a line that it has appended. -/
theorem Open.append (h : Open c s.disk sink rs)
    (hlive : disk' .live = some (fileOf c (rs ++ [nextRecord sink.state.chain event ts])))
    (hroom : disk' (.rotation (sink.retain + 1)) = none) {events : ℕ} :
    Open c disk'
      { sink with
        state := ⟨true, sink.state.bytes +
          (utf8 (nextLine c sink.state.chain event ts).1).length + 1,
          (nextLine c sink.state.chain event ts).2⟩
        events := events } (rs ++ [nextRecord sink.state.chain event ts]) where
  live := hlive
  file := rfl
  bytes := by
    rw [fileOf_concat, List.length_append, ← h.bytes, List.length_append]
    rfl
  last a ha := by
    rw [List.getLast?_concat] at ha
    obtain rfl := Option.some.inj ha
    rfl
  hex := isSha256Hex_digest c _ _
  maxBytes := h.maxBytes
  retain := h.retain
  room := hroom

/-- **An event whose line is written.** -/
theorem Stacked.emit_ends (h : Stacked c s.disk s.written shelf m rs)
    (hopen : Open c s.disk sink rs)
    (hprints : Prints c (sealed c (nextRecord sink.state.chain event ts))) :
    Whole c (s.emit c sink event ts (.ends none none)) := by
  rw [System.emit]
  cases hdue : sink.due with
  | false =>
    simp only [Bool.false_eq_true, if_false, System.appendLine, hopen.file, if_true]
    have hlive := (appendLive_live ((nextRecord sink.state.chain event ts).line c ++
      [Lines.lf]) hopen.live).trans (congrArg some (fileOf_concat rs _).symm)
    have hrotation : ∀ n, appendLive s.disk ((nextRecord sink.state.chain event ts).line c ++
        [Lines.lf]) (.rotation n) = s.disk (.rotation n) := appendLive_rotation _ _
    refine ⟨shelf, m, _, h.append hopen hprints (congrArg (·.getD []) hlive) hrotation rfl, ?_⟩
    intro sink' hsink'
    obtain rfl := Option.some.inj hsink'
    exact hopen.append hlive ((hrotation _).trans hopen.room)
  | true =>
    have hne := hopen.ne_nil_of_due hdue
    have hempty := (s.perform_rotateOps sink.retain).1
    have hlive := (appendLive_live ((nextRecord sink.state.chain event ts).line c ++
      [Lines.lf]) hempty).trans (congrArg some (fileOf_singleton (c := c)
        (nextRecord sink.state.chain event ts)).symm)
    simp only [if_true, System.rotateLive, Option.filter_none, System.appendLine, openLive]
    obtain ⟨hroom, shelf', m', hstacked⟩ := h.rotate hopen hprints
      (congrArg (·.getD []) hlive) hne (appendLive_rotation _ _) rfl
    refine ⟨shelf', m', _, hstacked, ?_⟩
    intro sink' hsink'
    obtain rfl := Option.some.inj hsink'
    have hbytes : lengthOf (s.perform (rotateOps s.disk sink.retain)).disk .live = 0 := by
      rw [lengthOf, hempty]
      rfl
    refine ⟨hlive, rfl, ?_, ?_, isSha256Hex_digest c _ _, hopen.maxBytes, hopen.retain, hroom⟩
    · show lengthOf _ .live + (utf8 _).length + 1 = _
      rw [hbytes, fileOf_singleton, List.length_append, Nat.zero_add]
      rfl
    · intro a ha
      obtain rfl := Option.some.inj ha
      rfl

/-- **An event in which the process dies.** -/
theorem Stacked.emit_dies (h : Stacked c s.disk s.written shelf m rs)
    (hopen : Open c s.disk sink rs) {ops written : ℕ}
    (hseamless : SeamlessCourse c (shelveOps s.disk sink.retain).length (sink.opsDue s.disk).length
      sink.due (nextRecord sink.state.chain event ts) (.dies ops written)) :
    Whole c (s.emit c sink event ts (.dies ops written)) := by
  rw [System.emit]
  by_cases hops : ops < (sink.opsDue s.disk).length
  · rw [if_pos hops]
    rcases hseamless with ⟨hdue, hshelve⟩ | ⟨hdue, -⟩ | ⟨hbefore, -⟩
    · rw [opsDue_of_due hdue]
      have htake : (rotateOps s.disk sink.retain).take ops =
          (shelveOps s.disk sink.retain).take ops := by
        rw [rotateOps, List.take_append, Nat.sub_eq_zero_of_le hshelve, List.take_zero,
          List.append_nil]
      rw [htake]
      have hspares : ∀ op ∈ (shelveOps s.disk sink.retain).take ops, op.SparesLive :=
        fun op hop => shelveOps_sparesLive op (List.mem_of_mem_take hop)
      obtain ⟨j, hstacked⟩ := h.shelve (hopen.ne_nil_of_due hdue) hopen.retain.1
        (System.perform_sparesLive hspares).live (fun n => rfl) rfl
      exact ⟨shelf, j, rs, hstacked, by rintro _ ⟨⟩⟩
    · rw [opsDue_of_not_due hdue] at hops
      cases hops
    · omega
  · rw [if_neg hops]
    rcases hseamless with ⟨hdue, hshelve⟩ | ⟨hdue, rfl⟩ | ⟨-, hlt, hprints⟩
    · rw [opsDue_of_due hdue, rotateOps, List.length_append] at hops
      simp only [List.length_cons, List.length_nil] at hops
      omega
    · rw [opsDue_of_not_due hdue, List.take_nil, if_neg (Nat.not_lt_zero _)]
      have hrotation : ∀ n, appendLive s.disk [] (.rotation n) = s.disk (.rotation n) :=
        appendLive_rotation _ _
      refine ⟨shelf, m, rs, h.congr ?_ hrotation rfl, by rintro _ ⟨⟩⟩
      show (appendLive s.disk [] .live).getD [] = _
      rw [appendLive_live [] hopen.live, hopen.live, List.append_nil]
    · have hall := List.take_of_length_le (Nat.le_of_not_lt hops)
      have hlt' : (utf8 (nextLine c sink.state.chain event ts).1).length < written := hlt
      have hwhole : (utf8 (nextLine c sink.state.chain event ts).1 ++ [Lines.lf]).take written =
          (nextRecord sink.state.chain event ts).line c ++ [Lines.lf] :=
        List.take_of_length_le (by rw [List.length_append]; exact hlt)
      rw [hall, hwhole, if_pos hlt']
      cases hdue : sink.due with
      | true =>
        rw [opsDue_of_due hdue]
        have hlive := (appendLive_live ((nextRecord sink.state.chain event ts).line c ++
          [Lines.lf]) (s.perform_rotateOps sink.retain).1).trans
            (congrArg some (fileOf_singleton (c := c) (nextRecord sink.state.chain event ts)).symm)
        obtain ⟨-, shelf', m', hstacked⟩ := h.rotate hopen hprints (congrArg (·.getD []) hlive)
          (hopen.ne_nil_of_due hdue) (appendLive_rotation _ _) rfl
        exact ⟨shelf', m', _, hstacked, by rintro _ ⟨⟩⟩
      | false =>
        rw [opsDue_of_not_due hdue]
        have hlive := (appendLive_live ((nextRecord sink.state.chain event ts).line c ++
          [Lines.lf]) hopen.live).trans (congrArg some (fileOf_concat rs _).symm)
        have hrotation : ∀ n, appendLive s.disk ((nextRecord sink.state.chain event ts).line c ++
            [Lines.lf]) (.rotation n) = s.disk (.rotation n) := appendLive_rotation _ _
        exact ⟨shelf, m, _, h.append hopen hprints (congrArg (·.getD []) hlive) hrotation rfl,
          by rintro _ ⟨⟩⟩

/-- What a start finds behind a stack. -/
theorem Stacked.found (h : Stacked c s.disk s.written shelf m rs) :
    ∃ chain, System.found c s.disk = .ok chain := by
  have hledger : Ledger c rs := h.ledger.of_suffix (List.suffix_append _ _)
  rw [System.found]
  cases hdisk : s.disk .live with
  | none => exact ⟨_, rfl⟩
  | some content =>
    by_cases hempty : content = []
    · exact ⟨.genesis, if_pos hempty⟩
    · have hlive := h.live
      rw [hdisk, Option.getD_some] at hlive
      have hne : rs ≠ [] := fun hnil => hempty (by rw [hlive, hnil]; rfl)
      simp only [if_neg hempty]
      rw [hlive, verifyFile_ok_iff.mpr ⟨rs, hledger.records hne, rfl⟩]
      exact ⟨_, rfl⟩

/-- **A process that starts.** -/
theorem Stacked.start (h : Stacked c s.disk s.written shelf m rs) (hnone : s.process = none)
    {maxBytes retain now : ℕ} {onCorrupt : OnCorrupt} {course : Course}
    (hroom : s.disk (.rotation (retain + 1)) = none) :
    Whole c (s.start c maxBytes retain onCorrupt now ts course) := by
  have hstay : Whole c s := ⟨shelf, m, rs, h, by rw [hnone]; rintro _ ⟨⟩⟩
  unfold System.start
  by_cases hrefused : maxBytes = 0 ∨ ¬(1 ≤ retain ∧ retain ≤ 64)
  · rw [if_pos hrefused]
    exact hstay
  · rw [if_neg hrefused]
    obtain ⟨hmax, hretain⟩ := not_or.mp hrefused
    obtain ⟨chain, hfound⟩ := h.found
    have hledger : Ledger c rs := h.ledger.of_suffix (List.suffix_append _ _)
    have hlive : (s.disk .live).getD [] = fileOf c rs ++ [] := by
      rw [List.append_nil]
      exact h.live
    obtain ⟨-, hlast, hhex⟩ := chain_of_found hlive hledger torn_nil hfound
    rw [hfound]
    show Whole c (s.continues maxBytes retain onCorrupt chain course)
    have hcreate := s.perform_create
    rw [h.live] at hcreate
    have hrotation : ∀ n,
        (s.perform [.create .live]).disk (.rotation n) = s.disk (.rotation n) := by
      intro n
      show (FsOp.create .live).apply s.disk (.rotation n) = _
      rw [FsOp.apply_create, if_neg (by simp)]
    have hsame : ((s.perform [.create .live]).disk .live).getD [] = (s.disk .live).getD [] := by
      rw [hcreate, h.live]
      rfl
    cases course with
    | ends rotation fault =>
      refine ⟨shelf, m, rs, h.congr hsame hrotation rfl, ?_⟩
      intro sink hsink
      obtain rfl := Option.some.inj hsink
      refine ⟨hcreate, rfl, ?_, hlast, hhex, hmax, not_not.mp hretain, (hrotation _).trans hroom⟩
      show lengthOf (s.perform [.create .live]).disk .live = _
      rw [lengthOf, hcreate]
      rfl
    | dies ops written =>
      cases ops with
      | zero => exact ⟨shelf, m, rs, h.congr rfl (fun _ => rfl) rfl, by rintro _ ⟨⟩⟩
      | succ ops =>
        show Whole c (s.perform ([FsOp.create .live].take (ops + 1))).halt
        rw [List.take_succ_cons, List.take_nil]
        exact ⟨shelf, m, rs, h.congr hsame hrotation rfl, by rintro _ ⟨⟩⟩

/-- **The step lemma.** -/
theorem Whole.step {act : Act} (h : Whole c s) (hseamless : act.Seamless c s) :
    Whole c (System.step c s act) := by
  obtain ⟨shelf, m, rs, hstacked, hopen⟩ := h
  cases act with
  | start maxBytes retain onCorrupt now ts course =>
    cases hprocess : s.process with
    | some sink =>
      rw [System.step, hprocess]
      exact ⟨shelf, m, rs, hstacked, hopen⟩
    | none =>
      rw [System.step, hprocess]
      exact hstacked.start hprocess hseamless
  | emit event ts course =>
    cases hprocess : s.process with
    | some sink =>
      rw [System.step, hprocess]
      have hsink := hopen sink hprocess
      cases course with
      | ends rotation fault =>
        obtain ⟨rfl, rfl, hprints⟩ := hseamless sink hprocess
        exact hstacked.emit_ends hsink hprints
      | dies ops written => exact hstacked.emit_dies hsink (hseamless sink hprocess)
    | none =>
      rw [System.step, hprocess]
      exact ⟨shelf, m, rs, hstacked, hopen⟩
  | die => exact ⟨shelf, m, rs, hstacked.congr rfl (fun _ => rfl) rfl, by rintro _ ⟨⟩⟩

theorem fresh_whole : Whole c .fresh := by
  refine ⟨fun _ => [], 0, [], ⟨rfl, fun i hi him => by omega, rfl, by omega,
    fun i hi him => by omega, Ledger.nil, List.nil_suffix, fun _ _ => rfl⟩, nofun⟩

/-- There is a record on disk. -/
def Disk.HasRecord (disk : Disk) : Prop :=
  ∃ name bytes, (name = .live ∨ ∃ n, name = .rotation n) ∧ disk name = some bytes ∧ bytes ≠ []

theorem Stacked.ne_nil (h : Stacked c s.disk s.written shelf m rs)
    (hrecord : s.disk.HasRecord) : rs ≠ [] := by
  rintro rfl
  obtain ⟨name, bytes, hname, hdisk, hbytes⟩ := hrecord
  rcases hname with rfl | ⟨n, rfl⟩
  · have hlive := h.live
    rw [hdisk] at hlive
    exact hbytes hlive
  · rw [h.bare rfl] at hdisk
    cases hdisk

/-- **The stack always exports**: in a run in which every rotation is followed by a whole line, and
no start finds a rotation beyond its `retain`, the export of a disk with a record succeeds.  It
verifies, and its records are the last ones that were written. -/
theorem stack_exports {acts : List Act}
    (hseamless : Acts.Meets (System.step c) (Act.Seamless c) .fresh acts) :
    ∀ s, s = Acts.run (System.step c) .fresh acts → s.disk.HasRecord →
      ∃ out bytes v rs, exportChain c s.disk = .ok (out, bytes) ∧
        verifyFile c FileName.exported bytes = .ok v ∧ Records c bytes rs ∧ rs <:+ s.written := by
  rintro s rfl hrecord
  obtain ⟨shelf, m, rs, hstacked, -⟩ := Acts.invariant_run (P := Act.Seamless c) (Whole c)
    (fun _ _ => Whole.step) fresh_whole hseamless
  obtain ⟨out, hexport, hrecords⟩ := hstacked.exportChain (hstacked.ne_nil hrecord)
  exact ⟨out, _, _, _, hexport, verifyFile_ok_iff.mpr ⟨_, hrecords, rfl⟩, hrecords,
    hstacked.suffix⟩

/-! ## A process that dies in a rotation -/

/-- A start with room for one line, an event, and one in which the process dies behind some file
operations. -/
def rotationActs (ops : ℕ) : List Act :=
  [.start 1 3 .rotate 0 0 (.ends none none), .emit sampleEvent sampleTs (.ends none none),
    .emit sampleEvent sampleTs (.dies ops 0)]

/-- Nothing is lost before the live file is renamed. -/
theorem stack_exports_of_early_death :
    ∃ out bytes v rs,
      exportChain sampleCrates (Acts.run (System.step sampleCrates) .fresh (rotationActs 0)).disk =
        .ok (out, bytes) ∧
      verifyFile sampleCrates FileName.exported bytes = .ok v ∧ Records sampleCrates bytes rs ∧
      rs <:+ (Acts.run (System.step sampleCrates) .fresh (rotationActs 0)).written := by
  have hseamless : Acts.Meets (System.step sampleCrates) (Act.Seamless sampleCrates) .fresh
      (rotationActs 0) := by
    refine ⟨rfl, ?_, ?_, trivial⟩
    · intro sink hsink
      have hchain : (System.step sampleCrates .fresh (.start 1 3 .rotate 0 0
          (.ends none none))).process.map (·.state.chain) = some .genesis := by decide +kernel
      rw [Option.mem_def.mp hsink] at hchain
      have hgenesis : sink.state.chain = .genesis := Option.some.inj hchain
      rw [hgenesis]
      exact ⟨rfl, rfl, sample_prints⟩
    · intro sink hsink
      have hdue : (System.step sampleCrates (System.step sampleCrates .fresh (.start 1 3 .rotate 0 0
          (.ends none none))) (.emit sampleEvent sampleTs (.ends none none))).process.map
            AuditSink.due = some true := by decide +kernel
      rw [Option.mem_def.mp hsink] at hdue
      exact .inl ⟨Option.some.inj hdue, Nat.zero_le _⟩
  have hlength : lengthOf (Acts.run (System.step sampleCrates) .fresh (rotationActs 0)).disk .live ≠
      0 := by decide +kernel
  cases hdisk : (Acts.run (System.step sampleCrates) .fresh (rotationActs 0)).disk .live with
  | none =>
    rw [lengthOf, hdisk] at hlength
    exact absurd rfl hlength
  | some bytes =>
    refine stack_exports hseamless _ rfl ⟨.live, bytes, .inl rfl, hdisk, ?_⟩
    rintro rfl
    rw [lengthOf, hdisk] at hlength
    exact hlength rfl

/-- A process that dies behind a rotation leaves an empty live file, which the export refuses. -/
theorem not_stack_exports :
    ¬∀ (acts : List Act) (s : System), s = Acts.run (System.step sampleCrates) .fresh acts →
      lengthOf s.disk (.rotation 1) ≠ 0 →
      (exportChain sampleCrates s.disk).toOption.isSome = true := by
  intro h
  have hrun : lengthOf (Acts.run (System.step sampleCrates) .fresh (rotationActs 2)).disk
        (.rotation 1) ≠ 0 ∧
      (Acts.run (System.step sampleCrates) .fresh (rotationActs 2)).disk .live = some [] ∧
      FileName.live ∈
        rotationStack (Acts.run (System.step sampleCrates) .fresh (rotationActs 2)).disk := by
    decide +kernel
  obtain ⟨hlength, hlive, hstack⟩ := hrun
  have hexport := h (rotationActs 2) _ rfl hlength
  cases hresult : exportChain sampleCrates
      (Acts.run (System.step sampleCrates) .fresh (rotationActs 2)).disk with
  | error e =>
    rw [hresult] at hexport
    cases hexport
  | ok r =>
    obtain ⟨v, hverify⟩ := verifyFile_of_exportChain hresult hstack
    rw [hlive] at hverify
    cases hverify

end Audit
end Rclweb
