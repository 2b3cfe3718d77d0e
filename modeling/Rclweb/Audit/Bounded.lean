import Rclweb.Audit.Retried

/-!
# The size of the live file

The sink counts the bytes of the live file as it appends, and asks before each line whether the
count has reached `maxBytes`; the length of the line that comes is not looked at.  So a file stays
within `maxBytes` as long as each line finds room, or an empty file; and the count is right as long
as an append that fails leaves no byte, and no rotation fails when it opens the new file.
-/

namespace Rclweb
namespace Audit

open BigEndian (utf8)

variable {c : Crates} {disk : Disk} {s : System} {sink : AuditSink}

/-! ## What is accounted for -/

/-- The line of an event, as it is written. -/
def nextBytes (c : Crates) (chain : Chain) (event : Value) (ts : ℕ) : List UInt8 :=
  utf8 (nextLine c chain event ts).1 ++ [Lines.lf]

/-- A file that holds one record. -/
def SingleRecord (c : Crates) (content : List UInt8) : Prop :=
  ∃ chain event ts, content = nextBytes c chain event ts

/-- A file of at most `maxBytes`, or of one record. -/
def Fits (c : Crates) (maxBytes : ℕ) (content : List UInt8) : Prop :=
  content.length ≤ maxBytes ∨ SingleRecord c content

/-- The names of the stack, the oldest first. -/
def stackNames (retain : ℕ) : List FileName := rotationsBelow retain ++ [FileName.live]

/-- Every file of the stack has a property. -/
def Stocked (P : List UInt8 → Prop) (disk : Disk) (retain : ℕ) : Prop :=
  ∀ name ∈ stackNames retain, ∀ content ∈ disk name, P content

/-- **The sink's count is the length of its live file**, and the files of the stack fit. -/
structure Accounted (c : Crates) (s : System) (sink : AuditSink) : Prop where
  live : (s.disk .live).isSome = true
  bytes : sink.state.bytes = lengthOf s.disk .live
  files : Stocked (Fits c sink.maxBytes) s.disk sink.retain

/-! ## Files that move -/

variable {P : List UInt8 → Prop} {retain : ℕ}

theorem live_mem_stackNames (retain : ℕ) : FileName.live ∈ stackNames retain :=
  List.mem_append_right _ (List.mem_singleton.mpr rfl)

theorem rotation_mem_stackNames {i : ℕ} :
    FileName.rotation i ∈ stackNames retain ↔ 1 ≤ i ∧ i ≤ retain := by
  have hbelow : FileName.rotation i ∈ rotationsBelow retain ↔ 1 ≤ i ∧ i ≤ retain := by
    induction retain with
    | zero =>
      rw [rotationsBelow]
      simp only [List.not_mem_nil, false_iff]
      omega
    | succ n ih =>
      rw [rotationsBelow, List.mem_cons, ih, FileName.rotation.injEq]
      omega
  rw [stackNames, List.mem_append, hbelow]
  simp

/-- An operation within the stack: it takes files from it, or makes one that has the property. -/
def FsOp.Within (P : List UInt8 → Prop) (retain : ℕ) : FsOp → Prop
  | remove _ => True
  | rename source _ => source ∈ stackNames retain
  | create _ => P []

/-- A file that is looked for under a name was there before, or it is new. -/
theorem Stocked.apply {op : FsOp} (h : Stocked P disk retain) (hop : op.Within P retain) :
    Stocked P (op.apply disk) retain := by
  intro name hname content hcontent
  cases op with
  | remove other =>
    rw [FsOp.apply_remove] at hcontent
    split_ifs at hcontent
    · cases hcontent
    · exact h name hname content hcontent
  | rename source target =>
    rw [FsOp.apply_rename] at hcontent
    split_ifs at hcontent
    · cases hcontent
    · exact h source hop content hcontent
    · exact h name hname content hcontent
  | create other =>
    rw [FsOp.apply_create] at hcontent
    split_ifs at hcontent with heq
    · obtain rfl := heq
      obtain rfl := Option.some.inj (Option.mem_def.mp hcontent)
      cases hdisk : disk name with
      | none => exact hop
      | some old => exact h name hname old hdisk
    · exact h name hname content hcontent

theorem Stocked.perform {ops : List FsOp} (h : Stocked P disk retain)
    (hops : ∀ op ∈ ops, op.Within P retain) : Stocked P (perform disk ops) retain := by
  induction ops generalizing disk with
  | nil => exact h
  | cons op ops ih =>
    obtain ⟨hop, hops⟩ := List.forall_mem_cons.mp hops
    exact ih (h.apply hop) hops

theorem shiftOps_within {n : ℕ} (hn : n ≤ retain) :
    ∀ op ∈ shiftOps disk n, op.Within P retain := by
  induction n with
  | zero => exact nofun
  | succ n ih =>
    rw [shiftOps]
    split
    · refine List.forall_mem_cons.mpr ⟨?_, ih (by omega)⟩
      exact rotation_mem_stackNames.mpr ⟨by omega, hn⟩
    · exact ih (by omega)

/-- **A rotation only moves files of the stack.** -/
theorem rotateOps_within (hnil : P []) : ∀ op ∈ rotateOps disk retain, op.Within P retain := by
  intro op hop
  rw [rotateOps, shelveOps, List.append_assoc] at hop
  rcases List.mem_append.mp hop with hop | hop
  · split at hop
    · rw [List.mem_singleton.mp hop]
      trivial
    · cases hop
  rcases List.mem_append.mp hop with hop | hop
  · exact shiftOps_within (by omega) op hop
  · rcases List.mem_cons.mp hop with rfl | hop
    · exact live_mem_stackNames retain
    · rw [List.mem_singleton.mp hop]
      exact hnil

/-- A line that is appended changes the live file only. -/
theorem Stocked.append {bytes : List UInt8} (h : Stocked P disk retain)
    (hlive : ∀ content ∈ disk .live, P (content ++ bytes)) :
    Stocked P (appendLive disk bytes) retain := by
  intro name hname content hcontent
  by_cases heq : name = .live
  · obtain rfl := heq
    rw [appendLive, Function.update_self] at hcontent
    obtain ⟨old, hold, rfl⟩ := Option.map_eq_some_iff.mp hcontent
    exact hlive old hold
  · rw [appendLive, Function.update_of_ne heq] at hcontent
    exact h name hname content hcontent

/-! ## The condition on a run -/

/-- The live file is open when the line is written. -/
def AuditSink.writes (sink : AuditSink) (disk : Disk) (rotation : Option ℕ) : Bool :=
  if sink.due then (rotation.filter (· < (rotateOps disk sink.retain).length)).isNone
  else sink.state.file

/-- **An event that is accounted for**: its rotation does not fail when it opens the new file; an
append that fails leaves no byte; a line that is appended finds room, or an empty file. -/
def Act.Measured (c : Crates) (s : System) : Act → Prop
  | .emit event ts (.ends rotation fault) => ∀ sink ∈ s.process,
    (sink.due = true → rotation ≠ some ((rotateOps s.disk sink.retain).length - 1)) ∧
    (sink.writes s.disk rotation = true → match fault with
      | some bytes => bytes = 0
      | none => sink.due = true ∨ sink.state.bytes = 0 ∨
          sink.state.bytes + (nextBytes c sink.state.chain event ts).length ≤ sink.maxBytes)
  | _ => False

/-! ## One event -/

/-- The process runs with its configuration, and its files are accounted for. -/
def Accounts (c : Crates) (maxBytes retain : ℕ) (s : System) : Prop :=
  ∃ sink, s.process = some sink ∧ sink.maxBytes = maxBytes ∧ sink.retain = retain ∧
    Accounted c s sink

variable {line : String} {record : Record} {chain : Chain} {event : Value} {ts : ℕ}

/-- An append that fails without a byte. -/
theorem Accounted.appendFails (h : Accounted c s sink) :
    Accounts c sink.maxBytes sink.retain (s.appendFails c sink line record chain 0) := by
  have hdisk : (s.appendFails c sink line record chain 0).disk = s.disk := by
    show appendLive s.disk (List.take 0 _) = s.disk
    rw [List.take_zero, appendLive_nil]
  refine ⟨_, rfl, rfl, rfl, ?_, ?_, ?_⟩
  · rw [hdisk]
    exact h.live
  · rw [hdisk]
    exact h.bytes
  · rw [hdisk]
    exact h.files

/-- **A line that is appended** with room for it, or to an empty file. -/
theorem Accounted.append (h : Accounted c s sink) (hroom : sink.state.bytes = 0 ∨
    sink.state.bytes + (nextBytes c sink.state.chain event ts).length ≤ sink.maxBytes) :
    Accounts c sink.maxBytes sink.retain (s.append sink
      (nextLine c sink.state.chain event ts).1 record chain) := by
  obtain ⟨content, hcontent⟩ := Option.isSome_iff_exists.mp h.live
  have hbytes : sink.state.bytes = content.length := by
    rw [h.bytes, lengthOf, hcontent]
    rfl
  have hlive : (s.append sink (nextLine c sink.state.chain event ts).1 record chain).disk .live =
      some (content ++ nextBytes c sink.state.chain event ts) := appendLive_live _ hcontent
  refine ⟨_, rfl, rfl, rfl, ?_, ?_, ?_⟩
  · rw [hlive]
    rfl
  · rw [lengthOf, hlive, Option.getD_some, List.length_append, ← hbytes, nextBytes,
      List.length_append]
    rfl
  · refine h.files.append fun old hold => ?_
    obtain rfl := Option.some.inj (hcontent.symm.trans hold)
    rcases hroom with hempty | hfits
    · rw [hbytes, List.length_eq_zero_iff] at hempty
      rw [hempty]
      exact .inr ⟨_, event, ts, List.nil_append _⟩
    · left
      rw [List.length_append]
      show content.length + (nextBytes c sink.state.chain event ts).length ≤ _
      omega

/-- A line that is appended, or fails without a byte. -/
theorem Accounted.appendLine (h : Accounted c s sink) {fault : Option ℕ}
    (hfault : sink.state.file = true → match fault with
      | some bytes => bytes = 0
      | none => sink.state.bytes = 0 ∨
          sink.state.bytes + (nextBytes c sink.state.chain event ts).length ≤ sink.maxBytes) :
    Accounts c sink.maxBytes sink.retain (s.appendLine c sink event ts fault) := by
  rw [System.appendLine]
  dsimp only
  by_cases hfile : sink.state.file = true
  · rw [if_pos hfile]
    cases fault with
    | none => exact h.append (hfault hfile)
    | some bytes =>
      obtain rfl : bytes = 0 := hfault hfile
      exact h.appendFails
  · rw [if_neg hfile]
    exact h.appendFails

/-- **A rotation** that succeeds, or fails before it has taken the live file. -/
theorem Accounted.rotateLive (h : Accounted c s sink) {rotation : Option ℕ}
    (hrotation : rotation ≠ some ((rotateOps s.disk sink.retain).length - 1)) :
    ∃ s' sink', s.rotateLive sink rotation = (s', sink') ∧ Accounted c s' sink' ∧
      sink'.maxBytes = sink.maxBytes ∧ sink'.retain = sink.retain ∧
      (sink'.state.file = true →
        (rotation.filter (· < (rotateOps s.disk sink.retain).length)).isNone = true ∧
          sink'.state.bytes = 0) := by
  have hempty : Fits c sink.maxBytes [] := .inl (Nat.zero_le _)
  rw [System.rotateLive]
  cases hfilter : rotation.filter (· < (rotateOps s.disk sink.retain).length) with
  | none =>
    have hlive : perform s.disk (rotateOps s.disk sink.retain) .live = some [] :=
      (System.perform_rotateOps s sink.retain).1
    refine ⟨_, _, rfl, ⟨?_, rfl, ?_⟩, rfl, rfl, fun _ => ⟨rfl, ?_⟩⟩
    · show (perform s.disk (rotateOps s.disk sink.retain) .live).isSome = true
      rw [hlive]
      rfl
    · exact h.files.perform (rotateOps_within hempty)
    · show lengthOf (perform s.disk (rotateOps s.disk sink.retain)) .live = 0
      rw [lengthOf, hlive]
      rfl
  | some k =>
    obtain ⟨rfl, hk⟩ := Option.filter_eq_some_iff.mp hfilter
    have hk : k < (rotateOps s.disk sink.retain).length := of_decide_eq_true hk
    have hlength : (rotateOps s.disk sink.retain).length =
        (shelveOps s.disk sink.retain).length + 2 := by
      rw [rotateOps, List.length_append]
      rfl
    have hne : k ≠ (rotateOps s.disk sink.retain).length - 1 := fun heq => hrotation (by rw [heq])
    have htake : (rotateOps s.disk sink.retain).take k = (shelveOps s.disk sink.retain).take k := by
      rw [rotateOps, List.take_append_of_le_length (by omega)]
    have hlive : perform s.disk ((rotateOps s.disk sink.retain).take k) .live = s.disk .live := by
      rw [htake]
      exact perform_live fun op hop => shelveOps_sparesLive op (List.mem_of_mem_take hop)
    refine ⟨_, _, rfl, ⟨?_, ?_, ?_⟩, rfl, rfl, fun hfile => absurd hfile Bool.false_ne_true⟩
    · exact (congrArg Option.isSome hlive).trans h.live
    · exact h.bytes.trans (congrArg (·.getD [] |>.length) hlive.symm)
    · exact h.files.perform fun op hop => rotateOps_within hempty op (List.mem_of_mem_take hop)

/-- **An event of a run.** -/
theorem Accounts.step {maxBytes retain : ℕ} {act : Act} (h : Accounts c maxBytes retain s)
    (hact : act.Measured c s) : Accounts c maxBytes retain (s.step c act) := by
  obtain ⟨sink, hprocess, rfl, rfl, haccounted⟩ := h
  match act, hact with
  | .emit event ts (.ends rotation fault), hact =>
    obtain ⟨hrotation, hwrites⟩ := hact sink hprocess
    have hstep : s.step c (.emit event ts (.ends rotation fault)) =
        s.emit c sink event ts (.ends rotation fault) := by
      rw [System.step, hprocess]
    rw [AuditSink.writes] at hwrites
    rw [hstep, System.emit]
    by_cases hdue : sink.due = true
    · rw [if_pos hdue] at hwrites ⊢
      obtain ⟨s', sink', heq, haccounted', hmax, hretain, hopen⟩ :=
        haccounted.rotateLive (hrotation hdue)
      rw [heq, ← hmax, ← hretain]
      refine haccounted'.appendLine fun hfile => ?_
      obtain ⟨hnone, hbytes⟩ := hopen hfile
      cases fault with
      | none => exact .inl hbytes
      | some bytes => exact hwrites hnone
    · rw [if_neg hdue] at hwrites ⊢
      refine haccounted.appendLine fun hfile => ?_
      cases fault with
      | none => exact (hwrites hfile).resolve_left hdue
      | some bytes => exact hwrites hfile

/-! ## The stack -/

/-- The bytes of some files. -/
def total (files : List (List UInt8)) : ℕ := (files.map List.length).sum

theorem length_shelf_le (disk : Disk) (n : ℕ) : (shelf disk n).length ≤ n := by
  have hbelow : (rotationsBelow n).length = n := by
    induction n with
    | zero => rfl
    | succ n ih => rw [rotationsBelow, List.length_cons, ih]
  exact (List.length_filterMap_le _ _).trans hbelow.le

theorem mem_history {content : List UInt8} (h : content ∈ history disk retain) :
    ∃ name ∈ stackNames retain, content ∈ disk name := by
  rw [history, shelf, List.mem_append, List.mem_filterMap] at h
  rcases h with ⟨name, hname, hcontent⟩ | hlive
  · exact ⟨name, List.mem_append_left _ hname, hcontent⟩
  · exact ⟨.live, live_mem_stackNames retain, Option.mem_toList.mp hlive⟩

/-- Files that fit are as many times `maxBytes` at most, and some single records. -/
theorem total_le {maxBytes : ℕ} {files : List (List UInt8)}
    (h : ∀ content ∈ files, Fits c maxBytes content) :
    ∃ singles, singles.Sublist files ∧ (∀ content ∈ singles, SingleRecord c content) ∧
      total files ≤ files.length * maxBytes + total singles := by
  induction files with
  | nil => exact ⟨[], List.Sublist.refl _, nofun, Nat.zero_le _⟩
  | cons content files ih =>
    obtain ⟨hfits, hfiles⟩ := List.forall_mem_cons.mp h
    obtain ⟨singles, hsublist, hsingles, hle⟩ := ih hfiles
    have htotal : total (content :: files) = content.length + total files := List.sum_cons
    have hmul : (files.length + 1) * maxBytes = files.length * maxBytes + maxBytes :=
      Nat.succ_mul _ _
    rcases hfits with hshort | hsingle
    · refine ⟨singles, hsublist.cons _, hsingles, ?_⟩
      rw [htotal, List.length_cons, hmul]
      omega
    · refine ⟨content :: singles, hsublist.cons_cons _,
        List.forall_mem_cons.mpr ⟨hsingle, hsingles⟩, ?_⟩
      have hmore : total (content :: singles) = content.length + total singles := List.sum_cons
      rw [htotal, List.length_cons, hmul, hmore]
      omega

/-- **Sizes are accounted for.**  In a run of events whose rotations do not fail at the new file,
whose failing appends leave no byte, and whose lines find room or an empty file, the sink's count is
the length of the live file at every event, the live file has `maxBytes` at most or one record, and
the stack has `retain + 1` times `maxBytes` at most, single records apart. -/
theorem sizes_are_accounted {acts : List Act} (hprocess : s.process = some sink)
    (haccounted : Accounted c s sink) (hacts : Acts.Meets (System.step c) (Act.Measured c) s acts) :
    ∀ s', s' = Acts.run (System.step c) s acts → ∃ sink', s'.process = some sink' ∧
      sink'.maxBytes = sink.maxBytes ∧ sink'.retain = sink.retain ∧
      sink'.state.bytes = lengthOf s'.disk .live ∧
      (∀ content ∈ s'.disk .live, content.length ≤ sink.maxBytes ∨ SingleRecord c content) ∧
      ∃ singles, singles.Sublist (history s'.disk sink.retain) ∧
        (∀ content ∈ singles, SingleRecord c content) ∧
        total (history s'.disk sink.retain) ≤
          (sink.retain + 1) * sink.maxBytes + total singles := by
  rintro s' rfl
  obtain ⟨sink', hprocess', hmax, hretain, haccounted'⟩ :=
    Acts.invariant_run (P := Act.Measured c) (Accounts c sink.maxBytes sink.retain)
      (fun _ _ => Accounts.step) ⟨sink, hprocess, rfl, rfl, haccounted⟩ hacts
  have hfiles := haccounted'.files
  rw [hmax, hretain] at hfiles
  refine ⟨sink', hprocess', hmax, hretain, haccounted'.bytes,
    hfiles .live (live_mem_stackNames _), ?_⟩
  have hall : ∀ content ∈ history (Acts.run (System.step c) s acts).disk sink.retain,
      Fits c sink.maxBytes content := by
    intro content hcontent
    obtain ⟨name, hname, hmem⟩ := mem_history hcontent
    exact hfiles name hname content hmem
  obtain ⟨singles, hsublist, hsingles, hle⟩ := total_le hall
  refine ⟨singles, hsublist, hsingles, hle.trans (Nat.add_le_add_right ?_ _)⟩
  refine Nat.mul_le_mul_right _ ?_
  rw [history, List.length_append]
  have hshelf := length_shelf_le (Acts.run (System.step c) s acts).disk sink.retain
  have hlive : ((Acts.run (System.step c) s acts).disk .live).toList.length ≤ 1 := by
    cases (Acts.run (System.step c) s acts).disk .live <;> simp
  omega

/-- A start finds the length of the live file. -/
theorem accounted_of_continues {maxBytes : ℕ} {onCorrupt : OnCorrupt} (rotation fault : Option ℕ)
    (hfiles : Stocked (Fits c maxBytes) s.disk retain) :
    ∃ sink,
      (s.continues maxBytes retain onCorrupt chain (.ends rotation fault)).process = some sink ∧
      Accounted c (s.continues maxBytes retain onCorrupt chain (.ends rotation fault)) sink := by
  refine ⟨_, rfl, ?_, rfl, ?_⟩
  · show ((FsOp.create .live).apply s.disk .live).isSome = true
    rw [FsOp.apply_create, if_pos rfl]
    rfl
  · refine hfiles.perform fun op hop => ?_
    rw [List.mem_singleton.mp hop]
    exact .inl (Nat.zero_le _)

/-! ## Lines that find room, and one that does not -/

/-- A start on an empty disk, and events. -/
def roomActs (faults : List (Option ℕ)) : List Act :=
  .start 210 3 .fail 0 0 (.ends none none) ::
    faults.map fun fault => .emit sampleEvent sampleTs (.ends none fault)

/-- A line that is appended to an empty file. -/
theorem sizes_are_accounted_of_room : ∃ s sink',
    s = System.step sampleCrates .fresh (.start 210 3 .fail 0 0 (.ends none none)) ∧
      (System.step sampleCrates s (.emit sampleEvent sampleTs (.ends none none))).process =
        some sink' ∧
      sink'.state.bytes = lengthOf
        (System.step sampleCrates s (.emit sampleEvent sampleTs (.ends none none))).disk .live := by
  obtain ⟨s, hs⟩ : ∃ s, s = System.step sampleCrates .fresh
      (.start 210 3 .fail 0 0 (.ends none none)) := ⟨_, rfl⟩
  have hprocess : ∃ sink, s.process = some sink ∧ Accounted sampleCrates s sink := by
    rw [hs]
    exact accounted_of_continues none none fun _ _ _ h => absurd h nofun
  obtain ⟨sink, hprocess, haccounted⟩ := hprocess
  have hzero : s.process.map (·.state.bytes) = some 0 := by
    rw [hs]
    decide +kernel
  rw [hprocess] at hzero
  have hacts : Acts.Meets (System.step sampleCrates) (Act.Measured sampleCrates) s
      [.emit sampleEvent sampleTs (.ends none none)] := by
    refine ⟨fun other hother => ?_, trivial⟩
    obtain rfl := Option.some.inj (hprocess.symm.trans hother)
    exact ⟨fun _ => nofun, fun _ => .inr (.inl (Option.some.inj hzero))⟩
  obtain ⟨sink', hprocess', -, -, hbytes, -⟩ := sizes_are_accounted hprocess haccounted hacts _ rfl
  exact ⟨s, sink', hs, hprocess', hbytes⟩

/-- A failed append that has written one byte is not counted; and a second line of 209 bytes is
appended to a live file of 209 bytes, for which 210 are allowed. -/
theorem not_sizes_are_accounted :
    (¬∀ (acts : List Act) (s : System), s = Acts.run (System.step sampleCrates) .fresh acts →
      ∀ sink ∈ s.process, sink.state.bytes = lengthOf s.disk .live) ∧
    ¬∀ (acts : List Act) (s : System), s = Acts.run (System.step sampleCrates) .fresh acts →
      ∀ sink ∈ s.process, lengthOf s.disk .live ≤ sink.maxBytes ∨ s.reported.length ≤ 1 := by
  constructor
  · intro h
    have hzero : (Acts.run (System.step sampleCrates) .fresh
        (roomActs [some 1])).process.map (·.state.bytes) = some 0 := by decide +kernel
    obtain ⟨sink, hprocess, hbytes⟩ := Option.map_eq_some_iff.mp hzero
    have hcount := h (roomActs [some 1]) _ rfl sink hprocess
    rw [hbytes] at hcount
    exact absurd hcount (by decide +kernel)
  · intro h
    have hmax : (Acts.run (System.step sampleCrates) .fresh
        (roomActs [none, none])).process.map (·.maxBytes) = some 210 := by decide +kernel
    obtain ⟨sink, hprocess, hbytes⟩ := Option.map_eq_some_iff.mp hmax
    have hbound := h (roomActs [none, none]) _ rfl sink hprocess
    rw [hbytes] at hbound
    exact absurd hbound (by decide +kernel)

end Audit
end Rclweb
