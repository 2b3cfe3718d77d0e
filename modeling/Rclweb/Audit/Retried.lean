import Rclweb.Audit.Stack

/-!
# A rotation that is tried again

A rotation that fails is begun again by the next event, from its first operation on.  Each attempt
removes the file that it finds under the last rotation name.  So a failed attempt must leave that
name alone or empty: then any number of attempts lose at most the one file that the rotation drops
anyway (`Spared`), and the first that succeeds puts the new live file behind all the others.

An attempt that fails behind a move into the last rotation gives the next attempt a second file to
remove, and one that has taken the live file away leaves nothing for the next to rename.
-/

namespace Rclweb
namespace Audit

open BigEndian (utf8)

variable {c : Crates} {disk disk' start : Disk} {retain n : ℕ}

/-! ## The files in order -/

/-- The rotations up to `n`, the oldest first. -/
def shelf (disk : Disk) (n : ℕ) : List (List UInt8) := (rotationsBelow n).filterMap disk

/-- **The files of a disk**, the oldest first. -/
def history (disk : Disk) (n : ℕ) : List (List UInt8) := shelf disk n ++ (disk .live).toList

/-- The disk without the file that a rotation drops. -/
def dropped (disk : Disk) (retain : ℕ) : Disk := (FsOp.remove (.rotation retain)).apply disk

theorem shelf_succ (disk : Disk) (n : ℕ) :
    shelf disk (n + 1) = (disk (.rotation (n + 1))).toList ++ shelf disk n := by
  rw [shelf, rotationsBelow, List.filterMap_cons]
  cases disk (.rotation (n + 1)) with
  | none => rfl
  | some content => rfl

theorem shelf_congr (h : ∀ i, 1 ≤ i → i ≤ n → disk' (.rotation i) = disk (.rotation i)) :
    shelf disk' n = shelf disk n := by
  induction n with
  | zero => rfl
  | succ n ih =>
    rw [shelf_succ, shelf_succ, h (n + 1) (by omega) le_rfl,
      ih fun i hi hin => h i hi (by omega)]

/-- Moving a rotation into the room above it keeps the order. -/
theorem shelf_rename {i : ℕ} (hroom : disk (.rotation (i + 2)) = none) (hin : i + 2 ≤ n) :
    shelf ((FsOp.rename (.rotation (i + 1)) (.rotation (i + 2))).apply disk) n = shelf disk n := by
  induction n with
  | zero => omega
  | succ n ih =>
    rw [shelf_succ, shelf_succ]
    rcases Nat.lt_or_ge (i + 1) n with hlt | hge
    · rw [ih (by omega), FsOp.apply_rename, if_neg (by simp; omega), if_neg (by simp; omega)]
    · obtain rfl : n = i + 1 := by omega
      rw [shelf_succ, shelf_succ, hroom, FsOp.apply_rename, FsOp.apply_rename, if_neg (by simp),
        if_pos rfl, if_pos rfl, Option.toList_none, List.nil_append, List.nil_append]
      congr 1
      refine shelf_congr fun j hj hji => ?_
      rw [FsOp.apply_rename, if_neg (by simp; omega), if_neg (by simp; omega)]

/-- A file that takes the first rotation's name is the newest rotation. -/
theorem shelf_update_one (hroom : disk (.rotation 1) = none) (hn : 1 ≤ n)
    (content : Option (List UInt8))
    (h : ∀ i, disk' (.rotation i) = if i = 1 then content else disk (.rotation i)) :
    shelf disk' n = shelf disk n ++ content.toList := by
  induction n with
  | zero => omega
  | succ n ih =>
    rw [shelf_succ, shelf_succ, h]
    by_cases hone : n = 0
    · subst hone
      rw [if_pos rfl, hroom]
      exact List.append_nil _
    · rw [if_neg (by omega), ih (by omega), List.append_assoc]

/-- **Moving up, or a part of it, keeps the order.** -/
theorem Below.shelf_take (h : Below disk disk' n) (k : ℕ) {m : ℕ} (hm : n < m) :
    shelf (perform disk' ((Audit.shiftOps disk n).take k)) m = shelf disk' m := by
  induction n generalizing disk' k with
  | zero =>
    rw [Audit.shiftOps, List.take_nil]
    rfl
  | succ n ih =>
    rw [Audit.shiftOps]
    by_cases hthere : (disk (.rotation (n + 1))).isSome = true
    · rw [if_pos hthere]
      cases k with
      | zero => rfl
      | succ k => exact (ih h.rename k (by omega)).trans (shelf_rename h.room hm)
    · rw [if_neg hthere]
      exact ih (h.skip hthere) k (by omega)

/-- Moving up makes room for the live file. -/
theorem Below.perform_shiftOps (h : Below disk disk' n) :
    Below disk (perform disk' (Audit.shiftOps disk n)) 0 := by
  induction n generalizing disk' with
  | zero => exact h
  | succ n ih =>
    rw [Audit.shiftOps]
    by_cases hthere : (disk (.rotation (n + 1))).isSome = true
    · rw [if_pos hthere]
      exact ih h.rename
    · rw [if_neg hthere]
      exact ih (h.skip hthere)

/-! ## Attempts -/

/-- The operation moves a file to a name. -/
def FsOp.movesTo (name : FileName) : FsOp → Bool
  | rename _ target => target = name
  | _ => false

theorem dropped_eq_self (h : disk (.rotation retain) = none) : dropped disk retain = disk := by
  funext name
  rw [dropped, FsOp.apply_remove]
  split_ifs with heq
  · rw [heq, h]
  · rfl

theorem perform_removed (disk : Disk) (retain : ℕ) :
    perform disk (if (disk (.rotation retain)).isSome then [.remove (.rotation retain)] else []) =
      dropped disk retain := by
  by_cases hthere : (disk (.rotation retain)).isSome = true
  · rw [if_pos hthere]
    rfl
  · rw [if_neg hthere]
    exact (dropped_eq_self (Option.not_isSome_iff_eq_none.mp hthere)).symm

theorem below_dropped (disk : Disk) (n : ℕ) : Below disk (dropped disk (n + 1)) n := by
  rw [← perform_removed]
  exact below_removed disk n

/-- A name stays free when nothing is moved to it. -/
theorem perform_shift_none {ops : List FsOp} (h : disk (.rotation n) = none)
    (hops : ∀ op ∈ ops, op.movesTo (.rotation n) = false ∧ ∀ name, op ≠ .create name) :
    perform disk ops (.rotation n) = none := by
  induction ops generalizing disk with
  | nil => exact h
  | cons op ops ih =>
    obtain ⟨hop, hops⟩ := List.forall_mem_cons.mp hops
    refine ih ?_ hops
    cases op with
    | remove name =>
      rw [FsOp.apply_remove, h, ite_self]
    | rename source target =>
      have hne : FileName.rotation n ≠ target := by
        intro heq
        have := hop.1
        simp [FsOp.movesTo, heq] at this
      rw [FsOp.apply_rename, if_neg hne, h, ite_self]
    | create name => exact absurd rfl (hop.2 name)

theorem shiftOps_ne_create : ∀ op ∈ shiftOps disk n, ∀ name, op ≠ .create name := by
  induction n with
  | zero => exact List.forall_mem_nil _
  | succ n ih =>
    rw [shiftOps]
    split
    · exact List.forall_mem_cons.mpr ⟨by rintro _ ⟨⟩, ih⟩
    · exact ih

/-- An attempt that has not taken the live file has done nothing, or it has dropped the last
rotation and moved some others up. -/
theorem perform_take_shelveOps (disk : Disk) (retain k : ℕ) :
    perform disk ((shelveOps disk retain).take k) = disk ∨
      ∃ j, perform disk ((shelveOps disk retain).take k) =
          perform (dropped disk retain) ((shiftOps disk (retain - 1)).take j) ∧
        ∀ op ∈ (shiftOps disk (retain - 1)).take j, op ∈ (shelveOps disk retain).take k := by
  cases k with
  | zero => exact .inl rfl
  | succ k =>
    right
    have hall : (if (disk (.rotation retain)).isSome then [FsOp.remove (.rotation retain)]
        else []).take (k + 1) =
          if (disk (.rotation retain)).isSome then [.remove (.rotation retain)] else [] :=
      List.take_of_length_le (by split <;> simp)
    rw [shelveOps, List.take_append, hall, perform_append, perform_removed]
    exact ⟨_, rfl, fun op hop => List.mem_append_right _ hop⟩

/-- **What attempts have spared**: everything, or everything but the last rotation, whose name is
free then. -/
structure Spared (start disk : Disk) (retain : ℕ) : Prop where
  rest : ∀ n, retain ≤ n → shelf (dropped disk retain) n = shelf (dropped start retain) n
  last : disk (.rotation retain) = none ∨ ∀ n, retain ≤ n → shelf disk n = shelf start n
  live : disk .live = start .live

theorem Spared.refl (disk : Disk) (retain : ℕ) : Spared disk disk retain :=
  ⟨fun _ _ => rfl, .inr fun _ _ => rfl, rfl⟩

/-- **One more attempt**, which fails before it moves a file to the last rotation. -/
theorem Spared.attempt (h : Spared start disk retain) (hretain : 1 ≤ retain) {k : ℕ}
    (hops : ∀ op ∈ (shelveOps disk retain).take k, op.movesTo (.rotation retain) = false) :
    Spared start (perform disk ((shelveOps disk retain).take k)) retain := by
  obtain ⟨m, rfl⟩ : ∃ m, retain = m + 1 := ⟨retain - 1, by omega⟩
  have hlive : perform disk ((shelveOps disk (m + 1)).take k) .live = start .live :=
    (perform_live fun op hop => shelveOps_sparesLive op (List.mem_of_mem_take hop)).trans h.live
  rcases perform_take_shelveOps disk (m + 1) k with hsame | ⟨j, heq, hsub⟩
  · rw [hsame]
    exact h
  rw [Nat.add_sub_cancel] at heq hsub
  have hnone : perform (dropped disk (m + 1)) ((shiftOps disk m).take j)
      (.rotation (m + 1)) = none := by
    refine perform_shift_none ((FsOp.apply_remove).trans (if_pos rfl)) fun op hop => ?_
    exact ⟨hops op (hsub op hop), shiftOps_ne_create op (List.mem_of_mem_take hop)⟩
  rw [heq] at hlive ⊢
  refine ⟨fun n hn => ?_, .inl hnone, hlive⟩
  rw [← h.rest n hn]
  rw [dropped_eq_self hnone]
  exact (below_dropped disk m).shelf_take j (by omega)

/-- **The files behind some attempts.** -/
theorem Spared.history_eq (h : Spared start disk retain) (hn : retain ≤ n) :
    history disk n = history start n ∨ history disk n = history (dropped start retain) n := by
  have hlive : (dropped start retain) .live = start .live := by
    rw [dropped, FsOp.apply_remove, if_neg (by simp)]
  rcases h.last with hnone | hall
  · right
    have hrest := h.rest n hn
    rw [dropped_eq_self hnone] at hrest
    rw [history, history, hrest, h.live, hlive]
  · left
    rw [history, history, hall n hn, h.live]

/-- **An attempt that succeeds** puts an empty live file behind the others. -/
theorem Spared.rotate (h : Spared start disk retain) (hretain : 1 ≤ retain) (hn : retain ≤ n) :
    shelf (perform disk (rotateOps disk retain)) n = history (dropped start retain) n := by
  obtain ⟨m, rfl⟩ : ∃ m, retain = m + 1 := ⟨retain - 1, by omega⟩
  have hbelow := below_dropped disk m
  have hshelve : perform disk (shelveOps disk (m + 1)) =
      perform (dropped disk (m + 1)) (shiftOps disk m) := by
    rw [shelveOps, perform_append, perform_removed]
    rfl
  have hshelf : shelf (perform disk (shelveOps disk (m + 1))) n =
      shelf (dropped start (m + 1)) n := by
    have htake : shelf (perform (dropped disk (m + 1)) ((shiftOps disk m).take
        (shiftOps disk m).length)) n = shelf (dropped disk (m + 1)) n :=
      hbelow.shelf_take _ (by omega)
    rw [List.take_length] at htake
    rw [hshelve, htake, h.rest n hn]
  have hlive : perform disk (shelveOps disk (m + 1)) .live = (dropped start (m + 1)) .live := by
    rw [perform_live shelveOps_sparesLive, h.live, dropped, FsOp.apply_remove, if_neg (by simp)]
  have hroom : perform disk (shelveOps disk (m + 1)) (.rotation 1) = none := by
    rw [hshelve]
    exact hbelow.perform_shiftOps.room
  rw [history, ← hshelf, ← hlive]
  refine shelf_update_one hroom (by omega) _ fun i => ?_
  rw [rotateOps, perform_append]
  show (FsOp.create .live).apply ((FsOp.rename .live (.rotation 1)).apply _) (.rotation i) = _
  rw [FsOp.apply_create, if_neg (by simp), FsOp.apply_rename, if_neg (by simp)]
  simp only [FileName.rotation.injEq]

/-! ## The run -/

/-- **An event whose rotation fails early**: at one of its operations, before the live file is taken
away and before a file is moved to the last rotation. -/
def Act.FailsEarly (s : System) : Act → Prop
  | .emit _ _ (.ends (some k) _) => ∀ sink ∈ s.process,
    k < (rotateOps s.disk sink.retain).length ∧ ∀ op ∈ (rotateOps s.disk sink.retain).take k,
      op.movesLive = false ∧ op.movesTo (.rotation sink.retain) = false
  | _ => False

/-- A sink whose rotation is due on a disk from which nothing is lost. -/
def Waiting (start : Disk) (retain : ℕ) (s : System) : Prop :=
  ∃ sink, s.process = some sink ∧ sink.due = true ∧ sink.retain = retain ∧
    Spared start s.disk retain

/-- A prefix of a rotation that has not taken the live file. -/
theorem take_rotateOps_of_not_movesLive {k : ℕ} (hk : k < (rotateOps disk retain).length)
    (hops : ∀ op ∈ (rotateOps disk retain).take k, op.movesLive = false) :
    (rotateOps disk retain).take k = (shelveOps disk retain).take k := by
  rcases Nat.lt_or_ge (shelveOps disk retain).length k with hlt | hle
  · have hmem : FsOp.rename .live (.rotation 1) ∈ (rotateOps disk retain).take k := by
      obtain ⟨j, rfl⟩ : ∃ j, k = (shelveOps disk retain).length + (j + 1) :=
        ⟨k - (shelveOps disk retain).length - 1, by omega⟩
      rw [rotateOps, List.take_length_add_append, List.take_succ_cons]
      exact List.mem_append_right _ List.mem_cons_self
    exact absurd (hops _ hmem) (by decide)
  · rw [rotateOps, List.take_append_of_le_length hle]

theorem appendLive_nil (disk : Disk) : appendLive disk [] = disk := by
  have hsame : (disk .live).map (· ++ []) = disk .live := by
    cases disk .live with
    | none => rfl
    | some content => exact congrArg some (List.append_nil content)
  rw [appendLive, hsame, Function.update_eq_self]

/-- **An attempt in the run.** -/
theorem Waiting.step {s : System} {act : Act} (hretain : 1 ≤ retain)
    (h : Waiting start retain s) (hact : act.FailsEarly s) :
    Waiting start retain (s.step c act) := by
  obtain ⟨sink, hprocess, hdue, hsink, hspared⟩ := h
  match act, hact with
  | .emit event ts (.ends (some k) fault), hact =>
    obtain ⟨hk, hops⟩ := hact sink hprocess
    have htake := take_rotateOps_of_not_movesLive hk fun op hop => (hops op hop).1
    have hrotate : s.rotateLive sink (some k) = (s.perform ((rotateOps s.disk sink.retain).take k),
        { sink with state := { sink.state with file := false } }.failed) := by
      rw [System.rotateLive, Option.filter_some, if_pos (decide_eq_true hk)]
    have hstep : s.step c (.emit event ts (.ends (some k) fault)) =
        s.emit c sink event ts (.ends (some k) fault) := by
      rw [System.step, hprocess]
    rw [hstep, System.emit, if_pos hdue, hrotate]
    refine ⟨_, rfl, hdue, hsink, ?_⟩
    show Spared start (appendLive (perform s.disk ((rotateOps s.disk sink.retain).take k)) _) retain
    rw [List.take_zero, appendLive_nil, htake, hsink]
    refine hspared.attempt hretain fun op hop => ?_
    rw [← hsink, ← htake] at hop
    rw [← hsink]
    exact (hops op hop).2

/-- **The event that succeeds.** -/
theorem Waiting.emit {s : System} (h : Waiting start retain s) (hretain : 1 ≤ retain)
    (hn : retain ≤ n) (event : Value) (ts : ℕ) : ∃ sink, s.process = some sink ∧
      history (s.step c (.emit event ts (.ends none none))).disk n =
        history (dropped start retain) n ++
          [utf8 (nextLine c sink.state.chain event ts).1 ++ [Lines.lf]] := by
  obtain ⟨sink, hprocess, hdue, hsink, hspared⟩ := h
  refine ⟨sink, hprocess, ?_⟩
  have hstep : s.step c (.emit event ts (.ends none none)) =
      s.emit c sink event ts (.ends none none) := by
    rw [System.step, hprocess]
  rw [hstep, System.emit, if_pos hdue]
  show history (appendLive (perform s.disk (rotateOps s.disk sink.retain)) _) n = _
  have hlive : perform s.disk (rotateOps s.disk sink.retain) .live = some [] :=
    (System.perform_rotateOps s sink.retain).1
  have hshelf : ∀ bytes, shelf (appendLive (perform s.disk (rotateOps s.disk sink.retain))
      bytes) n = history (dropped start retain) n := by
    intro bytes
    rw [← hspared.rotate hretain hn, hsink]
    exact shelf_congr fun i _ _ => appendLive_rotation _ _ i
  rw [history, hshelf, appendLive_live _ hlive]
  rfl

/-- **Rotations that fail early lose nothing.**  Behind any number of events whose rotation is due
and fails, before it takes the live file away and before it moves a file to the last rotation, the
files are those before the first of them, in their order, or these without the one that a rotation
drops; the live file keeps its name; and the next event without a failure completes the rotation and
is appended. -/
theorem failed_rotations_lose_nothing {s : System} {sink : AuditSink} {acts : List Act}
    (hprocess : s.process = some sink) (hdue : sink.due = true) (hretain : 1 ≤ sink.retain)
    (hlive : (s.disk .live).isSome = true)
    (hacts : Acts.Meets (System.step c) Act.FailsEarly s acts) :
    ∀ s', s' = Acts.run (System.step c) s acts → ∀ n, sink.retain ≤ n →
      (history s'.disk n = history s.disk n ∨
        history s'.disk n = history (dropped s.disk sink.retain) n) ∧
      (s'.disk .live).isSome = true ∧
      ∀ event ts, ∃ sink', s'.process = some sink' ∧
        history (s'.step c (.emit event ts (.ends none none))).disk n =
          history (dropped s.disk sink.retain) n ++
            [utf8 (nextLine c sink'.state.chain event ts).1 ++ [Lines.lf]] := by
  rintro s' rfl n hn
  have hwaiting : Waiting s.disk sink.retain (Acts.run (System.step c) s acts) :=
    Acts.invariant_run (P := Act.FailsEarly) (Waiting s.disk sink.retain)
      (fun _ _ h hact => h.step hretain hact) ⟨sink, hprocess, hdue, rfl, Spared.refl _ _⟩ hacts
  obtain ⟨-, -, -, -, hspared⟩ := id hwaiting
  refine ⟨hspared.history_eq hn, ?_, fun event ts => hwaiting.emit hretain hn event ts⟩
  rwa [hspared.live]

/-! ## Two attempts that lose two files -/

/-- A start with room for one line and two rotations, and three events. -/
def shelfActs : List Act :=
  [.start 1 2 .rotate 0 0 (.ends none none), .emit sampleEvent sampleTs (.ends none none),
    .emit sampleEvent sampleTs (.ends none none), .emit sampleEvent sampleTs (.ends none none)]

/-- An event whose rotation fails at one of its operations. -/
def failing (op : ℕ) : Act := .emit sampleEvent sampleTs (.ends (some op) none)

/-- The operations of the next rotation. -/
private theorem rotateOps_shelfActs :
    rotateOps (Acts.run (System.step sampleCrates) .fresh shelfActs).disk 2 =
      [.remove (.rotation 2), .rename (.rotation 1) (.rotation 2), .rename .live (.rotation 1),
        .create .live] := by
  decide +kernel

/-- An attempt that fails behind the removal of the last rotation. -/
theorem failed_rotations_lose_nothing_of_removal : ∃ s s',
    s = Acts.run (System.step sampleCrates) .fresh shelfActs ∧
      s' = Acts.run (System.step sampleCrates) s [failing 1] ∧
      (history s'.disk 2 = history s.disk 2 ∨ history s'.disk 2 = history (dropped s.disk 2) 2) ∧
      (s'.disk .live).isSome = true := by
  obtain ⟨s, hs⟩ : ∃ s, s = Acts.run (System.step sampleCrates) .fresh shelfActs := ⟨_, rfl⟩
  obtain ⟨s', hs'⟩ : ∃ s', s' = Acts.run (System.step sampleCrates) s [failing 1] := ⟨_, rfl⟩
  refine ⟨s, s', hs, hs', ?_⟩
  obtain ⟨hdue, hretain, hlive⟩ : s.process.map AuditSink.due = some true ∧
      s.process.map AuditSink.retain = some 2 ∧ (s.disk .live).isSome = true := by
    rw [hs]
    decide +kernel
  have hops := rotateOps_shelfActs
  rw [← hs] at hops
  obtain ⟨sink, hprocess, hdue⟩ := Option.map_eq_some_iff.mp hdue
  rw [hprocess] at hretain
  have htwo : sink.retain = 2 := Option.some.inj hretain
  have hacts : Acts.Meets (System.step sampleCrates) Act.FailsEarly s [failing 1] := by
    refine ⟨fun other hother => ?_, trivial⟩
    obtain rfl := Option.some.inj (hprocess.symm.trans hother)
    rw [htwo, hops]
    decide
  have hall := failed_rotations_lose_nothing hprocess hdue (by omega) hlive hacts s' hs' 2 htwo.le
  rw [htwo] at hall
  exact ⟨hall.1, hall.2.1⟩

/-- The first attempt fails when the live file is renamed, behind the moves of the rotations; the
second removes the file that was moved to the last rotation. -/
theorem not_failed_rotations_lose_nothing :
    ¬∀ (acts : List Act) (ops : List ℕ) (s s' : System),
      s = Acts.run (System.step sampleCrates) .fresh acts →
      s' = Acts.run (System.step sampleCrates) s (ops.map failing) →
      s.process.map AuditSink.due = some true → s.process.map AuditSink.retain = some 2 →
      (history (dropped s.disk 2) 2).Sublist (history s'.disk 2) := by
  intro h
  have hlength := (h shelfActs [2, 1] _ _ rfl rfl (by decide +kernel) (by decide +kernel)).length_le
  exact absurd hlength (by decide +kernel)

end Audit
end Rclweb
