import Rclweb.Audit.Intact
import Rclweb.Audit.Tamper
import Mathlib.Tactic.IntervalCases

/-!
# What has been reported stays in the live file

Between two acts the live file of a process that runs is a ledger, which the sink's chain continues;
that of a process that has died is a ledger with at most a torn line behind it.  An act keeps this
as long as no append fails behind some of its bytes, and no process dies between a line and its
newline.
-/

namespace Rclweb
namespace Audit

open BigEndian (utf8)

variable {c : Crates} {disk : Disk}

/-! ## Rotations and the live file -/

namespace FsOp

/-- The operation is not about the live file. -/
def SparesLive : FsOp → Prop
  | remove name => name ≠ .live
  | rename source target => source ≠ .live ∧ target ≠ .live
  | create name => name ≠ .live

theorem SparesLive.apply {op : FsOp} (h : op.SparesLive) : op.apply disk .live = disk .live := by
  cases op with
  | remove name => exact Function.update_of_ne (Ne.symm h) _ _
  | rename source target =>
    exact (Function.update_of_ne (Ne.symm h.1) _ _).trans (Function.update_of_ne (Ne.symm h.2) _ _)
  | create name => exact Function.update_of_ne (Ne.symm h) _ _

theorem SparesLive.movesLive {op : FsOp} (h : op.SparesLive) : op.movesLive = false := by
  cases op with
  | remove name => rfl
  | rename source target =>
    cases source with
    | live => exact absurd rfl h.1
    | _ => rfl
  | create name => rfl

end FsOp

theorem perform_append (ops ops' : List FsOp) :
    perform disk (ops ++ ops') = perform (perform disk ops) ops' := List.foldl_append

theorem perform_live {ops : List FsOp} (h : ∀ op ∈ ops, op.SparesLive) :
    perform disk ops .live = disk .live := by
  induction ops generalizing disk with
  | nil => rfl
  | cons op ops ih =>
    show perform (op.apply disk) ops .live = _
    rw [ih fun other hother => h other (List.mem_cons_of_mem _ hother),
      (h op List.mem_cons_self).apply]

theorem any_movesLive {ops : List FsOp} (h : ∀ op ∈ ops, op.SparesLive) :
    ops.any FsOp.movesLive = false := by
  rw [List.any_eq_false]
  intro op hop
  rw [(h op hop).movesLive]
  exact Bool.false_ne_true

theorem shiftOps_sparesLive {n : ℕ} : ∀ op ∈ shiftOps disk n, op.SparesLive := by
  induction n with
  | zero => exact nofun
  | succ n ih =>
    intro op hop
    rw [shiftOps] at hop
    by_cases hthere : (disk (.rotation (n + 1))).isSome = true
    · rw [if_pos hthere] at hop
      rcases List.mem_cons.mp hop with rfl | hop
      · exact ⟨nofun, nofun⟩
      · exact ih op hop
    · rw [if_neg hthere] at hop
      exact ih op hop

theorem shelveOps_sparesLive {retain : ℕ} : ∀ op ∈ shelveOps disk retain, op.SparesLive := by
  intro op hop
  rcases List.mem_append.mp hop with hop | hop
  · by_cases hthere : (disk (.rotation retain)).isSome = true
    · rw [if_pos hthere, List.mem_singleton] at hop
      rw [hop]
      exact nofun
    · rw [if_neg hthere] at hop
      exact absurd hop List.not_mem_nil
  · exact shiftOps_sparesLive op hop

/-- The live file and what is reported of it. -/
structure SameLive (s s' : System) : Prop where
  live : (s'.disk .live).getD [] = (s.disk .live).getD []
  reported : s'.reported = s.reported

/-- The live file is empty or gone, and nothing is reported of it. -/
structure NewLive (s : System) : Prop where
  live : (s.disk .live).getD [] = []
  reported : s.reported = []

theorem System.perform_sparesLive {s : System} {ops : List FsOp}
    (h : ∀ op ∈ ops, op.SparesLive) : SameLive s (s.perform ops) := by
  refine ⟨congrArg (·.getD []) (perform_live h), ?_⟩
  show (if ops.any FsOp.movesLive then [] else s.reported) = s.reported
  rw [any_movesLive h]
  rfl

/-- **A rotation leaves an empty live file.** -/
theorem System.perform_rotateOps (s : System) (retain : ℕ) :
    (s.perform (rotateOps s.disk retain)).disk .live = some [] ∧
      (s.perform (rotateOps s.disk retain)).reported = [] := by
  constructor
  · show Audit.perform s.disk (rotateOps s.disk retain) .live = some []
    rw [rotateOps, perform_append]
    rfl
  · show (if (rotateOps s.disk retain).any FsOp.movesLive then [] else s.reported) = []
    rw [rotateOps, List.any_append]
    simp [FsOp.movesLive]

/-- A rotation that is cut off has moved the live file or left it alone. -/
theorem System.perform_take_rotateOps (s : System) (retain k : ℕ) :
    SameLive s (s.perform ((rotateOps s.disk retain).take k)) ∨
      NewLive (s.perform ((rotateOps s.disk retain).take k)) := by
  have hspares : ∀ op ∈ shelveOps s.disk retain, op.SparesLive := shelveOps_sparesLive
  rcases Nat.lt_or_ge (shelveOps s.disk retain).length k with hk | hk
  · right
    obtain ⟨n, hn⟩ := Nat.exists_eq_add_of_lt hk
    have htake : (rotateOps s.disk retain).take k = shelveOps s.disk retain ++
        .rename .live (.rotation 1) :: [FsOp.create .live].take n := by
      rw [rotateOps, List.take_append, List.take_of_length_le (by omega),
        show k - (shelveOps s.disk retain).length = n + 1 by omega, List.take_succ_cons]
    rw [htake]
    constructor
    · show (Audit.perform s.disk _ .live).getD [] = []
      rw [perform_append]
      cases n with
      | zero => rfl
      | succ n =>
        rw [List.take_succ_cons, List.take_nil]
        rfl
    · show (if List.any _ FsOp.movesLive then [] else s.reported) = []
      rw [List.any_append]
      simp [FsOp.movesLive]
  · left
    rw [rotateOps, List.take_append, Nat.sub_eq_zero_of_le hk, List.take_zero, List.append_nil]
    exact System.perform_sparesLive fun op hop => hspares op (List.mem_of_mem_take hop)

/-! ## The condition on a run -/

/-- **Nothing goes wrong behind the first byte of a line.**  `before` operations come in front of
the line, with a rotation among them when one is due. -/
def CleanCourse (c : Crates) (before : ℕ) (due : Bool) (r : Record) : Course → Prop
  | .ends rotation fault =>
    (due = true → rotation = none) ∧ (fault = none ∨ fault = some 0 ∧ due = false) ∧
      Prints c (sealed c r)
  | .dies ops written => before ≤ ops → written ≠ (r.line c).length ∧ Prints c (sealed c r)

/-- The condition on an act. -/
def Act.Clean (c : Crates) (s : System) : Act → Prop
  | .start _ _ onCorrupt _ ts course =>
    (∃ e, System.found c s.disk = .error e) → onCorrupt = .rotate →
      CleanCourse c 2 false (nextRecord .genesis System.rotateEvent ts) course
  | .emit event ts course => ∀ sink ∈ s.process,
    CleanCourse c (sink.opsDue s.disk).length sink.due (nextRecord sink.state.chain event ts) course
  | .die => True

/-! ## The invariant -/

/-- **A sink that can go on**: its live file holds some records, which its chain continues. -/
structure Ready (c : Crates) (s : System) (sink : AuditSink) (rs : List Record) : Prop where
  live : s.disk .live = some (fileOf c rs)
  ledger : Ledger c rs
  reported : s.reported.Sublist rs
  last : ∀ a ∈ rs.getLast?, sink.state.chain.prevHex = a.digest c
  file : sink.state.file = true
  hex : isSha256Hex sink.state.chain.prevHex = true

/-- A live file from which the next start finds its way. -/
def Recoverable (c : Crates) (s : System) : Prop :=
  ∃ rs bytes, (s.disk .live).getD [] = fileOf c rs ++ bytes ∧ Ledger c rs ∧ Torn c bytes ∧
    s.reported.Sublist rs

/-- **What holds between two acts.** -/
def Sane (c : Crates) (s : System) : Prop :=
  match s.process with
  | some sink => ∃ rs, Ready c s sink rs ∧ (s.appended = true → rs ≠ [])
  | none => Recoverable c s

variable {s s' : System} {sink : AuditSink} {rs : List Record} {event : Value} {ts : ℕ}

theorem Recoverable.of_same (h : Recoverable c s) (hsame : SameLive s s') : Recoverable c s' := by
  obtain ⟨rs, bytes, hlive, hledger, htorn, hreported⟩ := h
  exact ⟨rs, bytes, hsame.live.trans hlive, hledger, htorn, hsame.reported ▸ hreported⟩

theorem Recoverable.of_new (h : NewLive s) : Recoverable c s :=
  ⟨[], [], h.live, Ledger.nil, torn_nil, h.reported ▸ List.Sublist.slnil⟩

theorem Ready.recoverable (h : Ready c s sink rs) : Recoverable c s :=
  ⟨rs, [], by rw [h.live, List.append_nil]; rfl, h.ledger, torn_nil, h.reported⟩

theorem Sane.recoverable (h : Sane c s) : Recoverable c s := by
  unfold Sane at h
  cases hprocess : s.process with
  | some sink =>
    rw [hprocess] at h
    obtain ⟨rs, hready, -⟩ := h
    exact hready.recoverable
  | none => rwa [hprocess] at h

theorem Ready.good (h : Ready c s sink rs)
    (hprints : Prints c (sealed c (nextRecord sink.state.chain event ts))) :
    Good c (nextRecord sink.state.chain event ts) := good_of_prints h.hex hprints

/-- The ledger with the next record. -/
theorem Ready.concat (h : Ready c s sink rs)
    (hprints : Prints c (sealed c (nextRecord sink.state.chain event ts))) :
    Ledger c (rs ++ [nextRecord sink.state.chain event ts]) :=
  h.ledger.concat (h.good hprints) h.last

/-- Rewinding undoes the composing of a line. -/
theorem rewindChain_nextLine {chain : Chain}
    (hprints : Prints c (sealed c (nextRecord chain event ts))) :
    rewindChain c (nextLine c chain event ts).2 (nextLine c chain event ts).1 = chain := by
  have hread : c.fromStr (nextLine c chain event ts).1 =
      some (sealed c (nextRecord chain event ts)) := hprints.read
  rw [rewindChain, hread]
  show Chain.mk (chain.seq + 1 - 1) _ = chain
  rw [SortedMap.lookup_insert_of_ne (by decide)]
  have hprev := nextMembers_prev chain event ts
  show Chain.mk (chain.seq + 1 - 1) ((((nextMembers chain event ts).lookup "prev_sha256").bind
    Value.asStr).getD _) = chain
  rw [hprev]
  rfl

/-- **A line that is appended.** -/
theorem Ready.append (h : Ready c s sink rs)
    (hprints : Prints c (sealed c (nextRecord sink.state.chain event ts))) :
    Sane c (s.append sink (nextLine c sink.state.chain event ts).1
      (nextRecord sink.state.chain event ts) (nextLine c sink.state.chain event ts).2) := by
  refine ⟨rs ++ [nextRecord sink.state.chain event ts], ⟨?_, h.concat hprints, ?_, ?_, rfl, ?_⟩, ?_⟩
  · show appendLive s.disk _ .live = _
    rw [appendLive, Function.update_self, h.live, fileOf_concat]
    rfl
  · exact h.reported.append (List.Sublist.refl _)
  · intro a ha
    rw [List.getLast?_concat] at ha
    obtain rfl := Option.some.inj ha
    rfl
  · exact isSha256Hex_digest c _ _
  · intro _
    simp

/-- An append that fails in front of the first byte. -/
theorem Ready.appendFails (h : Ready c s sink rs)
    (hprints : Prints c (sealed c (nextRecord sink.state.chain event ts))) :
    Ready c (s.appendFails c sink (nextLine c sink.state.chain event ts).1
      (nextRecord sink.state.chain event ts) (nextLine c sink.state.chain event ts).2 0)
      { sink.failed with
        state := { sink.state with
          chain := rewindChain c (nextLine c sink.state.chain event ts).2
            (nextLine c sink.state.chain event ts).1 }
        events := sink.events + 1 } rs := by
  have hchain := rewindChain_nextLine hprints
  refine ⟨?_, h.ledger, h.reported, ?_, h.file, ?_⟩
  · show appendLive s.disk [] .live = _
    rw [appendLive, Function.update_self, h.live]
    exact congrArg some (List.append_nil _)
  · intro a ha
    show (rewindChain c _ _).prevHex = _
    rw [hchain]
    exact h.last a ha
  · show isSha256Hex (rewindChain c _ _).prevHex = true
    rw [hchain]
    exact h.hex

theorem Ready.rotated (h : Ready c s sink rs) :
    Ready c (s.rotateLive sink none).1 (s.rotateLive sink none).2 [] := by
  obtain ⟨hlive, hreported⟩ := System.perform_rotateOps s sink.retain
  exact ⟨hlive, Ledger.nil, hreported ▸ List.Sublist.slnil, nofun, rfl, h.hex⟩

/-- **The process dies** behind some bytes of a line, but not in front of its newline. -/
theorem Ready.cut (h : Ready c s sink rs)
    (hprints : Prints c (sealed c (nextRecord sink.state.chain event ts))) {written : ℕ}
    (hwritten : written ≠ ((nextRecord sink.state.chain event ts).line c).length)
    (hlive : (s'.disk .live).getD [] = fileOf c rs ++
      ((nextRecord sink.state.chain event ts).line c ++ [Lines.lf]).take written)
    (hreported : s'.reported = s.reported) : Recoverable c s' := by
  have hgood := h.good hprints
  have hsublist : s'.reported.Sublist rs := hreported ▸ h.reported
  rcases Nat.lt_or_gt_of_ne hwritten with hlt | hgt
  · rw [List.take_append_of_le_length hlt.le] at hlive
    refine ⟨rs, _, hlive, h.ledger, hgood.torn _ (List.take_prefix _ _) ?_, hsublist⟩
    intro heq
    have hlength := congrArg List.length heq
    rw [List.length_take] at hlength
    omega
  · rw [List.take_of_length_le (by rw [List.length_append]; exact hgt), ← fileOf_concat] at hlive
    exact ⟨_, [], by rw [hlive, List.append_nil], h.concat hprints, torn_nil,
      hsublist.trans (List.sublist_append_left _ _)⟩

/-! ## Every act keeps it -/

/-- The line of an event behind a sink that can go on. -/
theorem Ready.appendLine (h : Ready c s sink rs) {fault : Option ℕ}
    (hprints : Prints c (sealed c (nextRecord sink.state.chain event ts)))
    (hfault : fault = none ∨ fault = some 0 ∧ (s.appended = true → rs ≠ [])) :
    Sane c (s.appendLine c sink event ts fault) := by
  rcases hfault with rfl | ⟨rfl, happended⟩
  · have happend := h.append hprints
    simp only [System.appendLine, h.file, if_true]
    exact happend
  · have hfails := h.appendFails hprints
    simp only [System.appendLine, h.file, if_true]
    exact ⟨rs, hfails, happended⟩

theorem opsDue_of_due (hdue : sink.due = true) : sink.opsDue disk = rotateOps disk sink.retain :=
  if_pos hdue

theorem opsDue_of_not_due (hdue : sink.due = false) : sink.opsDue disk = [] := by
  rw [AuditSink.opsDue, hdue]
  rfl

/-- **An event that is emitted.** -/
theorem Ready.emit (h : Ready c s sink rs) (happended : s.appended = true → rs ≠ [])
    {course : Course}
    (hclean : CleanCourse c (sink.opsDue s.disk).length sink.due
      (nextRecord sink.state.chain event ts) course) :
    Sane c (s.emit c sink event ts course) := by
  cases course with
  | ends rotation fault =>
    obtain ⟨hrotation, hfault, hprints⟩ := hclean
    rw [System.emit]
    cases hdue : sink.due with
    | true =>
      obtain rfl := hrotation hdue
      rcases hfault with rfl | ⟨-, hnot⟩
      · exact h.rotated.appendLine hprints (.inl rfl)
      · rw [hdue] at hnot
        cases hnot
    | false =>
      refine h.appendLine hprints ?_
      exact hfault.imp_right fun hfails => ⟨hfails.1, happended⟩
  | dies ops written =>
    rw [System.emit]
    by_cases hops : ops < (sink.opsDue s.disk).length
    · rw [if_pos hops]
      show Recoverable c (s.perform ((sink.opsDue s.disk).take ops)).halt
      cases hdue : sink.due with
      | true =>
        rw [opsDue_of_due hdue]
        rcases s.perform_take_rotateOps sink.retain ops with hsame | hnew
        · exact h.recoverable.of_same ⟨hsame.live, hsame.reported⟩
        · exact .of_new ⟨hnew.live, hnew.reported⟩
      | false =>
        rw [opsDue_of_not_due hdue] at hops
        cases hops
    · rw [if_neg hops]
      have hops' := Nat.le_of_not_lt hops
      obtain ⟨hwritten, hprints⟩ := hclean hops'
      rw [List.take_of_length_le hops']
      cases hdue : sink.due with
      | true =>
        rw [opsDue_of_due hdue]
        obtain ⟨hlive, hreported⟩ := s.perform_rotateOps sink.retain
        refine h.rotated.cut hprints hwritten ?_ rfl
        show (appendLive (s.perform (rotateOps s.disk sink.retain)).disk _ .live).getD [] = _
        rw [appendLive, Function.update_self, hlive]
        rfl
      | false =>
        rw [opsDue_of_not_due hdue]
        refine h.cut hprints hwritten ?_ rfl
        show (appendLive s.disk _ .live).getD [] = _
        rw [appendLive, Function.update_self, h.live]
        rfl

/-- **What a start finds.** -/
theorem chain_of_found {bytes : List UInt8} {chain : Chain}
    (hlive : (s.disk .live).getD [] = fileOf c rs ++ bytes) (hledger : Ledger c rs)
    (htorn : Torn c bytes) (h : System.found c s.disk = .ok chain) :
    bytes = [] ∧ (∀ a ∈ rs.getLast?, chain.prevHex = a.digest c) ∧
      isSha256Hex chain.prevHex = true := by
  by_cases hempty : fileOf c rs ++ bytes = []
  · obtain ⟨hrs, rfl⟩ := List.append_eq_nil_iff.mp hempty
    obtain rfl := fileOf_eq_nil.mp hrs
    rw [hempty] at hlive
    have hgenesis : System.found c s.disk = .ok .genesis := by
      rw [System.found]
      cases hdisk : s.disk .live with
      | none => rfl
      | some content =>
        rw [hdisk] at hlive
        exact if_pos hlive
    rw [hgenesis] at h
    obtain rfl := Except.ok.inj h
    exact ⟨rfl, nofun, isSha256Hex_genesisPrev⟩
  · have hdisk : s.disk .live = some (fileOf c rs ++ bytes) := by
      cases hdisk : s.disk .live with
      | none =>
        rw [hdisk] at hlive
        exact absurd hlive.symm hempty
      | some content =>
        rw [hdisk] at hlive
        exact congrArg some hlive
    rw [System.found, hdisk] at h
    simp only [if_neg hempty] at h
    cases hverify : verifyFile c FileName.live (fileOf c rs ++ bytes) with
    | error e =>
      rw [hverify] at h
      cases h
    | ok v =>
      rw [hverify] at h
      obtain rfl := Except.ok.inj h
      obtain ⟨rs', hrecords, rfl⟩ := verifyFile_ok_iff.mp hverify
      by_cases hbytes : bytes = []
      · subst hbytes
        have hne : rs ≠ [] := fun hnil => hempty (by rw [hnil]; rfl)
        rw [List.append_nil] at hrecords
        obtain rfl := hrecords.unique (hledger.records hne)
        obtain ⟨front, a, rfl⟩ := List.eq_nil_or_concat rs' |>.resolve_left hne
        refine ⟨rfl, ?_, ?_⟩
        · intro b hb
          rw [List.concat_eq_append, List.getLast?_concat] at hb
          obtain rfl := Option.some.inj hb
          simp [report]
        · simp only [report, List.concat_eq_append, HashChain.last_concat]
          exact isSha256Hex_digest c a.prev a.members
      · exact absurd hrecords (hledger.not_records_torn hbytes htorn)

/-- Creating the live file leaves what is in it. -/
theorem System.perform_create (s : System) :
    (s.perform [.create .live]).disk .live = some ((s.disk .live).getD []) :=
  Function.update_self (f := s.disk) FileName.live _

/-- A sink that has just been opened on an empty file need not rotate. -/
theorem due_opened {maxBytes retain : ℕ} {onCorrupt : OnCorrupt} {chain : Chain}
    (hlive : s.disk .live = some []) (hmax : maxBytes ≠ 0) :
    (s.opened maxBytes retain onCorrupt chain).due = false := by
  show decide (maxBytes ≤ lengthOf s.disk .live) = false
  rw [lengthOf, hlive, decide_eq_false_iff_not]
  exact fun hle => hmax (Nat.le_zero.mp hle)

/-- **A start that goes on with the live file.** -/
theorem continues_sane {bytes : List UInt8} {chain : Chain} {maxBytes retain : ℕ}
    {onCorrupt : OnCorrupt} {course : Course}
    (hlive : (s.disk .live).getD [] = fileOf c rs ++ bytes) (hledger : Ledger c rs)
    (htorn : Torn c bytes) (hreported : s.reported.Sublist rs)
    (hfound : System.found c s.disk = .ok chain) :
    Sane c (s.continues maxBytes retain onCorrupt chain course) := by
  obtain ⟨rfl, hlast, hhex⟩ := chain_of_found hlive hledger htorn hfound
  rw [List.append_nil] at hlive
  have hcreate := s.perform_create
  rw [hlive] at hcreate
  cases course with
  | ends rotation fault =>
    exact ⟨rs, ⟨hcreate, hledger, hreported, hlast, rfl, hhex⟩, nofun⟩
  | dies ops written =>
    have hrecoverable : Recoverable c s :=
      ⟨rs, [], by rw [hlive, List.append_nil], hledger, torn_nil, hreported⟩
    cases ops with
    | zero => exact hrecoverable.of_same ⟨rfl, rfl⟩
    | succ ops =>
      refine hrecoverable.of_same ⟨?_, ?_⟩
      · show ((s.perform ([FsOp.create .live].take (ops + 1))).disk .live).getD [] = _
        rw [List.take_succ_cons, List.take_nil, hcreate, hlive]
        rfl
      · show (s.perform ([FsOp.create .live].take (ops + 1))).reported = _
        rw [List.take_succ_cons, List.take_nil]
        rfl

/-- **A start that moves the live file aside.** -/
theorem Recoverable.setAside (h : Recoverable c s) {maxBytes retain now : ℕ} {course : Course}
    (hmax : maxBytes ≠ 0)
    (hclean : CleanCourse c 2 false (nextRecord .genesis System.rotateEvent ts) course) :
    Sane c (s.setAside c maxBytes retain now ts course) := by
  let opened : System := { s.perform (System.asideOps now) with appended := false }
  have hlive : opened.disk .live = some [] := rfl
  have hready : Ready c opened (opened.opened maxBytes retain .rotate .genesis) [] :=
    ⟨hlive, Ledger.nil, List.Sublist.slnil, nofun, rfl, isSha256Hex_genesisPrev⟩
  have hdue : (opened.opened maxBytes retain .rotate .genesis).due = false := due_opened hlive hmax
  cases course with
  | ends rotation fault =>
    refine hready.emit nofun ?_
    rw [hdue]
    exact hclean
  | dies ops written =>
    by_cases hops : ops < (System.asideOps now).length
    · rw [System.setAside, if_pos hops]
      have hfew : ops < 2 := hops
      interval_cases ops
      · exact h.of_same ⟨rfl, rfl⟩
      · exact Recoverable.of_new ⟨rfl, rfl⟩
    · rw [System.setAside, if_neg hops]
      refine hready.emit nofun ?_
      intro _
      exact hclean (Nat.le_of_not_lt hops)

/-- **A process that starts.** -/
theorem Recoverable.start (h : Recoverable c s) (hnone : s.process = none)
    {maxBytes retain now : ℕ} {onCorrupt : OnCorrupt} {course : Course}
    (hclean : (Act.start maxBytes retain onCorrupt now ts course).Clean c s) :
    Sane c (s.start c maxBytes retain onCorrupt now ts course) := by
  have hstay : Sane c s := by
    rw [Sane, hnone]
    exact h
  unfold System.start
  by_cases hrefused : maxBytes = 0 ∨ ¬(1 ≤ retain ∧ retain ≤ 64)
  · rw [if_pos hrefused]
    exact hstay
  · rw [if_neg hrefused]
    cases hfound : System.found c s.disk with
    | ok chain =>
      obtain ⟨rs, bytes, hlive, hledger, htorn, hreported⟩ := h
      exact continues_sane hlive hledger htorn hreported hfound
    | error e =>
      cases onCorrupt with
      | fail => exact hstay
      | rotate => exact h.setAside (fun hzero => hrefused (.inl hzero)) (hclean ⟨e, hfound⟩ rfl)

/-- **The step lemma.** -/
theorem Sane.step {act : Act} (h : Sane c s) (hclean : act.Clean c s) :
    Sane c (System.step c s act) := by
  cases act with
  | start maxBytes retain onCorrupt now ts course =>
    cases hprocess : s.process with
    | some sink =>
      rw [System.step, hprocess]
      exact h
    | none =>
      rw [System.step, hprocess]
      exact h.recoverable.start hprocess hclean
  | emit event ts course =>
    cases hprocess : s.process with
    | some sink =>
      rw [Sane, hprocess] at h
      obtain ⟨rs, hready, happended⟩ := h
      rw [System.step, hprocess]
      exact hready.emit happended (hclean sink hprocess)
    | none =>
      rw [System.step, hprocess]
      exact h
  | die => exact h.recoverable.of_same ⟨rfl, rfl⟩

theorem fresh_sane : Sane c .fresh := Recoverable.of_new ⟨rfl, rfl⟩

/-- **What has been reported stays in a file that verifies**: in a run without a write that goes
wrong behind the first byte of a line, the live file of a sink that has appended a line since its
start verifies, and holds the records that were reported since the file was last moved, in order. -/
theorem reported_records_verify {acts : List Act}
    (hclean : Acts.Meets (System.step c) (Act.Clean c) .fresh acts) :
    ∀ s, s = Acts.run (System.step c) .fresh acts → s.process ≠ none → s.appended = true →
      ∃ bytes v rs, s.disk .live = some bytes ∧ verifyFile c FileName.live bytes = .ok v ∧
        Records c bytes rs ∧ s.reported.Sublist rs := by
  rintro s rfl hrunning happended
  have hsane := Acts.invariant_run (P := Act.Clean c) (Sane c) (fun _ _ => Sane.step) fresh_sane
    hclean
  obtain ⟨sink, hprocess⟩ := Option.ne_none_iff_exists'.mp hrunning
  rw [Sane, hprocess] at hsane
  obtain ⟨rs, hready, hne⟩ := hsane
  have hrecords := hready.ledger.records (hne happended)
  exact ⟨_, _, rs, hready.live, verifyFile_ok_iff.mpr ⟨rs, hrecords, rfl⟩, hrecords,
    hready.reported⟩

/-! ## An append that fails, and another -/

/-- A start, an append that fails behind some bytes, and one that succeeds. -/
def sampleActs (bytes : ℕ) : List Act :=
  [.start 8388608 3 .fail 0 0 (.ends none none),
    .emit sampleEvent sampleTs (.ends none (some bytes)),
    .emit sampleEvent sampleTs (.ends none none)]

private theorem fromStr_sample (text : String) : sampleCrates.fromStr text =
    (sampleObjects.find? fun obj => sampleText (.object obj) = text).map .object := rfl

/-- The sample line is what the sink relies on. -/
theorem sample_prints :
    Prints sampleCrates (sealed sampleCrates (nextRecord .genesis sampleEvent sampleTs)) := by
  have htexts : ∀ text value, sampleCrates.fromStr text = some value →
      text = sampleText (.object (sampleObject 0 genesisPrev sampleHash)) ∨
        text = sampleText (.object (sampleObject 1 (hexEncode sampleHash.toList) sampleHash')) := by
    intro text value h
    obtain ⟨obj, hfind, -⟩ := Option.map_eq_some_iff.mp h
    have htext : sampleText (.object obj) = text := by simpa using List.find?_some hfind
    rcases List.mem_cons.mp (List.mem_of_find?_eq_some hfind) with rfl | hmem
    · exact .inl htext.symm
    · rw [List.mem_singleton.mp hmem] at htext
      exact .inr htext.symm
  have hline : sampleCrates.toString
      (sealed sampleCrates (nextRecord .genesis sampleEvent sampleTs)) =
        sampleText (.object (sampleObject 0 genesisPrev sampleHash)) := by decide +kernel
  have hread : sampleCrates.fromStr (sampleText (.object (sampleObject 0 genesisPrev sampleHash))) =
      some (sealed sampleCrates (nextRecord .genesis sampleEvent sampleTs)) := by
    have hfind : sampleObjects.find? (fun obj => decide (sampleText (.object obj) =
        sampleText (.object (sampleObject 0 genesisPrev sampleHash)))) =
          some (sampleObject 0 genesisPrev sampleHash) := List.find?_cons_of_pos (by simp)
    have hdigest : (nextRecord .genesis sampleEvent sampleTs).digest sampleCrates =
        hexEncode sampleHash.toList := by decide +kernel
    rw [fromStr_sample, hfind, sealed, hdigest]
    rfl
  refine ⟨by rw [hline]; exact hread, ?_, ?_⟩
  · rw [hline]
    exact isLine_sampleLine
  · rw [hline]
    intro text hcut hne
    cases hparse : sampleCrates.fromStr text with
    | none => rfl
    | some value =>
      rcases htexts text value hparse with rfl | rfl
      · exact absurd rfl hne
      · exact absurd hcut (by decide +kernel)

private theorem sample_clean {s : System} {fault : Option ℕ}
    (hchain : s.process.map (·.state.chain) = some .genesis)
    (hdue : s.process.map AuditSink.due = some false) (hfault : fault = none ∨ fault = some 0) :
    (Act.emit sampleEvent sampleTs (.ends none fault)).Clean sampleCrates s := by
  intro sink hsink
  rw [Option.mem_def.mp hsink] at hchain hdue
  have hchain' : sink.state.chain = .genesis := Option.some.inj hchain
  have hdue' : sink.due = false := Option.some.inj hdue
  rw [hchain', hdue']
  exact ⟨nofun, hfault.imp_right fun hfault => ⟨hfault, rfl⟩, sample_prints⟩

/-- An append that fails without a byte is made up for by the next. -/
theorem reported_records_verify_of_retry :
    ∃ bytes v rs,
      (Acts.run (System.step sampleCrates) .fresh (sampleActs 0)).disk .live = some bytes ∧
      verifyFile sampleCrates FileName.live bytes = .ok v ∧ Records sampleCrates bytes rs ∧
      (Acts.run (System.step sampleCrates) .fresh (sampleActs 0)).reported.Sublist rs := by
  have hclean : Acts.Meets (System.step sampleCrates) (Act.Clean sampleCrates) .fresh
      (sampleActs 0) :=
    ⟨nofun, sample_clean (by decide +kernel) (by decide +kernel) (.inr rfl),
      sample_clean (by decide +kernel) (by decide +kernel) (.inl rfl), trivial⟩
  have hrunning : (Acts.run (System.step sampleCrates) .fresh (sampleActs 0)).process.isSome =
      true := by decide +kernel
  refine reported_records_verify hclean _ rfl ?_ (by decide +kernel)
  intro hnone
  rw [hnone] at hrunning
  cases hrunning

/-- The byte of a failed append and the line behind it. -/
def tornText : String :=
  "\x7b" ++ sampleText (.object (sampleObject 0 genesisPrev sampleHash))

theorem isLine_tornText : Lines.IsLine (utf8 tornText) where
  nonempty := by decide +kernel
  no_lf := by decide +kernel
  no_cr := by decide +kernel

theorem verifyFile_tornText (path : FileName) :
    verifyFile sampleCrates path (Lines.file [utf8 tornText]) =
      .error ⟨path, some 1, .notJson⟩ := by
  have hline : verifyLine sampleCrates tornText = .error .notJson := by decide +kernel
  have hnext : verifyNext sampleCrates .start (utf8 tornText) = .error .notJson := by
    rw [verifyNext_utf8 _ isLine_tornText.nonempty, hline]
    rfl
  rw [verifyFile, Lines.lines_file (List.forall_mem_singleton.mpr isLine_tornText), verifyLines,
    hnext]
  rfl

/-- A failed append that has written one byte leaves it in front of the next line. -/
theorem not_reported_records_verify :
    ¬∀ (acts : List Act) (s : System), s = Acts.run (System.step sampleCrates) .fresh acts →
      s.process.isSome = true → s.appended = true →
      ∃ bytes v, s.disk .live = some bytes ∧
        verifyFile sampleCrates FileName.live bytes = .ok v := by
  intro h
  have hrun : (Acts.run (System.step sampleCrates) .fresh (sampleActs 1)).process.isSome = true ∧
      (Acts.run (System.step sampleCrates) .fresh (sampleActs 1)).appended = true ∧
      (Acts.run (System.step sampleCrates) .fresh (sampleActs 1)).disk .live =
        some (Lines.file [utf8 tornText]) := by decide +kernel
  obtain ⟨hprocess, happended, hdisk⟩ := hrun
  obtain ⟨bytes, v, hlive, hverify⟩ := h (sampleActs 1) _ rfl hprocess happended
  obtain rfl : Lines.file [utf8 tornText] = bytes := Option.some.inj (hdisk.symm.trans hlive)
  rw [verifyFile_tornText] at hverify
  cases hverify

end Audit
end Rclweb
