import Rclweb.Gateway.Budgets
import Rclweb.Library.Acts

/-!
# The accounts of the write queue

The queue as the code keeps it, its byte counter in saturating arithmetic up to `top`, the largest
`usize`.  Short of saturation, which takes a byte budget of `top`, the counter is the sum of the
queued lengths, both budgets hold after every operation, and every frame that went in has been
popped, is queued or counts as a gap (`queue_accounts`).  The loop of `admit_best_effort` is then
the one of the gateway's queue (`admitIn_eq`).
-/

namespace Rclweb
namespace Gateway

namespace SampleWriteQueue

/-- `usize::saturating_add`. -/
def saturatingAdd (top a b : ℕ) : ℕ := min (a + b) top

/-- The lengths of the queued frames, together. -/
def queuedBytes (q : SampleWriteQueue) : ℕ := (q.items.map fun item => item.bytes.length).sum

variable (top : ℕ)

def canFitIn (q : SampleWriteQueue) (frameLen : ℕ) : Bool :=
  if q.maxBytes < frameLen then false
  else q.items.length < q.maxSamples && saturatingAdd top q.bytes frameLen ≤ q.maxBytes

def pushIn (q : SampleWriteQueue) (channelId : UInt32) (reliable : Bool) (frame : List UInt8) :
    SampleWriteQueue :=
  { q with
    bytes := saturatingAdd top q.bytes frame.length
    items := q.items ++ [⟨channelId, reliable, frame⟩] }

/-- The eviction loop, for `fuel` rounds at most. -/
def evictIn (frameLen : ℕ) : (fuel : ℕ) → SampleWriteQueue → SampleWriteQueue
  | 0, q => q
  | fuel + 1, q =>
    if q.canFitIn top frameLen then q
    else
      match q.popFrontRaw with
      | none => q
      | some (_, q) => evictIn frameLen fuel q.recordGap

/-- **Admit a best-effort frame**, with latest-wins eviction. -/
def admitIn (q : SampleWriteQueue) (channelId : UInt32) (frame : List UInt8) : SampleWriteQueue :=
  if q.maxBytes < frame.length then q.recordGap
  else
    let q := evictIn top frame.length q.items.length q
    if q.canFitIn top frame.length then q.pushIn top channelId false frame else q.recordGap

/-- **Counting a frame of `n` bytes does not saturate.**  It cannot under a budget below `top`. -/
def Unsaturated (q : SampleWriteQueue) (n : ℕ) : Prop := q.maxBytes < top ∨ q.bytes + n ≤ top

/-! ## The budgets -/

/-- **What holds of a queue within its budgets.** -/
structure Budgeted (q : SampleWriteQueue) : Prop where
  one_le_maxSamples : 1 ≤ q.maxSamples
  length_le : q.items.length ≤ q.maxSamples
  bytes_eq : q.bytes = q.queuedBytes
  bytes_le : q.bytes ≤ q.maxBytes

variable {top} {q q' : SampleWriteQueue} {item : QueuedFrame} {n : ℕ}

theorem budgeted_new (maxSamples maxBytes : ℕ) : (new maxSamples maxBytes).Budgeted where
  one_le_maxSamples := Nat.le_max_right _ _
  length_le := Nat.zero_le _
  bytes_eq := rfl
  bytes_le := Nat.zero_le _

theorem Budgeted.recordGap (h : q.Budgeted) : q.recordGap.Budgeted :=
  ⟨h.one_le_maxSamples, h.length_le, h.bytes_eq, h.bytes_le⟩

/-- What popping does. -/
theorem popFrontRaw_eq_some (h : q.popFrontRaw = some (item, q')) :
    q.items = item :: q'.items ∧
      q' = { q with items := q'.items, bytes := q.bytes - item.bytes.length } := by
  unfold popFrontRaw at h
  cases hitems : q.items with
  | nil =>
    rw [hitems] at h
    cases h
  | cons first rest =>
    rw [hitems] at h
    obtain ⟨rfl, rfl⟩ := Prod.mk.inj (Option.some.inj h)
    exact ⟨rfl, rfl⟩

theorem popFrontRaw_eq_none : q.popFrontRaw = none ↔ q.items = [] := by
  unfold popFrontRaw
  cases q.items <;> simp

theorem queuedBytes_of_items {rest : List QueuedFrame} (h : q.items = item :: rest) :
    q.queuedBytes = item.bytes.length + (rest.map fun item => item.bytes.length).sum := by
  rw [queuedBytes, h, List.map_cons, List.sum_cons]

theorem Budgeted.pop (h : q.Budgeted) (hpop : q.popFrontRaw = some (item, q')) :
    q'.Budgeted ∧ q'.maxSamples = q.maxSamples ∧ q'.maxBytes = q.maxBytes ∧
      q'.items.length + 1 = q.items.length ∧ q'.queuedBytes ≤ q.queuedBytes ∧
        q'.dispositions = q.dispositions := by
  obtain ⟨hitems, hq'⟩ := popFrontRaw_eq_some hpop
  have hlength : q'.items.length + 1 = q.items.length := by rw [hitems, List.length_cons]
  have hsum := queuedBytes_of_items hitems
  have hmax : q'.maxSamples = q.maxSamples := by rw [hq']
  have hmaxBytes : q'.maxBytes = q.maxBytes := by rw [hq']
  have hbytes : q'.bytes = q.bytes - item.bytes.length := by rw [hq']
  have heq := h.bytes_eq
  have hle := h.bytes_le
  have hrest : q'.queuedBytes = q.queuedBytes - item.bytes.length := by
    rw [hsum, queuedBytes]
    omega
  refine ⟨⟨?_, ?_, ?_, ?_⟩, hmax, hmaxBytes, hlength, ?_, by rw [hq']⟩
  · rw [hmax]
    exact h.one_le_maxSamples
  · rw [hmax]
    have := h.length_le
    omega
  · rw [hbytes, hrest, heq]
  · rw [hbytes, hmaxBytes]
    omega
  · rw [hrest]
    exact Nat.sub_le _ _

/-- Short of saturation the two sums are within a budget together. -/
theorem saturatingAdd_le_iff (hsat : q.Unsaturated top n) :
    saturatingAdd top q.bytes n ≤ q.maxBytes ↔ q.bytes + n ≤ q.maxBytes := by
  unfold saturatingAdd
  rcases hsat with hbudget | hsum
  · rw [min_le_iff]
    exact or_iff_left (not_le.mpr hbudget)
  · rw [Nat.min_eq_left hsum]

/-- Short of saturation, room is what the budgets leave. -/
theorem canFitIn_iff (hsat : q.Unsaturated top n) :
    q.canFitIn top n = true ↔
      n ≤ q.maxBytes ∧ q.items.length < q.maxSamples ∧ q.bytes + n ≤ q.maxBytes := by
  unfold canFitIn
  split_ifs with hlong
  · simp only [false_iff, not_and]
    intro hle
    omega
  · simp only [Bool.and_eq_true, decide_eq_true_eq, saturatingAdd_le_iff hsat]
    exact (and_iff_right (not_lt.mp hlong)).symm

/-- A frame that fits is counted in full. -/
theorem saturatingAdd_eq (hsat : q.Unsaturated top n) (hfit : q.canFitIn top n = true) :
    saturatingAdd top q.bytes n = q.bytes + n := by
  obtain ⟨-, -, hbytes⟩ := (canFitIn_iff hsat).mp hfit
  unfold saturatingAdd
  rcases hsat with hbudget | hsum
  · exact Nat.min_eq_left (hbytes.trans hbudget.le)
  · exact Nat.min_eq_left hsum

theorem queuedBytes_push (channelId : UInt32) (reliable : Bool) (frame : List UInt8) :
    (q.pushIn top channelId reliable frame).queuedBytes = q.queuedBytes + frame.length := by
  simp [queuedBytes, pushIn]

theorem Budgeted.push (h : q.Budgeted) {frame : List UInt8}
    (hsat : q.Unsaturated top frame.length) (hfit : q.canFitIn top frame.length = true)
    (channelId : UInt32) (reliable : Bool) :
    (q.pushIn top channelId reliable frame).Budgeted := by
  obtain ⟨-, hsamples, hbytes⟩ := (canFitIn_iff hsat).mp hfit
  have hsum := saturatingAdd_eq hsat hfit
  refine ⟨h.one_le_maxSamples, ?_, ?_, ?_⟩
  · show (q.items ++ [_]).length ≤ q.maxSamples
    rw [List.length_append, List.length_singleton]
    exact hsamples
  · rw [queuedBytes_push, ← h.bytes_eq]
    exact hsum
  · show saturatingAdd top q.bytes frame.length ≤ q.maxBytes
    rw [hsum]
    exact hbytes

/-! ## The eviction loop -/

/-- What the loop leaves of a queue: within its budgets, each frame that is gone a gap. -/
structure Evicted (q q' : SampleWriteQueue) : Prop where
  budgeted : q'.Budgeted
  maxSamples_eq : q'.maxSamples = q.maxSamples
  maxBytes_eq : q'.maxBytes = q.maxBytes
  queuedBytes_le : q'.queuedBytes ≤ q.queuedBytes
  accounts : q'.items.length + q'.dispositions.sequenceGap =
    q.items.length + q.dispositions.sequenceGap

theorem Evicted.unsaturated (h : Evicted q q') (hq : q.Budgeted) (hsat : q.Unsaturated top n) :
    q'.Unsaturated top n := by
  have hle := h.queuedBytes_le
  rw [← h.budgeted.bytes_eq, ← hq.bytes_eq] at hle
  rcases hsat with hbudget | hsum
  · left
    rw [h.maxBytes_eq]
    exact hbudget
  · right
    exact (Nat.add_le_add_right hle n).trans hsum

theorem Budgeted.evicted (h : q.Budgeted) : Evicted q q := ⟨h, rfl, rfl, le_refl _, rfl⟩

theorem Budgeted.evicted_evictIn (h : q.Budgeted) (fuel : ℕ) : Evicted q (evictIn top n fuel q) := by
  induction fuel generalizing q with
  | zero => exact h.evicted
  | succ fuel ih =>
    unfold evictIn
    split_ifs
    · exact h.evicted
    · cases hpop : q.popFrontRaw with
      | none => exact h.evicted
      | some popped =>
        obtain ⟨item, q'⟩ := popped
        obtain ⟨hbudgeted, hsamples, hbytes, hlength, hqueued, hgaps⟩ := h.pop hpop
        have hrest := ih hbudgeted.recordGap
        have haccounts := hrest.accounts
        have hgap : q'.recordGap.dispositions.sequenceGap = q.dispositions.sequenceGap + 1 := by
          rw [← hgaps]
          rfl
        refine ⟨hrest.budgeted, hrest.maxSamples_eq.trans hsamples,
          hrest.maxBytes_eq.trans hbytes, hrest.queuedBytes_le.trans hqueued, ?_⟩
        show (evictIn top n fuel q'.recordGap).items.length +
          (evictIn top n fuel q'.recordGap).dispositions.sequenceGap = _
        rw [haccounts, hgap]
        show q'.items.length + _ = _
        omega

/-- **The loop ends**: after as many rounds as there are frames there is room, or nothing is
left. -/
theorem canFitIn_evictIn (fuel : ℕ) (h : q.items.length ≤ fuel) :
    (evictIn top n fuel q).canFitIn top n = true ∨ (evictIn top n fuel q).items = [] := by
  induction fuel generalizing q with
  | zero =>
    right
    exact List.eq_nil_of_length_eq_zero (Nat.le_zero.mp h)
  | succ fuel ih =>
    unfold evictIn
    split_ifs with hfit
    · exact .inl hfit
    · cases hpop : q.popFrontRaw with
      | none => exact .inr (popFrontRaw_eq_none.mp hpop)
      | some popped =>
        obtain ⟨item, q'⟩ := popped
        have hitems := (popFrontRaw_eq_some hpop).1
        refine ih ?_
        show q'.items.length ≤ fuel
        rw [hitems, List.length_cons] at h
        omega

/-- More rounds change nothing. -/
theorem evictIn_eq (fuel : ℕ) (h : q.items.length ≤ fuel) :
    evictIn top n fuel q = evictIn top n q.items.length q := by
  induction fuel generalizing q with
  | zero => rw [Nat.le_zero.mp h]
  | succ fuel ih =>
    cases hitems : q.items with
    | nil =>
      have hpop : q.popFrontRaw = none := popFrontRaw_eq_none.mpr hitems
      unfold evictIn
      rw [hpop]
      split_ifs <;> rfl
    | cons item rest =>
      rw [hitems, List.length_cons] at h
      have hpop : q.popFrontRaw =
          some (item, { q with items := rest, bytes := q.bytes - item.bytes.length }) := by
        rw [popFrontRaw, hitems]
      have hrest := ih (show (SampleWriteQueue.recordGap
        { q with items := rest, bytes := q.bytes - item.bytes.length }).items.length ≤ fuel by
          exact Nat.le_of_succ_le_succ h)
      rw [List.length_cons, evictIn, evictIn, hpop]
      split_ifs
      · rfl
      · exact hrest

/-- An empty queue has room for every frame that is not over the budget. -/
theorem Budgeted.canFitIn_of_empty (h : q.Budgeted) (hitems : q.items = []) (hn : n ≤ q.maxBytes)
    (hsat : q.Unsaturated top n) : q.canFitIn top n = true := by
  have hbytes : q.bytes = 0 := by
    rw [h.bytes_eq, queuedBytes, hitems]
    rfl
  have hone := h.one_le_maxSamples
  refine (canFitIn_iff hsat).mpr ⟨hn, ?_, ?_⟩
  · rw [hitems]
    exact hone
  · rw [hbytes, Nat.zero_add]
    exact hn

/-- **The newest frame is queued** when it is not over the byte budget by itself. -/
theorem Budgeted.admitIn_eq_push (h : q.Budgeted) {frame : List UInt8}
    (hsat : q.Unsaturated top frame.length) (hlen : frame.length ≤ q.maxBytes)
    (channelId : UInt32) :
    q.admitIn top channelId frame =
        (evictIn top frame.length q.items.length q).pushIn top channelId false frame ∧
      (evictIn top frame.length q.items.length q).canFitIn top frame.length = true := by
  have hevicted : Evicted q (evictIn top frame.length q.items.length q) :=
    h.evicted_evictIn q.items.length
  have hfit : (evictIn top frame.length q.items.length q).canFitIn top frame.length = true := by
    have hend : _ ∨ (evictIn top frame.length q.items.length q).items = [] :=
      canFitIn_evictIn q.items.length (le_refl _)
    rcases hend with hfit | hempty
    · exact hfit
    · refine hevicted.budgeted.canFitIn_of_empty hempty ?_ (hevicted.unsaturated h hsat)
      rw [hevicted.maxBytes_eq]
      exact hlen
  refine ⟨?_, hfit⟩
  rw [admitIn, if_neg (not_lt.mpr hlen)]
  exact if_pos hfit

/-- A best-effort frame is queued, or one more gap is counted. -/
theorem Budgeted.evicted_admitIn (h : q.Budgeted) {frame : List UInt8}
    (hsat : q.Unsaturated top frame.length) (channelId : UInt32) :
    (q.admitIn top channelId frame).Budgeted ∧
      (q.admitIn top channelId frame).maxSamples = q.maxSamples ∧
      (q.admitIn top channelId frame).maxBytes = q.maxBytes ∧
      (q.admitIn top channelId frame).items.length +
          (q.admitIn top channelId frame).dispositions.sequenceGap =
        q.items.length + q.dispositions.sequenceGap + 1 := by
  by_cases hlong : q.maxBytes < frame.length
  · rw [admitIn, if_pos hlong]
    exact ⟨h.recordGap, rfl, rfl, rfl⟩
  · obtain ⟨heq, hfit⟩ := h.admitIn_eq_push hsat (not_lt.mp hlong) channelId
    have hevicted : Evicted q (evictIn top frame.length q.items.length q) :=
      h.evicted_evictIn q.items.length
    have haccounts := hevicted.accounts
    rw [heq]
    refine ⟨hevicted.budgeted.push (hevicted.unsaturated h hsat) hfit channelId false, hevicted.maxSamples_eq,
      hevicted.maxBytes_eq, ?_⟩
    show (_ ++ [_]).length + _ = _
    rw [List.length_append, List.length_singleton]
    show _ + 1 + (evictIn top frame.length q.items.length q).dispositions.sequenceGap = _
    omega

/-! ## The gateway's queue -/

theorem canFitIn_eq (hsat : q.Unsaturated top n) : q.canFitIn top n = q.canFit n := by
  rw [Bool.eq_iff_iff, canFitIn_iff hsat]
  simp [canFit, and_assoc]

theorem pushIn_eq {frame : List UInt8} (hsat : q.Unsaturated top frame.length)
    (hfit : q.canFitIn top frame.length = true) (channelId : UInt32) (reliable : Bool) :
    q.pushIn top channelId reliable frame = q.push channelId reliable frame := by
  rw [pushIn, push, saturatingAdd_eq hsat hfit]

theorem evictIn_eq_evict (h : q.Budgeted) (hsat : q.Unsaturated top n) (fuel : ℕ) :
    evictIn top n fuel q = q.evict n fuel := by
  induction fuel generalizing q with
  | zero => rfl
  | succ fuel ih =>
    rw [evictIn, evict, canFitIn_eq hsat]
    split_ifs
    · rfl
    · cases hpop : q.popFrontRaw with
      | none => rfl
      | some popped =>
        obtain ⟨item, q'⟩ := popped
        obtain ⟨hbudgeted, -, hbytes, -, hle, -⟩ := h.pop hpop
        refine ih hbudgeted.recordGap ?_
        show q'.maxBytes < top ∨ q'.bytes + n ≤ top
        rw [hbytes, hbudgeted.bytes_eq]
        refine hsat.imp_right fun hsum => ?_
        rw [h.bytes_eq] at hsum
        omega

/-- **The gateway admits as this queue does**, short of saturation. -/
theorem admitIn_eq (h : q.Budgeted) {frame : List UInt8} (hsat : q.Unsaturated top frame.length)
    (channelId : UInt32) : q.admitIn top channelId frame = q.admitBestEffort channelId frame := by
  have hevicted : Evicted q (evictIn top frame.length q.items.length q) :=
    h.evicted_evictIn q.items.length
  have hrest := hevicted.unsaturated h hsat
  rw [admitIn, admitBestEffort]
  split_ifs
  · rfl
  · rw [← evictIn_eq_evict h hsat]
    dsimp only
    rw [← canFitIn_eq hrest]
    split_ifs with hfit
    · exact pushIn_eq hrest hfit channelId false
    · rfl

end SampleWriteQueue

/-! ## Runs -/

open SampleWriteQueue

/-- An operation on the queue.  A reliable frame is pushed when there is room for it. -/
inductive QueueOp where
  | admitBestEffort (channelId : UInt32) (frame : List UInt8)
  | reliable (channelId : UInt32) (frame : List UInt8)
  | popFront
  deriving DecidableEq, Repr

/-- The length of the frame at hand. -/
def QueueOp.frameLen : QueueOp → ℕ
  | .admitBestEffort _ frame | .reliable _ frame => frame.length
  | .popFront => 0

/-- A queue, and what has been done to it. -/
structure QueueLedger where
  queue : SampleWriteQueue
  offered : ℕ
  pushed : ℕ
  popped : ℕ

namespace QueueLedger

def start (maxSamples maxBytes : ℕ) : QueueLedger := ⟨.new maxSamples maxBytes, 0, 0, 0⟩

def step (top : ℕ) (l : QueueLedger) : QueueOp → QueueLedger
  | .admitBestEffort channelId frame =>
    { l with queue := l.queue.admitIn top channelId frame, offered := l.offered + 1 }
  | .reliable channelId frame =>
    if l.queue.canFitIn top frame.length then
      { l with queue := l.queue.pushIn top channelId true frame, pushed := l.pushed + 1 }
    else l
  | .popFront =>
    match l.queue.popFrontRaw with
    | none => l
    | some (_, queue) => { l with queue := queue, popped := l.popped + 1 }

/-- Counting the frame at hand does not saturate. -/
def Unsaturated (top : ℕ) (l : QueueLedger) (op : QueueOp) : Prop :=
  l.queue.Unsaturated top op.frameLen

/-- **The accounts of a run.** -/
structure Balanced (maxSamples maxBytes : ℕ) (l : QueueLedger) : Prop where
  budgeted : l.queue.Budgeted
  maxSamples_eq : l.queue.maxSamples = max maxSamples 1
  maxBytes_eq : l.queue.maxBytes = max maxBytes 1
  accounts : l.offered + l.pushed =
    l.popped + l.queue.items.length + l.queue.dispositions.sequenceGap

variable {top maxSamples maxBytes : ℕ} {l : QueueLedger} {op : QueueOp}

theorem balanced_start (maxSamples maxBytes : ℕ) :
    (start maxSamples maxBytes).Balanced maxSamples maxBytes :=
  ⟨budgeted_new maxSamples maxBytes, rfl, rfl, rfl⟩

/-- **Every operation keeps the accounts.** -/
theorem Balanced.step (h : l.Balanced maxSamples maxBytes) (hsat : l.Unsaturated top op) :
    (l.step top op).Balanced maxSamples maxBytes := by
  have haccounts := h.accounts
  cases op with
  | admitBestEffort channelId frame =>
    obtain ⟨hbudgeted, hsamples, hbytes, hcount⟩ := h.budgeted.evicted_admitIn hsat channelId
    refine ⟨hbudgeted, hsamples.trans h.maxSamples_eq, hbytes.trans h.maxBytes_eq, ?_⟩
    show l.offered + 1 + l.pushed = l.popped + (l.queue.admitIn top channelId frame).items.length +
      (l.queue.admitIn top channelId frame).dispositions.sequenceGap
    omega
  | reliable channelId frame =>
    simp only [QueueLedger.step]
    split_ifs with hfit
    · refine ⟨h.budgeted.push hsat hfit channelId true, h.maxSamples_eq, h.maxBytes_eq, ?_⟩
      show l.offered + (l.pushed + 1) = l.popped + (l.queue.items ++ [_]).length +
        l.queue.dispositions.sequenceGap
      rw [List.length_append, List.length_singleton]
      omega
    · exact h
  | popFront =>
    simp only [QueueLedger.step]
    cases hpop : l.queue.popFrontRaw with
    | none => exact h
    | some popped =>
      obtain ⟨item, queue⟩ := popped
      obtain ⟨hbudgeted, hsamples, hbytes, hlength, -, hgaps⟩ := h.budgeted.pop hpop
      refine ⟨hbudgeted, hsamples.trans h.maxSamples_eq, hbytes.trans h.maxBytes_eq, ?_⟩
      show l.offered + l.pushed = l.popped + 1 + queue.items.length +
        queue.dispositions.sequenceGap
      rw [hgaps]
      omega

theorem balanced_run {ops : List QueueOp}
    (hsat : max maxBytes 1 < top ∨
      Acts.Meets (step top) (Unsaturated top) (start maxSamples maxBytes) ops) :
    (Acts.run (step top) (start maxSamples maxBytes) ops).Balanced maxSamples maxBytes := by
  rcases hsat with hbudget | hsat
  · refine Acts.invariant_run_of_step (Balanced maxSamples maxBytes) ?_
      (balanced_start maxSamples maxBytes) ops
    intro l op h
    refine h.step (.inl ?_)
    rw [h.maxBytes_eq]
    exact hbudget
  · exact Acts.invariant_run (Balanced maxSamples maxBytes)
      (fun _ _ h hsat => h.step hsat) (balanced_start maxSamples maxBytes) hsat

/-- **Budgets and accounts of the write queue**, after any operations short of saturation: both
budgets hold, the byte counter is the sum of the queued lengths, and every frame that went in was
popped, is queued or is a gap.  For a next best-effort frame the eviction loop ends, and the frame
is the last one queued unless it is over the byte budget by itself. -/
theorem queue_accounts (top maxSamples maxBytes : ℕ) (ops : List QueueOp)
    (hsat : max maxBytes 1 < top ∨
      Acts.Meets (step top) (Unsaturated top) (start maxSamples maxBytes) ops) :
    let l := Acts.run (step top) (start maxSamples maxBytes) ops
    l.queue.items.length ≤ max maxSamples 1 ∧
    l.queue.bytes = (l.queue.items.map fun item => item.bytes.length).sum ∧
    l.queue.bytes ≤ max maxBytes 1 ∧
    l.offered + l.pushed =
      l.popped + l.queue.items.length + l.queue.dispositions.sequenceGap ∧
    ∀ channelId frame,
      (∀ fuel, l.queue.items.length ≤ fuel →
        evictIn top frame.length fuel l.queue =
            evictIn top frame.length l.queue.items.length l.queue ∧
          ((evictIn top frame.length fuel l.queue).canFitIn top frame.length = true ∨
            (evictIn top frame.length fuel l.queue).items = [])) ∧
      ((max maxBytes 1 < top ∨ l.queue.bytes + frame.length ≤ top) →
        frame.length ≤ max maxBytes 1 →
        (l.queue.admitIn top channelId frame).items.getLast? = some ⟨channelId, false, frame⟩) := by
  intro l
  have h : l.Balanced maxSamples maxBytes := balanced_run hsat
  refine ⟨?_, h.budgeted.bytes_eq, ?_, h.accounts, ?_⟩
  · rw [← h.maxSamples_eq]
    exact h.budgeted.length_le
  · rw [← h.maxBytes_eq]
    exact h.budgeted.bytes_le
  intro channelId frame
  rw [← h.maxBytes_eq]
  refine ⟨?_, ?_⟩
  · intro fuel hfuel
    exact ⟨evictIn_eq fuel hfuel, canFitIn_evictIn fuel hfuel⟩
  · intro hframe hlen
    rw [(h.budgeted.admitIn_eq_push hframe hlen channelId).1]
    exact List.getLast?_concat

/-- Two best-effort frames through a queue of one, and a reliable one that finds no room. -/
theorem queue_accounts_of_three :
    let l := Acts.run (step (2 ^ 64 - 1)) (start 1 8)
      [.admitBestEffort 1 [1, 2], .admitBestEffort 1 [3], .reliable 2 [4]]
    l.queue.items.length ≤ max 1 1 ∧ l.offered + l.pushed = l.popped + l.queue.items.length +
      l.queue.dispositions.sequenceGap := by
  have h := queue_accounts (2 ^ 64 - 1) 1 8
    [.admitBestEffort 1 [1, 2], .admitBestEffort 1 [3], .reliable 2 [4]] (.inl (by decide))
  exact ⟨h.1, h.2.2.2.1⟩

end QueueLedger
end Gateway
end Rclweb
