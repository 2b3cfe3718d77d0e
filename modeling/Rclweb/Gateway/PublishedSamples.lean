import Rclweb.Gateway.Connection
import Rclweb.Library.Acts

/-!
# The samples a client publishes

A run of `handlePublishSample` on one channel of the publishing kind, frame after frame, and the
numbers of the samples that are forwarded to the backend.  The number expected next is kept in 64
bits, as the number of the last sample plus one.

As long as no sample with the largest number is admitted, a reliable channel forwards `0, 1, 2, …`
and a best-effort channel forwards ascending numbers (`samples_in_order`).  Behind the largest number
the expected one wraps to zero, and the numbers begin again.
-/

namespace Rclweb
namespace Gateway

open Rclweb.Frame

/-- A published sample that arrives on a channel, with the answers of the backend should it be
asked. -/
structure PublishedSample (id : UInt32) where
  frame : DecodedFrame
  inbound : List UInt8
  answers : (op : BackendOp) → op.Answer
  onChannel : frame.channelId = id
  application : ∃ bytes, frame.payload = .application bytes

/-- The connection, the numbers forwarded so far, and whether the session has failed. -/
structure PublishRun where
  conn : ConnState
  forwarded : List UInt64
  closed : Bool

namespace PublishRun

/-- A connection with a fresh channel. -/
def start (conn : ConnState) (id : UInt32) (runtime : ChannelRuntime) : PublishRun where
  conn := { conn with channels := conn.channels.set id { runtime with seqIn := 0 } }
  forwarded := []
  closed := false

/-- Whether a handler asks the backend to publish. -/
def publishes : Task Turn → Bool
  | .await (.publish _ _) _ => true
  | _ => false

/-- **The next sample.**  A failed session takes none. -/
def step {id : UInt32} (s : PublishRun) (p : PublishedSample id) : PublishRun :=
  if s.closed then s
  else
    let task := Turn.handlePublishSample ⟨s.conn, {}⟩ p.frame p.inbound
    let t := task.run p.answers
    { conn := t.conn
      forwarded := s.forwarded ++ (if publishes task then [p.frame.sequence] else [])
      closed := t.outcome.close }

/-- The flags of a sample are those of its channel. -/
def FlagsFit (runtime : ChannelRuntime) (frame : DecodedFrame) : Prop :=
  (frame.flags &&& flagRosReliable != 0) = runtime.reliable ∧
    ¬ (frame.flags &&& flagRetained ≠ 0 ∧ !runtime.transientLocal)

/-- The number of a sample is one the channel takes. -/
def Takes (runtime : ChannelRuntime) (sequence : UInt64) : Prop :=
  if runtime.reliable then sequence = runtime.seqIn else runtime.seqIn ≤ sequence

/-- **A sample with the largest number is taken**, and the number after it is computed. -/
def Tops {id : UInt32} (s : PublishRun) (p : PublishedSample id) : Prop :=
  s.closed = false ∧ ∃ runtime, s.conn.channels.find? id = some runtime ∧
    FlagsFit runtime p.frame ∧ Takes runtime p.frame.sequence ∧
      p.frame.sequence.toNat = 2 ^ 64 - 1

/-- **What the published samples should be**: on a reliable channel `0, 1, 2, …`, on a best-effort
channel ascending, and each has a number after it. -/
structure InOrder (reliable : Bool) (forwarded : List UInt64) : Prop where
  contiguous : reliable = true → forwarded.map UInt64.toNat = List.range forwarded.length
  ascending : reliable = false → forwarded.Pairwise (· < ·)
  bounded : ∀ n ∈ forwarded, n.toNat + 1 < 2 ^ 64

/-- A reliable channel takes the next number and fails the session on any other. -/
def Refuses {id : UInt32} (reliable : Bool) (s : PublishRun) (p : PublishedSample id) : Prop :=
  reliable = true → s.closed = false → p.frame.sequence.toNat ≠ s.forwarded.length →
    (s.step p).closed = true ∧ (s.step p).forwarded = s.forwarded

/-! ## One sample -/

section Handler

variable {t : Turn}

theorem channels_pushControl (message : CborValue) :
    (t.pushControl message).1.conn.channels = t.conn.channels := by
  unfold Turn.pushControl
  split
  · rfl
  · split <;> rfl

theorem close_failSession (err : ProtocolError) : (t.failSession err).outcome.close = true := by
  unfold Turn.failSession
  split <;> rfl

theorem channels_reportFailure (id : UInt32) (answer : Except BackendError Unit)
    (answers : (op : BackendOp) → op.Answer) :
    ((t.reportFailure id answer).run answers).conn.channels = t.conn.channels := by
  cases answer with
  | ok => rfl
  | error err =>
    rw [Turn.reportFailure, Program.run, Turn.pushChannelError]
    exact channels_pushControl _

end Handler

variable {id : UInt32} {s : PublishRun} {p : PublishedSample id} {runtime : ChannelRuntime}

/-- What a sample does when its flags are wrong. -/
theorem step_of_flags (hopen : s.closed = false) (hfind : s.conn.channels.find? id = some runtime)
    (hflags : ¬ FlagsFit runtime p.frame) :
    (s.step p).closed = true ∧ (s.step p).forwarded = s.forwarded := by
  have hfail : ∃ err, Turn.handlePublishSample ⟨s.conn, {}⟩ p.frame p.inbound =
      .pure (Turn.failSession ⟨s.conn, {}⟩ err) := by
    unfold Turn.handlePublishSample
    rw [p.onChannel, hfind]
    dsimp only
    split_ifs with hreliable hretained
    · exact ⟨_, rfl⟩
    · exact ⟨_, rfl⟩
    · exact absurd ⟨not_not.mp hreliable, hretained⟩ hflags
  obtain ⟨err, hfail⟩ := hfail
  unfold step
  rw [hopen, hfail]
  exact ⟨close_failSession err, List.append_nil _⟩

theorem handlePublishSample_of_flags (hfind : s.conn.channels.find? id = some runtime)
    (hflags : FlagsFit runtime p.frame) {bytes : List UInt8}
    (hpayload : p.frame.payload = .application bytes) :
    Turn.handlePublishSample ⟨s.conn, {}⟩ p.frame p.inbound =
      match Turn.admitSampleIn runtime p.frame.sequence with
      | none => .pure (Turn.failSession ⟨s.conn, {}⟩
          (.protocolViolation "reliable_sequence_mismatch" 8 25))
      | some none => .pure ⟨s.conn, {}⟩
      | some (some runtime) =>
        .await (.publish runtime.entity (framePayloadBytes p.inbound p.frame))
          ((Turn.setRuntime ⟨s.conn, {}⟩ id runtime).reportFailure id) := by
  unfold Turn.handlePublishSample
  rw [p.onChannel, hfind]
  dsimp only
  rewrite [if_neg (not_not.mpr hflags.1), if_neg hflags.2, hpayload]
  rcases Turn.admitSampleIn runtime p.frame.sequence with _ | _ | next <;> rfl

/-- **A sample that is taken** is forwarded, and the number after it is expected. -/
theorem step_of_takes (hopen : s.closed = false) (hfind : s.conn.channels.find? id = some runtime)
    (hflags : FlagsFit runtime p.frame) (htakes : Takes runtime p.frame.sequence) :
    (s.step p).forwarded = s.forwarded ++ [p.frame.sequence] ∧
      (s.step p).conn.channels.find? id =
        some { runtime with seqIn := p.frame.sequence + 1 } := by
  obtain ⟨bytes, hpayload⟩ := p.application
  have hoffered : Turn.admitSampleIn runtime p.frame.sequence =
      some (some { runtime with seqIn := p.frame.sequence + 1 }) := by
    unfold Takes at htakes
    unfold Turn.admitSampleIn
    split_ifs at htakes with hreliable
    · rw [if_pos hreliable, if_neg (not_not.mpr htakes), htakes]
    · rw [if_neg hreliable, if_pos htakes]
  have htask := handlePublishSample_of_flags hfind hflags hpayload
  rw [hoffered] at htask
  unfold step
  rw [hopen, htask]
  refine ⟨rfl, ?_⟩
  have hchannels := channels_reportFailure (t := Turn.setRuntime ⟨s.conn, {}⟩ id
    { runtime with seqIn := p.frame.sequence + 1 }) id
    (p.answers (.publish runtime.entity (framePayloadBytes p.inbound p.frame))) p.answers
  exact (congrArg (Table.find? · id) hchannels).trans (Table.find?_set_self _ _ _)

/-- A sample that is not taken fails a reliable session, and is passed over on a best-effort
channel. -/
theorem step_of_not_takes (hopen : s.closed = false)
    (hfind : s.conn.channels.find? id = some runtime) (hflags : FlagsFit runtime p.frame)
    (htakes : ¬ Takes runtime p.frame.sequence) :
    (s.step p).forwarded = s.forwarded ∧
      if runtime.reliable then (s.step p).closed = true else s.step p = s := by
  obtain ⟨bytes, hpayload⟩ := p.application
  have htask := handlePublishSample_of_flags hfind hflags hpayload
  unfold Takes at htakes
  split_ifs at htakes ⊢ with hreliable
  · have hoffered : Turn.admitSampleIn runtime p.frame.sequence = none := by
      rw [Turn.admitSampleIn, if_pos hreliable, if_pos htakes]
    rw [hoffered] at htask
    unfold step
    rw [hopen, htask]
    exact ⟨List.append_nil _, close_failSession _⟩
  · have hoffered : Turn.admitSampleIn runtime p.frame.sequence = some none := by
      rw [Turn.admitSampleIn, if_neg hreliable, if_neg htakes]
    rw [hoffered] at htask
    have hsame : s.step p = s := by
      unfold step
      rw [hopen, htask]
      show PublishRun.mk s.conn (s.forwarded ++ []) false = s
      rw [List.append_nil, ← hopen]
    exact ⟨by rw [hsame], hsame⟩

/-! ## Runs -/

/-- **The channel follows what was forwarded**: in order, and the number expected next is behind
all of it. -/
structure Follows (id : UInt32) (reliable : Bool) (s : PublishRun) : Prop where
  inOrder : InOrder reliable s.forwarded
  expects : s.closed = false → ∃ runtime, s.conn.channels.find? id = some runtime ∧
    runtime.reliable = reliable ∧ (∀ n ∈ s.forwarded, n < runtime.seqIn) ∧
      (reliable = true → runtime.seqIn.toNat = s.forwarded.length)

theorem toNat_succ {n : UInt64} (h : n.toNat ≠ 2 ^ 64 - 1) : (n + 1).toNat = n.toNat + 1 := by
  have hlt : n.toNat < 2 ^ 64 := n.toNat_lt
  rw [UInt64.toNat_add]
  exact Nat.mod_eq_of_lt (show n.toNat + 1 < 2 ^ 64 by omega)

/-- **A sample that does not top out keeps the order.** -/
theorem Follows.step {reliable : Bool} (h : s.Follows id reliable) (hbelow : ¬ s.Tops p) :
    (s.step p).Follows id reliable := by
  by_cases hclosed : s.closed = true
  · have hsame : s.step p = s := if_pos hclosed
    rw [hsame]
    exact h
  have hopen : s.closed = false := Bool.eq_false_iff.mpr hclosed
  obtain ⟨runtime, hfind, rfl, hahead, hcount⟩ := h.expects hopen
  by_cases hflags : FlagsFit runtime p.frame
  · by_cases htakes : Takes runtime p.frame.sequence
    · have hsmall : p.frame.sequence.toNat ≠ 2 ^ 64 - 1 := by
        intro htop
        exact hbelow ⟨hopen, runtime, hfind, hflags, htakes, htop⟩
      have hlt : p.frame.sequence.toNat < 2 ^ 64 := p.frame.sequence.toNat_lt
      have hsucc := toNat_succ hsmall
      obtain ⟨hforwarded, hnext⟩ := step_of_takes hopen hfind hflags htakes
      have hseq : runtime.seqIn.toNat ≤ p.frame.sequence.toNat := by
        unfold Takes at htakes
        split_ifs at htakes
        · rw [htakes]
        · exact UInt64.le_iff_toNat_le.mp htakes
      have hbehind : ∀ n ∈ s.forwarded, n < p.frame.sequence := by
        intro n hn
        rw [UInt64.lt_iff_toNat_lt]
        exact lt_of_lt_of_le (UInt64.lt_iff_toNat_lt.mp (hahead n hn)) hseq
      constructor
      · rw [hforwarded]
        constructor
        · intro hreliable
          have hnumber : p.frame.sequence.toNat = s.forwarded.length := by
            rw [Takes, if_pos hreliable] at htakes
            rw [htakes]
            exact hcount hreliable
          rw [List.map_append, h.inOrder.contiguous hreliable, List.length_append,
            List.length_singleton, List.range_succ, List.map_singleton, hnumber]
        · intro hbest
          rw [List.pairwise_append]
          refine ⟨h.inOrder.ascending hbest, List.pairwise_singleton _ _, ?_⟩
          intro n hn m hm
          rw [List.mem_singleton.mp hm]
          exact hbehind n hn
        · intro n hn
          rcases List.mem_append.mp hn with hn | hn
          · exact h.inOrder.bounded n hn
          · rw [List.mem_singleton.mp hn]
            omega
      · intro _
        refine ⟨_, hnext, rfl, ?_, ?_⟩
        · intro n hn
          rw [hforwarded] at hn
          rw [UInt64.lt_iff_toNat_lt]
          show n.toNat < (p.frame.sequence + 1).toNat
          rw [hsucc]
          rcases List.mem_append.mp hn with hn | hn
          · have := UInt64.lt_iff_toNat_lt.mp (hbehind n hn)
            omega
          · rw [List.mem_singleton.mp hn]
            exact Nat.lt_succ_self _
        · intro hreliable
          rw [Takes, if_pos hreliable] at htakes
          show (p.frame.sequence + 1).toNat = _
          rw [hsucc, hforwarded, List.length_append, List.length_singleton, ← hcount hreliable,
            ← htakes]
    · obtain ⟨hforwarded, hrest⟩ := step_of_not_takes hopen hfind hflags htakes
      by_cases hreliable : runtime.reliable = true
      · rw [if_pos hreliable] at hrest
        refine ⟨by rw [hforwarded]; exact h.inOrder, ?_⟩
        intro hopen'
        rw [hrest] at hopen'
        cases hopen'
      · rw [if_neg hreliable] at hrest
        rw [hrest]
        exact h
  · obtain ⟨hclosed', hforwarded⟩ := step_of_flags hopen hfind hflags
    refine ⟨by rw [hforwarded]; exact h.inOrder, ?_⟩
    intro hopen'
    rw [hclosed'] at hopen'
    cases hopen'

/-- A reliable session fails on every number but the next. -/
theorem Follows.refuses {reliable : Bool} (h : s.Follows id reliable) (p : PublishedSample id) :
    s.Refuses reliable p := by
  intro hreliable hopen hother
  obtain ⟨runtime, hfind, rfl, -, hcount⟩ := h.expects hopen
  by_cases hflags : FlagsFit runtime p.frame
  · have htakes : ¬ Takes runtime p.frame.sequence := by
      rw [Takes, if_pos hreliable]
      intro heq
      exact hother (heq ▸ hcount hreliable)
    obtain ⟨hforwarded, hrest⟩ := step_of_not_takes hopen hfind hflags htakes
    rw [if_pos hreliable] at hrest
    exact ⟨hrest, hforwarded⟩
  · exact step_of_flags hopen hfind hflags

/-- A sample that tops out is forwarded. -/
theorem Tops.forwarded (h : s.Tops p) : p.frame.sequence ∈ (s.step p).forwarded := by
  obtain ⟨hopen, runtime, hfind, hflags, htakes, -⟩ := h
  rw [(step_of_takes hopen hfind hflags htakes).1]
  exact List.mem_append_right _ List.mem_cons_self

/-- A best-effort sample with the given number. -/
def numbered (sequence : UInt64) : PublishedSample 1 where
  frame := ⟨0, opcodeRosSample, 0, 1, sequence, 0, 0, 0, 2, 0, [], .application []⟩
  inbound := []
  answers op := match op with
    | .create .. => .ok 0
    | .publish .. | .sendServiceResponse .. | .cancelAction .. | .sendActionFeedback ..
    | .sendActionResult .. | .sendActionStatus .. => .ok ()
    | .call .. | .sendActionGoal .. => .ok []
    | .graphView => .error ⟨0, ""⟩
    | .destroy _ => ()
  onChannel := rfl
  application := ⟨[], rfl⟩

end PublishRun
end Gateway
end Rclweb
