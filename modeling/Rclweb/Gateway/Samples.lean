import Rclweb.Gateway.Connection
import Rclweb.Library.Outbox
import Rclweb.Protocol.FrameRoundTrip

/-!
# Samples on the way out

A sample of the backend gets its header in place and waits in the write queue.  The
sequences of a channel are an outbox (`Numbering.Outbox`): the ones of best-effort channels
are lossy, the ones of reliable channels are all sent, as long as no best-effort sample pushes
a reliable frame out of the queue.  The queue itself does not prevent that: it evicts its
oldest frame, whichever it is.
-/

namespace Rclweb

open Rclweb.Frame

namespace Gateway

/-! ## Framing -/

/-- The header of the next sample of a channel. -/
def ChannelRuntime.sampleHeader (runtime : ChannelRuntime) (channelId : UInt32) : FrameHeader :=
  ⟨0, opcodeRosSample, if runtime.reliable then flagRosReliable else 0, channelId,
    UInt64.ofNat runtime.seqOut, 0, runtime.priority, 0⟩

/-- A channel after a sample was framed. -/
def ChannelRuntime.framed (runtime : ChannelRuntime) : ChannelRuntime :=
  { runtime with seqOut := runtime.seqOut + 1 }

/-- **The buffer can be framed**: it has room for the header, and the payload length, cut to
32 bits, is within the limit. -/
def Frameable (frameBuf : List UInt8) : Prop :=
  frameHeaderLength ≤ frameBuf.length ∧
    (UInt32.ofNat (frameBuf.length - sampleHeaderPrefix)).toNat ≤ framePayloadMaxBytes

instance (frameBuf : List UInt8) : Decidable (Frameable frameBuf) := by
  unfold Frameable
  infer_instance

/-- The buffer with its header filled in. -/
def ChannelRuntime.frameBytes (runtime : ChannelRuntime) (sample : SubscriptionSample) :
    List UInt8 :=
  Encode.headerBytes (runtime.sampleHeader sample.channelId)
    (UInt32.ofNat (sample.frameBuf.length - sampleHeaderPrefix)) 0 ++ payloadOf sample.frameBuf

/-- **What framing a sample does.** -/
theorem ConnState.frameSample_eq {conn : ConnState} {sample : SubscriptionSample}
    {runtime : ChannelRuntime} (h : conn.channels.find? sample.channelId = some runtime)
    (hkind : runtime.kind = .topicSubscribe) :
    conn.frameSample sample =
      if Frameable sample.frameBuf then
        some (runtime.frameBytes sample,
          { conn with channels := conn.channels.set sample.channelId runtime.framed })
      else none := by
  have hopcode : ¬ (opcodeRosSample = opcodeControlCbor) := by decide
  unfold ConnState.frameSample Encode.writeFrameHeader
  rw [h]
  dsimp only
  rw [if_neg (not_not_intro hkind)]
  by_cases hlen : sample.frameBuf.length < frameHeaderLength
  · rw [if_pos hlen, if_neg fun hf : Frameable sample.frameBuf => absurd hf.1 (by omega)]
  rw [if_neg hlen]
  by_cases hle : (UInt32.ofNat (sample.frameBuf.length - sampleHeaderPrefix)).toNat >
      framePayloadMaxBytes
  · rw [if_pos hle, if_neg fun hf : Frameable sample.frameBuf => absurd hf.2 (by omega)]
  · have hframe : Frameable sample.frameBuf := ⟨by omega, by omega⟩
    rw [if_neg hle, if_neg fun hcontrol => hopcode hcontrol.1, if_pos hframe]
    rfl

/-- The sequence in the header of framed bytes. -/
theorem sequence_frameBytes (runtime : ChannelRuntime) (sample : SubscriptionSample) :
    (readHeader (runtime.frameBytes sample)).sequence = UInt64.ofNat runtime.seqOut := by
  rw [ChannelRuntime.frameBytes, readHeader_headerBytes]
  rfl

theorem length_frameBytes (runtime : ChannelRuntime) {sample : SubscriptionSample}
    (h : Frameable sample.frameBuf) :
    (runtime.frameBytes sample).length = sample.frameBuf.length := by
  have hlen := h.1
  rw [ChannelRuntime.frameBytes, List.length_append, length_headerBytes, payloadOf,
    List.length_drop, sampleHeaderPrefix]
  omega

/-- **What admitting a sample does**: nothing, or its frame is queued the way of its channel, which
takes room in the queue if the channel is reliable. -/
theorem ConnState.admitSample_cases (conn : ConnState) (queue : SampleWriteQueue)
    (sample : SubscriptionSample) :
    conn.admitSample queue sample = (conn, queue) ∨
      ∃ runtime, conn.channels.find? sample.channelId = some runtime ∧
        runtime.kind = .topicSubscribe ∧ Frameable sample.frameBuf ∧
        (runtime.reliable = true → queue.canFit sample.frameBuf.length = true) ∧
        conn.admitSample queue sample =
          ({ conn with channels := conn.channels.set sample.channelId runtime.framed },
            if runtime.reliable then
              queue.pushReliable sample.channelId (runtime.frameBytes sample)
            else queue.admitBestEffort sample.channelId (runtime.frameBytes sample)) := by
  unfold ConnState.admitSample
  cases h : conn.channels.find? sample.channelId with
  | none => exact .inl rfl
  | some runtime =>
    dsimp only
    by_cases hkind : runtime.kind = .topicSubscribe
    swap
    · exact .inl (if_pos hkind)
    rw [if_neg (not_not_intro hkind)]
    split
    · exact .inl rfl
    next hroom =>
    rw [ConnState.frameSample_eq h hkind]
    by_cases hframe : Frameable sample.frameBuf
    · rw [if_pos hframe]
      have hfit (hreliable : runtime.reliable = true) :
          queue.canFit sample.frameBuf.length = true := by
        simpa [hreliable, SampleWriteQueue.tryReserveReliable] using hroom
      refine .inr ⟨runtime, rfl, hkind, hframe, hfit, ?_⟩
      dsimp only
      split <;> rfl
    · rw [if_neg hframe]
      exact .inl rfl

/-! ## Eviction -/

namespace SampleWriteQueue

/-- The queue without its oldest frames. -/
def dropFront (q : SampleWriteQueue) : ℕ → SampleWriteQueue
  | 0 => q
  | n + 1 =>
    match q.popFrontRaw with
    | none => q
    | some (_, q) => q.dropFront n

@[simp] theorem canFit_recordGap (q : SampleWriteQueue) (n : ℕ) :
    q.recordGap.canFit n = q.canFit n := rfl

@[simp] theorem items_recordGap (q : SampleWriteQueue) : q.recordGap.items = q.items := rfl

theorem popFrontRaw_cons {q : SampleWriteQueue} {f : QueuedFrame} {rest : List QueuedFrame}
    (h : q.items = f :: rest) :
    q.popFrontRaw = some (f, { q with items := rest, bytes := q.bytes - f.bytes.length }) := by
  simp only [popFrontRaw, h]

theorem items_dropFront (q : SampleWriteQueue) (n : ℕ) :
    (q.dropFront n).items = q.items.drop n := by
  induction n generalizing q with
  | zero => rfl
  | succ n ih =>
    cases h : q.items with
    | nil => simp [dropFront, popFrontRaw, h]
    | cons f rest =>
      rw [dropFront, popFrontRaw_cons h]
      exact ih _

theorem canFit_dropFront_recordGap (q : SampleWriteQueue) (n len : ℕ) :
    (q.recordGap.dropFront n).canFit len = (q.dropFront n).canFit len := by
  induction n generalizing q with
  | zero => rfl
  | succ n ih =>
    cases h : q.items with
    | nil =>
      simp [dropFront, popFrontRaw, h]
    | cons f rest =>
      have h' : q.recordGap.items = f :: rest := h
      rw [dropFront, dropFront, popFrontRaw_cons h, popFrontRaw_cons h']
      exact ih { q with items := rest, bytes := q.bytes - f.bytes.length }

/-- **Eviction drops the oldest frames** until there is room, and none of them too many. -/
theorem evict_spec (q : SampleWriteQueue) (len fuel : ℕ) :
    ∃ n, (q.evict len fuel).items = q.items.drop n ∧
      ∀ i < n, (q.dropFront i).canFit len = false := by
  induction fuel generalizing q with
  | zero => exact ⟨0, rfl, fun i hi => absurd hi (Nat.not_lt_zero i)⟩
  | succ fuel ih =>
    unfold evict
    by_cases hfit : q.canFit len = true
    · rw [if_pos hfit]
      exact ⟨0, rfl, fun i hi => absurd hi (Nat.not_lt_zero i)⟩
    rw [if_neg hfit]
    cases h : q.items with
    | nil =>
      have hnone : q.popFrontRaw = none := by simp only [popFrontRaw, h]
      rw [hnone]
      exact ⟨0, h, fun i hi => absurd hi (Nat.not_lt_zero i)⟩
    | cons f rest =>
      rw [popFrontRaw_cons h]
      obtain ⟨n, hitems, hfull⟩ :=
        ih ({ q with items := rest, bytes := q.bytes - f.bytes.length } : SampleWriteQueue).recordGap
      refine ⟨n + 1, hitems, fun i hi => ?_⟩
      cases i with
      | zero => exact Bool.eq_false_iff.mpr hfit
      | succ i =>
        rw [dropFront, popFrontRaw_cons h]
        have hi' := hfull i (by omega)
        rwa [canFit_dropFront_recordGap] at hi'

/-- **No reliable frame is pushed out** by a frame of the given length: the frame can never
fit, or there is room before a reliable frame would have to go. -/
def Spares (q : SampleWriteQueue) (len : ℕ) : Prop :=
  len ≤ q.maxBytes → ∀ n f, q.items[n]? = some f → f.reliable = true →
    ∃ m ≤ n, (q.dropFront m).canFit len = true

/-- Admitting a best-effort frame drops some of the oldest frames, none of them reliable if the
queue spares those, and queues the frame or not. -/
theorem admitBestEffort_items {q : SampleWriteQueue} {frame : List UInt8} (channelId : UInt32)
    (h : q.Spares frame.length) :
    ∃ n, (∀ f ∈ q.items.take n, f.reliable = false) ∧
      ((q.admitBestEffort channelId frame).items = q.items.drop n ∨
        (q.admitBestEffort channelId frame).items =
          q.items.drop n ++ [⟨channelId, false, frame⟩]) := by
  unfold admitBestEffort
  by_cases hlen : q.maxBytes < frame.length
  · rw [if_pos hlen]
    exact ⟨0, nofun, .inl rfl⟩
  rw [if_neg hlen]
  obtain ⟨n, hitems, hfull⟩ := q.evict_spec frame.length q.items.length
  refine ⟨n, fun f hf => ?_, ?_⟩
  · by_contra hreliable
    obtain ⟨i, hi, hget⟩ := List.mem_take_iff_getElem.mp hf
    have hsome : q.items[i]? = some f := by
      rw [List.getElem?_eq_getElem (by omega), hget]
    obtain ⟨m, hm, hfit⟩ := h (by omega) i f hsome (by simpa using hreliable)
    have hnofit := hfull m (by omega)
    rw [hfit] at hnofit
    contradiction
  · dsimp only
    split
    · refine .inr ?_
      rw [← hitems]
      rfl
    · exact .inl hitems

end SampleWriteQueue

end Gateway
end Rclweb
