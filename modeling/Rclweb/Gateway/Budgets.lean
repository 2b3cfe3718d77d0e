import Rclweb.Gateway.Backend

/-!
# The sample write queue

Framed samples wait here for the transport, within a budget of frames and one of bytes.
Best-effort samples push older frames out; reliable ones are only queued when there is room.
-/

namespace Rclweb
namespace Gateway

/-- A framed sample. -/
structure QueuedFrame where
  channelId : UInt32
  reliable : Bool
  bytes : List UInt8
  deriving DecidableEq, Repr

/-- Counters of what became of the samples. -/
structure DispositionCounters where
  delivered : ℕ := 0
  sequenceGap : ℕ := 0
  staleSequence : ℕ := 0
  deriving DecidableEq, Repr

/-- **The bounded outbound queue of one connection**, oldest frame first; `bytes` is the sum
of the queued lengths. -/
structure SampleWriteQueue where
  maxSamples : ℕ
  maxBytes : ℕ
  items : List QueuedFrame
  bytes : ℕ
  dispositions : DispositionCounters
  deriving DecidableEq, Repr

namespace SampleWriteQueue

def new (maxSamples maxBytes : ℕ) : SampleWriteQueue :=
  ⟨max maxSamples 1, max maxBytes 1, [], 0, {}⟩

def canFit (q : SampleWriteQueue) (frameLen : ℕ) : Bool :=
  frameLen ≤ q.maxBytes && q.items.length < q.maxSamples && q.bytes + frameLen ≤ q.maxBytes

def recordGap (q : SampleWriteQueue) : SampleWriteQueue :=
  { q with
    dispositions := { q.dispositions with sequenceGap := q.dispositions.sequenceGap + 1 } }

def recordDelivered (q : SampleWriteQueue) : SampleWriteQueue :=
  { q with dispositions := { q.dispositions with delivered := q.dispositions.delivered + 1 } }

def push (q : SampleWriteQueue) (channelId : UInt32) (reliable : Bool) (frame : List UInt8) :
    SampleWriteQueue :=
  { q with items := q.items ++ [⟨channelId, reliable, frame⟩], bytes := q.bytes + frame.length }

/-- The oldest frame, and the queue without it. -/
def popFrontRaw (q : SampleWriteQueue) : Option (QueuedFrame × SampleWriteQueue) :=
  match q.items with
  | [] => none
  | item :: items => some (item, { q with items := items, bytes := q.bytes - item.bytes.length })

/-- Drop the oldest frames, `fuel` of them at most, until a frame of the given length fits. -/
def evict (q : SampleWriteQueue) (frameLen : ℕ) : (fuel : ℕ) → SampleWriteQueue
  | 0 => q
  | fuel + 1 =>
    if q.canFit frameLen then q
    else
      match q.popFrontRaw with
      | none => q
      | some (_, q) => q.recordGap.evict frameLen fuel

/-- **Admit a best-effort frame**: the latest one wins. -/
def admitBestEffort (q : SampleWriteQueue) (channelId : UInt32) (frame : List UInt8) :
    SampleWriteQueue :=
  if q.maxBytes < frame.length then q.recordGap
  else
    -- each round drops a frame, so the length of the queue is fuel enough
    let q := q.evict frame.length q.items.length
    if q.canFit frame.length then q.push channelId false frame else q.recordGap

def tryReserveReliable (q : SampleWriteQueue) (frameLen : ℕ) : Bool := q.canFit frameLen

def pushReliable (q : SampleWriteQueue) (channelId : UInt32) (frame : List UInt8) :
    SampleWriteQueue :=
  q.push channelId true frame

/-- The queue after everything in it was sent. -/
def drained (q : SampleWriteQueue) : SampleWriteQueue :=
  { q with
    items := []
    bytes := 0
    dispositions :=
      { q.dispositions with delivered := q.dispositions.delivered + q.items.length } }

end SampleWriteQueue
end Gateway
end Rclweb
