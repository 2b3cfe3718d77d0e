import Rclweb.Host.Retain

/-!
# Host leases

A sample without extensions does not enter the engine: the host pins the message under a lease id
of its own and tells the application the channel and the bytes behind the header.  The table of
pins and the counter their ids are cut from belong to the module, so all engines of a page share
them.

The upper half of the 32-bit ids is the host's.
-/

namespace Rclweb

open Rclweb.Frame Engine

namespace Host

/-- A pinned message, and the engine it arrived for. -/
structure HostLease where
  frame : List UInt8
  handle : UInt32
  deriving DecidableEq, Repr

structure HostEngineCounters where
  samplesEmitted : ℕ := 0
  leasesReleased : ℕ := 0
  deriving DecidableEq, Repr

/-- **The host's side of the data plane**: the module-level state of the browser code. -/
structure HostState where
  hostLeaseSeq : ℕ := 1
  hostLeases : Table UInt32 HostLease := ∅
  hostEngineTelemetry : Table UInt32 HostEngineCounters := ∅

def opcodeRosSample : UInt8 := 2
def hostLeaseFlag : UInt32 := 0x80000000

def isHostLeaseId (leaseId : UInt32) : Bool := hostLeaseFlag ≤ leaseId

/-- `n++` on a number: past `2 ^ 53` the sum is rounded back. -/
def increment (n : ℕ) : ℕ := if n < 2 ^ 53 then n + 1 else n

/-- The id a value of the counter gives. -/
def hostLeaseId (seq : ℕ) : UInt32 := hostLeaseFlag ||| (UInt32.ofNat seq &&& 0x7fffffff)

/-- A sample event; `hostPayload` is the body the host kept. -/
structure SampleAppEvent where
  channelId : ℕ
  leaseId : UInt32
  sequence : UInt64
  sourceTimeNs : Int64
  payloadPtr : ℕ
  payloadLen : ℕ
  stringData : Option String
  hostPayload : Option (List UInt8)
  deriving DecidableEq, Repr

/-- A complete `ROS_SAMPLE` without extensions. -/
def isCompleteNoExtRosSample (bytes : List UInt8) : Bool :=
  if bytes.length < r2wpHeaderLen then false
  else if bytes.getD 0 0 ≠ 0 ∨ bytes.getD 1 0 ≠ opcodeRosSample then false
  else if bytes.getD 28 0 ≠ 0 ∨ bytes.getD 29 0 ≠ 0 then false
  else
    let payloadLen := readU32BE bytes 24
    payloadLen != 0 && r2wpHeaderLen + payloadLen == bytes.length

namespace HostState

def hostCounters (s : HostState) (handle : UInt32) : HostEngineCounters :=
  (s.hostEngineTelemetry.find? handle).getD {}

/-- The pins and counters of an engine that is freed. -/
def dropHostEngine (s : HostState) (handle : UInt32) : HostState :=
  let dropped := s.hostLeases.keys.filter fun id =>
    (s.hostLeases.find? id).any (·.handle == handle)
  { s with
    hostLeases := dropped.foldl (fun table id => table.remove id) s.hostLeases
    hostEngineTelemetry := s.hostEngineTelemetry.remove handle }

/-- Release a pinned sample without a poll batch. -/
def tryReleaseHostLease (s : HostState) (leaseId : UInt32) : Bool × HostState :=
  match s.hostLeases.find? leaseId with
  | none => (false, s)
  | some lease =>
    let counters := s.hostCounters lease.handle
    (true,
      { s with
        hostLeases := s.hostLeases.remove leaseId
        hostEngineTelemetry := s.hostEngineTelemetry.set lease.handle
          { counters with leasesReleased := counters.leasesReleased + 1 } })

def allocHostLease (s : HostState) (handle : UInt32) (frame : List UInt8) : UInt32 × HostState :=
  let leaseId := hostLeaseId s.hostLeaseSeq
  let counters := s.hostCounters handle
  (leaseId,
    { hostLeaseSeq := increment s.hostLeaseSeq
      hostLeases := s.hostLeases.set leaseId ⟨frame, handle⟩
      hostEngineTelemetry := s.hostEngineTelemetry.set handle
        { counters with samplesEmitted := counters.samplesEmitted + 1 } })

/-- Pin a sample that is polled behind others. -/
def pinHostSample (s : HostState) (handle : UInt32) (frame : List UInt8) (prefixLen : ℕ) :
    SampleAppEvent × HostState :=
  let (leaseId, s) := s.allocHostLease handle frame
  (⟨readU32BE frame 4, leaseId, 0, 0, 0, frame.length - prefixLen, none,
    some (frame.drop prefixLen)⟩, s)

/-- **Pin a sample that arrives while nothing is queued**; `none` when the message is anything
else.  The other fields of the reused event object are never written. -/
def tryPinHostSample (s : HostState) (handle : UInt32) (bytes : List UInt8) :
    Option (SampleAppEvent × HostState) :=
  if !isCompleteNoExtRosSample bytes then none
  else
    let (leaseId, s) := s.allocHostLease handle bytes
    some (⟨readU32BE bytes 4, leaseId, 0, 0, 0, bytes.length - r2wpHeaderLen, none,
      some (bytes.drop r2wpHeaderLen)⟩, s)

end HostState
end Host
end Rclweb
