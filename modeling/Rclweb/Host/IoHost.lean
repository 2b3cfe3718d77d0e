import Mathlib.Logic.Relation
import Rclweb.Host.Poll

/-!
# The host of one connection

`IoHost` takes what the transport brings and what the application asks for, queues it, and polls
the engine with the queue in a microtask or when it is told to.  The events of a poll are
delivered one after the other to callbacks of the application, which may call back into the host:
ask for more, release leases, flush, close.

JavaScript runs to completion, so nothing arrives while a callback runs.  `delivering` is the
stack of the calls that are delivering, innermost first, with the events they have left.
-/

namespace Rclweb

open Engine

namespace Host

/-- The event of an inbound message is marked, to be told from the answers to commands. -/
abbrev Delivery := Bool × HostAppEvent

/-- **A host with a transport.**  The last four fields record the run; nothing reads them. -/
structure IoHost where
  machine : Machine
  handle : UInt32
  pending : List HostEvent
  flushScheduled : Bool
  started : Bool
  closed : Bool
  /-- The calls that deliver events, innermost first. -/
  delivering : List (List Delivery)
  /-- The messages given to the transport, oldest first. -/
  outbound : List (List UInt8)
  /-- What was delivered, oldest first. -/
  delivered : List Delivery
  /-- The inbound messages, oldest first. -/
  arrived : List (List UInt8)
  /-- The inbound messages that were pinned or polled, with the events they caused. -/
  handled : List (List UInt8 × List HostAppEvent)

namespace IoHost

/-- A new host. -/
def new (engine : ClientEngine) (host : HostState) (handle : UInt32) : IoHost where
  machine := ⟨engine, host⟩
  handle := handle
  pending := []
  flushScheduled := false
  started := false
  closed := false
  delivering := []
  outbound := []
  delivered := []
  arrived := []
  handled := []

def enqueue (s : IoHost) (event : HostEvent) : IoHost :=
  { s with pending := s.pending ++ [event], flushScheduled := true }

/-- **Ingest an inbound message.**  A complete sample on an idle queue is pinned and delivered at
once; everything else is queued. -/
def ingestWsBytes (s : IoHost) (bytes : List UInt8) : IoHost :=
  let s := { s with arrived := s.arrived ++ [bytes] }
  let pinned := if s.pending.isEmpty then s.machine.host.tryPinHostSample s.handle bytes else none
  match pinned with
  | some (event, host) =>
    { s with
      machine := { s.machine with host := host }
      delivering := [] :: s.delivering
      delivered := s.delivered ++ [(true, HostAppEvent.sample event)]
      handled := s.handled ++ [(bytes, [.sample event])] }
  | none => s.enqueue (.wsBytes 0 bytes)

/-- The events of a part, marked when an inbound message caused them. -/
def deliveries (part : Part) : List Delivery :=
  part.result.events.map fun event => (part.cause.isSome, event)

/-- **Poll with the queue**, give the messages to the transport and begin to deliver the
events. -/
def flush (lib : Library) (s : IoHost) : IoHost :=
  if s.pending.isEmpty then s
  else
    let (parts, machine) := pollEngineParts lib s.handle s.machine s.pending
    { s with
      machine := machine
      pending := []
      outbound := s.outbound ++ (mergePollResults (parts.map (·.result))).outbound
      delivering := parts.flatMap deliveries :: s.delivering
      handled := s.handled ++ parts.filterMap Part.inbound }

/-- What a flush is about to deliver are the events of the poll result. -/
theorem events_deliveries (parts : List Part) :
    (parts.flatMap deliveries).map (·.2) =
      (mergePollResults (parts.map (·.result))).events := by
  simp [mergePollResults, deliveries, List.map_flatMap, List.flatMap_map, Function.comp_def]

def isBootstrapComplete : HostAppEvent → Bool
  | .engine (.bootstrapComplete _) _ _ => true
  | _ => false

/-- The request to authenticate, under a random correlation. -/
def authenticateAnonymous (correlation : ByteArrayOf 16) : HostEvent :=
  .command (.authenticate correlation "token" (BigEndian.utf8 "anonymous"))

/-- One round of the delivery loop: the next event is delivered, the first time a bootstrap
completes behind the request to authenticate. -/
def deliverNext (s : IoHost) (correlation : ByteArrayOf 16) (event : Delivery)
    (rest : List Delivery) (outer : List (List Delivery)) : IoHost :=
  let s :=
    if isBootstrapComplete event.2 && !s.started then
      { s with started := true }.enqueue (authenticateAnonymous correlation)
    else s
  { s with delivering := rest :: outer, delivered := s.delivered ++ [event] }

/-- Release a lease: at once when it is the host's. -/
def releaseLease (s : IoHost) (leaseId : UInt32) : IoHost :=
  match s.machine.host.tryReleaseHostLease leaseId with
  | (true, host) => { s with machine := { s.machine with host := host } }
  | (false, _) => s.enqueue (.releaseLease leaseId)

def close (lib : Library) (s : IoHost) : IoHost :=
  if s.closed then s
  else ({ s.enqueue (.command .close) with closed := true } : IoHost).flush lib

/-- **One step of a host.**  The application calls in at any time, from callbacks too; messages
arrive and microtasks run when no call is delivering. -/
inductive Step (lib : Library) : IoHost → IoHost → Prop
  | inbound (s : IoHost) (bytes : List UInt8) :
      s.delivering = [] → Step lib s (s.ingestWsBytes bytes)
  | command (s : IoHost) (cmd : AppCommand) : Step lib s (s.enqueue (.command cmd))
  | releaseLease (s : IoHost) (leaseId : UInt32) : Step lib s (s.releaseLease leaseId)
  | flushSync (s : IoHost) : Step lib s (s.flush lib)
  | microtask (s : IoHost) :
      s.flushScheduled = true → s.delivering = [] →
      Step lib s (({ s with flushScheduled := false } : IoHost).flush lib)
  | deliver (s : IoHost) (correlation : ByteArrayOf 16) (event : Delivery) (rest : List Delivery)
      (outer : List (List Delivery)) :
      s.delivering = (event :: rest) :: outer →
      Step lib s (s.deliverNext correlation event rest outer)
  | finish (s : IoHost) (outer : List (List Delivery)) :
      s.delivering = [] :: outer → Step lib s { s with delivering := outer }
  | close (s : IoHost) : Step lib s (s.close lib)

/-- **The states a host can reach.** -/
def Reaches (lib : Library) : IoHost → IoHost → Prop := Relation.ReflTransGen (Step lib)

end IoHost
end Host
end Rclweb
