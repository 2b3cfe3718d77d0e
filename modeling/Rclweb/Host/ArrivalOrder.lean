import Rclweb.Host.IoHost

/-!
# Events in the order of arrival

An inbound message takes one of three ways to the application: a complete sample on an idle queue
is pinned at once, a batch is polled in parts, and a queue of one message is polled by itself.
On each way the message causes the events it causes when it is polled alone, and the ways do not
overtake one another: the idle way is open only when nothing waits, and while events are being
delivered nothing arrives, so that a flush from a callback has no messages to poll.

`Ordered` says this of a state; every step keeps it, and `inbound_in_order` reads it off a run.
-/

namespace Rclweb

open Engine

namespace Host
namespace IoHost

/-- The events among deliveries that inbound messages caused. -/
def inboundOf (deliveries : List Delivery) : List HostAppEvent :=
  (deliveries.filter (·.1)).map (·.2)

theorem inboundOf_append (ds ds' : List Delivery) :
    inboundOf (ds ++ ds') = inboundOf ds ++ inboundOf ds' := by
  rw [inboundOf, List.filter_append, List.map_append]
  rfl

/-- **Nothing overtakes**: what was handled arrived before what waits, and what was delivered was
handled before what is being delivered. -/
structure Ordered (lib : Library) (s : IoHost) : Prop where
  arrived : s.handled.map (·.1) ++ waiting s.pending = s.arrived
  delivered : inboundOf s.delivered ++ inboundOf s.delivering.flatten = s.handled.flatMap (·.2)
  caused : ∀ p ∈ s.handled, Caused lib s.handle p.1 p.2
  /-- While events are delivered, no message waits. -/
  calm : s.delivering ≠ [] → waiting s.pending = []
  /-- What waits will be flushed. -/
  scheduled : s.pending ≠ [] → s.flushScheduled = true

variable {lib : Library} {s t : IoHost}

theorem ordered_new (engine : ClientEngine) (host : HostState) (handle : UInt32) :
    (IoHost.new engine host handle).Ordered lib :=
  ⟨rfl, rfl, nofun, fun h => absurd rfl h, fun h => absurd rfl h⟩

/-- An event of the application's own waits behind the messages. -/
theorem Ordered.enqueue (h : s.Ordered lib) {event : HostEvent} (hevent : waiting [event] = []) :
    (s.enqueue event).Ordered lib := by
  have hwaiting : waiting (s.pending ++ [event]) = waiting s.pending := by
    rw [waiting_append, hevent, List.append_nil]
  refine ⟨?_, h.delivered, h.caused, fun hdelivering => ?_, fun _ => rfl⟩
  · show s.handled.map (·.1) ++ waiting (s.pending ++ [event]) = s.arrived
    rw [hwaiting]
    exact h.arrived
  · show waiting (s.pending ++ [event]) = []
    rw [hwaiting]
    exact h.calm hdelivering

/-- **A message that arrives** is pinned when nothing waits, and waits otherwise. -/
theorem Ordered.ingestWsBytes (h : s.Ordered lib) (hidle : s.delivering = [])
    (bytes : List UInt8) : (s.ingestWsBytes bytes).Ordered lib := by
  unfold IoHost.ingestWsBytes
  dsimp only
  split
  · next event host hpinned =>
    by_cases hempty : s.pending.isEmpty = true
    swap
    · rw [if_neg hempty] at hpinned
      cases hpinned
    rw [if_pos hempty] at hpinned
    have hpending : s.pending = [] := List.isEmpty_iff.mp hempty
    have harrived := h.arrived
    have hdelivered := h.delivered
    rw [hpending, waiting_nil, List.append_nil] at harrived
    rw [hidle, List.flatten_nil, show inboundOf [] = [] from rfl, List.append_nil] at hdelivered
    refine ⟨?_, ?_, fun p hp => ?_, fun _ => ?_, fun hne => absurd hpending hne⟩
    · show (s.handled ++ [(bytes, [HostAppEvent.sample event])]).map (·.1) ++
        waiting s.pending = s.arrived ++ [bytes]
      rw [List.map_append, harrived, hpending, waiting_nil, List.append_nil]
      rfl
    · show inboundOf (s.delivered ++ [(true, HostAppEvent.sample event)]) ++
          inboundOf (([] :: s.delivering).flatten) =
        (s.handled ++ [(bytes, [HostAppEvent.sample event])]).flatMap (·.2)
      rw [inboundOf_append, hdelivered, hidle, List.flatMap_append]
      exact List.append_nil _
    · rcases List.mem_append.mp hp with hp | hp
      · exact h.caused p hp
      · rw [List.mem_singleton.mp hp]
        exact caused_of_tryPin s.machine.engine hpinned
    · show waiting s.pending = []
      rw [hpending]
      rfl
  · refine ⟨?_, h.delivered, h.caused, fun hne => absurd hidle hne, fun _ => rfl⟩
    show s.handled.map (·.1) ++ waiting (s.pending ++ [HostEvent.wsBytes 0 bytes]) =
      s.arrived ++ [bytes]
    rw [waiting_append, ← List.append_assoc, h.arrived]
    rfl

/-! ## Flushing -/

theorem inboundOf_deliveries (parts : List Part) :
    inboundOf (parts.flatMap deliveries) = (parts.filterMap Part.inbound).flatMap (·.2) := by
  induction parts with
  | nil => rfl
  | cons part parts ih =>
    rw [List.flatMap_cons, inboundOf_append, ih, List.filterMap_cons]
    obtain ⟨cause, result⟩ := part
    cases cause with
    | none =>
      have hnone : inboundOf (deliveries ⟨none, result⟩) = [] := by
        simp [inboundOf, deliveries, List.filter_map, Function.comp_def]
      rw [hnone]
      rfl
    | some bytes =>
      have hall : inboundOf (deliveries ⟨some bytes, result⟩) = result.events := by
        simp [inboundOf, deliveries, List.filter_map, Function.comp_def]
      rw [hall]
      rfl

theorem map_inbound (parts : List Part) :
    (parts.filterMap Part.inbound).map (·.1) = parts.filterMap (·.cause) := by
  rw [List.map_filterMap]
  refine List.filterMap_congr fun part _ => ?_
  rw [Part.inbound, Option.map_map]
  exact Option.map_id_apply

/-- **A flush** handles what waits, in order; from a callback, no messages wait. -/
theorem Ordered.flush (h : s.Ordered lib) (scheduled : Bool) :
    (({ s with flushScheduled := scheduled } : IoHost).flush lib).Ordered lib := by
  unfold IoHost.flush
  by_cases hempty : s.pending.isEmpty = true
  · rw [if_pos hempty]
    have hpending : s.pending = [] := List.isEmpty_iff.mp hempty
    exact ⟨h.arrived, h.delivered, h.caused, h.calm, fun hne => absurd hpending hne⟩
  rw [if_neg hempty]
  dsimp only
  set parts := (pollEngineParts lib s.handle s.machine s.pending).1
  have hfollows : Follows lib s.handle s.pending parts :=
    follows_pollEngineParts lib s.handle s.machine s.pending
  refine ⟨?_, ?_, fun p hp => ?_, fun _ => rfl, fun hne => absurd rfl hne⟩
  · show (s.handled ++ parts.filterMap Part.inbound).map (·.1) ++ waiting [] = s.arrived
    rw [List.map_append, map_inbound, hfollows.order, waiting_nil, List.append_nil]
    exact h.arrived
  · show inboundOf s.delivered ++
        inboundOf ((parts.flatMap deliveries :: s.delivering).flatten) =
      (s.handled ++ parts.filterMap Part.inbound).flatMap (·.2)
    rw [List.flatten_cons, inboundOf_append, inboundOf_deliveries, List.flatMap_append,
      ← h.delivered]
    by_cases hidle : s.delivering = []
    · rw [hidle]
      simp [inboundOf]
    · have hnone : parts.filterMap (·.cause) = [] := hfollows.order.trans (h.calm hidle)
      have hinbound : parts.filterMap Part.inbound = [] := by
        rw [← map_inbound] at hnone
        exact List.map_eq_nil_iff.mp hnone
      rw [hinbound]
      simp
  · rcases List.mem_append.mp hp with hp | hp
    · exact h.caused p hp
    · obtain ⟨part, hpart, hinbound⟩ := List.mem_filterMap.mp hp
      obtain ⟨bytes, hcause, rfl⟩ := Option.map_eq_some_iff.mp hinbound
      exact hfollows.caused part hpart bytes hcause

/-- One round of the delivery loop. -/
theorem Ordered.deliverNext (h : s.Ordered lib) (correlation : ByteArrayOf 16) {event : Delivery}
    {rest : List Delivery} {outer : List (List Delivery)}
    (hdelivering : s.delivering = (event :: rest) :: outer) :
    (s.deliverNext correlation event rest outer).Ordered lib := by
  have hmove : inboundOf (s.delivered ++ [event]) ++ inboundOf (rest :: outer).flatten =
      s.handled.flatMap (·.2) := by
    rw [← h.delivered, hdelivering, inboundOf_append, List.append_assoc, ← inboundOf_append]
    rfl
  have hbusy : s.delivering ≠ [] := by
    rw [hdelivering]
    exact List.cons_ne_nil _ _
  unfold IoHost.deliverNext
  dsimp only
  split_ifs
  · have henqueued : (s.enqueue (authenticateAnonymous correlation)).Ordered lib := h.enqueue rfl
    exact ⟨henqueued.arrived, hmove, h.caused, fun _ => henqueued.calm hbusy,
      henqueued.scheduled⟩
  · exact ⟨h.arrived, hmove, h.caused, fun _ => h.calm hbusy, h.scheduled⟩

/-- **Every step keeps the order.** -/
theorem Ordered.step (h : s.Ordered lib) (hstep : Step lib s t) : t.Ordered lib := by
  cases hstep with
  | inbound bytes hidle => exact h.ingestWsBytes hidle bytes
  | command cmd => exact h.enqueue rfl
  | releaseLease leaseId =>
    unfold IoHost.releaseLease
    split
    · exact ⟨h.arrived, h.delivered, h.caused, h.calm, h.scheduled⟩
    · exact h.enqueue rfl
  | flushSync => exact h.flush s.flushScheduled
  | microtask _ _ => exact h.flush false
  | deliver correlation event rest outer hdelivering => exact h.deliverNext correlation hdelivering
  | finish outer hdelivering =>
    have hbusy : s.delivering ≠ [] := by
      rw [hdelivering]
      exact List.cons_ne_nil _ _
    refine ⟨h.arrived, ?_, h.caused, fun _ => h.calm hbusy, h.scheduled⟩
    have hdelivered := h.delivered
    rw [hdelivering] at hdelivered
    exact hdelivered
  | close =>
    unfold IoHost.close
    split_ifs
    · exact h
    · have henqueued : (s.enqueue (.command .close)).Ordered lib := h.enqueue rfl
      have hclosed : ({ s.enqueue (.command .close) with closed := true } : IoHost).Ordered lib :=
        ⟨henqueued.arrived, henqueued.delivered, henqueued.caused, henqueued.calm,
          henqueued.scheduled⟩
      exact hclosed.flush true

/-! ## Over a run -/

theorem Ordered.reaches (h : s.Ordered lib) (hreach : Reaches lib s t) : t.Ordered lib := by
  induction hreach with
  | refl => exact h
  | tail _ hstep ih => exact ih.step hstep

/-- **Inbound messages reach the application in the order of their arrival**, in every run of a
host and whichever way they take.  The messages handled are the first to arrive and the others
wait, for a flush that is scheduled; each handled message caused the events it causes alone, and a
complete sample exactly one; and these events, message after message, are what has been delivered
and what is left to deliver.  Once nothing waits and nothing is being delivered, every message was
handled and all its events delivered. -/
theorem inbound_in_order (lib : Library) (engine : ClientEngine) (host : HostState)
    (handle : UInt32) (s : IoHost) (hreach : Reaches lib (.new engine host handle) s) :
    s.handled.map (·.1) ++ waiting s.pending = s.arrived ∧
      (s.pending ≠ [] → s.flushScheduled = true) ∧
      (∀ p ∈ s.handled, Caused lib s.handle p.1 p.2 ∧
        (isCompleteNoExtRosSample p.1 = true →
          ∃ leaseId, p.2 = [.sample (pinnedSample p.1 leaseId)])) ∧
      inboundOf s.delivered ++ inboundOf s.delivering.flatten = s.handled.flatMap (·.2) ∧
      (s.pending = [] → s.delivering = [] →
        s.handled.map (·.1) = s.arrived ∧ inboundOf s.delivered = s.handled.flatMap (·.2)) := by
  have h : s.Ordered lib := (ordered_new engine host handle).reaches hreach
  refine ⟨h.arrived, h.scheduled, fun p hp => ⟨h.caused p hp, eq_of_caused (h.caused p hp)⟩,
    h.delivered, fun hpending hidle => ⟨?_, ?_⟩⟩
  · rw [← h.arrived, hpending, waiting_nil, List.append_nil]
  · rw [← h.delivered, hidle, List.flatten_nil, show inboundOf [] = [] from rfl, List.append_nil]

/-- A host that ingests a bootstrap record and, behind it, a sample, and flushes. -/
def afterTwo : IoHost :=
  (((IoHost.new {} {} 1).ingestWsBytes [9]).ingestWsBytes ClientEngine.sampleBytes).flush Pair.noLibrary

/-- Both were handled, in this order. -/
theorem inbound_in_order_of_two :
    afterTwo.handled.map (·.1) = [[9], ClientEngine.sampleBytes] := by
  have hreach : Reaches Pair.noLibrary (.new {} {} 1) afterTwo :=
    ((Relation.ReflTransGen.single (Step.inbound _ [9] rfl)).tail
      (Step.inbound _ ClientEngine.sampleBytes rfl)).tail (Step.flushSync _)
  have h := (inbound_in_order Pair.noLibrary {} {} 1 afterTwo hreach).1
  have hpending : waiting afterTwo.pending = [] := rfl
  rw [hpending, List.append_nil] at h
  exact h

end IoHost
end Host
end Rclweb
