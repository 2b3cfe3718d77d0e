import Rclweb.Host.Leases

/-!
# Polling a batch of host events

The host queues its events and polls the engine with the whole queue.  Inbound messages are
polled one by one, each by itself, so that a sample can stay on the host and a payload need not
be copied; the events between two of them are polled together, less the releases of host leases.
The results are put together again in the order of the queue.

A part of the result remembers the inbound message it is about; the program itself keeps only
what `mergePollResults` makes of the parts.
-/

namespace Rclweb

open Engine

namespace Host

/-- **An event as the application sees it**: from the engine, with what it is told of the payload
and the body the host kept, or a sample the host has pinned. -/
inductive HostAppEvent where
  | engine (event : AppEvent) (abi : Option ClientEngine.PayloadAbi)
      (hostPayload : Option (List UInt8))
  | sample (event : SampleAppEvent)
  deriving DecidableEq, Repr

structure PollResult where
  outbound : List (List UInt8) := []
  events : List HostAppEvent := []
  released : List ReleasedBuffer := []
  nextDeadlineMs : Option UInt64 := none
  deriving DecidableEq, Repr

/-- An engine and the module state its host shares with the others. -/
structure Machine where
  engine : ClientEngine
  host : HostState

/-- A part of a poll result: what one inbound message gave, or the events between two. -/
structure Part where
  cause : Option (List UInt8)
  result : PollResult

/-- What the application is told of an event of the engine. -/
def presented (e : ClientEngine) (event : AppEvent) : HostAppEvent :=
  .engine event (event.lease?.map e.leasePayloadAbi) none

/-- A payload under a null pointer is the body of the message. -/
def attachHostPayloads (result : PollResult) (frame : List UInt8) (prefixLen : ℕ) : PollResult :=
  { result with
    events := result.events.map fun
      | .engine event (some (.host len)) hostPayload =>
        .engine event (some (.host len))
          (if 0 < len then some (frame.drop prefixLen) else hostPayload)
      | event => event }

/-- Release host leases on the way; what is left is for the engine. -/
def dropHostReleases : HostState → List HostEvent → List HostEvent × HostState
  | host, [] => ([], host)
  | host, .releaseLease leaseId :: events =>
    match host.tryReleaseHostLease leaseId with
    | (true, host) => dropHostReleases host events
    | (false, host) =>
      let (rest, host) := dropHostReleases host events
      (.releaseLease leaseId :: rest, host)
  | host, event :: events =>
    let (rest, host) := dropHostReleases host events
    (event :: rest, host)

def isWsBytes : HostEvent → Bool
  | .wsBytes _ _ => true
  | _ => false

section

variable (lib : Library) (handle : UInt32)

/-- Poll the engine with events that are encoded into one batch.  A batch the engine does not
take throws there. -/
def pollEngineInline (m : Machine) (events : List HostEvent) : PollResult × Machine :=
  let (engine, outcome) := m.engine.poll lib true events
  ({ outbound := outcome.outbound.map (·.bytes)
     events := outcome.events.map (presented engine)
     released := outcome.releasedBuffers
     nextDeadlineMs := outcome.nextDeadlineMs },
   { m with engine := engine })

/-- **Poll one inbound message**: pinned on the host, or handed to the engine with or without its
body. -/
def pollOneExternalWs (m : Machine) (bufferId : UInt32) (bytes : List UInt8) :
    PollResult × Machine :=
  if isCompleteNoExtRosSample bytes then
    let (event, host) := m.host.pinHostSample handle bytes r2wpHeaderLen
    ({ events := [.sample event] }, { m with host := host })
  else
    match hostRetainPrefixLen bytes with
    | none => pollEngineInline lib m [.wsBytes bufferId bytes]
    | some prefixLen =>
      let (result, m) := pollEngineInline lib m [.wsBytes bufferId (bytes.take prefixLen)]
      (attachHostPayloads result bytes prefixLen, m)

/-- Poll the events since the last inbound message. -/
def pollRun (m : Machine) (run : List HostEvent) : List Part × Machine :=
  let (filtered, host) := dropHostReleases m.host run
  if filtered.isEmpty then ([], { m with host := host })
  else
    let (result, m) := pollEngineInline lib { m with host := host } filtered
    ([⟨none, result⟩], m)

/-- The loop over a batch; `run` are the events since the last inbound message. -/
def pollParts : Machine → (run batch : List HostEvent) → List Part × Machine
  | m, run, [] => pollRun lib m run
  | m, run, .wsBytes bufferId bytes :: batch =>
    let (before, m) := pollRun lib m run
    let (result, m) := pollOneExternalWs lib handle m bufferId bytes
    let (after, m) := pollParts m [] batch
    (before ++ ⟨some bytes, result⟩ :: after, m)
  | m, run, event :: batch => pollParts m (run ++ [event]) batch

/-- **Poll a batch**, in parts. -/
def pollEngineParts (m : Machine) (events : List HostEvent) : List Part × Machine :=
  match events with
  | [.wsBytes bufferId bytes] =>
    let (result, m) := pollOneExternalWs lib handle m bufferId bytes
    ([⟨some bytes, result⟩], m)
  | _ =>
    let (events, host) := dropHostReleases m.host events
    let m := { m with host := host }
    if events.isEmpty then ([], m)
    else if !events.any isWsBytes then
      let (result, m) := pollEngineInline lib m events
      ([⟨none, result⟩], m)
    else pollParts lib handle m [] events

end

/-- The parts in order; the deadline is that of the last. -/
def mergePollResults (parts : List PollResult) : PollResult where
  outbound := parts.flatMap (·.outbound)
  events := parts.flatMap (·.events)
  released := parts.flatMap (·.released)
  nextDeadlineMs := parts.getLast?.bind (·.nextDeadlineMs)

/-- Merging changes nothing about a result that came in one part. -/
@[simp] theorem mergePollResults_singleton (result : PollResult) :
    mergePollResults [result] = result := by
  simp [mergePollResults]

def pollEngine (lib : Library) (handle : UInt32) (m : Machine) (events : List HostEvent) :
    PollResult × Machine :=
  let (parts, m) := pollEngineParts lib handle m events
  (mergePollResults (parts.map (·.result)), m)

/-! ## Which part an inbound message gets -/

/-- The inbound messages of a batch. -/
def waiting (events : List HostEvent) : List (List UInt8) :=
  events.filterMap fun
    | .wsBytes _ bytes => some bytes
    | _ => none

@[simp] theorem waiting_nil : waiting [] = [] := rfl

theorem waiting_append (events events' : List HostEvent) :
    waiting (events ++ events') = waiting events ++ waiting events' :=
  List.filterMap_append

theorem waiting_of_none {events : List HostEvent} (h : ∀ e ∈ events, isWsBytes e = false) :
    waiting events = [] := by
  refine List.filterMap_eq_nil_iff.mpr fun e he => ?_
  cases e with
  | wsBytes bufferId bytes => cases h _ he
  | _ => rfl

/-- Dropping releases drops no message. -/
theorem waiting_dropHostReleases (host : HostState) (events : List HostEvent) :
    waiting (dropHostReleases host events).1 = waiting events := by
  induction events generalizing host with
  | nil => rfl
  | cons event events ih =>
    cases event with
    | releaseLease leaseId =>
      rw [dropHostReleases]
      split
      · exact ih _
      · exact ih _
    | wsBytes bufferId bytes => exact congrArg (bytes :: ·) (ih host)
    | command cmd => exact ih host
    | timer nowMs => exact ih host

/-- The events one inbound message causes when it is polled by itself. -/
def Caused (lib : Library) (handle : UInt32) (bytes : List UInt8) (events : List HostAppEvent) :
    Prop :=
  ∃ m bufferId, events = (pollOneExternalWs lib handle m bufferId bytes).1.events

/-- An inbound message of a part, with the events it caused. -/
def Part.inbound (part : Part) : Option (List UInt8 × List HostAppEvent) :=
  part.cause.map fun bytes => (bytes, part.result.events)

/-- **The parts follow the batch**: one part for each inbound message, in order, with the events
the message causes by itself. -/
structure Follows (lib : Library) (handle : UInt32) (batch : List HostEvent) (parts : List Part) :
    Prop where
  order : parts.filterMap (·.cause) = waiting batch
  caused : ∀ part ∈ parts, ∀ bytes, part.cause = some bytes →
    Caused lib handle bytes part.result.events

variable {lib : Library} {handle : UInt32}

theorem cause_pollRun (lib : Library) (m : Machine) (run : List HostEvent) :
    ∀ part ∈ (pollRun lib m run).1, part.cause = none := by
  unfold pollRun
  dsimp only
  split_ifs
  · exact nofun
  · intro part hpart
    rw [List.mem_singleton.mp hpart]

theorem follows_of_none {batch : List HostEvent} {parts : List Part} (hbatch : waiting batch = [])
    (h : ∀ part ∈ parts, part.cause = none) : Follows lib handle batch parts := by
  refine ⟨?_, fun part hpart bytes hcause => ?_⟩
  · rw [hbatch]
    exact List.filterMap_eq_nil_iff.mpr h
  · rw [h part hpart] at hcause
    cases hcause

theorem Follows.append {batch batch' : List HostEvent} {parts parts' : List Part}
    (h : Follows lib handle batch parts) (h' : Follows lib handle batch' parts') :
    Follows lib handle (batch ++ batch') (parts ++ parts') := by
  refine ⟨?_, fun part hpart => ?_⟩
  · rw [List.filterMap_append, h.order, h'.order, waiting_append]
  · rcases List.mem_append.mp hpart with hpart | hpart
    · exact h.caused part hpart
    · exact h'.caused part hpart

theorem follows_one (m : Machine) (bufferId : UInt32) (bytes : List UInt8) :
    Follows lib handle [.wsBytes bufferId bytes]
      [⟨some bytes, (pollOneExternalWs lib handle m bufferId bytes).1⟩] := by
  refine ⟨rfl, fun part hpart bytes' hcause => ?_⟩
  rw [List.mem_singleton.mp hpart] at hcause ⊢
  obtain rfl := Option.some.inj hcause
  exact ⟨m, bufferId, rfl⟩

theorem follows_pollParts (m : Machine) (run batch : List HostEvent)
    (hrun : waiting run = []) :
    Follows lib handle (run ++ batch) (pollParts lib handle m run batch).1 := by
  induction batch generalizing m run with
  | nil =>
    rw [List.append_nil]
    exact follows_of_none hrun (cause_pollRun lib m run)
  | cons event batch ih =>
    have hnext (e : HostEvent) (he : waiting [e] = []) : waiting (run ++ [e]) = [] := by
      rw [waiting_append, hrun, he]
      rfl
    cases event with
    | wsBytes bufferId bytes =>
      exact (follows_of_none hrun (cause_pollRun lib m run)).append
        ((follows_one _ bufferId bytes).append (ih _ [] rfl))
    | command cmd =>
      rw [List.append_cons]
      exact ih m (run ++ [HostEvent.command cmd]) (hnext _ rfl)
    | timer nowMs =>
      rw [List.append_cons]
      exact ih m (run ++ [HostEvent.timer nowMs]) (hnext _ rfl)
    | releaseLease leaseId =>
      rw [List.append_cons]
      exact ih m (run ++ [HostEvent.releaseLease leaseId]) (hnext _ rfl)

/-- **A polled batch follows its inbound messages.** -/
theorem follows_pollEngineParts (lib : Library) (handle : UInt32) (m : Machine)
    (events : List HostEvent) :
    Follows lib handle events (pollEngineParts lib handle m events).1 := by
  unfold pollEngineParts
  split
  · next bufferId bytes => exact follows_one m bufferId bytes
  · dsimp only
    have hwaiting := waiting_dropHostReleases m.host events
    split_ifs with hempty hnone
    · rw [List.isEmpty_iff.mp hempty] at hwaiting
      exact follows_of_none hwaiting.symm nofun
    · refine follows_of_none ?_ fun part hpart => ?_
      · rw [← hwaiting]
        refine waiting_of_none fun e he => ?_
        have hany := hnone
        rw [Bool.not_eq_true', List.any_eq_false] at hany
        exact Bool.eq_false_iff.mpr (hany e he)
      · rw [List.mem_singleton.mp hpart]
    · have hfollows := @follows_pollParts lib handle
        { m with host := (dropHostReleases m.host events).2 } []
        (dropHostReleases m.host events).1 rfl
      exact ⟨hfollows.order.trans hwaiting, hfollows.caused⟩

/-! ## Complete samples -/

/-- A pinned sample of a message. -/
def pinnedSample (bytes : List UInt8) (leaseId : UInt32) : SampleAppEvent :=
  ⟨readU32BE bytes 4, leaseId, 0, 0, 0, bytes.length - r2wpHeaderLen, none,
    some (bytes.drop r2wpHeaderLen)⟩

/-- **A complete sample causes one event**, the sample. -/
theorem eq_of_caused {bytes : List UInt8} {events : List HostAppEvent}
    (h : Caused lib handle bytes events) (hcomplete : isCompleteNoExtRosSample bytes = true) :
    ∃ leaseId, events = [.sample (pinnedSample bytes leaseId)] := by
  obtain ⟨m, bufferId, rfl⟩ := h
  refine ⟨hostLeaseId m.host.hostLeaseSeq, ?_⟩
  unfold pollOneExternalWs
  rw [if_pos hcomplete]
  rfl

/-- The idle path gives the event the polled path gives. -/
theorem caused_of_tryPin {s host : HostState} {bytes : List UInt8} {event : SampleAppEvent}
    (e : ClientEngine) (h : s.tryPinHostSample handle bytes = some (event, host)) :
    Caused lib handle bytes [.sample event] := by
  refine ⟨⟨e, s⟩, 0, ?_⟩
  unfold HostState.tryPinHostSample at h
  split_ifs at h with hcomplete
  rw [Bool.not_eq_true', Bool.not_eq_false] at hcomplete
  obtain ⟨rfl, -⟩ := Prod.mk.inj (Option.some.inj h)
  unfold pollOneExternalWs
  rw [if_pos hcomplete]
  rfl

end Host
end Rclweb
