import Rclweb.Engine.Tables
import Rclweb.Pair.System

/-!
# Runs of the engine

A run is a sequence of poll turns from a new engine, with whatever commands and bytes the host
feeds it; `Reachable` takes the poll turns that are allowed as an argument.  When the tables can
follow every inbound message of a run, they agree with the session at its end, and every change
of a channel that the peer caused was reported (`tables_follow`).

The sample run at the end takes the messages of its peer from the sample gateway.
-/

namespace Rclweb
namespace ClientEngine

open Engine Turn

variable (lib : Library) (wasm32 : Bool)

/-- **The engines a run can reach**, by poll turns that are allowed. -/
def Reachable (allowed : ClientEngine → List HostEvent → Bool) (e : ClientEngine) : Prop :=
  Relation.ReflTransGen
    (fun e e' => ∃ events, allowed e events = true ∧ (e.poll lib wasm32 events).1 = e') {} e

/-- The steps of a poll turn: the turns in it, each with the event that comes next. -/
def steps (e : ClientEngine) (events : List HostEvent) : List (Turn × HostEvent) :=
  if e.closed then [] else Turn.steps lib wasm32 ⟨e, {}⟩ (events.take maxHostEventsPerPoll)

/-- Whether the tables can follow every inbound message of a poll turn. -/
def canFollow (e : ClientEngine) (events : List HostEvent) : Bool :=
  (e.steps lib wasm32 events).all fun p => p.2.bytes?.all (Turn.canFollow p.1.engine)

/-- The engine at the end of a run. -/
def run (e : ClientEngine) (polls : List (List HostEvent)) : ClientEngine :=
  polls.foldl (fun e events => (e.poll lib wasm32 events).1) e

variable {lib} {wasm32} {e : ClientEngine}

theorem run_append (e : ClientEngine) (polls rest : List (List HostEvent)) :
    e.run lib wasm32 (polls ++ rest) = (e.run lib wasm32 polls).run lib wasm32 rest :=
  List.foldl_append

/-! ## The tables of a run -/

/-- A new engine knows no channel. -/
theorem tracks_new : ({} : ClientEngine).ledger.Tracks := ⟨rfl, fun _ => rfl⟩

/-- **The tables follow a poll turn**, and each step of it reports what the peer did. -/
theorem follows_poll {events : List HostEvent} (he : e.closed = false → e.ledger.Tracks)
    (hcan : e.canFollow lib wasm32 events = true) :
    ((e.poll lib wasm32 events).1.closed = false → (e.poll lib wasm32 events).1.ledger.Tracks) ∧
      ∀ p ∈ e.steps lib wasm32 events, p.2.bytes?.isSome = true →
        p.1.Reports (handleEvent lib wasm32 p.1 p.2) ∧
          (handleEvent lib wasm32 p.1 p.2).outcome.events <+:
            (e.poll lib wasm32 events).2.events := by
  by_cases hclosed : e.closed = true
  · rw [poll, if_pos hclosed, steps, if_pos hclosed]
    refine ⟨fun hopen => absurd (hclosed.symm.trans hopen) Bool.noConfusion, fun p hp => ?_⟩
    exact absurd hp List.not_mem_nil
  · have hopen := Bool.eq_false_of_not_eq_true hclosed
    rw [canFollow, steps, if_neg hclosed, List.all_eq_true] at hcan
    obtain ⟨hfollows, hreports⟩ := follows_handleEvents (t := ⟨e, {}⟩) lib wasm32 (he hopen)
      fun p hp bytes hbytes => by
        have hall := hcan p hp
        rw [Option.mem_def.mp hbytes] at hall
        exact hall
    rw [poll, if_neg hclosed, steps, if_neg hclosed]
    exact ⟨hfollows.tracks (he hopen), hreports⟩

/-- **In every run whose inbound messages the tables can follow, they follow the session.**  At
its end an open engine holds a channel as pending exactly when it is pending and in exactly one
table of active channels exactly when it is active, and every change of a pending or active
channel by a message of the peer is named by an event of the poll turn. -/
theorem tables_follow (lib : Library) (wasm32 : Bool) {e : ClientEngine}
    (h : Reachable lib wasm32 (canFollow lib wasm32) e) :
    (e.closed = false → ∀ id,
      ((e.pendingOpens.find? id).isSome = true ↔ e.session.channelState id = .pending) ∧
        (e.activeCount id = 1 ↔ e.session.channelState id = .active) ∧ e.activeCount id ≤ 1) ∧
      ∀ events, e.canFollow lib wasm32 events = true →
        ∀ p ∈ e.steps lib wasm32 events, p.2.bytes?.isSome = true → ∀ id,
          p.1.engine.session.channelState id = .pending ∨
            p.1.engine.session.channelState id = .active →
          (handleEvent lib wasm32 p.1 p.2).engine.session.channelState id ≠
            p.1.engine.session.channelState id →
          ∃ event ∈ (handleEvent lib wasm32 p.1 p.2).outcome.events.drop
              p.1.outcome.events.length,
            event ∈ (e.poll lib wasm32 events).2.events ∧ event.channel? = some id := by
  have htracks : e.closed = false → e.ledger.Tracks := by
    induction h with
    | refl => exact fun _ => tracks_new
    | tail _ hstep ih =>
      obtain ⟨events, hcan, rfl⟩ := hstep
      exact (follows_poll ih hcan).1
  refine ⟨fun hopen id => ?_, fun events hcan p hp hbytes id hbefore hafter => ?_⟩
  · have hbook := (htracks hopen).book id
    rw [ledger_state] at hbook
    have hpending : (e.pendingOpens.find? id).isSome = (e.session.channelState id).book.1 :=
      congrArg Prod.fst hbook
    have hactive : e.activeCount id = (e.session.channelState id).book.2 :=
      congrArg Prod.snd hbook
    rw [hpending, hactive]
    cases e.session.channelState id <;> simp [ChannelState.book]
  · obtain ⟨hreports, hstart⟩ := (follows_poll htracks hcan).2 p hp hbytes
    rw [← ledger_state, ← ledger_state] at hafter
    rw [← ledger_state] at hbefore
    obtain ⟨event, hevent, hchannel⟩ := hreports id hbefore hafter
    exact ⟨event, hevent, hstart.subset (List.mem_of_mem_drop hevent), hchannel⟩

/-! ## Sample runs -/

/-- Make a list of poll turns, as far as they are allowed. -/
def replay (lib : Library) (wasm32 : Bool) (allowed : ClientEngine → List HostEvent → Bool) :
    List (List HostEvent) → ClientEngine → Option ClientEngine
  | [], e => some e
  | events :: rest, e =>
    if allowed e events then replay lib wasm32 allowed rest (e.poll lib wasm32 events).1 else none

theorem reachable_of_replay {allowed : ClientEngine → List HostEvent → Bool}
    {polls : List (List HostEvent)} (h : replay lib wasm32 allowed polls {} = some e) :
    Reachable lib wasm32 allowed e := by
  suffices hrun : ∀ polls (e' : ClientEngine), Reachable lib wasm32 allowed e' →
      replay lib wasm32 allowed polls e' = some e → Reachable lib wasm32 allowed e from
    hrun polls {} .refl h
  intro polls
  induction polls with
  | nil => exact fun _ he' h => Option.some.inj h ▸ he'
  | cons events rest ih =>
    intro e' he' h
    obtain ⟨hallowed, hrest⟩ := Option.ite_none_right_eq_some.mp h
    exact ih _ (he'.tail ⟨events, hallowed, rfl⟩) hrest

/-- A check that holds at the end of a list of poll turns holds at a reachable engine. -/
theorem reachable_of_check (lib : Library) (wasm32 : Bool)
    (allowed : ClientEngine → List HostEvent → Bool) (polls : List (List HostEvent)) (check : ClientEngine → Bool)
    (h : (replay lib wasm32 allowed polls {}).any check = true) :
    ∃ e, Reachable lib wasm32 allowed e ∧ check e = true := by
  obtain ⟨e, he, hcheck⟩ := (Option.any_eq_true check _).mp h
  exact ⟨e, reachable_of_replay he, hcheck⟩

/-- A control message of the peer. -/
def peerControl (sequence : UInt64) (message : CborValue) : List HostEvent :=
  [.wsBytes 0 (Gateway.encoded (Encode.encodeControlFrame 0 sequence message))]

/-- The sample gateway's hello. -/
def sampleHello : ServerHello :=
  ⟨0, ⟨false, true, none⟩, ⟨true, false⟩, ⟨65535, 4294967296, 67108864, 1048576⟩, []⟩

/-- The handshake, and a subscription on channel 1 that the gateway allows. -/
def subscription : List (List HostEvent) :=
  [[.command (.start true false)],
    [.wsBytes 0 (Gateway.encoded (Encode.encodeServerHello sampleHello))],
    [.command (.authenticate zeroCorrelation "development" [1])],
    peerControl 0 (Gateway.sessionReady Gateway.sampleConfig sampleHello zeroCorrelation.1
      Gateway.scriptSessionId.1 "dev"),
    [.command (.subscribe ⟨zeroCorrelation, 1, "/name", "pkg/Type", 1, 5, 0⟩)],
    peerControl 1 (Gateway.channelReadyAllow Gateway.sampleConfig zeroCorrelation.1 1 2
      ⟨true, false, false, 5, false⟩)]

/-- Whether channel 1 of an open engine is in the given state. -/
def isInState (state : ChannelState) (e : ClientEngine) : Bool :=
  !e.closed && e.session.channelState 1 == state

theorem of_isInState {state : ChannelState} (h : isInState state e = true) :
    e.closed = false ∧ e.session.channelState 1 = state := by
  simpa [isInState] using h

theorem tables_follow_of_subscription :
    ∃ e, Reachable Pair.noLibrary false (canFollow Pair.noLibrary false) e ∧ e.closed = false ∧
      e.session.channelState 1 = .active ∧ e.activeCount 1 = 1 := by
  obtain ⟨e, hreach, hcheck⟩ := reachable_of_check Pair.noLibrary false
    (canFollow Pair.noLibrary false) subscription (isInState .active) (by decide +kernel)
  obtain ⟨hopen, hactive⟩ := of_isInState hcheck
  have htables := (tables_follow Pair.noLibrary false hreach).1 hopen 1
  exact ⟨e, hreach, hopen, hactive, htables.2.1.mpr hactive⟩

/-- After the peer has closed the channel, the subscription is still in its table. -/
theorem not_tables_follow_of_close :
    ¬ ∀ e, Reachable Pair.noLibrary false (fun _ _ => true) e → e.closed = false →
      ∀ id, (e.activeCount id = 1 ↔ e.session.channelState id = .active) := by
  intro h
  obtain ⟨e, hreach, hcheck⟩ := reachable_of_check Pair.noLibrary false (fun _ _ => true)
    (subscription ++ [peerControl 2 (closeChannel zeroCorrelation 1)])
    (fun e => isInState .closed e && e.activeCount 1 == 1) (by decide +kernel)
  rw [Bool.and_eq_true, beq_iff_eq] at hcheck
  obtain ⟨hopen, hclosed⟩ := of_isInState hcheck.1
  have hactive := (h e hreach hopen 1).mp hcheck.2
  rw [hclosed] at hactive
  contradiction

end ClientEngine
end Rclweb
