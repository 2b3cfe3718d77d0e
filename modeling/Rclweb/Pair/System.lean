import Mathlib.Logic.Relation
import Rclweb.Engine.Engine
import Rclweb.Gateway.RunConnection

/-!
# A client engine and a gateway connection over two queues

The closed system of one connection: what either side sends is queued for the other, oldest
first.  A delivery hands the next message to the side it is bound for, in a poll turn of its
own or as one inbound message of the gateway, whatever the backend answers meanwhile.  The
other steps start something: host events of the client, and what the backend of the gateway
hands over.

A side that has closed takes nothing more.
-/

namespace Rclweb

open Engine Gateway

/-- **The two sides and the messages in flight.** -/
structure Pair where
  engine : ClientEngine := {}
  conn : ConnState := {}
  gatewayOpen : Bool := true
  toGateway : List (List UInt8) := []
  toClient : List (List UInt8) := []

/-- What a pair runs on: the libraries of both sides and the configuration. -/
structure PairSetup (jwt : JwtLibrary) where
  lib : Library
  wasm32 : Bool
  config : GatewayConfig jwt
  active : ActiveTransport

namespace Pair

variable {jwt : JwtLibrary} (setup : PairSetup jwt)

/-- The client takes a batch of events in one poll turn. -/
def poll (p : Pair) (events : List HostEvent) : Pair :=
  let r := p.engine.poll setup.lib setup.wasm32 events
  { p with engine := r.1, toGateway := p.toGateway ++ r.2.outbound.map (·.bytes) }

/-- A handler of the gateway is over. -/
def gatewayTurn (p : Pair) (t : Gateway.Turn) : Pair :=
  { p with
    conn := t.conn
    gatewayOpen := !t.outcome.close
    toClient := p.toClient ++ t.outcome.outbound }

/-- A sample of the backend is admitted to an empty write queue, and what is queued is sent. -/
def gatewaySample (p : Pair) (sample : SubscriptionSample) : Pair :=
  let r := p.conn.admitSample
    (.new setup.config.sampleQueueDepth.toNat setup.config.sampleQueueMaxBytes.toNat) sample
  { p with conn := r.1, toClient := p.toClient ++ r.2.items.map (·.bytes) }

/-- **A delivery** of the next message, the given bytes, to the client or to the gateway. -/
inductive Deliver : Pair → List UInt8 → Pair → Prop
  | toClient (p : Pair) (bufferId : UInt32) (bytes : List UInt8) (rest : List (List UInt8)) :
      p.toClient = bytes :: rest → p.engine.closed = false →
      Deliver p bytes (({ p with toClient := rest } : Pair).poll setup [.wsBytes bufferId bytes])
  | toGateway (p : Pair) (sessionId : ByteArrayOf 32) (bytes : List UInt8)
      (rest : List (List UInt8)) (events : List BackendEvent) (t : Gateway.Turn) :
      p.toGateway = bytes :: rest → p.gatewayOpen = true →
      Program.Returns (p.conn.handleInbound setup.config setup.active sessionId bytes) events t →
      Deliver p bytes (({ p with toGateway := rest } : Pair).gatewayTurn t)

/-- Host events other than inbound bytes. -/
def isLocal : HostEvent → Bool
  | .wsBytes _ _ => false
  | _ => true

/-- **A step**: a delivery, a turn of the client with local events, or something the backend
hands over. -/
inductive Step : Pair → Pair → Prop
  | deliver {p q : Pair} {bytes : List UInt8} : Deliver setup p bytes q → Step p q
  | host (p : Pair) (events : List HostEvent) :
      events.all isLocal = true → Step p (p.poll setup events)
  | sample (p : Pair) (sample : SubscriptionSample) :
      p.gatewayOpen = true → Step p (p.gatewaySample setup sample)
  | request (p : Pair) (request : ServiceRequest) :
      p.gatewayOpen = true → Step p (p.gatewayTurn (p.conn.pushServiceRequest request))
  | action (p : Pair) (action : ActionInbound) :
      p.gatewayOpen = true → Step p (p.gatewayTurn (p.conn.pushActionInbound action))

/-- **The states a connection can reach.** -/
def Reachable (p : Pair) : Prop := Relation.ReflTransGen (Step setup) {} p

/-! ## Scripts

A run can be written down as a list of moves and replayed. -/

inductive Move where
  | host (event : HostEvent)
  | toClient
  | toGateway (backend : (op : BackendOp) → op.Answer)

/-- One move, when it can be made. -/
def move (p : Pair) : Move → Option Pair
  | .host event => if isLocal event then some (p.poll setup [event]) else none
  | .toClient =>
    match p.toClient with
    | [] => none
    | bytes :: rest =>
      if p.engine.closed then none
      else some (({ p with toClient := rest } : Pair).poll setup [.wsBytes 0 bytes])
  | .toGateway backend =>
    match p.toGateway with
    | [] => none
    | bytes :: rest =>
      if p.gatewayOpen then
        some (({ p with toGateway := rest } : Pair).gatewayTurn
          ((p.conn.handleInbound setup.config setup.active scriptSessionId bytes).run backend))
      else none

/-- Replay a list of moves. -/
def replay : List Move → Pair → Option Pair
  | [], p => some p
  | mv :: mvs, p => (move setup p mv).bind (replay mvs)

variable {setup} {p q : Pair}

theorem step_of_move {mv : Move} (h : move setup p mv = some q) : Step setup p q := by
  cases mv with
  | host event =>
    obtain ⟨hlocal, hq⟩ := Option.ite_none_right_eq_some.mp h
    exact Option.some.inj hq ▸ .host p [event] (by simpa using hlocal)
  | toClient =>
    simp only [move] at h
    split at h
    · contradiction
    · next bytes rest hbox =>
      split at h
      · contradiction
      · next hopen =>
        exact Option.some.inj h ▸ .deliver (.toClient p 0 bytes rest hbox (by simpa using hopen))
  | toGateway backend =>
    simp only [move] at h
    split at h
    · contradiction
    · next bytes rest hbox =>
      obtain ⟨hopen, hq⟩ := Option.ite_none_right_eq_some.mp h
      obtain ⟨events, hruns⟩ := Program.returns_run backend
        (p.conn.handleInbound setup.config setup.active scriptSessionId bytes)
      exact Option.some.inj hq ▸
        .deliver (.toGateway p scriptSessionId bytes rest events _ hbox hopen hruns)

theorem reachable_of_replay {mvs : List Move} (h : replay setup mvs {} = some p) :
    Reachable setup p := by
  suffices hrun : ∀ mvs (q p : Pair), replay setup mvs q = some p →
      Relation.ReflTransGen (Step setup) q p from hrun mvs {} p h
  intro mvs
  induction mvs with
  | nil =>
    intro q p h
    exact Option.some.inj h ▸ .refl
  | cons mv mvs ih =>
    intro q p h
    obtain ⟨q', hmove, hrest⟩ := Option.bind_eq_some_iff.mp h
    exact .head (step_of_move hmove) (ih q' p hrest)

/-! ### A pair to write scripts for -/

/-- A library without message types. -/
def noLibrary : Library where
  lookupPhase1RootForOpen := fun _ _ => .ok ()
  schemaIdentityForType := fun _ _ => none
  encodeStdMsgsString := fun _ => none
  decodeStdMsgsString := fun _ => none
  encodePointCloud2 := fun _ => none
  encodeHostValue := fun _ _ => none

/-- The sample gateway, and a client next to it. -/
def sampleSetup : PairSetup noJwt := ⟨noLibrary, false, sampleConfig, .binaryWebSocket⟩

/-- The client's command reaches the gateway, and `answers` messages come back. -/
def command (cmd : AppCommand) (answers : ℕ) : List Move :=
  [Move.host (.command cmd), .toGateway sampleBackend] ++ List.replicate answers Move.toClient

/-- The handshake up to the ready phase: ServerHello, then SessionReady and the graph. -/
def handshake : List Move :=
  command (.start true false) 1 ++
    command (.authenticate zeroCorrelation "development" [1]) 2

/-- A check that holds at the end of a script holds at a reachable state. -/
theorem reachable_of_check (mvs : List Move) (check : Pair → Bool)
    (h : (replay sampleSetup mvs {}).any check = true) :
    ∃ p, Reachable sampleSetup p ∧ check p = true := by
  obtain ⟨p, hp, hcheck⟩ := (Option.any_eq_true check _).mp h
  exact ⟨p, reachable_of_replay hp, hcheck⟩

end Pair
end Rclweb
