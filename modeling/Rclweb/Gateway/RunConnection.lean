import Mathlib.Logic.Relation
import Rclweb.Gateway.Connection

/-!
# The event loop of a connection

`run_connection` selects among four sources: the transport, and the queues through which the
backend hands over samples, service requests and action inbounds.  The body of the chosen
branch runs to its end before the loop selects again, so a handler that waits for the backend
keeps the whole loop waiting.  `Phase` is where the loop is, and a step is one event: something
arrives, the loop takes something, or the backend answers.

A send to the transport may fail after any prefix of what was to be sent.
-/

namespace Rclweb
namespace Gateway

/-- Where the loop is: selecting, in the body of the inbound branch, or past its end. -/
inductive Phase where
  | selecting
  | handling (task : Task Turn)
  | tearingDown (task : Task Unit)
  | done

/-- **The event loop, its queues and what has happened so far.** -/
structure Loop where
  conn : ConnState
  writeQueue : SampleWriteQueue
  phase : Phase
  /-- Frames the transport has received and the loop has not taken. -/
  inbound : List (List UInt8)
  samples : List SubscriptionSample
  requests : List ServiceRequest
  actions : List ActionInbound
  /-- What was sent, oldest first. -/
  sent : List (List UInt8)
  /-- The operations of the backend with their answers, oldest first. -/
  history : List BackendEvent

variable {jwt : JwtLibrary}

/-- The capacity of the backend's queues. -/
def queueDepth (config : GatewayConfig jwt) : ℕ := max config.sampleQueueDepth.toNat 1

namespace Loop

/-- The loop of a fresh connection. -/
def initial (config : GatewayConfig jwt) : Loop where
  conn := {}
  writeQueue := .new config.sampleQueueDepth.toNat config.sampleQueueMaxBytes.toNat
  phase := .selecting
  inbound := []
  samples := []
  requests := []
  actions := []
  sent := []
  history := []

/-- The loop has ended: what the connection still holds is destroyed. -/
def leave (l : Loop) (conn : ConnState) : Loop :=
  { l with conn := conn, phase := .tearingDown conn.teardown }

/-- The branch is over with the given turn, and everything could be sent. -/
def finish (l : Loop) (t : Turn) : Loop :=
  let l := { l with sent := l.sent ++ t.outcome.outbound }
  if t.outcome.close then l.leave t.conn else { l with conn := t.conn, phase := .selecting }

/-- Send what is in the write queue. -/
def flush (l : Loop) : Loop :=
  { l with
    sent := l.sent ++ l.writeQueue.items.map (·.bytes)
    writeQueue := l.writeQueue.drained }

/-- What the inbound branch sends: the messages of the handler and, unless the connection
closes, the write queue. -/
def inboundMessages (l : Loop) (t : Turn) : List (List UInt8) :=
  t.outcome.outbound ++ if t.outcome.close then [] else l.writeQueue.items.map (·.bytes)

/-- The inbound branch is over with the given turn, and everything could be sent. -/
def finishInbound (l : Loop) (t : Turn) : Loop :=
  if t.outcome.close then l.finish t else (l.finish t).flush

/-- The transport failed after the first `n` of the given messages. -/
def sendFailed (l : Loop) (conn : ConnState) (messages : List (List UInt8)) (n : ℕ) : Loop :=
  { l with sent := l.sent ++ messages.take n }.leave conn

end Loop

/-- What a step is about. -/
inductive Label where
  /-- Something arrives at a queue. -/
  | arrive
  /-- The loop takes an inbound message, a sample, a request or an action inbound. -/
  | recv
  | sample
  | request
  | action
  /-- The backend answers the operation the handler waits for. -/
  | answer
  /-- The inbound branch is over. -/
  | finish
  /-- The transport has closed. -/
  | recvEnd
  /-- The connection is torn down. -/
  | teardown
  deriving DecidableEq, Repr

/-- **One step of a connection**: an arrival, a branch of the loop, or an answer of the
backend. -/
inductive Step (config : GatewayConfig jwt) (active : ActiveTransport) :
    Loop → Label → Loop → Prop
  | arrive (l : Loop) (bytes : List UInt8) :
      Step config active l .arrive { l with inbound := l.inbound ++ [bytes] }
  | offerSample (l : Loop) (sample : SubscriptionSample) :
      l.samples.length < queueDepth config →
      Step config active l .arrive { l with samples := l.samples ++ [sample] }
  | offerRequest (l : Loop) (request : ServiceRequest) :
      l.requests.length < queueDepth config →
      Step config active l .arrive { l with requests := l.requests ++ [request] }
  | offerAction (l : Loop) (action : ActionInbound) :
      l.actions.length < queueDepth config →
      Step config active l .arrive { l with actions := l.actions ++ [action] }
  | recv (l : Loop) (bytes : List UInt8) (rest : List (List UInt8)) (sessionId : ByteArrayOf 32) :
      l.phase = .selecting → l.inbound = bytes :: rest →
      Step config active l .recv
        { l with
          inbound := rest
          phase := .handling (l.conn.handleInbound config active sessionId bytes) }
  | recvEnd (l : Loop) : l.phase = .selecting → Step config active l .recvEnd (l.leave l.conn)
  | answer (l : Loop) (op : BackendOp) (next : op.Answer → Task Turn) (answer : op.Answer) :
      l.phase = .handling (.await op next) →
      Step config active l .answer
        { l with phase := .handling (next answer), history := l.history ++ [⟨op, answer⟩] }
  | finish (l : Loop) (t : Turn) :
      l.phase = .handling (.pure t) → Step config active l .finish (l.finishInbound t)
  | finishFailed (l : Loop) (t : Turn) (n : ℕ) :
      l.phase = .handling (.pure t) →
      Step config active l .finish (l.sendFailed t.conn (l.inboundMessages t) n)
  | sample (l : Loop) (sample : SubscriptionSample) (rest : List SubscriptionSample)
      (conn : ConnState) (queue : SampleWriteQueue) :
      l.phase = .selecting → l.samples = sample :: rest →
      l.conn.admitSample l.writeQueue sample = (conn, queue) →
      Step config active l .sample
        ({ l with samples := rest, conn := conn, writeQueue := queue } : Loop).flush
  | sampleFailed (l : Loop) (sample : SubscriptionSample) (rest : List SubscriptionSample)
      (conn : ConnState) (queue : SampleWriteQueue) (n : ℕ) :
      l.phase = .selecting → l.samples = sample :: rest →
      l.conn.admitSample l.writeQueue sample = (conn, queue) →
      Step config active l .sample
        (({ l with samples := rest, writeQueue := queue } : Loop).sendFailed conn
          (queue.items.map (·.bytes)) n)
  | request (l : Loop) (request : ServiceRequest) (rest : List ServiceRequest) :
      l.phase = .selecting → l.requests = request :: rest →
      Step config active l .request
        (({ l with requests := rest } : Loop).finish (l.conn.pushServiceRequest request))
  | requestFailed (l : Loop) (request : ServiceRequest) (rest : List ServiceRequest) (n : ℕ) :
      l.phase = .selecting → l.requests = request :: rest →
      Step config active l .request
        (({ l with requests := rest } : Loop).sendFailed (l.conn.pushServiceRequest request).conn
          (l.conn.pushServiceRequest request).outcome.outbound n)
  | action (l : Loop) (action : ActionInbound) (rest : List ActionInbound) :
      l.phase = .selecting → l.actions = action :: rest →
      Step config active l .action
        (({ l with actions := rest } : Loop).finish (l.conn.pushActionInbound action))
  | actionFailed (l : Loop) (action : ActionInbound) (rest : List ActionInbound) (n : ℕ) :
      l.phase = .selecting → l.actions = action :: rest →
      Step config active l .action
        (({ l with actions := rest } : Loop).sendFailed (l.conn.pushActionInbound action).conn
          (l.conn.pushActionInbound action).outcome.outbound n)
  | destroyed (l : Loop) (op : BackendOp) (next : op.Answer → Task Unit) (answer : op.Answer) :
      l.phase = .tearingDown (.await op next) →
      Step config active l .teardown
        { l with phase := .tearingDown (next answer), history := l.history ++ [⟨op, answer⟩] }
  | tornDown (l : Loop) :
      l.phase = .tearingDown (.pure ()) →
      Step config active l .teardown { l with phase := .done }

/-- **A run**, with the labels of its steps. -/
inductive Run (config : GatewayConfig jwt) (active : ActiveTransport) :
    Loop → List Label → Loop → Prop
  | nil (l : Loop) : Run config active l [] l
  | cons {l m n : Loop} {label : Label} {labels : List Label} :
      Step config active l label m → Run config active m labels n →
        Run config active l (label :: labels) n

/-- **The states a connection can reach.** -/
def Reachable (config : GatewayConfig jwt) (active : ActiveTransport) (l : Loop) : Prop :=
  Relation.ReflTransGen (fun a b => ∃ label, Step config active a label b)
    (Loop.initial config) l

/-! ## Scripts

A run without transport failures can be written down as a list of moves and replayed. -/

inductive Move where
  | arrive (bytes : List UInt8)
  | offerSample (sample : SubscriptionSample)
  | offerRequest (request : ServiceRequest)
  | offerAction (action : ActionInbound)
  | recv
  | answer (backend : (op : BackendOp) → op.Answer)
  | finish
  | sample
  | request
  | action

def Move.label : Move → Label
  | arrive _ | offerSample _ | offerRequest _ | offerAction _ => .arrive
  | recv => .recv
  | answer _ => .answer
  | finish => .finish
  | sample => .sample
  | request => .request
  | action => .action

/-- A session id for scripts. -/
def scriptSessionId : ByteArrayOf 32 := ⟨List.replicate 32 7, rfl⟩

section Script

variable (config : GatewayConfig jwt) (active : ActiveTransport)

/-- One move, when the loop can make it. -/
def move (l : Loop) : Move → Option Loop
  | .arrive bytes => some { l with inbound := l.inbound ++ [bytes] }
  | .offerSample sample =>
    if l.samples.length < queueDepth config then
      some { l with samples := l.samples ++ [sample] }
    else none
  | .offerRequest request =>
    if l.requests.length < queueDepth config then
      some { l with requests := l.requests ++ [request] }
    else none
  | .offerAction action =>
    if l.actions.length < queueDepth config then
      some { l with actions := l.actions ++ [action] }
    else none
  | .recv =>
    match l.phase, l.inbound with
    | .selecting, bytes :: rest =>
      some { l with
        inbound := rest
        phase := .handling (l.conn.handleInbound config active scriptSessionId bytes) }
    | _, _ => none
  | .answer backend =>
    match l.phase with
    | .handling (.await op next) =>
      some { l with
        phase := .handling (next (backend op)), history := l.history ++ [⟨op, backend op⟩] }
    | _ => none
  | .finish =>
    match l.phase with
    | .handling (.pure t) => some (l.finishInbound t)
    | _ => none
  | .sample =>
    match l.phase, l.samples with
    | .selecting, sample :: rest =>
      let (conn, queue) := l.conn.admitSample l.writeQueue sample
      some ({ l with samples := rest, conn := conn, writeQueue := queue } : Loop).flush
    | _, _ => none
  | .request =>
    match l.phase, l.requests with
    | .selecting, request :: rest =>
      some (({ l with requests := rest } : Loop).finish (l.conn.pushServiceRequest request))
    | _, _ => none
  | .action =>
    match l.phase, l.actions with
    | .selecting, action :: rest =>
      some (({ l with actions := rest } : Loop).finish (l.conn.pushActionInbound action))
    | _, _ => none

/-- Replay a list of moves. -/
def replay : List Move → Loop → Option Loop
  | [], l => some l
  | mv :: mvs, l => (move config active l mv).bind (replay mvs)

variable {config active} {l m : Loop}

theorem step_of_move {mv : Move} (h : move config active l mv = some m) :
    Step config active l mv.label m := by
  cases mv with
  | arrive bytes => exact Option.some.inj h ▸ .arrive l bytes
  | offerSample sample =>
    obtain ⟨hlen, rfl⟩ := Option.ite_none_right_eq_some.mp h |>.imp_right Option.some.inj
    exact .offerSample l sample hlen
  | offerRequest request =>
    obtain ⟨hlen, rfl⟩ := Option.ite_none_right_eq_some.mp h |>.imp_right Option.some.inj
    exact .offerRequest l request hlen
  | offerAction action =>
    obtain ⟨hlen, rfl⟩ := Option.ite_none_right_eq_some.mp h |>.imp_right Option.some.inj
    exact .offerAction l action hlen
  | recv =>
    simp only [move] at h
    split at h
    · next hphase hbox => exact Option.some.inj h ▸ .recv l _ _ _ hphase hbox
    · contradiction
  | answer backend =>
    simp only [move] at h
    split at h
    · next op next hphase => exact Option.some.inj h ▸ .answer l op next _ hphase
    · contradiction
  | finish =>
    simp only [move] at h
    split at h
    · next t hphase => exact Option.some.inj h ▸ .finish l t hphase
    · contradiction
  | sample =>
    simp only [move] at h
    split at h
    · next hphase hbox => exact Option.some.inj h ▸ .sample l _ _ _ _ hphase hbox rfl
    · contradiction
  | request =>
    simp only [move] at h
    split at h
    · next hphase hbox => exact Option.some.inj h ▸ .request l _ _ hphase hbox
    · contradiction
  | action =>
    simp only [move] at h
    split at h
    · next hphase hbox => exact Option.some.inj h ▸ .action l _ _ hphase hbox
    · contradiction

theorem reaches_of_replay {mvs : List Move} (h : replay config active mvs l = some m) :
    Relation.ReflTransGen (fun a b => ∃ label, Step config active a label b) l m := by
  induction mvs generalizing l with
  | nil => exact Option.some.inj h ▸ .refl
  | cons mv mvs ih =>
    obtain ⟨l', hmove, hrest⟩ := Option.bind_eq_some_iff.mp h
    exact .head ⟨_, step_of_move hmove⟩ (ih hrest)

end Script

/-! ### A gateway to write scripts for -/

/-- A gateway without tokens. -/
def noJwt : JwtLibrary where
  Key := Unit
  Jwk := Unit
  decodeHeader := fun _ => none
  fromSecret := fun _ => ()
  fromJwk := fun _ => none
  decode := fun _ _ _ _ _ => none

/-- The default configuration: no authentication, no access control. -/
def sampleConfig : GatewayConfig noJwt where
  gatewayInstanceId := "rclwebd"
  supportRow := .jFt
  domainId := 0
  policyRevision := "r1-dev"
  adapterAbiVersion := "1"
  maxChannels := maxChannelsCeiling
  maxSessionBytes := maxSessionBytesCeiling
  maxMessageBytes := maxMessageBytesCeiling
  maxControlPayloadBytes := maxControlPayloadBytesCeiling
  sampleQueueDepth := 256
  sampleQueueMaxBytes := 4194304
  offerWebtransport := false
  authMode := .off
  oidc := none
  aclMode := .off
  acl := none

/-- A backend that succeeds at everything: entity 7, an empty graph, and calls that echo. -/
def sampleBackend : (op : BackendOp) → op.Answer
  | .create _ _ => (Except.ok 7 : Except BackendError EntityId)
  | .call _ _ payload | .sendActionGoal _ _ payload =>
    (Except.ok payload : Except BackendError (List UInt8))
  | .graphView => (Except.ok ⟨[], []⟩ : Except BackendError GraphView)
  | .destroy _ => ()
  | .publish _ _ | .sendServiceResponse _ _ _ | .cancelAction _ _ _ | .sendActionFeedback _ _ _
  | .sendActionResult _ _ _ | .sendActionStatus _ _ _ => (Except.ok () : Except BackendError Unit)

/-- The bytes an encoder returns. -/
def encoded (bytes : Except EncodeError (List UInt8)) : List UInt8 := bytes.toOption.getD []

/-- A control frame of the client. -/
def clientControl (sequence : UInt64) (message : CborValue) : List UInt8 :=
  encoded (Encode.encodeControlFrame 0 sequence message)

/-- An operation frame of the client on channel 1. -/
def clientOperation (opcode : UInt8) (opid : OperationId) (sequence : ℕ) : List UInt8 :=
  encoded do
    let area ← Encode.encodeExtensionArea [⟨Extension.operationIdExtensionType, true, opid.1⟩]
    Encode.encodeFrame (Turn.opHeader opcode 1 sequence 2) area [1, 2, 3]

/-- An operation id of equal bytes. -/
def sampleOpid (b : UInt8) : OperationId := ⟨List.replicate 16 b, by simp⟩

/-- A message whose handler asks the backend `asks` times. -/
def exchange (bytes : List UInt8) (asks : ℕ) : List Move :=
  [Move.arrive bytes, .recv] ++ List.replicate asks (Move.answer sampleBackend) ++ [Move.finish]

/-- The handshake of a client. -/
def handshake : List Move :=
  exchange (encoded (Encode.encodeClientHello ⟨[0], ⟨false, true, none⟩, ⟨true, false⟩,
    ⟨none, none, none, none⟩, []⟩)) 0 ++
  exchange (clientControl 0 (.map [(1, .unsigned 1), (2, .bytes zeroCorrelation),
    (16, .text "dev"), (17, .bytes [1])])) 1

/-- The OpenChannel of channel 1 with the given kind and quality of service. -/
def sampleOpen (kind : UInt64) (qos : UInt64 × CborValue) : CborValue :=
  .map [(1, .unsigned 8), (2, .bytes zeroCorrelation), (29, .unsigned 1), (30, .unsigned kind),
    (31, .text "/name"), (4, .text "pkg/Type"),
    (3, .map [(1, .text "rep2011-rihs"), (2, .text rihsDemo)]), (5, .unsigned 1),
    (6, .unsigned 0), qos, (32, .unsigned 2), (12, .map []), (9, .unsigned 0), (8, .text "J-FT")]

/-- A connection with one channel open: a topic or a service, or an action. -/
def opened (kind : UInt64) : List Move :=
  handshake ++ exchange (clientControl 1 (sampleOpen kind
    (if kind < 4 then (11, keepLastFive) else (58, actionProfile keepLastFive)))) 2

/-- Replay a script on the sample gateway. -/
def scripted (mvs : List Move) : Option Loop :=
  replay sampleConfig .binaryWebSocket mvs (Loop.initial sampleConfig)

/-- A check that holds at the end of a script holds at a reachable state. -/
theorem reachable_of_scripted (mvs : List Move) (check : Loop → Bool)
    (h : (scripted mvs).any check = true) :
    ∃ l, Reachable sampleConfig .binaryWebSocket l ∧ check l = true := by
  obtain ⟨l, hl, hcheck⟩ := (Option.any_eq_true check (scripted mvs)).mp h
  exact ⟨l, reaches_of_replay hl, hcheck⟩

end Gateway
end Rclweb
