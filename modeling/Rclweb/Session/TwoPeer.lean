import Mathlib.Logic.Function.Basic
import Mathlib.Logic.Relation
import Rclweb.Session.Session

/-!
# A client and a server session over two queues

The closed system: each peer records what it sends and the message is enqueued, each peer
ingests what it takes from its queue.  Any order of such steps is a run.  `Reaches` takes
what the peers may send, and how a delivery may end, as two parameters.

A run can also be written down as a list of moves and replayed (`run`), and the messages
of a short connection are given to write such lists with.
-/

namespace Rclweb

open Rclweb.Frame Control

/-! ## The system -/

/-- **The two sessions and the messages in flight.**  `inbox r` are the messages on their way
to the peer `r`, oldest first. -/
structure TwoPeer where
  session : Role → Session
  inbox : Role → List Message

namespace TwoPeer

def initial : TwoPeer := ⟨fun r => .new r, fun _ => []⟩

/-- Peer `r` has recorded `m` as sent, and its session is now `s`. -/
def sent (p : TwoPeer) (r : Role) (m : Message) (s : Session) : TwoPeer :=
  ⟨Function.update p.session r s, Function.update p.inbox r.peer (p.inbox r.peer ++ [m])⟩

/-- Peer `r` has taken a message from its queue, of which `rest` is left. -/
def received (p : TwoPeer) (r : Role) (rest : List Message) (s : Session) : TwoPeer :=
  ⟨Function.update p.session r s, Function.update p.inbox r rest⟩

/-- **One step**: a peer records a send successfully and enqueues the message, or a peer
ingests the next message of its queue, with whatever result.  `may` restricts the sends and
`accepts` the results of the ingests. -/
inductive Step (may : TwoPeer → Role → Message → Prop)
    (accepts : Except ProtocolError SessionEffects → Prop) : TwoPeer → TwoPeer → Prop
  | send {p : TwoPeer} {r : Role} {m : Message} {f : SessionEffects} {s : Session} :
      may p r m → (p.session r).recordSend m = (.ok f, s) → Step may accepts p (p.sent r m s)
  | deliver {p : TwoPeer} {r : Role} {m : Message} {rest : List Message}
      {res : Except ProtocolError SessionEffects} {s : Session} :
      p.inbox r = m :: rest → (p.session r).ingest m = (res, s) → accepts res →
        Step may accepts p (p.received r rest s)

/-- Runs in which every send and every ingest result is allowed. -/
def Reaches (may : TwoPeer → Role → Message → Prop)
    (accepts : Except ProtocolError SessionEffects → Prop) (p : TwoPeer) : Prop :=
  Relation.ReflTransGen (Step may accepts) initial p

/-- Any message at all. -/
def everySend : TwoPeer → Role → Message → Prop := fun _ _ _ => True

/-- Any result at all. -/
def anyResult : Except ProtocolError SessionEffects → Prop := fun _ => True

/-- No call has failed. -/
def isOk : Except ProtocolError SessionEffects → Prop
  | .ok _ => True
  | .error _ => False

/-! ## Scripts

A run can be written down as a list of moves and replayed: `run` stops at a move the
restrictions of the run do not allow. -/

instance : DecidablePred isOk
  | .ok _ => .isTrue trivial
  | .error _ => .isFalse not_false

instance : DecidablePred anyResult := fun _ => .isTrue trivial

instance (p : TwoPeer) (r : Role) (m : Message) : Decidable (everySend p r m) := .isTrue trivial

inductive Move where
  | send (r : Role) (m : Message)
  | deliver (r : Role)

section Script

variable (may : TwoPeer → Role → Message → Prop) [∀ p r m, Decidable (may p r m)]
  (accepts : Except ProtocolError SessionEffects → Prop) [DecidablePred accepts]

/-- One move, when the restrictions allow it. -/
def move (p : TwoPeer) : Move → Option TwoPeer
  | .send r m =>
    match (p.session r).recordSend m with
    | (.ok _, s) => if may p r m then some (p.sent r m s) else none
    | (.error _, _) => none
  | .deliver r =>
    match p.inbox r with
    | [] => none
    | m :: rest =>
      let (res, s) := (p.session r).ingest m
      if accepts res then some (p.received r rest s) else none

/-- Replay a list of moves. -/
def run : List Move → TwoPeer → Option TwoPeer
  | [], p => some p
  | mv :: mvs, p => (move may accepts p mv).bind (run mvs)

variable {may accepts} {p q : TwoPeer}

theorem step_of_move {mv : Move} (h : move may accepts p mv = some q) : Step may accepts p q := by
  cases mv with
  | send r m =>
    simp only [move] at h
    split at h
    · next f s hs =>
      rw [Option.ite_none_right_eq_some] at h
      obtain ⟨hmay, hq⟩ := h
      exact Option.some.inj hq ▸ .send hmay hs
    · contradiction
  | deliver r =>
    simp only [move] at h
    split at h
    · contradiction
    · next m rest hbox =>
      rw [Option.ite_none_right_eq_some] at h
      obtain ⟨hres, hq⟩ := h
      exact Option.some.inj hq ▸ .deliver hbox rfl hres

theorem reaches_of_run {mvs : List Move} (h : run may accepts mvs initial = some p) :
    Reaches may accepts p := by
  suffices hrun : ∀ mvs (q p : TwoPeer), run may accepts mvs q = some p →
      Relation.ReflTransGen (Step may accepts) q p from hrun mvs initial p h
  intro mvs
  induction mvs with
  | nil =>
    intro q p h
    exact Option.some.inj h ▸ .refl
  | cons mv mvs ih =>
    intro q p h
    obtain ⟨q', hmove, hrest⟩ := Option.bind_eq_some_iff.mp h
    exact .head (step_of_move hmove) (ih q' p hrest)

end Script

/-! ### The messages of a short connection -/

/-- A control frame as the decoder hands it over, with a correlation of zeros. -/
def controlFrame (kind : UInt8) (fields : List (UInt64 × CborValue)) : DecodedFrame where
  version := 0
  opcode := opcodeControlCbor
  flags := 0
  channelId := 0
  sequence := 0
  sourceTimeNs := 0
  payloadLen := 0
  extensionLen := 0
  priority := priorityControl
  clockId := clockNone
  extensions := []
  payload := .control ⟨kind, (1, .unsigned kind.toUInt64) ::
    (2, .bytes (List.replicate 16 0)) :: fields⟩

def clientHello : Message :=
  .bootstrap (.clientHello ⟨[0], ⟨false, true, none⟩, ⟨true, false⟩, ⟨none, none, none, none⟩, []⟩)

def serverHello : Message :=
  .bootstrap (.serverHello ⟨0, ⟨false, true, none⟩, ⟨true, false⟩,
    ⟨64, 4294967296, 67108864, 1048576⟩, []⟩)

def authenticate : Message :=
  .frame (controlFrame kindAuthenticate [(16, .text "development"), (17, .bytes [1])])

def sessionReady : Message :=
  .frame (controlFrame kindSessionReady [
    (7, .text "gateway"), (8, .text "J-FT"), (10, .array [.unsigned 0]), (12, .map []),
    (13, .text "session"), (18, .text "jazzy"), (19, .text "rmw_fastrtps_cpp"),
    (20, .text "boot"), (21, .text "daemon"), (53, .bytes (List.replicate 32 0)),
    (54, .map [
      (1, .map [(1, .bool false), (2, .bool true)]),
      (2, .map [(1, .bool true), (2, .bool false)]),
      (3, .array [])])])

/-- Reliable, volatile, the last ten samples. -/
def topicQos : CborValue :=
  .map [(1, .unsigned 1), (2, .unsigned 2), (3, .unsigned 1), (4, .unsigned 10)]

/-- The client asks to subscribe to a topic on a channel. -/
def openChannel (channel : UInt32) : Message :=
  .frame (controlFrame kindOpenChannel [
    (3, .map [(1, .text "rclweb-schema-v1"), (2, .text (String.ofList (List.replicate 64 'a')))]),
    (4, .text "std_msgs/msg/String"), (5, .unsigned 1), (6, .unsigned 0), (8, .text "J-FT"),
    (9, .unsigned 0), (11, topicQos), (12, .map []), (29, .unsigned channel.toUInt64),
    (30, .unsigned 0), (31, .text "/chatter"), (32, .unsigned 2)])

def channelReady (channel : UInt32) : Message :=
  .frame (controlFrame kindChannelReady [
    (12, .map []), (29, .unsigned channel.toUInt64), (33, .unsigned 0),
    (57, .map [(1, .unsigned 1), (2, .unsigned 2), (3, .unsigned 1), (4, .unsigned 10),
      (7, .unsigned 1)]),
    (59, .unsigned 2)])

def closeChannel (channel : UInt32) : Message :=
  .frame (controlFrame kindCloseChannel [(29, .unsigned channel.toUInt64), (34, .unsigned 1)])

def channelError (channel : UInt32) : Message :=
  .frame (controlFrame kindError [
    (29, .unsigned channel.toUInt64), (48, .unsigned 25), (49, .unsigned 1)])

/-- An empty sample on a channel. -/
def rosSample (channel : UInt32) : Message :=
  .frame { controlFrame 0 [] with
    opcode := opcodeRosSample, flags := flagRosReliable, channelId := channel, priority := 2,
    payload := .application [] }

/-- Whether a message is one the decoder can hand over, as far as its control map goes. -/
def wellFormed : Message → Bool
  | .bootstrap _ => true
  | .frame frame =>
    match frame.payload with
    | .control msg =>
      match validateControlMessage (.map msg.fields) with
      | .ok decoded => decoded.kind == msg.kind && decoded.fields.length == msg.fields.length
      | .error _ => false
    | .application _ => true

example : [authenticate, sessionReady, openChannel 1, channelReady 1, closeChannel 1,
  channelError 1, rosSample 1].all wellFormed = true := by rfl

/-- A message of `r`, sent and delivered at once. -/
def exchange (r : Role) (m : Message) : List Move := [.send r m, .deliver r.peer]

/-- The handshake up to the ready phase. -/
def handshake : List Move :=
  exchange .client clientHello ++ exchange .server serverHello ++
    exchange .client authenticate ++ exchange .server sessionReady

/-- The handshake, and one channel the client subscribes on. -/
def subscribed : List Move :=
  handshake ++ exchange .client (openChannel 1) ++ exchange .server (channelReady 1)

end TwoPeer
end Rclweb
