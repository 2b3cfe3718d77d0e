import Rclweb.Gateway.RunConnection
import Rclweb.Library.LengthPrefixed

/-!
# The receiver on a WebTransport stream

On a WebTransport stream the transport's `recv` reads a length and then a body, and keeps what
it has read of them in its future.  The loop selects among this future and three queues, and
when a queue wins the future is dropped: the next `recv` starts with an empty length buffer, in
the middle of the message the dropped one had begun.

So messages arrive whole exactly as long as no branch wins over a receive that has taken bytes
(`handed_in_order`).
-/

namespace Rclweb
namespace Gateway

open LengthPrefixed

variable {jwt : JwtLibrary}

/-- The protocol's ceiling on a message, and headroom for its frame. -/
def wtMaxFrame : ℕ := 67108864 + 4096

/-- **A connection over a WebTransport stream**: the loop, the bytes that wait in the stream, and
the receive of the select in progress. -/
structure WtConnection where
  loop : Loop
  wire : List UInt8
  receive : Receive
  /-- All bytes that have arrived. -/
  arrived : List UInt8
  /-- The messages handed to `handle_inbound`, oldest first. -/
  handed : List (List UInt8)

/-- Whether a step is a branch of the loop that wins over `recv`. -/
def Label.winsOverRecv : Label → Bool
  | .sample | .request | .action => true
  | _ => false

/-- What a step of the connection is about. -/
inductive WtLabel where
  /-- Bytes arrive in the stream. -/
  | bytes
  /-- The receive is polled, takes what is there and waits for more. -/
  | wait
  | loop (label : Label)
  deriving DecidableEq, Repr

namespace WtConnection

/-- A fresh connection. -/
def initial (config : GatewayConfig jwt) : WtConnection := ⟨.initial config, [], .start, [], []⟩

/-- The receive is polled with what is there. -/
def poll (s : WtConnection) : Receive.Poll := s.receive.poll wtMaxFrame s.wire

/-- The loop has made a step that does not receive: the receive is dropped when it lost. -/
def stepped (s : WtConnection) (label : Label) (loop : Loop) : WtConnection :=
  { s with
    loop := loop
    receive := if label.winsOverRecv then .start else s.receive }

/-- A message was received whole. -/
def received (s : WtConnection) (m rest : List UInt8) (loop : Loop) : WtConnection :=
  { s with loop := loop, wire := rest, receive := .start, handed := s.handed ++ [m] }

end WtConnection

/-- **One step of a connection over a stream.**  The loop is the one of `run_connection`; what it
receives comes out of the stream, and nothing else reaches its inbound messages. -/
inductive WtStep (config : GatewayConfig jwt) : WtConnection → WtLabel → WtConnection → Prop
  | bytes (s : WtConnection) (chunk : List UInt8) :
      WtStep config s .bytes { s with wire := s.wire ++ chunk, arrived := s.arrived ++ chunk }
  | wait (s : WtConnection) (receive : Receive) :
      s.loop.phase = .selecting → s.poll = .pending receive →
      WtStep config s .wait { s with wire := [], receive := receive }
  | recv (s : WtConnection) (m rest : List UInt8) (loop : Loop) :
      s.poll = .message m rest →
      Step config .webTransportHttp3 { s.loop with inbound := [m] } .recv loop →
      WtStep config s (.loop .recv) (s.received m rest loop)
  | recvTooLarge (s : WtConnection) (rest : List UInt8) (loop : Loop) :
      s.poll = .tooLong rest → Step config .webTransportHttp3 s.loop .recvEnd loop →
      WtStep config s (.loop .recvEnd) { s with loop := loop }
  | recvFailed (s : WtConnection) (loop : Loop) :
      Step config .webTransportHttp3 s.loop .recvEnd loop →
      WtStep config s (.loop .recvEnd) { s with loop := loop }
  | other (s : WtConnection) (label : Label) (loop : Loop) :
      label ≠ .recv → label ≠ .recvEnd → Step config .webTransportHttp3 s.loop label loop →
      loop.inbound = [] → WtStep config s (.loop label) (s.stepped label loop)

/-- No branch wins over a receive that has taken bytes from the stream. -/
def SparesReceive (s : WtConnection) : WtLabel → Prop
  | .loop label => label.winsOverRecv = true → s.receive.taken = []
  | _ => True

/-- **The states of the runs whose steps all satisfy a condition.** -/
def WtReaches (config : GatewayConfig jwt) (when : WtConnection → WtLabel → Prop) :
    WtConnection → WtConnection → Prop :=
  Relation.ReflTransGen fun s t => ∃ label, when s label ∧ WtStep config s label t

/-! ## What a spared receive keeps -/

section Spared

variable {config : GatewayConfig jwt} {s t : WtConnection} {label : WtLabel}

/-- **Every byte is accounted for**: it belongs to a message handed over, or the receive has taken
it, or it still waits. -/
structure WtConnection.Accounted (s : WtConnection) (ms : List (List UInt8)) : Prop where
  handed : s.handed <+: ms
  arrived : s.arrived = frames s.handed ++ (s.receive.taken ++ s.wire)
  sound : s.receive.Sound wtMaxFrame

theorem accounted_initial (ms : List (List UInt8)) :
    (WtConnection.initial config).Accounted ms :=
  ⟨List.nil_prefix, rfl, Receive.sound_start⟩

/-- What the stream holds behind the messages handed over is a part of the messages to come. -/
theorem WtConnection.Accounted.part {ms : List (List UInt8)} (h : s.Accounted ms)
    (harrived : s.arrived <+: frames ms) :
    ∃ ms', ms = s.handed ++ ms' ∧ s.receive.taken ++ s.wire <+: frames ms' := by
  obtain ⟨ms', hms⟩ := h.handed
  refine ⟨ms', hms.symm, ?_⟩
  rw [h.arrived, ← hms, frames_append] at harrived
  exact (List.prefix_append_right_inj _).mp harrived

/-- **A message that is received is the next one.** -/
theorem WtConnection.Accounted.recv {ms : List (List UInt8)} (h : s.Accounted ms)
    (hms : ∀ m ∈ ms, m.length < 2 ^ 32) (harrived : s.arrived <+: frames ms) {m rest : List UInt8}
    (hpoll : s.poll = .message m rest) (loop : Loop) :
    (s.received m rest loop).Accounted ms := by
  have hfront := Receive.explains_poll h.sound s.wire
  rw [show s.receive.poll wtMaxFrame s.wire = .message m rest from hpoll] at hfront
  obtain ⟨ms', rfl, hpart⟩ := h.part harrived
  cases ms' with
  | nil =>
    rw [List.prefix_nil.mp hpart] at hfront
    cases hfront
  | cons m' ms' =>
    have hm' : m'.length < 2 ^ 32 := hms m' (by simp)
    obtain ⟨rfl, hwhole, -⟩ := message_of_part hm' hpart hfront
    refine ⟨⟨ms', by simp [received]⟩, ?_, Receive.sound_start⟩
    show s.arrived = frames (s.handed ++ [m]) ++ (Receive.start.taken ++ rest)
    rw [h.arrived, hwhole, frames_append, frames_singleton, List.append_assoc]
    rfl

/-- **What one step keeps.** -/
theorem WtConnection.Accounted.step {ms : List (List UInt8)} (h : s.Accounted ms)
    (hms : ∀ m ∈ ms, m.length < 2 ^ 32) (harrived : s.arrived <+: frames ms)
    (hspares : SparesReceive s label) (hstep : WtStep config s label t) : t.Accounted ms := by
  cases hstep with
  | bytes chunk =>
    refine ⟨h.handed, ?_, h.sound⟩
    show s.arrived ++ chunk = frames s.handed ++ (s.receive.taken ++ (s.wire ++ chunk))
    rw [h.arrived, List.append_assoc, List.append_assoc]
  | wait receive hphase hpoll =>
    have hfront := Receive.explains_poll h.sound s.wire
    rw [show s.receive.poll wtMaxFrame s.wire = .pending receive from hpoll] at hfront
    obtain ⟨-, htaken, hsound⟩ := hfront
    refine ⟨h.handed, ?_, hsound⟩
    show s.arrived = frames s.handed ++ (receive.taken ++ [])
    rw [h.arrived, htaken, List.append_nil]
  | recv m rest loop hpoll hloop => exact h.recv hms harrived hpoll loop
  | recvTooLarge rest loop hpoll hloop => exact ⟨h.handed, h.arrived, h.sound⟩
  | recvFailed loop hloop => exact ⟨h.handed, h.arrived, h.sound⟩
  | other label loop _ _ hloop hinbound =>
    cases hwins : label.winsOverRecv with
    | false =>
      have hsame : (s.stepped label loop).receive = s.receive := by
        rw [stepped, hwins]
        rfl
      exact ⟨h.handed, by rw [hsame]; exact h.arrived, by rw [hsame]; exact h.sound⟩
    | true =>
      have hfresh : (s.stepped label loop).receive = .start := by
        rw [stepped, hwins]
        rfl
      refine ⟨h.handed, ?_, by rw [hfresh]; exact Receive.sound_start⟩
      rw [hfresh]
      show s.arrived = frames s.handed ++ (Receive.start.taken ++ s.wire)
      rw [h.arrived, show s.receive.taken = [] from hspares hwins]
      rfl

/-- Bytes that have arrived stay. -/
theorem arrived_step (hstep : WtStep config s label t) : s.arrived <+: t.arrived := by
  cases hstep with
  | bytes chunk => exact List.prefix_append ..
  | _ => exact List.prefix_rfl

theorem accounted_of_reaches {ms : List (List UInt8)} (hms : ∀ m ∈ ms, m.length < 2 ^ 32)
    (hreach : WtReaches config SparesReceive (.initial config) s)
    (harrived : s.arrived <+: frames ms) : s.Accounted ms := by
  induction hreach with
  | refl => exact accounted_initial ms
  | tail _ hlast ih =>
    obtain ⟨label, hspares, hstep⟩ := hlast
    have hbefore := (arrived_step hstep).trans harrived
    exact (ih hbefore).step hms hbefore hspares hstep

/-- **The messages handed over are the messages sent, in order**, as long as no branch of the loop
wins over a receive that has taken bytes: at any time they are the first of them, the next one is
received whole, and when all bytes have arrived and the receive waits they are all. -/
theorem handed_in_order (config : GatewayConfig jwt) (ms : List (List UInt8))
    (hms : ∀ m ∈ ms, m.length < 2 ^ 32) (s : WtConnection)
    (hreach : WtReaches config SparesReceive (.initial config) s)
    (harrived : s.arrived <+: frames ms) :
    s.handed <+: ms ∧
      (∀ m rest, s.poll = .message m rest → s.handed ++ [m] <+: ms) ∧
      ((∀ m ∈ ms, m.length ≤ wtMaxFrame) → s.arrived = frames ms →
        ∀ receive, s.poll = .pending receive → s.handed = ms) := by
  have h := accounted_of_reaches hms hreach harrived
  refine ⟨h.handed, fun m rest hpoll => (h.recv hms harrived hpoll s.loop).handed,
    fun hlimit hall receive hpoll => ?_⟩
  obtain ⟨ms', rfl, -⟩ := h.part harrived
  have hwhole : s.receive.taken ++ s.wire = frames ms' := by
    have heq := h.arrived
    rw [hall, frames_append] at heq
    exact (List.append_cancel_left heq).symm
  have hfront := Receive.explains_poll h.sound s.wire
  rw [show s.receive.poll wtMaxFrame s.wire = .pending receive from hpoll, hwhole] at hfront
  obtain ⟨hshort, -⟩ := hfront
  cases ms' with
  | nil => exact (List.append_nil _).symm
  | cons m ms' =>
    have hmessage : front wtMaxFrame (frames (m :: ms')) = .message m (frames ms') :=
      front_frame (by rw [wtMaxFrame]; norm_num) (hlimit m (by simp))
    rw [hmessage] at hshort
    cases hshort

end Spared

/-! ## Scripts -/

/-- A move of a connection over a stream. -/
inductive WtMove where
  | bytes (chunk : List UInt8)
  | wait
  | loop (mv : Move)

def WtMove.label : WtMove → WtLabel
  | bytes _ => .bytes
  | wait => .wait
  | loop mv => .loop mv.label

section Script

variable (config : GatewayConfig jwt)

/-- One move, when the connection can make it. -/
def wtMove (s : WtConnection) : WtMove → Option WtConnection
  | .bytes chunk => some { s with wire := s.wire ++ chunk, arrived := s.arrived ++ chunk }
  | .wait =>
    match s.loop.phase, s.poll with
    | .selecting, .pending receive => some { s with wire := [], receive := receive }
    | _, _ => none
  | .loop mv =>
    if mv.label = .recv then
      match s.poll with
      | .message m rest =>
        (move config .webTransportHttp3 { s.loop with inbound := [m] } mv).map (s.received m rest)
      | _ => none
    else
      (move config .webTransportHttp3 s.loop mv).bind fun loop =>
        if loop.inbound = [] then some (s.stepped mv.label loop) else none

/-- Replay a list of moves. -/
def wtReplay : List WtMove → WtConnection → Option WtConnection
  | [], s => some s
  | mv :: mvs, s => (wtMove config s mv).bind (wtReplay mvs)

variable {config} {s t : WtConnection}

theorem Move.label_ne_recvEnd (mv : Move) : mv.label ≠ .recvEnd := by
  cases mv <;> exact Label.noConfusion

theorem wtStep_of_move {mv : WtMove} (h : wtMove config s mv = some t) :
    WtStep config s mv.label t := by
  cases mv with
  | bytes chunk => exact Option.some.inj h ▸ .bytes s chunk
  | wait =>
    simp only [wtMove] at h
    split at h
    · next receive hphase hpoll => exact Option.some.inj h ▸ .wait s receive hphase hpoll
    · contradiction
  | loop mv =>
    simp only [wtMove] at h
    split_ifs at h with hrecv
    · split at h
      · next m rest hpoll =>
        obtain ⟨loop, hloop, rfl⟩ := Option.map_eq_some_iff.mp h
        rw [WtMove.label, hrecv]
        exact .recv s m rest loop hpoll (hrecv ▸ step_of_move hloop)
      · contradiction
    · obtain ⟨loop, hloop, hrest⟩ := Option.bind_eq_some_iff.mp h
      obtain ⟨hinbound, rfl⟩ := Option.ite_none_right_eq_some.mp hrest |>.imp_right Option.some.inj
      exact .other s mv.label loop hrecv mv.label_ne_recvEnd (step_of_move hloop) hinbound

theorem wtReaches_of_replay {when : WtConnection → WtLabel → Prop} {mvs : List WtMove}
    (hwhen : ∀ mv ∈ mvs, ∀ s, when s mv.label) (h : wtReplay config mvs s = some t) :
    WtReaches config when s t := by
  induction mvs generalizing s with
  | nil => exact Option.some.inj h ▸ .refl
  | cons mv mvs ih =>
    obtain ⟨s', hmove, hrest⟩ := Option.bind_eq_some_iff.mp h
    exact .head ⟨_, hwhen mv List.mem_cons_self s, wtStep_of_move hmove⟩
      (ih (fun mv' hmv' => hwhen mv' (List.mem_cons_of_mem mv hmv')) hrest)

end Script

/-! ### A subscription over a stream -/

/-- The sample gateway, offering WebTransport. -/
def wtConfig : GatewayConfig noJwt := { sampleConfig with offerWebtransport := true }

/-- The handshake of a client over WebTransport and the OpenChannel of a subscription. -/
def wtOpened : List Move :=
  exchange (encoded (Encode.encodeClientHello ⟨[0], ⟨true, true, none⟩, ⟨true, false⟩,
    ⟨none, none, none, none⟩, []⟩)) 0 ++ (opened 0).drop 3

/-- A move of a script, over the stream. -/
def overWt : Move → WtMove
  | .arrive bytes => .bytes (frame bytes)
  | mv => .loop mv

/-- What a script sends. -/
def messagesOf (mvs : List Move) : List (List UInt8) :=
  mvs.filterMap fun
    | .arrive bytes => some bytes
    | _ => none

/-- The client's first heartbeat. -/
def firstHeartbeat : List UInt8 := clientControl 2 (heartbeat 1)

/-- The length of the heartbeat arrives, a sample is ready, and then the heartbeat arrives. -/
def splitHeartbeat : List WtMove :=
  wtOpened.map overWt ++
    [WtMove.bytes (lengthBytes firstHeartbeat), WtMove.wait,
      WtMove.loop (.offerSample ⟨1, List.replicate 33 0⟩), WtMove.loop .sample,
      WtMove.bytes firstHeartbeat]

/-- Whether the receive waits. -/
def WtConnection.waits (s : WtConnection) : Bool :=
  match s.poll with
  | .pending _ => true
  | _ => false

theorem exists_of_waits {s : WtConnection} (h : s.waits = true) :
    ∃ receive, s.poll = .pending receive := by
  unfold WtConnection.waits at h
  cases hpoll : s.poll with
  | pending receive => exact ⟨receive, rfl⟩
  | tooLong rest =>
    rw [hpoll] at h
    cases h
  | message m rest =>
    rw [hpoll] at h
    cases h

/-- Whether all bytes of the given messages have arrived and the receive waits in vain. -/
def missesLast (ms : List (List UInt8)) (s : WtConnection) : Bool :=
  s.arrived == frames ms && s.handed != ms && s.waits

/-- **A sample drops the length of a heartbeat**: the client opens a subscription and sends a
heartbeat, whose length arrives before a sample and whose body behind it.  All bytes have arrived,
the receive waits for more, and the heartbeat was not handed over. -/
theorem not_handed_of_sample :
    ¬ ∀ (ms : List (List UInt8)) (s : WtConnection), (∀ m ∈ ms, m.length ≤ wtMaxFrame) →
      WtReaches wtConfig (fun _ _ => True) (.initial wtConfig) s → s.arrived = frames ms →
      ∀ receive, s.poll = .pending receive → s.handed = ms := by
  intro h
  have hrun : (wtReplay wtConfig splitHeartbeat (.initial wtConfig)).any
      (missesLast (messagesOf wtOpened ++ [firstHeartbeat])) = true := by decide +kernel
  obtain ⟨s, hs, hmisses⟩ := (Option.any_eq_true _ _).mp hrun
  rw [missesLast, Bool.and_eq_true, Bool.and_eq_true, beq_iff_eq, bne_iff_ne] at hmisses
  obtain ⟨⟨harrived, hhanded⟩, hwaits⟩ := hmisses
  obtain ⟨receive, hpoll⟩ := exists_of_waits hwaits
  have hlengths : (messagesOf wtOpened ++ [firstHeartbeat]).all
      (fun m => decide (m.length ≤ wtMaxFrame)) = true := by decide +kernel
  refine hhanded (h _ s (fun m hm => ?_) (wtReaches_of_replay (fun _ _ _ => trivial) hs)
    harrived receive hpoll)
  exact of_decide_eq_true (List.all_eq_true.mp hlengths m hm)

/-- A message in two parts, with a poll between them. -/
def twoParts : List WtMove := [.bytes [0, 0, 0], .wait, .bytes [2, 1, 2], .loop .recv]

/-- The message is handed over. -/
theorem handed_in_order_of_parts :
    ∃ s : WtConnection, s.arrived = frames [[1, 2]] ∧ s.handed = [[1, 2]] ∧
      s.handed <+: [[1, 2]] := by
  have hrun : (wtReplay wtConfig twoParts (.initial wtConfig)).any
      (fun s => s.arrived == frames [[1, 2]] && s.handed == [[1, 2]]) = true := by decide +kernel
  obtain ⟨s, hs, hcheck⟩ := (Option.any_eq_true _ _).mp hrun
  rw [Bool.and_eq_true, beq_iff_eq, beq_iff_eq] at hcheck
  obtain ⟨harrived, hhanded⟩ := hcheck
  have hreach : WtReaches wtConfig SparesReceive (.initial wtConfig) s := by
    refine wtReaches_of_replay (fun mv hmv s => ?_) hs
    simp only [twoParts, List.mem_cons, List.not_mem_nil, or_false] at hmv
    rcases hmv with rfl | rfl | rfl | rfl
    · trivial
    · trivial
    · trivial
    · exact fun hwins => absurd hwins Bool.false_ne_true
  have hpart : s.arrived <+: frames [[1, 2]] := harrived ▸ List.prefix_rfl
  exact ⟨s, harrived, hhanded,
    (handed_in_order wtConfig [[1, 2]] (by decide) s hreach hpart).1⟩

end Gateway
end Rclweb
