import Rclweb.Engine.Sent
import Rclweb.Gateway.WebTransport
import Rclweb.Host.IoHost

/-!
# The sender on a WebTransport stream

On a WebTransport stream the sink of a host sends a message in two writes, the length and then
the body, and waits for the first before the second.  Nobody waits for the sink: a flush starts a
send for each message of the poll result, and returns.  The bodies are written later, whenever
their continuations run.

So lengths and bodies are in order as long as a message is sent alone (`written_in_order`); of two
messages in one flush both lengths come before either body.
-/

namespace Rclweb

open Engine Engine.Turn LengthPrefixed

/-! ## The size of what an engine sends -/

namespace Engine
namespace Turn

variable {lib : Library} {t : Turn} {bytes m : List UInt8}

theorem length_of_encodeFrame {header : FrameHeader} {area payload : List UInt8}
    (h : Encode.encodeFrame header area payload = .ok bytes) (harea : area.length ≤ 20) :
    bytes.length ≤ Gateway.wtMaxFrame := by
  obtain ⟨-, -, hpayload, -, rfl⟩ := Frame.encodeFrame_eq_ok_iff.mp h
  have hmax : Frame.framePayloadMaxBytes = 67108864 := rfl
  have hlimit : Gateway.wtMaxFrame = 67108864 + 4096 := rfl
  have hheader : Frame.frameHeaderLength = 32 := rfl
  rw [List.length_append, List.length_append, Frame.length_headerBytes]
  omega

theorem length_of_recordedFrame {x : Except EncodeError (List UInt8)}
    (h : t.recordedFrame x = some m) (hx : ∀ b, x = .ok b → b.length ≤ Gateway.wtMaxFrame) :
    m.length ≤ Gateway.wtMaxFrame := by
  unfold recordedFrame at h
  split at h
  · cases h
  · next b =>
    obtain ⟨_, -, rfl⟩ := Option.map_eq_some_iff.mp h
    exact hx b rfl

theorem length_of_recordedControl {message : CborValue} (h : t.recordedControl message = some m) :
    m.length ≤ Gateway.wtMaxFrame := by
  refine length_of_recordedFrame h fun b hb => ?_
  unfold Encode.encodeControlFrame at hb
  obtain ⟨payload, -, hframe⟩ := bind_eq_ok.mp hb
  exact length_of_encodeFrame hframe (Nat.zero_le _)

theorem length_of_recordedSample {channelId : UInt32} {payload : List UInt8}
    (h : t.recordedSample channelId payload = some m) : m.length ≤ Gateway.wtMaxFrame := by
  unfold recordedSample at h
  split at h
  · cases h
  · exact length_of_recordedFrame h fun b hb => length_of_encodeFrame hb (Nat.zero_le _)

theorem length_of_recordedOperation {channelId : UInt32} {opcode : UInt8}
    {operationId : OperationId} {payload : List UInt8} {reliable : Bool}
    (h : t.recordedOperation channelId opcode operationId payload reliable = some m) :
    m.length ≤ Gateway.wtMaxFrame := by
  unfold recordedOperation at h
  split at h
  · cases h
  split at h
  · cases h
  · next area harea =>
    refine length_of_recordedFrame h fun b hb => length_of_encodeFrame hb ?_
    rw [operationIdExtension, Extension.encodeExtensionArea_operationId operationId.2] at harea
    rw [← Except.ok.inj harea, List.length_append, operationId.2]
    rfl

theorem length_of_recordedPayload {channelId : UInt32} {op : GeneratedOpKind} {opcode : UInt8}
    {operationId : OperationId} {reliable : Bool}
    (h : recordedPayload lib t channelId op opcode operationId bytes reliable = some m) :
    m.length ≤ Gateway.wtMaxFrame := by
  obtain ⟨payload, -, hoperation⟩ := Option.bind_eq_some_iff.mp h
  exact length_of_recordedOperation hoperation

theorem length_of_recordedOpen {typeName : String} {channelId : UInt32} {kind : PendingKind}
    {message : CborValue}
    (h : recordedOpen lib t typeName channelId kind message = some m) :
    m.length ≤ Gateway.wtMaxFrame := by
  unfold recordedOpen at h
  split at h
  · cases h
  · exact length_of_recordedControl h

theorem length_of_recordedHello {transferable webtransport : Bool}
    (h : t.recordedHello transferable webtransport = some m) : m.length ≤ Gateway.wtMaxFrame := by
  unfold recordedHello at h
  split_ifs at h
  split at h
  · cases h
  · next b hb =>
    obtain ⟨_, -, rfl⟩ := Option.map_eq_some_iff.mp h
    unfold Encode.encodeClientHello Encode.bootstrapRecord at hb
    obtain ⟨body, -, hbody⟩ := bind_eq_ok.mp hb
    split_ifs at hbody with hlarge
    rw [← Except.ok.inj hbody]
    have hmax : Bootstrap.bootstrapPayloadMaxBytes = 65535 := rfl
    have hlimit : Gateway.wtMaxFrame = 67108864 + 4096 := rfl
    simp only [List.length_append, BigEndian.length_toBytes, Bootstrap.magic, List.length_cons,
      List.length_nil]
    omega

/-- **What an engine sends fits the gateway's ceiling.** -/
theorem length_of_recorded {event : HostEvent} (h : recorded lib t event = some m) :
    m.length ≤ Gateway.wtMaxFrame := by
  cases event with
  | releaseLease leaseId => cases h
  | timer nowMs =>
    simp only [recorded, recordedTimer] at h
    split_ifs at h
    split at h
    · cases h
    · split_ifs at h
      exact length_of_recordedControl h
  | wsBytes bufferId bytes =>
    simp only [recorded, recordedAnswer] at h
    split_ifs at h
    split at h
    · cases h
    split at h
    · cases h
    split_ifs at h
    split at h
    · cases h
    · split_ifs at h
      exact length_of_recordedControl h
  | command cmd =>
    cases cmd with
    | start transferable webtransport => exact length_of_recordedHello h
    | authenticate _ _ _ => exact length_of_recordedControl h
    | subscribe _ => exact length_of_recordedOpen h
    | publish _ => exact length_of_recordedOpen h
    | sendSample _ _ | sendPointCloud2 _ _ | sendGenerated _ _ _ =>
      obtain ⟨payload, -, hsample⟩ := Option.bind_eq_some_iff.mp h
      exact length_of_recordedSample hsample
    | openService _ | openAction _ => exact length_of_recordedOpen h
    | callService _ _ _ | sendServiceResponse _ _ _ | sendActionGoal _ _ _
    | sendActionFeedback _ _ _ | sendActionResult _ _ _ => exact length_of_recordedPayload h
    | cancelAction _ _ | sendActionStatus _ _ _ => exact length_of_recordedOperation h
    | unsubscribe _ _ => exact length_of_recordedControl h
    | close => cases h

end Turn
end Engine

theorem ClientEngine.length_of_poll {lib : Library} {wasm32 : Bool} {e : ClientEngine}
    {events : List HostEvent} {m : List UInt8}
    (h : m ∈ (e.poll lib wasm32 events).2.outbound.map (·.bytes)) :
    m.length ≤ Gateway.wtMaxFrame := by
  rw [(map_outbound_poll lib wasm32 e events).1] at h
  obtain ⟨p, -, hp⟩ := List.mem_filterMap.mp h
  exact length_of_recorded hp

namespace Host

/-- No message of a result exceeds the gateway's ceiling. -/
def PollResult.Fits (result : PollResult) : Prop :=
  ∀ m ∈ result.outbound, m.length ≤ Gateway.wtMaxFrame

section

variable (lib : Library) (handle : UInt32)

theorem fits_pollEngineInline (m : Machine) (events : List HostEvent) :
    (pollEngineInline lib m events).1.Fits := fun _ h => ClientEngine.length_of_poll h

theorem fits_pollOneExternalWs (m : Machine) (bufferId : UInt32) (bytes : List UInt8) :
    (pollOneExternalWs lib handle m bufferId bytes).1.Fits := by
  unfold pollOneExternalWs
  split_ifs
  · exact nofun
  · split
    · exact fits_pollEngineInline lib m _
    · exact fits_pollEngineInline lib m _

theorem fits_pollRun (m : Machine) (run : List HostEvent) :
    ∀ part ∈ (pollRun lib m run).1, part.result.Fits := by
  unfold pollRun
  dsimp only
  split_ifs
  · exact nofun
  · intro part hpart
    rw [List.mem_singleton.mp hpart]
    exact fits_pollEngineInline lib _ _

theorem fits_pollParts (m : Machine) (run batch : List HostEvent) :
    ∀ part ∈ (pollParts lib handle m run batch).1, part.result.Fits := by
  induction batch generalizing m run with
  | nil => exact fits_pollRun lib m run
  | cons event batch ih =>
    cases event with
    | wsBytes bufferId bytes =>
      intro part hpart
      rcases List.mem_append.mp hpart with hpart | hpart
      · exact fits_pollRun lib m run part hpart
      rcases List.mem_cons.mp hpart with rfl | hpart
      · exact fits_pollOneExternalWs lib handle _ bufferId bytes
      · exact ih _ [] part hpart
    | command _ | timer _ | releaseLease _ => exact ih m _

theorem fits_pollEngineParts (m : Machine) (events : List HostEvent) :
    ∀ part ∈ (pollEngineParts lib handle m events).1, part.result.Fits := by
  unfold pollEngineParts
  split
  · intro part hpart
    rw [List.mem_singleton.mp hpart]
    exact fits_pollOneExternalWs lib handle m _ _
  · dsimp only
    split_ifs
    · exact nofun
    · intro part hpart
      rw [List.mem_singleton.mp hpart]
      exact fits_pollEngineInline lib _ _
    · exact fits_pollParts lib handle _ [] _

end

namespace IoHost

variable {lib : Library} {s t : IoHost}

/-- A flush gives messages that fit to the transport. -/
theorem exists_outbound_flush (lib : Library) (s : IoHost) :
    ∃ ms, (s.flush lib).outbound = s.outbound ++ ms ∧
      ∀ m ∈ ms, m.length ≤ Gateway.wtMaxFrame := by
  unfold IoHost.flush
  split_ifs
  · exact ⟨[], (List.append_nil _).symm, nofun⟩
  · refine ⟨_, rfl, fun m hm => ?_⟩
    obtain ⟨result, hresult, hm⟩ := List.mem_flatMap.mp hm
    obtain ⟨part, hpart, rfl⟩ := List.mem_map.mp hresult
    exact fits_pollEngineParts lib s.handle s.machine s.pending part hpart m hm

/-- **What a step gives to the transport fits.** -/
theorem exists_outbound_step (hstep : Step lib s t) :
    ∃ ms, t.outbound = s.outbound ++ ms ∧ ∀ m ∈ ms, m.length ≤ Gateway.wtMaxFrame := by
  have hsame : s.outbound = s.outbound ++ [] := (List.append_nil _).symm
  cases hstep with
  | inbound bytes _ =>
    refine ⟨[], ?_, nofun⟩
    unfold IoHost.ingestWsBytes
    dsimp only
    split
    · exact hsame
    · exact hsame
  | command cmd => exact ⟨[], hsame, nofun⟩
  | releaseLease leaseId =>
    refine ⟨[], ?_, nofun⟩
    unfold IoHost.releaseLease
    split
    · exact hsame
    · exact hsame
  | flushSync => exact exists_outbound_flush lib s
  | microtask _ _ => exact exists_outbound_flush lib { s with flushScheduled := false }
  | deliver correlation event rest outer _ =>
    refine ⟨[], ?_, nofun⟩
    unfold IoHost.deliverNext
    dsimp only
    split_ifs
    · exact hsame
    · exact hsame
  | finish outer _ => exact ⟨[], hsame, nofun⟩
  | close =>
    unfold IoHost.close
    split_ifs
    · exact ⟨[], hsame, nofun⟩
    · exact exists_outbound_flush lib { s.enqueue (.command .close) with closed := true }

end IoHost

/-! ## The sink -/

/-- **A host on a WebTransport stream**: the bytes written, in the order of the `write` calls, and
the bodies whose lengths are written and whose continuations have not run. -/
structure WtHost where
  host : IoHost
  written : List UInt8
  awaiting : List (List UInt8)

namespace WtHost

/-- A host with a new stream. -/
def new (engine : ClientEngine) (host : HostState) (handle : UInt32) : WtHost :=
  ⟨.new engine host handle, [], []⟩

/-- The messages a step of the host gives to the sink. -/
def sends (s : WtHost) (host : IoHost) : List (List UInt8) :=
  host.outbound.drop s.host.outbound.length

/-- **Start a send for each message**: each writes its length and waits. -/
def send (s : WtHost) (host : IoHost) : WtHost where
  host := host
  written := s.written ++ (s.sends host).flatMap lengthBytes
  awaiting := s.awaiting ++ s.sends host

/-- **One step**: a step of the host, or the continuation of one of the sends. -/
inductive Step (lib : Library) : WtHost → WtHost → Prop
  | host (s : WtHost) (host : IoHost) :
      IoHost.Step lib s.host host → Step lib s (s.send host)
  | resume (s : WtHost) (m : List UInt8) (before after : List (List UInt8)) :
      s.awaiting = before ++ m :: after →
      Step lib s { s with written := s.written ++ m, awaiting := before ++ after }

/-- Nothing is sent, or one message while no other waits for its body. -/
def SendsAlone (s t : WtHost) : Prop :=
  s.sends t.host = [] ∨ s.awaiting = [] ∧ (s.sends t.host).length = 1

instance (s t : WtHost) : Decidable (SendsAlone s t) :=
  inferInstanceAs (Decidable (_ ∨ _ ∧ _))

/-- **The states of the runs whose steps all satisfy a condition.** -/
def Reaches (lib : Library) (when : WtHost → WtHost → Prop) : WtHost → WtHost → Prop :=
  Relation.ReflTransGen fun s t => when s t ∧ Step lib s t

/-- **The stream is the messages in order**, but for a body that is still to be written. -/
structure InOrder (s : WtHost) : Prop where
  written : s.written ++ s.awaiting.flatten = frames s.host.outbound
  alone : s.awaiting.length ≤ 1
  fits : ∀ m ∈ s.host.outbound, m.length ≤ Gateway.wtMaxFrame

variable {lib : Library} {s t : WtHost}

theorem inOrder_new (engine : ClientEngine) (host : HostState) (handle : UInt32) :
    (WtHost.new engine host handle).InOrder := ⟨rfl, Nat.zero_le _, nofun⟩

/-- **What one step keeps.** -/
theorem InOrder.step (h : s.InOrder) (halone : SendsAlone s t) (hstep : Step lib s t) :
    t.InOrder := by
  cases hstep with
  | resume m before after hawaiting =>
    have hlength := h.alone
    have hwritten := h.written
    rw [hawaiting] at hlength hwritten
    obtain ⟨rfl, rfl⟩ : before = [] ∧ after = [] := by
      rw [List.length_append, List.length_cons] at hlength
      exact ⟨List.length_eq_zero_iff.mp (by omega), List.length_eq_zero_iff.mp (by omega)⟩
    refine ⟨?_, Nat.zero_le _, h.fits⟩
    rw [← hwritten]
    simp
  | host host hhost =>
    obtain ⟨ms, hms, hfits⟩ := IoHost.exists_outbound_step hhost
    have hsends : s.sends host = ms := by rw [sends, hms, List.drop_left]
    have hall : ∀ m ∈ host.outbound, m.length ≤ Gateway.wtMaxFrame := by
      intro m hm
      rw [hms] at hm
      exact (List.mem_append.mp hm).elim (h.fits m) (hfits m)
    rcases halone with hnone | ⟨hidle, hlength⟩
    · rw [show s.sends host = [] from hnone] at hsends
      subst hsends
      rw [List.append_nil] at hms
      refine ⟨?_, ?_, hall⟩
      · show s.written ++ (s.sends host).flatMap lengthBytes ++
          (s.awaiting ++ s.sends host).flatten = frames host.outbound
        rw [show s.sends host = [] from hnone, hms, List.append_nil]
        simpa using h.written
      · show (s.awaiting ++ s.sends host).length ≤ 1
        rw [show s.sends host = [] from hnone, List.append_nil]
        exact h.alone
    · obtain ⟨m, hone⟩ := List.length_eq_one_iff.mp hlength
      rw [show s.sends host = [m] from hone] at hsends
      subst hsends
      refine ⟨?_, ?_, hall⟩
      · show s.written ++ (s.sends host).flatMap lengthBytes ++
          (s.awaiting ++ s.sends host).flatten = frames host.outbound
        have hwritten := h.written
        rw [hidle, List.flatten_nil, List.append_nil] at hwritten
        rw [show s.sends host = [m] from hone, hms, frames_append, frames_singleton, ← hwritten,
          hidle, frame, List.append_assoc]
        simp
      · show (s.awaiting ++ s.sends host).length ≤ 1
        rw [show s.sends host = [m] from hone, hidle]
        exact le_rfl

theorem InOrder.reaches (h : s.InOrder) (hreach : Reaches lib SendsAlone s t) : t.InOrder := by
  induction hreach with
  | refl => exact h
  | tail _ hlast ih => exact ih.step hlast.1 hlast.2

/-- **Messages that are sent alone are written in order**, each behind its length: the stream and a
body that is still to come are the messages given to the sink, and when no body is to come the
gateway's reader recovers exactly these messages. -/
theorem written_in_order (lib : Library) (engine : ClientEngine) (host : HostState)
    (handle : UInt32) (s : WtHost) (hreach : Reaches lib SendsAlone (.new engine host handle) s) :
    s.written ++ s.awaiting.flatten = frames s.host.outbound ∧
      (s.awaiting = [] → Reads Gateway.wtMaxFrame s.written s.host.outbound []) := by
  have h := (inOrder_new engine host handle).reaches hreach
  refine ⟨h.written, fun hidle => ?_⟩
  have hwritten := h.written
  rw [hidle, List.flatten_nil, List.append_nil] at hwritten
  have hreads := reads_frames (show Gateway.wtMaxFrame < 2 ^ 32 by decide) h.fits
    (@front_nil Gateway.wtMaxFrame)
  rw [List.append_nil] at hreads
  rw [hwritten]
  exact hreads

/-! ### Scripts -/

/-- A move of a host on a stream. -/
inductive Move where
  | inbound (bytes : List UInt8)
  | command (cmd : AppCommand)
  | flush
  | deliver
  | finish
  | resume

/-- One move, when the host can make it. -/
def move (lib : Library) (s : WtHost) : Move → Option WtHost
  | .inbound bytes =>
    if s.host.delivering = [] then some (s.send (s.host.ingestWsBytes bytes)) else none
  | .command cmd => some (s.send (s.host.enqueue (.command cmd)))
  | .flush => some (s.send (s.host.flush lib))
  | .deliver =>
    match s.host.delivering with
    | (event :: rest) :: outer =>
      some (s.send (s.host.deliverNext zeroCorrelation event rest outer))
    | _ => none
  | .finish =>
    match s.host.delivering with
    | [] :: outer => some (s.send { s.host with delivering := outer })
    | _ => none
  | .resume =>
    match s.awaiting with
    | m :: after => some { s with written := s.written ++ m, awaiting := after }
    | [] => none

/-- Replay a list of moves that satisfy a condition. -/
def replay (lib : Library) (check : WtHost → WtHost → Bool) : List Move → WtHost → Option WtHost
  | [], s => some s
  | mv :: mvs, s =>
    (move lib s mv).bind fun t => if check s t then replay lib check mvs t else none

theorem step_of_move {mv : Move} (h : move lib s mv = some t) : Step lib s t := by
  cases mv with
  | inbound bytes =>
    obtain ⟨hidle, rfl⟩ := Option.ite_none_right_eq_some.mp h |>.imp_right Option.some.inj
    exact .host s _ (.inbound s.host bytes hidle)
  | command cmd => exact Option.some.inj h ▸ .host s _ (.command s.host cmd)
  | flush => exact Option.some.inj h ▸ .host s _ (.flushSync s.host)
  | deliver =>
    simp only [move] at h
    split at h
    · next event rest outer hdelivering =>
      exact Option.some.inj h ▸ .host s _ (.deliver s.host _ event rest outer hdelivering)
    · contradiction
  | finish =>
    simp only [move] at h
    split at h
    · next outer hdelivering =>
      exact Option.some.inj h ▸ .host s _ (.finish s.host outer hdelivering)
    · contradiction
  | resume =>
    simp only [move] at h
    split at h
    · next m after hawaiting => exact Option.some.inj h ▸ .resume s m [] after hawaiting
    · contradiction

theorem reaches_of_replay {check : WtHost → WtHost → Bool} {when : WtHost → WtHost → Prop}
    (hwhen : ∀ s t, check s t = true → when s t) {mvs : List Move}
    (h : replay lib check mvs s = some t) : Reaches lib when s t := by
  induction mvs generalizing s with
  | nil => exact Option.some.inj h ▸ .refl
  | cons mv mvs ih =>
    obtain ⟨s', hmove, hrest⟩ := Option.bind_eq_some_iff.mp h
    obtain ⟨hcheck, hrest⟩ := Option.ite_none_right_eq_some.mp hrest
    exact .head ⟨hwhen s s' hcheck, step_of_move hmove⟩ (ih hrest)

/-- The messages of the gateway during a handshake. -/
def handshakeInbound : List (List UInt8) :=
  ClientEngine.subscription.flatten.filterMap fun
    | .wsBytes _ bytes => some bytes
    | _ => none

/-- The subscription to a topic. -/
def subscribeTo (channelId : UInt32) : Move :=
  .command (.subscribe ⟨zeroCorrelation, channelId, "/name", "pkg/Type", 1, 5, 0⟩)

/-- A host that becomes ready, and two subscriptions in one flush. -/
def twoSubscriptions : List Move :=
  [.command (.start true true), .flush, .finish, .resume,
    .inbound (handshakeInbound.getD 0 []), .flush, .deliver, .finish, .flush, .finish, .resume,
    .inbound (handshakeInbound.getD 1 []), .flush, .deliver, .finish,
    subscribeTo 1, subscribeTo 2, .flush, .resume, .resume]

/-- **Both lengths come before both bodies**: two subscriptions are flushed together, all sends
have finished, and the stream is not the messages behind their lengths. -/
theorem not_written_of_two :
    ¬ ∀ (s : WtHost), Reaches Pair.noLibrary (fun _ _ => True) (.new {} {} 1) s →
      s.awaiting = [] → s.written = frames s.host.outbound := by
  intro h
  have hrun : (replay Pair.noLibrary (fun _ _ => true) twoSubscriptions (.new {} {} 1)).any
      (fun s => s.awaiting.isEmpty && s.written != frames s.host.outbound) = true := by
    decide +kernel
  obtain ⟨s, hs, hcheck⟩ := (Option.any_eq_true _ _).mp hrun
  rw [Bool.and_eq_true, List.isEmpty_iff, bne_iff_ne] at hcheck
  exact hcheck.2 (h s (reaches_of_replay (fun _ _ _ => trivial) hs) hcheck.1)

/-- The hello of a host is sent alone. -/
theorem written_in_order_of_hello :
    ∃ s : WtHost, s.host.outbound.length = 1 ∧
      Reads Gateway.wtMaxFrame s.written s.host.outbound [] := by
  have hrun : (replay Pair.noLibrary (fun s t => decide (SendsAlone s t))
      (twoSubscriptions.take 4) (.new {} {} 1)).any
        (fun s => s.awaiting.isEmpty && s.host.outbound.length == 1) = true := by decide +kernel
  obtain ⟨s, hs, hcheck⟩ := (Option.any_eq_true _ _).mp hrun
  rw [Bool.and_eq_true, List.isEmpty_iff, beq_iff_eq] at hcheck
  have hreach : Reaches Pair.noLibrary SendsAlone (.new {} {} 1) s :=
    reaches_of_replay (fun _ _ => of_decide_eq_true) hs
  exact ⟨s, hcheck.2, (written_in_order Pair.noLibrary {} {} 1 s hreach).2 hcheck.1⟩

end WtHost
end Host
end Rclweb
