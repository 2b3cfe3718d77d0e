import Rclweb.Client.InlineClient
import Rclweb.Engine.Runs
import Rclweb.Pair.ChannelError

/-!
# Errors of operation scope, down to the promise

An Error of operation scope names its operation in an extension of the frame and its channel in the
message.  The session looks at the channel only, the event of the engine carries nothing else, and
the client rejects every call and every goal of the channel.  So the Error ends its operation alone
exactly when it names one and nothing else is pending on the channel
(`operation_error_ends_operation`).
-/

namespace Rclweb

open Rclweb.Frame Control Transition OrderedCheck Engine Turn Pair

namespace Client

/-! ## What arrives -/

/-- The operations a frame names. -/
def operationIds (frame : DecodedFrame) : List (List UInt8) :=
  (frame.extensions.filter (·.typeId == Extension.operationIdExtensionType)).map (·.value)

def errorScope (msg : ControlMessage) : UInt64 := (Transition.fieldUint msg fieldErrorScope).getD 0

/-- **An Error arrives in turn** at a ready engine. -/
structure ErrorArrives (t : Turn) (bytes : List UInt8) (frame : DecodedFrame)
    (msg : ControlMessage) : Prop where
  ready : t.engine.session.phase = .ready
  role : t.engine.session.inner.role = .client
  parse : parseFrame bytes defaultOptions = .ok frame
  control : controlOf frame = some msg
  kind : msg.kind = kindError
  sequence : frame.sequence = UInt64.ofNat t.engine.controlSeqIn

/-- The session accepts the frame. -/
def Accepts (t : Turn) (frame : DecodedFrame) : Prop :=
  ∃ effects session, t.engine.session.ingestFrame frame = (.ok effects, session)

/-- The Error names an active channel. -/
def NamesActive (t : Turn) (msg : ControlMessage) : Prop :=
  ∃ id, errorChannel msg = some id ∧ t.engine.session.inner.channels.state id = .active

/-- The events of one host event. -/
def toldBy (lib : Library) (wasm32 : Bool) (t : Turn) (event : HostEvent) : List AppEvent :=
  (handleEvent lib wasm32 t event).outcome.events.drop t.outcome.events.length

/-- The client after events of the engine. -/
def InlineClient.hear (c : InlineClient) (payload : Worker.Payload) (events : List AppEvent) :
    InlineClient :=
  events.foldl (fun c event => c.onEvent payload event) c

/-- **One operation has ended**: its promise is rejected, and every other one is as it was. -/
def Ends (c c' : InlineClient) (key : ℕ × List UInt8) : Prop :=
  c'.pendingCalls = c.pendingCalls.remove key ∧
    c'.pendingActionResults = c.pendingActionResults.remove key ∧
    ∃ message, c'.settled = settleAll c.settled
      ((c.pendingCalls.find? key).toList ++ (c.pendingActionResults.find? key).toList)
      (.rejected message)

/-- **What is asked of an Error**: one of operation scope is accepted exactly when it names one
operation on an active channel, and ends that one; one of another scope that names an operation is
refused. -/
def EndsItsOperation (lib : Library) (wasm32 : Bool) (t : Turn) (bufferId : UInt32)
    (bytes : List UInt8) (frame : DecodedFrame) (msg : ControlMessage) (c : InlineClient) : Prop :=
  if errorScope msg = 2 then
    (Accepts t frame ↔ (∃ id, operationIds frame = [id]) ∧ NamesActive t msg) ∧
      (Accepts t frame → ∀ id channelId, operationIds frame = [id] →
        errorChannel msg = some channelId →
        Ends c (c.hear {} (toldBy lib wasm32 t (.wsBytes bufferId bytes))) (channelId.toNat, id))
  else if errorScope msg = 0 ∨ errorScope msg = 1 then operationIds frame ≠ [] → ¬ Accepts t frame
  else True

/-- Every pending operation of a channel is the one that is named. -/
def PendingOnly (c : InlineClient) (channelId : ℕ) (id : List UInt8) : Prop :=
  ∀ key, key ∈ c.pendingCalls.keys ∨ key ∈ c.pendingActionResults.keys → key.1 = channelId →
    key.2 = id

/-- **When an Error does what is asked of it.** -/
def NamesTheOnlyOne (t : Turn) (frame : DecodedFrame) (msg : ControlMessage) (c : InlineClient) :
    Prop :=
  if errorScope msg = 2 then
    ∀ channelId, errorChannel msg = some channelId →
      t.engine.session.inner.channels.state channelId = .active →
      ∃ id, operationIds frame = [id] ∧ PendingOnly c channelId.toNat id
  else errorScope msg = 0 ∨ errorScope msg = 1 → operationIds frame = []

variable {t : Turn} {bytes : List UInt8} {frame : DecodedFrame} {msg : ControlMessage}

/-! ## The session -/

theorem ErrorArrives.ingest (h : ErrorArrives t bytes frame msg) :
    t.engine.session.ingestFrame frame =
      Session.ofOutcome (applyError t.engine.session.inner msg) := by
  rw [Session.ingestFrame, h.role]
  exact congrArg Session.ofOutcome (applyFrame_error h.control (live_of_ready h.ready) h.kind)

/-- An Error of operation scope is accepted on an active channel. -/
theorem ErrorArrives.ingest_operation (h : ErrorArrives t bytes frame msg)
    (hscope : errorScope msg = 2) {channelId : UInt32} (hid : errorChannel msg = some channelId)
    (hactive : t.engine.session.inner.channels.state channelId = .active) :
    t.engine.session.ingestFrame frame =
      (.ok { operationCancelled := some channelId }, t.engine.session) := by
  have hready : t.engine.session.inner.phase = .ready := h.ready
  have hscope' : (Transition.fieldUint msg fieldErrorScope).getD 0 = 2 := hscope
  have hid' : (Transition.fieldUint msg fieldChannelId).map UInt64.toUInt32 = some channelId := hid
  rw [h.ingest]
  simp [applyError, hready, SessionPhase.isReady, hscope', hid', applyOperationError, hactive,
    Session.ofOutcome, accept]

/-- It is accepted on no other. -/
theorem ErrorArrives.accepts_operation_iff (h : ErrorArrives t bytes frame msg)
    (hscope : errorScope msg = 2) : Accepts t frame ↔ NamesActive t msg := by
  constructor
  · rintro ⟨effects, session, hingest⟩
    have hready : t.engine.session.inner.phase = .ready := h.ready
    have hscope' : (Transition.fieldUint msg fieldErrorScope).getD 0 = 2 := hscope
    rw [h.ingest] at hingest
    cases hid : errorChannel msg with
    | none =>
      have hid' : (Transition.fieldUint msg fieldChannelId).map UInt64.toUInt32 = none := hid
      simp [applyError, hready, SessionPhase.isReady, hscope', hid', applyOperationError,
        Session.ofOutcome, reject] at hingest
    | some channelId =>
      have hid' : (Transition.fieldUint msg fieldChannelId).map UInt64.toUInt32 =
        some channelId := hid
      by_cases hactive : t.engine.session.inner.channels.state channelId = .active
      · exact ⟨channelId, hid, hactive⟩
      · simp [applyError, hready, SessionPhase.isReady, hscope', hid', applyOperationError, hactive,
          Session.ofOutcome, reject] at hingest
  · rintro ⟨channelId, hid, hactive⟩
    exact ⟨_, _, h.ingest_operation hscope hid hactive⟩

/-- An Error of another scope is accepted. -/
theorem ErrorArrives.accepts_of_scope (h : ErrorArrives t bytes frame msg)
    (hscope : errorScope msg ≠ 2) : Accepts t frame := by
  have hready : t.engine.session.inner.phase = .ready := h.ready
  have hscope' : ¬ (Transition.fieldUint msg fieldErrorScope).getD 0 = 2 := hscope
  obtain ⟨s', f, happly⟩ : ∃ s' f, applyReadyError t.engine.session.inner msg
      ((Transition.fieldUint msg fieldChannelId).map UInt64.toUInt32) = accept s' f := by
    unfold applyReadyError
    split
    · split_ifs
      · exact ⟨_, _, rfl⟩
      · exact ⟨_, _, rfl⟩
    · exact ⟨_, _, rfl⟩
  refine ⟨f, ⟨s'⟩, ?_⟩
  rw [h.ingest]
  simp [applyError, hready, SessionPhase.isReady, hscope', happly, Session.ofOutcome, accept]

/-! ## The engine -/

variable (lib : Library) (wasm32 : Bool) (bufferId : UInt32)

/-- **The event of an Error of operation scope** says its channel, and no operation. -/
theorem ErrorArrives.toldBy_operation (h : ErrorArrives t bytes frame msg)
    (hscope : errorScope msg = 2) {channelId : UInt32} (hid : errorChannel msg = some channelId)
    (hactive : t.engine.session.inner.channels.state channelId = .active) :
    ∃ code message, toldBy lib wasm32 t (.wsBytes bufferId bytes) =
      [.operationCancelled channelId code message] := by
  obtain ⟨n, kept, hkept⟩ : ∃ n retained, (t.retain bufferId bytes).2 =
      ⟨{ t.engine with nextBufferId := n, retained := retained }, t.outcome⟩ := by
    unfold retain
    dsimp only
    split_ifs <;> exact ⟨_, _, rfl⟩
  have hsession : (t.retain bufferId bytes).2.engine.session = t.engine.session := by rw [hkept]
  have hplane : (t.retain bufferId bytes).2.engine.session.phase.inSelectedPlane = true := by
    rw [hsession, h.ready]
    rfl
  obtain ⟨hopcode, hpayload⟩ := opcode_of_controlOf h.control
  have hframe := ClientEngine.handleFrame_control lib wasm32 (t.retain bufferId bytes).1 h.parse
    hopcode hpayload ((congrArg (Session.ingestFrame · frame) hsession).trans
      (h.ingest_operation hscope hid hactive)) (by rw [hkept]; exact h.sequence)
  have hhandle : ∀ u : Turn, u.handleControl msg { operationCancelled := some channelId } =
      u.emit (.operationCancelled channelId ((Engine.fieldUint msg.fields 48).getD 15).toUInt8
        ((Engine.fieldText msg.fields 51).getD "operation_cancelled")) := by
    intro u
    unfold Turn.handleControl
    rw [h.kind, if_neg (by decide), if_neg (by decide), if_neg (by decide), if_neg (by decide),
      if_neg (by decide), if_pos rfl]
    rfl
  refine ⟨((Engine.fieldUint msg.fields 48).getD 15).toUInt8,
    (Engine.fieldText msg.fields 51).getD "operation_cancelled", ?_⟩
  show ((handleWsBytes lib wasm32 t bufferId bytes).outcome.events).drop _ = _
  unfold handleWsBytes
  dsimp only
  rw [if_pos hplane, hframe, hhandle, hkept]
  exact List.drop_left' rfl

/-! ## The client -/

/-- Ending every operation of a channel is ending one, when there is no other. -/
theorem ends_operationCancelled_iff (c : InlineClient) (channelId : ℕ) (id : List UInt8)
    (message : String) :
    Ends c (c.operationCancelled channelId message) (channelId, id) ↔
      ∀ key, key ∈ c.pendingCalls.keys ∨ key ∈ c.pendingActionResults.keys →
        key.1 = channelId → key.2 = id := by
  have hone : ∀ m : InsertionMap (ℕ × List UInt8) ℕ,
      (∀ entry ∈ m.entries, InlineClient.ofChannel channelId entry = true ↔
        entry.1 = (channelId, id)) ↔ ∀ key ∈ m.keys, key.1 = channelId → key.2 = id := by
    intro m
    rw [InsertionMap.keys, List.forall_mem_map]
    refine forall₂_congr fun entry _ => ?_
    rw [InlineClient.ofChannel, decide_eq_true_eq, Prod.ext_iff]
    exact ⟨fun h hc => (h.mp hc).2, fun h => ⟨fun hc => ⟨hc, h hc⟩, And.left⟩⟩
  have hkeys : (∀ key, key ∈ c.pendingCalls.keys ∨ key ∈ c.pendingActionResults.keys →
        key.1 = channelId → key.2 = id) ↔
      (∀ key ∈ c.pendingCalls.keys, key.1 = channelId → key.2 = id) ∧
        ∀ key ∈ c.pendingActionResults.keys, key.1 = channelId → key.2 = id := by
    simp only [or_imp, forall_and]
  rw [hkeys, ← hone, ← hone, Ends, ← InsertionMap.filter_eq_remove_iff,
    ← InsertionMap.filter_eq_remove_iff]
  refine ⟨fun h => ⟨h.1, h.2.1⟩, fun h => ⟨h.1, h.2, message, ?_⟩⟩
  show settleAll c.settled _ _ = _
  rw [InsertionMap.values_filter_of_iff (InsertionMap.filter_eq_remove_iff.mp h.1),
    InsertionMap.values_filter_of_iff (InsertionMap.filter_eq_remove_iff.mp h.2)]

/-- **An Error in turn does what is asked of it exactly when it names the only pending operation of
its channel**, or its scope is another and it names none: on every ready engine and for every
client, whatever calls and goals are pending. -/
theorem endsItsOperation_iff (h : ErrorArrives t bytes frame msg) (c : InlineClient) :
    EndsItsOperation lib wasm32 t bufferId bytes frame msg c ↔ NamesTheOnlyOne t frame msg c := by
  unfold EndsItsOperation NamesTheOnlyOne
  by_cases hscope : errorScope msg = 2
  · rw [if_pos hscope, if_pos hscope, h.accepts_operation_iff hscope]
    constructor
    · rintro ⟨hiff, hends⟩ channelId hid hactive
      obtain ⟨⟨id, hnamed⟩, -⟩ := hiff.mp ⟨channelId, hid, hactive⟩
      obtain ⟨code, message, htold⟩ :=
        h.toldBy_operation lib wasm32 bufferId hscope hid hactive
      have hend := hends ⟨channelId, hid, hactive⟩ id channelId hnamed hid
      rw [htold] at hend
      exact ⟨id, hnamed, (ends_operationCancelled_iff c _ id _).mp hend⟩
    · intro hall
      refine ⟨⟨fun hactive => ⟨?_, hactive⟩, And.right⟩, ?_⟩
      · obtain ⟨channelId, hid, hactive⟩ := hactive
        obtain ⟨id, hnamed, -⟩ := hall channelId hid hactive
        exact ⟨id, hnamed⟩
      · rintro ⟨channelId, hid, hactive⟩ id channelId' hnamed hid'
        obtain rfl := Option.some.inj (hid.symm.trans hid')
        obtain ⟨id', hnamed', honly⟩ := hall channelId hid hactive
        obtain rfl := List.singleton_inj.mp (hnamed.symm.trans hnamed')
        obtain ⟨code, message, htold⟩ :=
          h.toldBy_operation lib wasm32 bufferId hscope hid hactive
        rw [htold]
        exact (ends_operationCancelled_iff c _ id _).mpr honly
  · rw [if_neg hscope, if_neg hscope]
    have haccepts := h.accepts_of_scope hscope
    by_cases hother : errorScope msg = 0 ∨ errorScope msg = 1
    · rw [if_pos hother]
      exact ⟨fun himp _ => by_contra fun hne => himp hne haccepts,
        fun hnil hne => absurd (hnil hother) hne⟩
    · rw [if_neg hother]
      exact iff_of_true trivial fun h => absurd h hother

/-- **An Error of operation scope ends its operation and no other exactly when the operation it
names is the only pending one of its channel.** -/
theorem operation_error_ends_operation (h : ErrorArrives t bytes frame msg) (c : InlineClient) :
    EndsItsOperation lib wasm32 t bufferId bytes frame msg c ↔ NamesTheOnlyOne t frame msg c :=
  endsItsOperation_iff lib wasm32 bufferId h c

/-! ## Two calls on one channel -/

/-- The handshake, and a service client on channel 1. -/
def serviceSession : List (List HostEvent) :=
  ClientEngine.subscription.take 4 ++
    [[.command (.openService ⟨zeroCorrelation, 1, "/name", "pkg/Type", 0, true⟩)],
      ClientEngine.peerControl 1
        (Gateway.channelReadyServiceAllow Gateway.sampleConfig Gateway.zeroCorrelation 1 2)]

def sampleId (b : UInt8) : List UInt8 := List.replicate 16 b

/-- An Error that cancels an operation of channel 1, with the next control number. -/
def cancellation (operationId : List UInt8) : List UInt8 :=
  match Encode.encodeDeterministicCbor (.map [(1, .unsigned 15), (2, .bytes zeroCorrelation.1),
      (48, .unsigned 15), (49, .unsigned 2), (29, .unsigned 1), (51, .text "cancelled")]),
    Encode.encodeExtensionArea [⟨Extension.operationIdExtensionType, true, operationId⟩] with
  | .ok payload, .ok area =>
    Gateway.encoded (Encode.encodeFrame
      ⟨0, opcodeControlCbor, 0, 0, 2, 0, priorityControl, 0⟩ area payload)
  | _, _ => []

/-- Whether channel 1 of a ready engine is active, and two control frames have come. -/
def isServing (e : ClientEngine) : Bool :=
  e.session.phase == .ready && e.session.inner.role == .client &&
    e.session.inner.channels.state 1 == .active && e.controlSeqIn == 2

/-- Whether a frame is an Error for one operation of channel 1. -/
def isCancellation (operationId : List UInt8) (frame : DecodedFrame) : Bool :=
  frame.sequence == 2 && operationIds frame == [operationId] &&
    (controlOf frame).any fun msg =>
      msg.kind == kindError && errorScope msg == 2 && errorChannel msg == some 1

theorem exists_cancellation : ∃ e frame msg,
    ClientEngine.Reachable noLibrary false (fun _ _ => true) e ∧
      ErrorArrives ⟨e, {}⟩ (cancellation (sampleId 1)) frame msg ∧ errorScope msg = 2 ∧
      operationIds frame = [sampleId 1] ∧ errorChannel msg = some 1 ∧
      e.session.inner.channels.state 1 = .active := by
  obtain ⟨e, hreach, hcheck⟩ := ClientEngine.reachable_of_check noLibrary false (fun _ _ => true)
    serviceSession isServing (by decide +kernel)
  have hframe : (parseFrame (cancellation (sampleId 1)) defaultOptions).toOption.any
      (isCancellation (sampleId 1)) = true := by decide +kernel
  obtain ⟨frame, hparse, hframe⟩ := (Option.any_eq_true _ _).mp hframe
  simp only [isServing, Bool.and_eq_true, beq_iff_eq] at hcheck
  simp only [isCancellation, Bool.and_eq_true, beq_iff_eq, Option.any_eq_true] at hframe
  obtain ⟨⟨⟨hready, hrole⟩, hactive⟩, hseq⟩ := hcheck
  obtain ⟨⟨hsequence, hids⟩, msg, hcontrol, ⟨hkind, hscope⟩, hchannel⟩ := hframe
  refine ⟨e, frame, msg, hreach, ⟨hready, hrole, ?_, hcontrol, hkind, ?_⟩, hscope, hids, hchannel,
    hactive⟩
  · cases h : parseFrame (cancellation (sampleId 1)) defaultOptions with
    | error err =>
      rw [h] at hparse
      cases hparse
    | ok parsed =>
      rw [h] at hparse
      exact congrArg Except.ok (Option.some.inj hparse)
  · rw [hsequence]
    exact congrArg UInt64.ofNat hseq.symm

/-- Two calls, under the promises 0 and 1. -/
def twoCalls : InlineClient :=
  ({ url := "wss://gateway" : InlineClient }.callService 1 (sampleId 1) [1]).callService 1
    (sampleId 2) [2]

/-- The Error for the first call ends the second, too. -/
theorem not_operation_error_ends_operation : ∃ e frame msg,
    ClientEngine.Reachable noLibrary false (fun _ _ => true) e ∧
      ErrorArrives ⟨e, {}⟩ (cancellation (sampleId 1)) frame msg ∧
      ¬ EndsItsOperation noLibrary false ⟨e, {}⟩ 0 (cancellation (sampleId 1)) frame msg
        twoCalls := by
  obtain ⟨e, frame, msg, hreach, h, hscope, hids, hchannel, hactive⟩ := exists_cancellation
  refine ⟨e, frame, msg, hreach, h, ?_⟩
  rw [endsItsOperation_iff noLibrary false 0 h, NamesTheOnlyOne, if_pos hscope]
  intro hall
  obtain ⟨id, hid, honly⟩ := hall 1 hchannel hactive
  obtain rfl := List.singleton_inj.mp (hids.symm.trans hid)
  exact absurd (honly (1, sampleId 2) (.inl (by decide)) rfl) (by decide)

theorem operation_error_ends_operation_of_oneCall : ∃ e frame msg,
    EndsItsOperation noLibrary false ⟨e, {}⟩ 0 (cancellation (sampleId 1)) frame msg
      ({ url := "wss://gateway" : InlineClient }.callService 1 (sampleId 1) [1]) := by
  obtain ⟨e, frame, msg, -, h, hscope, hids, hchannel, -⟩ := exists_cancellation
  refine ⟨e, frame, msg, (operation_error_ends_operation noLibrary false 0 h _).mpr ?_⟩
  rw [NamesTheOnlyOne, if_pos hscope]
  intro channelId hid _
  refine ⟨sampleId 1, hids, ?_⟩
  rintro key (hkey | hkey) -
  · rw [List.mem_singleton.mp hkey]
  · exact absurd hkey List.not_mem_nil

end Client
end Rclweb
