import Rclweb.Client.OperationError
import Rclweb.Client.Promises
import Rclweb.Pair.RefusedSend

/-!
# Sends that fail, and their callers

The engine reports a send that fails by an event of its channel.  The client looks the event up in
the tables of channels that are being opened, and the promise of the send waits elsewhere.  So a
call, a goal or a message whose frame is not sent rejects its caller in one case only: the message
is none of its type, and `publish` throws before it asks the host
(`failed_send_rejects_caller`).
-/

namespace Rclweb

open Engine Engine.Turn Pair

namespace Engine

/-- The events that report a send that failed, or an open. -/
def AppEvent.isFailure : AppEvent → Bool
  | .publishFailed _ _ _ | .serviceFailed _ _ _ | .actionFailed _ _ _ => true
  | _ => false

namespace Turn

variable {t : Turn}

/-- What a turn has told more than another: failures only. -/
def TellsFailures (t t' : Turn) : Prop :=
  ∃ failures, t'.outcome.events = t.outcome.events ++ failures ∧
    ∀ failure ∈ failures, failure.isFailure = true

theorem tellsFailures_of_events {t' : Turn} (h : t'.outcome.events = t.outcome.events) :
    TellsFailures t t' :=
  ⟨[], by rw [h, List.append_nil], List.forall_mem_nil _⟩

theorem tellsFailures_emit {t' : Turn} (h : t'.outcome.events = t.outcome.events)
    {failure : AppEvent} (hfailure : failure.isFailure = true) :
    TellsFailures t (t'.emit failure) :=
  ⟨[failure], by rw [← h]; rfl, List.forall_mem_singleton.mpr hfailure⟩

theorem events_pushOutbound (t : Turn) (bytes : List UInt8) :
    (t.pushOutbound bytes).outcome.events = t.outcome.events := by
  unfold pushOutbound
  split_ifs <;> rfl

theorem tellsFailures_sendSamplePayload (t : Turn) (channelId : UInt32) (payload : List UInt8) :
    TellsFailures t (t.sendSamplePayload channelId payload) := by
  unfold sendSamplePayload
  repeat' split
  all_goals
    first
    | exact tellsFailures_emit rfl rfl
    | exact tellsFailures_of_events (events_pushOutbound ..)

theorem takeOperationSequence_events {channelId : UInt32} {operationId : OperationId}
    {sequence : ℕ} {u : Turn}
    (h : t.takeOperationSequence channelId operationId = some (sequence, u)) :
    u.outcome.events = t.outcome.events := by
  unfold takeOperationSequence at h
  dsimp only at h
  split at h
  · cases h
    rfl
  · split at h
    · cases h
      rfl
    · cases h

theorem tellsFailures_sendServiceActionFrame (t : Turn) (channelId : UInt32) (opcode : UInt8)
    (operationId : OperationId) (payload : List UInt8) (reliable : Bool) :
    TellsFailures t (t.sendServiceActionFrame channelId opcode operationId payload reliable) := by
  unfold sendServiceActionFrame
  split
  · refine tellsFailures_emit rfl ?_
    unfold operationNotReady
    split <;> rfl
  · next htake =>
    have hevents := takeOperationSequence_events htake
    repeat' split
    all_goals
      first
      | exact tellsFailures_emit hevents rfl
      | exact tellsFailures_of_events ((events_pushOutbound ..).trans hevents)

/-- **A command that sends reports failures and nothing else.** -/
theorem tellsFailures_handleCommand (lib : Library) (t : Turn) {cmd : AppCommand}
    (hsends : cmd.sends = true) : TellsFailures t (handleCommand lib t cmd) := by
  cases cmd <;> simp only [AppCommand.sends, AppCommand.operation, Option.isSome_none,
    Bool.false_eq_true] at hsends
  all_goals simp only [handleCommand, sendSample, sendOperation]
  all_goals
    try split
  all_goals
    first
    | exact tellsFailures_emit rfl rfl
    | exact tellsFailures_sendSamplePayload ..
    | exact tellsFailures_sendServiceActionFrame ..

end Turn
end Engine

namespace Client

open Worker

/-! ## Requests -/

/-- **What the host is asked for by a call that sends a frame for its caller**, or what is thrown
before. -/
def AppCall.sent? : AppCall → Option (Except String HostCall)
  | .send channelId typeName message => some (dispatchPublish channelId typeName message)
  | .call channelId operationId request =>
    some (.ok (.callService ⟨channelId, operationId, request⟩))
  | .sendGoal channelId operationId goal =>
    some (.ok (.sendActionGoal ⟨channelId, operationId, goal⟩))
  | _ => none

/-- **The command the host makes of a call that sends.**  A channel id is written with 32 bits; what
a point cloud is written as does not matter here. -/
inductive Commands : HostCall → AppCommand → Prop
  | sendSample (channelId : ℕ) (data : String) :
    Commands (.sendSample channelId data) (.sendSample (UInt32.ofNat channelId) data)
  | sendPointCloud2 (channelId : ℕ) (cloud : PointCloud2) (view : PointCloud2View) :
    Commands (.sendPointCloud2 channelId cloud) (.sendPointCloud2 (UInt32.ofNat channelId) view)
  | sendGenerated (channelId : ℕ) (typeName : String) (value : List UInt8) :
    Commands (.sendGenerated channelId typeName value)
      (.sendGenerated (UInt32.ofNat channelId) typeName value)
  | callService (channelId : ℕ) (operationId : OperationId) (request : List UInt8) :
    Commands (.callService ⟨channelId, operationId.1, request⟩)
      (.callService (UInt32.ofNat channelId) operationId request)
  | sendActionGoal (channelId : ℕ) (operationId : OperationId) (goal : List UInt8) :
    Commands (.sendActionGoal ⟨channelId, operationId.1, goal⟩)
      (.sendActionGoal (UInt32.ofNat channelId) operationId goal)

theorem Commands.sends {c : HostCall} {cmd : AppCommand} (h : Commands c cmd) :
    cmd.sends = true := by
  cases h <;> rfl

/-- `publish` flushes; `call` and `sendGoal` leave that to a microtask. -/
def flushes : HostCall → Bool
  | .sendSample _ _ | .sendPointCloud2 _ _ | .sendGenerated _ _ _ => true
  | _ => false

/-- **What handling a request makes the client do**: no command is handled when `publish` has
thrown, when the host is disposed of or the engine is closed.  Behind the events `publish` goes
on. -/
inductive Handled (lib : Library) (wasm32 : Bool) (payload : Payload) (t : Turn)
    (u : InlineClient) : Except String HostCall → Turn → InlineClient → Prop
  | thrown (message : String) : Handled lib wasm32 payload t u (.error message) t u
  | dropped (c : HostCall) (hdropped : HostCall.dispose ∈ u.calls ∨ t.engine.closed = true) :
    Handled lib wasm32 payload t u (.ok c) t (if flushes c then u.returned else u)
  | command {c : HostCall} {cmd : AppCommand} (h : Commands c cmd)
    (hopen : t.engine.closed = false) :
    Handled lib wasm32 payload t u (.ok c) (handleEvent lib wasm32 t (.command cmd))
      (if flushes c then (u.hear payload (toldBy lib wasm32 t (.command cmd))).returned
        else u.hear payload (toldBy lib wasm32 t (.command cmd)))

/-- **A failure rejects its own caller**: the promise that was made in a state `s` is rejected, and
no other one is settled. -/
structure RejectsCaller (s u v : InlineClient) : Prop where
  rejected : ∃ message, v.settled.find? s.promises = some (.rejected message)
  others : ∀ p ≠ s.promises, v.settled.find? p = u.settled.find? p

/-! ## Failures settle opens only -/

theorem find?_settleIn_of_ne {settled : InsertionMap ℕ Settlement} {promise p : ℕ}
    {outcome : Settlement} (h : p ≠ promise) :
    (settleIn settled promise outcome).find? p = settled.find? p := by
  unfold settleIn
  split_ifs
  · rfl
  · rw [InsertionMap.find?_set, if_neg h]

namespace InlineClient

variable {s : InlineClient} {p : ℕ}

/-- A failure leaves a promise alone that is none of an open. -/
theorem settled_onEvent_failure (h : s.Opens (· ≠ p)) (payload : Payload) {failure : AppEvent}
    (hfailure : failure.isFailure = true) :
    (s.onEvent payload failure).settled.find? p = s.settled.find? p := by
  cases failure <;> simp only [AppEvent.isFailure, Bool.false_eq_true] at hfailure
  all_goals
    simp only [onEvent]
    split
    · rfl
    · next hfind =>
      refine find?_settleIn_of_ne (Ne.symm ?_)
      first
      | exact h.pubs _ (InsertionMap.mem_values_of_find? hfind)
      | exact h.services _ (InsertionMap.mem_values_of_find? hfind)
      | exact h.actions _ (InsertionMap.mem_values_of_find? hfind)

theorem settled_hear_failures (h : s.Opens (· ≠ p)) (payload : Payload) {failures : List AppEvent}
    (hfailures : ∀ failure ∈ failures, failure.isFailure = true) :
    (s.hear payload failures).settled.find? p = s.settled.find? p := by
  induction failures generalizing s with
  | nil => rfl
  | cons failure failures ih =>
    obtain ⟨hfailure, hrest⟩ := List.forall_mem_cons.mp hfailures
    exact (ih (opens_onEvent h payload failure) hrest).trans
      (settled_onEvent_failure h payload hfailure)

/-- Returning from `flushSync` rejects nothing. -/
theorem not_rejected_returned (h : s.settled.find? p = none) (message : String) :
    s.returned.settled.find? p ≠ some (.rejected message) := by
  have hresolved : ∀ promise value,
      (settleIn s.settled promise (.resolved value)).find? p ≠ some (.rejected message) := by
    intro promise value
    by_cases hp : p = promise
    · subst hp
      rw [settleIn, h]
      simp [InsertionMap.find?_set_self]
    · rw [find?_settleIn_of_ne hp, h]
      exact (Option.some_ne_none _).symm
  have hnone : s.settled.find? p ≠ some (.rejected message) := h ▸ (Option.some_ne_none _).symm
  unfold returned
  split
  all_goals first | exact hnone | exact hresolved _ _

/-- A promise that is none of an open will be none of one. -/
theorem opens_run (h : s.Opens (· ≠ p)) (hp : p < s.promises) (acts : List InlineAct) :
    (Acts.run InlineClient.step s acts).Opens (· ≠ p) := by
  refine (Acts.invariant_run_of_step (fun s : InlineClient => s.Opens (· ≠ p) ∧ p < s.promises)
    ?_ ⟨h, hp⟩ acts).1
  intro s act hs
  exact ⟨opens_step hs.1 act fun _ => Nat.ne_of_gt hs.2, hs.2.trans_le (promises_step s act)⟩

theorem settled_app_of_thrown {thrown : Option String} {call : AppCall} {message : String}
    (hsent : call.sent? = some (.error message)) :
    (s.app thrown call).settled = settleIn s.settled s.promises (.rejected message) := by
  cases call <;> simp only [AppCall.sent?, Option.some.injEq, reduceCtorEq] at hsent
  simp only [app, send, hsent]
  rfl

theorem app_of_sent {thrown : Option String} {call : AppCall} {c : HostCall}
    (hsent : call.sent? = some (.ok c)) :
    (s.app thrown call).settled = s.settled ∧ (s.app thrown call).promises = s.promises + 1 ∧
      ∀ P, s.Opens P → (s.app thrown call).Opens P := by
  cases call <;> simp only [AppCall.sent?, Option.some.injEq, reduceCtorEq] at hsent
  · simp only [app, send, hsent]
    exact ⟨rfl, rfl, fun P h => ⟨h.subs, h.pubs, h.services, h.actions⟩⟩
  · exact ⟨rfl, rfl, fun P h => ⟨h.subs, h.pubs, h.services, h.actions⟩⟩
  · exact ⟨rfl, rfl, fun P h => ⟨h.subs, h.pubs, h.services, h.actions⟩⟩

theorem Numbered.find?_promises (h : s.Numbered) : s.settled.find? s.promises = none :=
  InsertionMap.find?_eq_none_iff.mpr fun hmem => Nat.lt_irrefl _ (h.settled _ hmem)

theorem rejectsCaller_iff (lib : Library) (wasm32 : Bool) (payload : Payload) (hs : s.Numbered)
    {call : AppCall} {out : Except String HostCall} (hsent : call.sent? = some out)
    (thrown : Option String) (before : List InlineAct) {u v : InlineClient}
    (hu : u = Acts.run InlineClient.step (s.app thrown call) before)
    (hbefore : u.settled.find? s.promises = (s.app thrown call).settled.find? s.promises)
    {t t' : Turn} (hhandled : Handled lib wasm32 payload t u out t' v) :
    RejectsCaller s u v ↔ ∃ message, out = .error message := by
  cases out with
  | error message =>
    cases hhandled
    refine iff_of_true ⟨⟨message, ?_⟩, fun p _ => rfl⟩ ⟨message, rfl⟩
    rw [hbefore, settled_app_of_thrown hsent, settleIn, hs.find?_promises]
    exact InsertionMap.find?_set_self ..
  | ok c =>
    obtain ⟨hsettled, hpromises, hopens⟩ := @app_of_sent s thrown _ _ hsent
    rw [hsettled, hs.find?_promises] at hbefore
    refine iff_of_false (fun hrejects => ?_) (fun ⟨message, h⟩ => by cases h)
    obtain ⟨message, hrejected⟩ := hrejects.rejected
    have hnot : ∀ w : InlineClient, w.settled.find? s.promises = none →
        (if flushes c then w.returned else w).settled.find? s.promises ≠
          some (.rejected message) := by
      intro w hw
      split_ifs
      · exact not_rejected_returned hw message
      · exact hw ▸ (Option.some_ne_none _).symm
    cases hhandled with
    | dropped _ hdropped => exact hnot u hbefore hrejected
    | @command _ cmd hcommands hopen =>
      have hquiet : u.Opens (· ≠ s.promises) := by
        rw [hu]
        exact opens_run (hopens _ (hs.opens.imp fun p hp => Nat.ne_of_lt hp))
          (hpromises ▸ Nat.lt_succ_self _) before
      obtain ⟨failures, hevents, hfailures⟩ :=
        tellsFailures_handleCommand lib t hcommands.sends
      have htold : toldBy lib wasm32 t (.command cmd) = failures := by
        rw [toldBy, handleEvent, hevents, List.drop_left]
      refine hnot _ ?_ hrejected
      rw [htold]
      exact (settled_hear_failures hquiet payload hfailures).trans hbefore

end InlineClient

/-- **A send that fails rejects its own caller exactly when `publish` throws**: for every state of
the client and of its engine, every request, whatever happens before its command is handled that
does not settle its promise, and every way in which no frame is sent. -/
theorem failed_send_rejects_caller (lib : Library) (wasm32 : Bool) (payload : Payload)
    {s : InlineClient} (hs : s.Reachable) {call : AppCall} {out : Except String HostCall}
    (hsent : call.sent? = some out) (thrown : Option String) (before : List InlineAct)
    {u v : InlineClient} (hu : u = Acts.run InlineClient.step (s.app thrown call) before)
    (hbefore : u.settled.find? s.promises = (s.app thrown call).settled.find? s.promises)
    {t t' : Turn} (hhandled : Handled lib wasm32 payload t u out t' v)
    (_ : t'.outcome.outbound = t.outcome.outbound) :
    RejectsCaller s u v ↔ ∃ message, out = .error message :=
  InlineClient.rejectsCaller_iff lib wasm32 payload hs.numbered hsent thrown before hu hbefore
    hhandled

/-! ## A call on a channel that was closed -/

/-- The session is up, and a service client on channel 1 was opened and closed again. -/
def closedServiceClient : List InlineAct :=
  [.event (.sessionReady "row" 0 "gateway") ⟨[], {}⟩,
    .app (.createServiceClient "/name" "pkg/Type") none,
    .event (.serviceReady 1 "/name" "pkg/Type" true) ⟨[], {}⟩,
    .app (.closeChannel .serviceClient 1) none, .returned]

def lateCaller : InlineClient :=
  Acts.run InlineClient.step (InlineClient.create "wss://gateway" {} {}) closedServiceClient

theorem reachable_lateCaller : lateCaller.Reachable := ⟨_, _, _, closedServiceClient, rfl⟩

def lateCall : AppCommand := .callService 1 ⟨sampleId 1, rfl⟩ [1]

/-- The engine reports that the channel is not ready, and the promise of the call stays pending. -/
theorem not_failed_send_rejects_caller : ∃ e : ClientEngine,
    ClientEngine.Reachable noLibrary false (fun _ _ => true) e ∧ e.session.phase = .ready ∧
      (handleEvent noLibrary false ⟨e, {}⟩ (.command lateCall)).outcome.outbound = [] ∧
      ¬ RejectsCaller lateCaller (lateCaller.app none (.call 1 (sampleId 1) [1]))
        ((lateCaller.app none (.call 1 (sampleId 1) [1])).hear ⟨[], {}⟩
          (toldBy noLibrary false ⟨e, {}⟩ (.command lateCall))) := by
  obtain ⟨e, hreach, hcheck⟩ := ClientEngine.reachable_of_check noLibrary false (fun _ _ => true)
    (ClientEngine.subscription.take 4)
    (fun e => e.session.phase == .ready && (e.operations 1).isNone && !e.closed) (by decide +kernel)
  simp only [Bool.and_eq_true, beq_iff_eq, Option.isNone_iff_eq_none, Bool.not_eq_true'] at hcheck
  obtain ⟨⟨hready, hnone⟩, hopen⟩ := hcheck
  have hoperation : lateCall.operation =
      some ⟨1, Frame.opcodeServiceRequest, ⟨sampleId 1, rfl⟩, some .request, [1], true⟩ := rfl
  obtain ⟨failure, hhandle⟩ :=
    handleCommand_of_no_operations (t := ⟨e, {}⟩) noLibrary hoperation hnone
  refine ⟨e, hreach, hready, ?_, fun hrejects => ?_⟩
  · rw [handleEvent, hhandle]
    rfl
  · have hsent : AppCall.sent? (.call 1 (sampleId 1) [1]) =
        some (.ok (.callService ⟨1, sampleId 1, [1]⟩)) := rfl
    obtain ⟨message, h⟩ := (InlineClient.rejectsCaller_iff noLibrary false ⟨[], {}⟩
      reachable_lateCaller.numbered hsent none [] rfl rfl (t := ⟨e, {}⟩)
      (.command (.callService 1 ⟨sampleId 1, rfl⟩ [1]) hopen)).mp hrejects
    cases h

/-- A text on a point cloud topic: `publish` throws. -/
theorem failed_send_rejects_caller_of_text :
    RejectsCaller lateCaller
      (lateCaller.app none (.send 2 pointCloud2TypeName { text := some "hello" }))
      (lateCaller.app none (.send 2 pointCloud2TypeName { text := some "hello" })) := by
  have hsent : AppCall.sent? (.send 2 pointCloud2TypeName { text := some "hello" }) =
      some (.error "PointCloud2 publish requires a PointCloud2 message") := rfl
  exact (failed_send_rejects_caller noLibrary false ⟨[], {}⟩ reachable_lateCaller hsent none [] rfl
    rfl (t := ⟨{}, {}⟩) (.thrown _) rfl).mpr ⟨_, rfl⟩

end Client
end Rclweb
