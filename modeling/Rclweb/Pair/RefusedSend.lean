import Rclweb.Engine.Sent
import Rclweb.Pair.OperationStream

/-!
# Sends that are refused

A command that sends a frame of a channel can be refused in many places: the channel is not ready,
the payload cannot be encoded or is too long, the session does not take the frame.  A sample
takes its number when the session has taken it.  An operation frame takes it before anything but
the payload has been looked at, so a frame that is refused later leaves a gap
(`refused_send_consumes_nothing`).
-/

namespace Rclweb

open Engine Engine.Turn

namespace Engine

/-- The commands that send a frame of a channel. -/
def AppCommand.sends (cmd : AppCommand) : Bool :=
  match cmd with
  | .sendSample _ _ | .sendPointCloud2 _ _ | .sendGenerated _ _ _ => true
  | _ => cmd.operation.isSome

/-- **Whether a command takes a number of its channel**: the channel has operations, and the
payload can be encoded. -/
def takesNumber (lib : Library) (e : ClientEngine) (cmd : AppCommand) : Bool :=
  cmd.operation.any fun oc =>
    (e.operations oc.channelId).any fun ops => (oc.payload lib ops.typeName).isSome

namespace Turn

variable {t : Turn}

/-! ## Samples -/

theorem outbound_pushOutbound_ne (hroom : t.outcome.outbound.length < maxOutboundPerPoll)
    (bytes : List UInt8) : (t.pushOutbound bytes).outcome.outbound ≠ t.outcome.outbound := by
  rw [outbound_pushOutbound t bytes hroom]
  simp

/-- A sample that is not queued changes nothing but the events. -/
theorem engine_sendSamplePayload {channelId : UInt32} {payload : List UInt8}
    (hroom : t.outcome.outbound.length < maxOutboundPerPoll)
    (hrefused : (t.sendSamplePayload channelId payload).outcome.outbound = t.outcome.outbound) :
    (t.sendSamplePayload channelId payload).engine = t.engine := by
  unfold sendSamplePayload at hrefused ⊢
  split
  · rfl
  · next pub hpub =>
    rw [hpub] at hrefused
    dsimp only at hrefused
    split
    · rfl
    · next bytes hbytes =>
      rw [hbytes] at hrefused
      dsimp only at hrefused
      split
      · rfl
      · next frame hframe =>
        rw [hframe] at hrefused
        dsimp only at hrefused
        split
        · rfl
        · next effects session hrecord =>
          rw [hrecord] at hrefused
          dsimp only at hrefused
          exact absurd hrefused (outbound_pushOutbound_ne (t := t.modify _) hroom bytes)

/-! ## Operations -/

/-- A channel's numbering after one more number. -/
def Advances (t u : Turn) (channelId : UInt32) (ops : ActiveOperations) : Prop :=
  t.engine.operations channelId = some ops ∧
    ∃ ops', u.engine.operations channelId = some ops' ∧ ops'.nextSeq = ops.nextSeq + 1

theorem Advances.ne {u : Turn} {channelId : UInt32} {ops : ActiveOperations}
    (h : t.Advances u channelId ops) : u.engine ≠ t.engine := by
  obtain ⟨hops, ops', hops', hnext⟩ := h
  intro heq
  rw [heq, hops] at hops'
  rw [Option.some.inj hops'] at hnext
  omega

theorem takeOperationSequence_advances {channelId : UInt32} {ops : ActiveOperations}
    (hops : t.engine.operations channelId = some ops) (operationId : OperationId) :
    ∃ u, t.takeOperationSequence channelId operationId = some (ops.nextSeq, u) ∧
      t.Advances u channelId ops := by
  have htable := hops
  unfold ClientEngine.operations at htable
  unfold takeOperationSequence
  cases hs : t.engine.activeServices.find? channelId with
  | some svc =>
    rw [hs] at htable
    obtain rfl : svc = ops := Option.some.inj htable
    refine ⟨_, rfl, hops, svc.used operationId, ?_, rfl⟩
    simp [ClientEngine.operations, ActiveOperations.used, modify]
  | none =>
    rw [hs, Option.none_or] at htable
    rw [htable]
    refine ⟨_, rfl, hops, ops.used operationId, ?_, rfl⟩
    simp [ClientEngine.operations, ActiveOperations.used, modify, hs]

/-- **An operation frame takes a number**, whether it is sent or not. -/
theorem sendServiceActionFrame_advances {channelId : UInt32} {ops : ActiveOperations}
    (hops : t.engine.operations channelId = some ops) (opcode : UInt8) (operationId : OperationId)
    (payload : List UInt8) (reliable : Bool) :
    t.Advances (t.sendServiceActionFrame channelId opcode operationId payload reliable) channelId
      ops := by
  obtain ⟨u, htake, hadvances⟩ := takeOperationSequence_advances hops operationId
  unfold sendServiceActionFrame
  rw [htake]
  dsimp only
  have hpush : ∀ session bytes, t.Advances
      ((u.modify fun e => { e with session := session }).pushOutbound bytes) channelId ops := by
    intro session bytes
    unfold pushOutbound
    split_ifs
    · exact hadvances
    · exact hadvances
  repeat' split
  all_goals first | exact hadvances | exact hpush _ _

/-- Without operations on its channel a command is refused at once. -/
theorem handleCommand_of_no_operations (lib : Library) {cmd : AppCommand} {oc : OperationCommand}
    (h : cmd.operation = some oc) (hnone : t.engine.operations oc.channelId = none) :
    ∃ failure, handleCommand lib t cmd = t.emit failure := by
  have hframe : ∀ opcode operationId payload reliable,
      t.sendServiceActionFrame oc.channelId opcode operationId payload reliable =
        t.emit (t.operationNotReady oc.channelId) := by
    intro opcode operationId payload reliable
    obtain ⟨hservice, haction⟩ := Option.or_eq_none_iff.mp hnone
    unfold sendServiceActionFrame takeOperationSequence
    rw [hservice, haction]
  cases cmd <;> simp only [AppCommand.operation, Option.some.injEq, reduceCtorEq] at h
  all_goals
    subst h
    simp only [handleCommand, sendOperation, hframe]
    try split
  all_goals exact ⟨_, rfl⟩

/-- **What a command that sends does to the engine when nothing is queued**: a number is gone, or
nothing has changed. -/
theorem engine_eq_iff_of_refused (lib : Library) {cmd : AppCommand} (hsends : cmd.sends = true)
    (hroom : t.outcome.outbound.length < maxOutboundPerPoll)
    (hrefused : (handleCommand lib t cmd).outcome.outbound = t.outcome.outbound) :
    (handleCommand lib t cmd).engine = t.engine ↔ takesNumber lib t.engine cmd = false := by
  cases hoc : cmd.operation with
  | some oc =>
    cases hops : t.engine.operations oc.channelId with
    | none =>
      obtain ⟨failure, hhandle⟩ := handleCommand_of_no_operations lib hoc hops
      simp [takesNumber, hoc, hops, hhandle, emit]
    | some ops =>
      obtain ⟨hsome, hnone⟩ := handleCommand_operation t lib hoc hops
      cases hpayload : oc.payload lib ops.typeName with
      | none =>
        obtain ⟨failure, hhandle⟩ := hnone hpayload
        simp [takesNumber, hoc, hops, hpayload, hhandle, emit]
      | some payload =>
        rw [hsome payload hpayload]
        have hne := (sendServiceActionFrame_advances hops oc.opcode oc.operationId payload
          oc.reliable).ne
        simp [takesNumber, hoc, hops, hpayload, hne]
  | none =>
    have htakes : takesNumber lib t.engine cmd = false := by rw [takesNumber, hoc]; rfl
    refine iff_of_true ?_ htakes
    cases cmd <;> simp only [AppCommand.operation, reduceCtorEq] at hoc
    case sendSample channelId stringData =>
      rw [handleCommand, sendSample] at hrefused ⊢
      split
      · rfl
      · next payload hencode =>
        rw [hencode] at hrefused
        exact engine_sendSamplePayload hroom hrefused
    case sendPointCloud2 channelId view =>
      rw [handleCommand] at hrefused ⊢
      split
      · next payload hencode =>
        rw [hencode] at hrefused
        exact engine_sendSamplePayload hroom hrefused
      · rfl
    case sendGenerated channelId typeName value =>
      rw [handleCommand] at hrefused ⊢
      split
      · next payload hencode =>
        rw [hencode] at hrefused
        exact engine_sendSamplePayload hroom hrefused
      · rfl
    all_goals exact absurd hsends (by simp [AppCommand.sends, AppCommand.operation])

/-! ## Poll turns -/

/-- A batch within the bound never runs out of room. -/
theorem room_of_mem_steps (lib : Library) (wasm32 : Bool) {events : List HostEvent}
    {p : Turn × HostEvent} (hroom : t.outcome.outbound.length + events.length ≤ maxOutboundPerPoll)
    (hp : p ∈ steps lib wasm32 t events) :
    p.1.outcome.outbound.length < maxOutboundPerPoll := by
  induction events generalizing t with
  | nil => exact absurd hp List.not_mem_nil
  | cons event events ih =>
    rw [List.length_cons] at hroom
    rw [steps] at hp
    rcases List.mem_cons.mp hp with rfl | hrest
    · dsimp only
      omega
    · split_ifs at hrest
      · exact absurd hrest List.not_mem_nil
      · have hmap := congrArg List.length
          (sends_handleEvent (t := t) (by omega) lib wasm32 event).outbound
        rw [List.length_map, List.length_append, List.length_map] at hmap
        have hone : (recorded lib t event).toList.length ≤ 1 := by
          cases recorded lib t event <;> simp
        exact ih (by omega) hrest

end Turn
end Engine

/-- **A refused send leaves the engine as it was exactly when it takes no number**: at every step
of every poll turn, for each of the commands that send a frame of a channel. -/
theorem ClientEngine.refused_send_consumes_nothing (lib : Library) (wasm32 : Bool)
    (e : ClientEngine) (events : List HostEvent) {p : Turn × HostEvent}
    (hp : p ∈ e.steps lib wasm32 events) {cmd : AppCommand} (hcmd : p.2 = .command cmd)
    (hsends : cmd.sends = true)
    (hrefused : (handleEvent lib wasm32 p.1 p.2).outcome.outbound = p.1.outcome.outbound) :
    (handleEvent lib wasm32 p.1 p.2).engine = p.1.engine ↔
      takesNumber lib p.1.engine cmd = false := by
  rw [ClientEngine.steps] at hp
  split_ifs at hp
  · exact absurd hp List.not_mem_nil
  · have hroom : p.1.outcome.outbound.length < maxOutboundPerPoll := by
      refine room_of_mem_steps lib wasm32 ?_ hp
      rw [List.length_take]
      exact (Nat.zero_add _).trans_le (Nat.min_le_left _ _)
    rw [hcmd] at hrefused ⊢
    exact engine_eq_iff_of_refused lib hsends hroom hrefused

/-! ## Two refused sends -/

namespace Pair

/-- A sample on a channel nobody publishes on. -/
theorem refused_send_consumes_nothing_of_unpublished :
    (handleEvent noLibrary false ⟨{}, {}⟩ (.command (.sendSample 1 "hello"))).engine =
      ({} : ClientEngine) :=
  (ClientEngine.refused_send_consumes_nothing noLibrary false {}
    [.command (.sendSample 1 "hello")] (p := (⟨{}, {}⟩, _)) List.mem_cons_self rfl rfl rfl).mpr rfl

/-- A call under the operation id of all zeros: the session refuses it, and its number is gone. -/
def zeroCall : AppCommand := .callService 1 OperationId.zero [1, 2, 3]

def zeroOperation : OperationCommand :=
  ⟨1, Frame.opcodeServiceRequest, OperationId.zero, some .request, [1, 2, 3], true⟩

theorem operation_zeroCall : zeroCall.operation = some zeroOperation := rfl

theorem not_refused_send_consumes_nothing :
    ∃ p : Pair, Reachable sampleSetup p ∧ p.engine.closed = false ∧
      (handleEvent noLibrary false ⟨p.engine, {}⟩ (.command zeroCall)).outcome.outbound = [] ∧
      (handleEvent noLibrary false ⟨p.engine, {}⟩ (.command zeroCall)).engine ≠ p.engine := by
  obtain ⟨p, ops, runtime, hreach, hfresh⟩ := exists_freshStream
  have hstream : Streaming (⟨p.engine, {}⟩ : Turn).engine zeroOperation.channelId .serviceClient
      ops := hfresh.streaming
  have hhandle : handleEvent noLibrary false ⟨p.engine, {}⟩ (.command zeroCall) =
      (⟨p.engine, {}⟩ : Turn).sendServiceActionFrame 1 Frame.opcodeServiceRequest OperationId.zero
        [1, 2, 3] true := by
    refine (handleCommand_operation ⟨p.engine, {}⟩ noLibrary operation_zeroCall
      hstream.table).1 [1, 2, 3] ?_
    rw [hfresh.typeName]
    rfl
  refine ⟨p, hreach, hstream.isOpen, ?_, ?_⟩
  · rw [hhandle]
    exact (hstream.send rfl rfl [1, 2, 3] rfl).2
  · rw [hhandle]
    exact (sendServiceActionFrame_advances hstream.table _ _ _ _).ne

end Pair
end Rclweb
