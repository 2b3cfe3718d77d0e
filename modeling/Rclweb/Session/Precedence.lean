import Rclweb.Session.Lifecycle

/-!
# Error precedence

The published receiver order lists its checks by step, and a receiver reports the first one
that fails.  Here that order is written down for the steps the session machine answers for
(17 and 19 to 22) as a list of checks, each with the frames it fails on, and compared with
what `applyFrame` reports.

Samples keep the order.  The machine leaves it at three places: a control message of the
wrong direction is refused before the ready state is looked at and under another step, the
operation id of a service or action frame is looked at after the kind and the direction of
the channel and under another step, and a session that has ended, or is still in bootstrap,
refuses everything under one code of its own.
-/

namespace Rclweb

open Rclweb.Frame Control Transition

/-! ## The published order -/

/-- The checks of steps 17 and 19 to 22. -/
inductive OrderedCheck where
  | readyState
  | channelPending
  | channelUnknown
  | operationId
  | operationContext
  deriving DecidableEq, Repr

namespace OrderedCheck

/-- The steps of the published order, first to last. -/
def published : List OrderedCheck :=
  [readyState, channelPending, channelUnknown, operationId, operationContext]

def step : OrderedCheck → ℕ
  | readyState => 17
  | channelPending => 19
  | channelUnknown => 20
  | operationId => 21
  | operationContext => 22

def code : OrderedCheck → ℕ
  | readyState => 27
  | channelUnknown => 7
  | channelPending | operationId | operationContext => 25

/-- The control message of a control frame. -/
def controlOf (frame : DecodedFrame) : Option ControlMessage :=
  if frame.opcode = opcodeControlCbor then
    match frame.payload with
    | .control msg => some msg
    | .application _ => none
  else none

/-- A data-plane application frame. -/
def isData (frame : DecodedFrame) : Bool := frame.opcode != opcodeControlCbor

/-- An Error of operation scope. -/
def isOperationError (msg : ControlMessage) : Bool :=
  msg.kind == kindError && (fieldUint msg fieldErrorScope).getD 0 == 2

/-- The frame carries one OPERATION_ID, nonzero where it has to be. -/
def carriesOperationId (frame : DecodedFrame) : Bool :=
  match frameOperationId frame with
  | some opid => opid != List.replicate 16 0 || operationIdMayBeZero frame.opcode
  | none => false

/-- Opcode and sender match the operation kind of the channel. -/
def matchesChannel (state : SessionState) (frame : DecodedFrame) (sender : Role) : Bool :=
  (activeKind state frame.channelId).opcodeSender frame.opcode == some sender

/-- **When a check fails** on a frame. -/
def fails (state : SessionState) (frame : DecodedFrame) (sender : Role) : OrderedCheck → Bool
  | readyState =>
    !state.phase.isReady &&
      (isData frame || (controlOf frame).any (isReadyRequiredKind ·.kind))
  | channelPending => isData frame && state.channels.state frame.channelId == .pending
  | channelUnknown =>
    isData frame && state.channels.state frame.channelId != .pending &&
      state.channels.state frame.channelId != .active
  | operationId =>
    ((isData frame && operationIdRequired frame.opcode) ||
      (controlOf frame).any isOperationError) && !carriesOperationId frame
  | operationContext =>
    (isData frame && !matchesChannel state frame sender) ||
      (controlOf frame).any (wrongSender ·.kind sender)

/-- **The first failing check of the published order.** -/
def firstFailing (state : SessionState) (frame : DecodedFrame) (sender : Role) :
    Option OrderedCheck :=
  published.find? (fails state frame sender)

end OrderedCheck

namespace Transition

open OrderedCheck

variable {s : SessionState} {frame : DecodedFrame} {sender : Role}

/-- A rejection reports the first failing check, when one of the checks fails. -/
def ReportsFirst (s : SessionState) (frame : DecodedFrame) (sender : Role) : Prop :=
  ∀ e s', applyFrame s frame sender = (.error e, s') →
    ∀ c, firstFailing s frame sender = some c → e.code = c.code ∧ e.step = c.step

/-- The selected plane is entered and the session has not ended. -/
def Live (s : SessionState) : Prop :=
  s.phase.isTerminal = false ∧ s.phase.inSelectedPlane = true

/-- An Error that is accepted without a look at its operation id. -/
def AcceptsError (s : SessionState) (msg : ControlMessage) : Prop :=
  isOperationError msg = true ∧ (s.phase = .ready →
    ∃ id, (fieldUint msg fieldChannelId).map UInt64.toUInt32 = some id ∧
      s.channels.state id = .active)

/-- **Where the machine keeps the published order.** -/
def InOrder (s : SessionState) (frame : DecodedFrame) (sender : Role) : Prop :=
  firstFailing s frame sender = none ∨
    Live s ∧
      (isData frame = true ∧ firstFailing s frame sender ≠ some .operationId ∨
        ∃ msg, controlOf frame = some msg ∧ wrongSender msg.kind sender = false ∧
          (firstFailing s frame sender = some .readyState ∨ AcceptsError s msg))

/-! ## What is reported -/

theorem reportsFirst_of_none (h : firstFailing s frame sender = none) :
    ReportsFirst s frame sender := by
  intro e s' _ c hc
  rw [h] at hc
  contradiction

theorem reportsFirst_iff_of_error {e : ProtocolError} {c : OrderedCheck}
    (happly : applyFrame s frame sender = reject s e) (hfirst : firstFailing s frame sender = some c) :
    ReportsFirst s frame sender ↔ e.code = c.code ∧ e.step = c.step := by
  constructor
  · intro h
    exact h e s happly c hfirst
  · intro h e' s' happly' c' hfirst'
    rw [happly] at happly'
    obtain rfl : e = e' := Except.error.inj (Prod.mk.inj happly').1
    obtain rfl : c = c' := Option.some.inj (hfirst.symm.trans hfirst')
    exact h

variable (frame sender) in
/-- Outside the live phases every frame is refused under one code. -/
theorem applyFrame_of_not_live (h : ¬ Live s) :
    ∃ reason, applyFrame s frame sender = reject s (.protocolViolation reason 0 25) := by
  unfold applyFrame
  by_cases hterm : s.phase.isTerminal = true
  · exact ⟨_, if_pos hterm⟩
  · rw [if_neg hterm]
    have hplane : s.phase.inSelectedPlane = false := by
      by_contra hin
      exact h ⟨by simpa using hterm, by simpa using hin⟩
    exact ⟨_, by rw [hplane]; rfl⟩

theorem not_ready_of_not_live (h : ¬ Live s) : s.phase.isReady = false := by
  by_contra hready
  have hphase : s.phase = .ready := by simpa using hready
  exact h (by simp [Live, hphase, SessionPhase.isTerminal, SessionPhase.inSelectedPlane])

theorem live_of_ready (h : s.phase = .ready) : Live s := by
  simp [Live, h, SessionPhase.isTerminal, SessionPhase.inSelectedPlane]

/-! ### Data frames -/

/-- An opcode that has a sender on a kind is one the kind allows. -/
theorem allowsOpcode_of_opcodeSender {kind : OperationKind} {opcode : UInt8} {r : Role}
    (h : kind.opcodeSender opcode = some r) : kind.allowsOpcode opcode = true := by
  cases kind <;>
    simp only [OperationKind.opcodeSender, OperationKind.serviceSender, OperationKind.actionSender,
      OperationKind.allowsOpcode] at h ⊢ <;> grind

/-- A sample has a sender on a kind exactly when the sample checks let it pass. -/
theorem sample_matches {state : SessionState} (hop : frame.opcode = opcodeRosSample) :
    matchesChannel state frame sender = true ↔
      ((activeKind state frame.channelId).allowsOpcode opcodeRosSample &&
        (activeKind state frame.channelId).allowsRosSampleFrom sender) = true := by
  rw [sample_direction, matchesChannel, hop, beq_iff_eq]
  exact ⟨fun h => ⟨allowsOpcode_of_opcodeSender h, h⟩, fun h => h.2⟩

section Data

variable (hdata : isData frame = true)
include hdata

theorem controlOf_of_isData : controlOf frame = none := by
  have hop : frame.opcode ≠ opcodeControlCbor := by simpa [isData] using hdata
  simp [controlOf, hop]

theorem firstFailing_of_not_ready (h : s.phase.isReady = false) :
    firstFailing s frame sender = some .readyState := by
  simp [firstFailing, published, fails, hdata, h]

/-- In the ready phase the channel is looked at first. -/
theorem firstFailing_of_ready (h : s.phase = .ready) :
    firstFailing s frame sender =
      match s.channels.state frame.channelId with
      | .pending => some .channelPending
      | .failed | .closed | .unused => some .channelUnknown
      | .active =>
        if operationIdRequired frame.opcode && !carriesOperationId frame then some .operationId
        else if matchesChannel s frame sender then none
        else some .operationContext := by
  have hctl := controlOf_of_isData hdata
  cases hst : s.channels.state frame.channelId with
  | active =>
    by_cases hid : (operationIdRequired frame.opcode && !carriesOperationId frame) = true <;>
      by_cases hm : matchesChannel s frame sender = true <;>
        simp [firstFailing, published, fails, hdata, h, SessionPhase.isReady, hst, hctl, hid, hm]
  | _ => simp [firstFailing, published, fails, hdata, h, SessionPhase.isReady, hst]

/-- A data frame on a live session that is not ready. -/
theorem applyFrame_data_of_not_ready (hlive : Live s) (h : s.phase.isReady = false) :
    applyFrame s frame sender = reject s (.sessionNotReady "data_before_ready" 0) := by
  have hop : frame.opcode ≠ opcodeControlCbor := by simpa [isData] using hdata
  unfold applyFrame
  rw [hlive.1, hlive.2, if_neg (by simp), if_neg (by simp), if_neg hop]
  unfold applyRosSample applyServiceActionFrame applyParkedFrame
  rw [h]
  simp

/-- The gates speak before the opcode handlers do. -/
theorem applyFrame_data_of_gates {e : ProtocolError} (h : s.phase = .ready)
    (hgates : applyDataChannelGates s frame.channelId = .error e) :
    applyFrame s frame sender = reject s e := by
  have hop : frame.opcode ≠ opcodeControlCbor := by simpa [isData] using hdata
  have hlive := live_of_ready h
  unfold applyFrame
  rw [hlive.1, hlive.2, if_neg (by simp), if_neg (by simp), if_neg hop]
  unfold applyRosSample applyServiceActionFrame applyParkedFrame
  simp [h, SessionPhase.isReady, hgates]

/-- On an active channel a frame that does not fit it is refused under step 22, also when its
operation id is missing. -/
theorem applyFrame_data_of_mismatch (h : s.phase = .ready)
    (hactive : s.channels.state frame.channelId = .active)
    (hm : matchesChannel s frame sender = false) :
    ∃ reason, applyFrame s frame sender = reject s (.protocolViolation reason 0 22) := by
  have hop : frame.opcode ≠ opcodeControlCbor := by simpa [isData] using hdata
  have hlive := live_of_ready h
  have hgates : applyDataChannelGates s frame.channelId = .ok () := by
    simp [applyDataChannelGates, hactive]
  unfold applyFrame
  rw [hlive.1, hlive.2, if_neg (by simp), if_neg (by simp), if_neg hop]
  by_cases hsample : frame.opcode = opcodeRosSample
  · have hnot : ¬ ((activeKind s frame.channelId).allowsOpcode opcodeRosSample &&
        (activeKind s frame.channelId).allowsRosSampleFrom sender) = true := by
      rw [← sample_matches hsample, hm]
      simp
    rw [if_pos hsample]
    unfold applyRosSample
    simp only [h, SessionPhase.isReady, hgates, ← Bool.not_and, hnot, Bool.not_true,
      Bool.false_eq_true, if_false, Bool.not_false, if_true]
    exact ⟨_, rfl⟩
  rw [if_neg hsample]
  split
  · unfold applyServiceActionFrame
    simp only [h, SessionPhase.isReady, hgates, Bool.not_true, Bool.false_eq_true, if_false]
    split
    · exact ⟨_, rfl⟩
    · have hsender : (activeKind s frame.channelId).opcodeSender frame.opcode ≠ some sender := by
        simpa [matchesChannel] using hm
      rw [if_pos hsender]
      exact ⟨_, rfl⟩
  · unfold applyParkedFrame
    simp only [h, SessionPhase.isReady, hgates, Bool.not_true, Bool.false_eq_true, if_false]
    exact ⟨_, rfl⟩

/-- A frame that fits its channel and lacks its operation id is refused under step 25. -/
theorem applyFrame_data_of_missing_id (h : s.phase = .ready)
    (hactive : s.channels.state frame.channelId = .active)
    (hm : matchesChannel s frame sender = true) (hreq : operationIdRequired frame.opcode = true)
    (hid : carriesOperationId frame = false) :
    ∃ reason, applyFrame s frame sender = reject s (.protocolViolation reason 0 25) := by
  have hop : frame.opcode ≠ opcodeControlCbor := by simpa [isData] using hdata
  have hlive := live_of_ready h
  have hgates : applyDataChannelGates s frame.channelId = .ok () := by
    simp [applyDataChannelGates, hactive]
  have hsample : frame.opcode ≠ opcodeRosSample := by
    intro hsample
    rw [hsample] at hreq
    contradiction
  have hsender : (activeKind s frame.channelId).opcodeSender frame.opcode = some sender := by
    simpa [matchesChannel] using hm
  have hcheck : ∃ reason, checkOperationStream frame =
      .error (.protocolViolation reason 0 25) := by
    unfold checkOperationStream
    rw [if_pos hreq]
    cases hf : frameOperationId frame with
    | none => exact ⟨_, rfl⟩
    | some opid =>
      have hzero : opid = List.replicate 16 0 ∧ !operationIdMayBeZero frame.opcode := by
        simpa [carriesOperationId, hf] using hid
      exact ⟨_, if_pos hzero⟩
  obtain ⟨reason, hcheck⟩ := hcheck
  refine ⟨reason, ?_⟩
  unfold applyFrame
  rw [hlive.1, hlive.2, if_neg (by simp), if_neg (by simp), if_neg hop, if_neg hsample,
    if_pos (by simpa [operationIdRequired] using hreq)]
  unfold applyServiceActionFrame
  simp [h, SessionPhase.isReady, hgates, allowsOpcode_of_opcodeSender hsender, hsender, hcheck]

theorem reportsFirst_data :
    ReportsFirst s frame sender ↔ firstFailing s frame sender = none ∨
      Live s ∧ firstFailing s frame sender ≠ some .operationId := by
  by_cases hlive : Live s
  swap
  · obtain ⟨reason, happly⟩ := applyFrame_of_not_live frame sender hlive
    have hfirst : firstFailing s frame sender = _ := firstFailing_of_not_ready hdata (not_ready_of_not_live hlive)
    rw [reportsFirst_iff_of_error happly hfirst, hfirst]
    simp [hlive, ProtocolError.protocolViolation, ProtocolError.selectedFrame, OrderedCheck.code]
  by_cases hready : s.phase = .ready
  swap
  · have hnot : s.phase.isReady = false := by simpa using hready
    have hfirst : firstFailing s frame sender = _ := firstFailing_of_not_ready hdata hnot
    rw [reportsFirst_iff_of_error (applyFrame_data_of_not_ready hdata hlive hnot) hfirst, hfirst]
    simp [hlive, ProtocolError.sessionNotReady, ProtocolError.selectedFrame, OrderedCheck.code,
      OrderedCheck.step]
  have hfirst : firstFailing s frame sender = _ := firstFailing_of_ready hdata hready
  cases hst : s.channels.state frame.channelId with
  | pending =>
    rw [hst] at hfirst
    have happly : applyFrame s frame sender = _ := applyFrame_data_of_gates hdata hready
      (by rw [applyDataChannelGates, hst])
    rw [reportsFirst_iff_of_error happly hfirst, hfirst]
    simp [hlive, ProtocolError.protocolViolation, ProtocolError.selectedFrame, OrderedCheck.code,
      OrderedCheck.step]
  | unused | failed | closed =>
    rw [hst] at hfirst
    have happly : applyFrame s frame sender = _ := applyFrame_data_of_gates hdata hready
      (by rw [applyDataChannelGates, hst])
    rw [reportsFirst_iff_of_error happly hfirst, hfirst]
    simp [hlive, ProtocolError.unknownChannel, ProtocolError.selectedFrame, OrderedCheck.code,
      OrderedCheck.step]
  | active =>
    simp only [hst] at hfirst
    cases hm : matchesChannel s frame sender with
    | false =>
      obtain ⟨reason, happly⟩ := applyFrame_data_of_mismatch hdata hready hst hm
      by_cases hid : (operationIdRequired frame.opcode && !carriesOperationId frame) = true
      all_goals
        simp only [hid, hm, if_true, if_false, Bool.false_eq_true] at hfirst
        rw [reportsFirst_iff_of_error happly hfirst, hfirst]
        simp [hlive, ProtocolError.protocolViolation, ProtocolError.selectedFrame,
          OrderedCheck.code, OrderedCheck.step]
    | true =>
      by_cases hid : (operationIdRequired frame.opcode && !carriesOperationId frame) = true
      · simp only [hid, if_true] at hfirst
        rw [Bool.and_eq_true, Bool.not_eq_true'] at hid
        obtain ⟨reason, happly⟩ := applyFrame_data_of_missing_id hdata hready hst hm hid.1 hid.2
        rw [reportsFirst_iff_of_error happly hfirst, hfirst]
        simp [ProtocolError.protocolViolation, ProtocolError.selectedFrame, OrderedCheck.code,
          OrderedCheck.step]
      · simp only [hid, hm, if_true, if_false, Bool.false_eq_true] at hfirst
        exact iff_of_true (reportsFirst_of_none hfirst) (.inl hfirst)

end Data

/-! ### Control frames -/

section ControlFrames

variable {msg : ControlMessage} (hmsg : controlOf frame = some msg)
include hmsg

theorem opcode_of_controlOf :
    frame.opcode = opcodeControlCbor ∧ frame.payload = .control msg := by
  unfold controlOf at hmsg
  split at hmsg
  · next hop =>
    split at hmsg
    · next m hp => exact ⟨hop, by rw [hp, Option.some.inj hmsg]⟩
    · contradiction
  · contradiction

theorem firstFailing_control :
    firstFailing s frame sender =
      if !s.phase.isReady && isReadyRequiredKind msg.kind then some .readyState
      else if isOperationError msg && !carriesOperationId frame then some .operationId
      else if wrongSender msg.kind sender then some .operationContext
      else none := by
  have hdata : isData frame = false := by simp [isData, (opcode_of_controlOf hmsg).1]
  by_cases h17 : (!s.phase.isReady && isReadyRequiredKind msg.kind) = true
  · simp only [firstFailing, published, List.find?, fails, hdata, hmsg, h17, Option.any_some,
      Bool.false_or, if_true]
  by_cases h21 : (isOperationError msg && !carriesOperationId frame) = true
  all_goals
    by_cases h22 : wrongSender msg.kind sender = true <;>
      simp only [firstFailing, published, List.find?, fails, hdata, hmsg, h17, h21, h22,
        Option.any_some, Bool.false_or, Bool.false_and, if_true, if_false, Bool.false_eq_true]

theorem applyFrame_control (hlive : Live s) :
    applyFrame s frame sender = applyControl s msg sender := by
  obtain ⟨hop, hp⟩ := opcode_of_controlOf hmsg
  unfold applyFrame
  rw [hlive.1, hlive.2, if_neg (by simp), if_neg (by simp), if_pos hop, hp]

variable (s) in
/-- The direction of a control message is looked at before everything else. -/
theorem applyFrame_of_wrongSender (hwrong : wrongSender msg.kind sender = true) :
    ∃ reason, applyFrame s frame sender = reject s (.protocolViolation reason 0 25) := by
  by_cases hlive : Live s
  · refine ⟨"wrong_control_direction", ?_⟩
    rw [applyFrame_control hmsg hlive, applyControl, if_pos hwrong]
  · exact applyFrame_of_not_live frame sender hlive

variable (s) in
theorem reportsFirst_of_wrongSender (hwrong : wrongSender msg.kind sender = true) :
    ¬ ReportsFirst s frame sender ∧ firstFailing s frame sender ≠ none := by
  obtain ⟨reason, happly⟩ := applyFrame_of_wrongSender s hmsg hwrong
  obtain ⟨c, hc, hstep⟩ : ∃ c, firstFailing s frame sender = some c ∧ c.step ≠ 25 := by
    rw [firstFailing_control hmsg, if_pos hwrong]
    split
    · exact ⟨_, rfl, by decide⟩
    split
    · exact ⟨_, rfl, by decide⟩
    · exact ⟨_, rfl, by decide⟩
  constructor
  · rw [reportsFirst_iff_of_error happly hc]
    exact fun h => hstep h.2.symm
  · rw [hc]
    exact Option.some_ne_none c

/-- A control message of the right direction that needs the ready state and lacks it. -/
theorem applyFrame_control_of_not_ready (hlive : Live s) (hright : wrongSender msg.kind sender = false)
    (h17 : (!s.phase.isReady && isReadyRequiredKind msg.kind) = true) :
    applyFrame s frame sender = reject s (.sessionNotReady "control_before_ready" 0) := by
  have hresume : ¬ (msg.kind = kindSessionResume ∨ msg.kind = kindSessionResumeResult) := by
    rintro (h | h) <;> rw [h, Bool.and_eq_true] at h17 <;> exact absurd h17.2 (by decide)
  rw [applyFrame_control hmsg hlive, applyControl, hright, if_neg (by simp), if_neg hresume,
    if_pos h17]

theorem applyFrame_error (hlive : Live s) (hkind : msg.kind = kindError) :
    applyFrame s frame sender = applyError s msg := by
  have hsender : wrongSender kindError sender = false := by cases sender <;> decide
  rw [applyFrame_control hmsg hlive, applyControl, hkind, hsender, if_neg (by simp),
    if_neg (by decide), if_neg (by simp [isReadyRequiredKind, kindError, kindGraphSnapshot,
      kindGraphDelta, kindSchemaRequest, kindSchemaResponse, kindSchemaAdvertise, kindOpenChannel,
      kindChannelReady, kindCloseChannel, kindClockSync, kindHeartbeat]),
    if_neg (by decide), if_neg (by decide), if_pos rfl]

variable (sender) in
/-- An operation-scope Error is accepted without its operation id, or refused under step 25. -/
theorem applyFrame_operationError (hlive : Live s) (herror : isOperationError msg = true) :
    (AcceptsError s msg ∧ ∃ f s', applyFrame s frame sender = accept s' f) ∨
      (¬ AcceptsError s msg ∧ ∃ reason,
        applyFrame s frame sender = reject s (.protocolViolation reason 0 25)) := by
  obtain ⟨hkind, hscope⟩ : msg.kind = kindError ∧ (fieldUint msg fieldErrorScope).getD 0 = 2 := by
    simpa [isOperationError] using herror
  rw [applyFrame_error hmsg hlive hkind]
  by_cases hready : s.phase = .ready
  swap
  · refine .inl ⟨⟨herror, fun h => absurd h hready⟩, ?_⟩
    obtain ⟨hterm, hplane⟩ := hlive
    cases hphase : s.phase <;>
      simp [applyError, hphase, SessionPhase.isReady, SessionPhase.isTerminal,
        SessionPhase.inSelectedPlane] at hterm hplane hready ⊢
    all_goals exact ⟨_, _, rfl⟩
  have happly : applyError s msg =
      applyOperationError s ((fieldUint msg fieldChannelId).map UInt64.toUInt32) := by
    simp [applyError, hready, SessionPhase.isReady, hscope]
  rw [happly]
  cases hid : (fieldUint msg fieldChannelId).map UInt64.toUInt32 with
  | none =>
    refine .inr ⟨fun h => ?_, _, rfl⟩
    obtain ⟨id, heq, -⟩ := h.2 hready
    rw [hid] at heq
    contradiction
  | some id =>
    by_cases hactive : s.channels.state id = .active
    · refine .inl ⟨⟨herror, fun _ => ⟨id, hid, hactive⟩⟩, ?_⟩
      simp only [applyOperationError, hactive, ne_eq, not_true_eq_false, if_false]
      exact ⟨_, _, rfl⟩
    · refine .inr ⟨fun h => ?_, _, if_pos hactive⟩
      obtain ⟨id', heq, hactive'⟩ := h.2 hready
      obtain rfl : id = id' := Option.some.inj (hid.symm.trans heq)
      exact hactive hactive'

theorem reportsFirst_control :
    ReportsFirst s frame sender ↔ firstFailing s frame sender = none ∨
      Live s ∧ wrongSender msg.kind sender = false ∧
        (firstFailing s frame sender = some .readyState ∨ AcceptsError s msg) := by
  by_cases hwrong : wrongSender msg.kind sender = true
  · obtain ⟨hnot, hsome⟩ := reportsFirst_of_wrongSender s hmsg hwrong
    simp [hnot, hsome, hwrong]
  have hright : wrongSender msg.kind sender = false := by simpa using hwrong
  have hfirst : firstFailing s frame sender = _ := firstFailing_control hmsg
  rw [hright, if_neg (by simp : ¬ false = true)] at hfirst
  by_cases h17 : (!s.phase.isReady && isReadyRequiredKind msg.kind) = true
  · rw [if_pos h17] at hfirst
    by_cases hlive : Live s
    · rw [reportsFirst_iff_of_error (applyFrame_control_of_not_ready hmsg hlive hright h17) hfirst,
        hfirst]
      simp [hlive, hright, ProtocolError.sessionNotReady, ProtocolError.selectedFrame,
        OrderedCheck.code, OrderedCheck.step]
    · obtain ⟨reason, happly⟩ := applyFrame_of_not_live frame sender hlive
      rw [reportsFirst_iff_of_error happly hfirst, hfirst]
      simp [hlive, ProtocolError.protocolViolation, ProtocolError.selectedFrame,
        OrderedCheck.code]
  rw [if_neg h17] at hfirst
  by_cases h21 : (isOperationError msg && !carriesOperationId frame) = true
  swap
  · rw [if_neg h21] at hfirst
    exact iff_of_true (reportsFirst_of_none hfirst) (.inl hfirst)
  rw [if_pos h21] at hfirst
  rw [Bool.and_eq_true] at h21
  by_cases hlive : Live s
  swap
  · obtain ⟨reason, happly⟩ := applyFrame_of_not_live frame sender hlive
    rw [reportsFirst_iff_of_error happly hfirst, hfirst]
    simp [hlive, ProtocolError.protocolViolation, ProtocolError.selectedFrame,
      OrderedCheck.code, OrderedCheck.step]
  rcases applyFrame_operationError sender hmsg hlive h21.1 with
    ⟨haccepts, f, s', happly⟩ | ⟨hrefuses, reason, happly⟩
  · refine iff_of_true (fun e s'' herror => ?_) (.inr ⟨hlive, hright, .inr haccepts⟩)
    rw [happly] at herror
    exact absurd (Prod.mk.inj herror).1 (by simp)
  · rw [reportsFirst_iff_of_error happly hfirst, hfirst]
    simp [hrefuses, ProtocolError.protocolViolation, ProtocolError.selectedFrame,
      OrderedCheck.code, OrderedCheck.step]

end ControlFrames

/-- **The published order is kept exactly where `InOrder` says**: when no check of it fails,
and on a live session by application frames whose first failing check is not the operation
id, and by control messages of the right direction that lack the ready state. -/
theorem reportsFirst_iff (s : SessionState) (frame : DecodedFrame) (sender : Role) :
    ReportsFirst s frame sender ↔ InOrder s frame sender := by
  unfold InOrder
  by_cases hdata : isData frame = true
  · rw [reportsFirst_data hdata]
    simp [hdata, controlOf_of_isData hdata]
  have hop : frame.opcode = opcodeControlCbor := by simpa [isData] using hdata
  cases hp : frame.payload with
  | control msg =>
    have hmsg : controlOf frame = some msg := by simp [controlOf, hop, hp]
    rw [reportsFirst_control hmsg]
    simp [hdata, hmsg]
  | application b =>
    have hctl : controlOf frame = none := by simp [controlOf, hop, hp]
    have hfirst : firstFailing s frame sender = none := by
      have hnot : isData frame = false := by simpa using hdata
      simp [firstFailing, published, fails, hnot, hctl]
    exact iff_of_true (reportsFirst_of_none hfirst) (.inl hfirst)

/-- An OpenChannel the server sends before the SessionReady breaks two rules, and the later
one is reported. -/
theorem not_reportsFirst_of_direction :
    ¬ ∀ (s : SessionState) (frame : DecodedFrame) (sender : Role), ReportsFirst s frame sender := by
  intro h
  let s : SessionState := { SessionState.new .client with phase := .selectedAwaitSessionReady }
  let frame : DecodedFrame := TwoPeer.controlFrame kindOpenChannel []
  obtain ⟨hfirst, e, happly, hcode⟩ : firstFailing s frame .server = some .readyState ∧
      ∃ e, applyFrame s frame .server = (.error e, s) ∧ e.code = 25 := ⟨rfl, _, rfl, rfl⟩
  have hreported := (h s frame .server e s happly .readyState hfirst).1
  rw [hcode] at hreported
  contradiction

end Transition
end Rclweb
