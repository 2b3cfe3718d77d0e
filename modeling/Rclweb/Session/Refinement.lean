import Rclweb.Session.View

/-!
# The session machine refines its view

`Refines s o v` says that the outcome `o` of a transition from `s` is what the abstract
session says: an accepted message leads to a state of the same role with view `v`, a
rejected one leaves the state alone and is rejected by the view too.  One lemma for each transition function, and
`apply_refines` for a whole message.
-/

namespace Rclweb

open Rclweb.Frame Control Transition

/-- **The outcome of a transition from `s` agrees with the abstract result.** -/
def Refines (s : SessionState) (o : Outcome) (v : Option View) : Prop :=
  match o.1 with
  | .ok _ => v = some o.2.view ∧ o.2.role = s.role
  | .error _ => v = none ∧ o.2 = s

@[simp] theorem refines_reject (s : SessionState) (e : ProtocolError) (v : Option View) :
    Refines s (reject s e) v ↔ v = none := by
  simp [Refines, reject]

@[simp] theorem refines_accept (s s' : SessionState) (f : SessionEffects) (v : Option View) :
    Refines s (accept s' f) v ↔ v = some s'.view ∧ s'.role = s.role := by
  simp [Refines, accept]

namespace SessionState

variable (s : SessionState) (id : UInt32)

theorem view_channel : s.view.channel id = (s.channels.get id).map entryView := rfl

@[simp] theorem view_phase : s.view.phase = s.phase := rfl

@[simp] theorem view_graph : s.view.graph = s.graphGeneration := rfl

/-- The lifecycle state, read off the view. -/
theorem state_eq : s.channels.state id = ((s.view.channel id).map Prod.fst).getD .unused := by
  cases h : s.channels.get id <;> simp [ChannelTable.state, view_channel, h, entryView]

theorem state_eq_active {id : UInt32} (h : s.channels.state id = .active) :
    s.view.channel id = some (.active, activeKind s id) := by
  cases hget : s.channels.get id with
  | none => simp [ChannelTable.state, hget] at h
  | some e =>
    have he : e.state = .active := by simpa [ChannelTable.state, hget] using h
    simp [view_channel, activeKind, hget, entryView, he]

theorem state_eq_pending {id : UInt32} (h : s.channels.state id = .pending) :
    ∃ kind, s.view.channel id = some (.pending, kind) := by
  cases hget : s.channels.get id with
  | none => simp [ChannelTable.state, hget] at h
  | some e =>
    have he : e.state = .pending := by simpa [ChannelTable.state, hget] using h
    exact ⟨e.operationKind, by simp [view_channel, hget, entryView, he]⟩

/-- Changing the state of a recorded channel changes one entry of the view. -/
theorem view_setState {st st' : ChannelState} {k : OperationKind}
    (h : s.view.channel id = some (st, k)) :
    ({ s with channels := s.channels.setState id st' } : SessionState).view =
      s.view.setChannel id (some (st', k)) := by
  obtain ⟨e, he, hek⟩ : ∃ e, s.channels.get id = some e ∧ entryView e = (st, k) := by
    simpa [view_channel] using h
  have hkind : e.operationKind = k := congrArg Prod.snd hek
  simp only [view, View.setChannel]
  congr 1
  funext id'
  by_cases hid : id' = id
  · subst hid
    simp [ChannelTable.get_setState, he, entryView, hkind]
  · simp [ChannelTable.get_setState, hid]

theorem view_insertPending (k : OperationKind) (c : List UInt8) :
    ({ s with channels := s.channels.insertPending id k c } : SessionState).view =
      s.view.setChannel id (some (.pending, k)) := by
  simp only [view, View.setChannel]
  congr 1
  funext id'
  by_cases hid : id' = id
  · subst hid
    simp [ChannelTable.get_insertPending, entryView]
  · simp [ChannelTable.get_insertPending, hid]

end SessionState

namespace Transition

open SessionState

variable (s : SessionState)

/-! ## Bootstrap -/

theorem applyBootstrap_refines (record : BootstrapRecord) (sender : Role) :
    Refines s (applyBootstrap s record sender) (s.view.step (Act.ofBootstrap sender record)) := by
  cases record <;> cases sender <;> cases hphase : s.phase <;>
    simp [applyBootstrap, Act.ofBootstrap, View.step, hphase, SessionPhase.isTerminal,
      SessionPhase.inSelectedPlane, View.readyStep, view]

/-! ## Control messages of the ready phase -/

theorem applyGraphSnapshot_refines (msg : ControlMessage) :
    Refines s (applyGraphSnapshot s msg) (s.view.readyStep (Act.ofGraphSnapshot msg)) := by
  cases h : fieldUint msg fieldGraphGeneration <;>
    simp [applyGraphSnapshot, Act.ofGraphSnapshot, h, View.readyStep, view]

theorem applyGraphDelta_refines (msg : ControlMessage) :
    Refines s (applyGraphDelta s msg) (s.view.readyStep (Act.ofGraphDelta msg)) := by
  cases hb : fieldUint msg fieldBaseGeneration with
  | none => simp [applyGraphDelta, Act.ofGraphDelta, hb, View.readyStep]
  | some base =>
    cases hg : fieldUint msg fieldGraphGeneration with
    | none => simp [applyGraphDelta, Act.ofGraphDelta, hb, hg, View.readyStep]
    | some generation =>
      cases hc : s.graphGeneration with
      | none => simp [applyGraphDelta, Act.ofGraphDelta, hb, hg, hc, View.readyStep]
      | some current =>
        by_cases hbase : base = current
        · subst hbase
          by_cases hgen : generation = saturatingSucc base
          · simp [applyGraphDelta, Act.ofGraphDelta, hb, hg, hc, hgen, View.readyStep, view]
          · simp [applyGraphDelta, Act.ofGraphDelta, hb, hg, hc, hgen, View.readyStep]
        · simp [applyGraphDelta, Act.ofGraphDelta, hb, hg, hc, hbase, Ne.symm hbase,
            View.readyStep]

theorem applyOpenChannel_refines (msg : ControlMessage) :
    Refines s (applyOpenChannel s msg) (s.view.readyStep (Act.ofOpenChannel msg)) := by
  cases hr : fieldUint msg fieldChannelId with
  | none => simp [applyOpenChannel, Act.ofOpenChannel, hr, View.readyStep]
  | some raw =>
    by_cases hzero : raw.toUInt32 = 0
    · have hact : Act.ofOpenChannel msg = .refused := by
        cases ho : fieldUint msg fieldOperationKind <;> simp [Act.ofOpenChannel, hr, ho, hzero]
      simp [applyOpenChannel, hact, hr, hzero, View.readyStep]
    cases hget : s.channels.get raw.toUInt32 with
    | some e =>
      -- a channel id is opened once
      have hchan : s.view.channel raw.toUInt32 = some (entryView e) := by simp [view_channel, hget]
      simp only [applyOpenChannel, hr, hzero, ChannelTable.contains, hget]
      cases ho : fieldUint msg fieldOperationKind with
      | none => simp [Act.ofOpenChannel, hr, ho, View.readyStep]
      | some opRaw =>
        by_cases hrange : opRaw > 255
        · simp [Act.ofOpenChannel, hr, ho, hrange, View.readyStep]
        cases hk : OperationKind.fromU8 opRaw.toUInt8 <;>
          simp [Act.ofOpenChannel, hr, ho, hzero, hrange, hk, View.readyStep, hchan,
            ChannelAct.step]
    | none =>
      have hchan : s.view.channel raw.toUInt32 = none := by simp [view_channel, hget]
      cases ho : fieldUint msg fieldOperationKind with
      | none =>
        simp [applyOpenChannel, Act.ofOpenChannel, hr, hzero, ChannelTable.contains, hget, ho,
          View.readyStep]
      | some opRaw =>
        by_cases hrange : opRaw > 255
        · simp [applyOpenChannel, Act.ofOpenChannel, hr, hzero, ChannelTable.contains, hget, ho,
            hrange, View.readyStep]
        cases hk : OperationKind.fromU8 opRaw.toUInt8 <;>
          simp [applyOpenChannel, Act.ofOpenChannel, hr, hzero, ChannelTable.contains, hget, ho,
            hrange, hk, View.readyStep, hchan, ChannelAct.step, view_insertPending]

theorem applyChannelReady_refines (msg : ControlMessage) :
    Refines s (applyChannelReady s msg) (s.view.readyStep (Act.ofChannelReady msg)) := by
  cases hr : fieldUint msg fieldChannelId with
  | none => simp [applyChannelReady, Act.ofChannelReady, hr, View.readyStep]
  | some raw =>
    -- every act but `ready` is refused, and `ready` on a channel that is not pending is too
    have hother : ∀ b, s.channels.state raw.toUInt32 ≠ .pending →
        (ChannelAct.ready b).step (s.view.channel raw.toUInt32) = none := by
      intro b hne
      rw [state_eq] at hne
      rcases hc : s.view.channel raw.toUInt32 with _ | ⟨st, k⟩
      · rfl
      · cases st <;> simp_all [ChannelAct.step]
    have hrefused : s.channels.state raw.toUInt32 ≠ .pending →
        s.view.readyStep (Act.ofChannelReady msg) = none := by
      intro hne
      cases ho : fieldUint msg fieldChannelResult with
      | none => simp [Act.ofChannelReady, hr, ho, View.readyStep]
      | some resultRaw =>
        by_cases hrange : resultRaw > 255
        · simp [Act.ofChannelReady, hr, ho, hrange, View.readyStep]
        cases hk : ChannelResult.fromU8 resultRaw.toUInt8 <;>
          simp [Act.ofChannelReady, hr, ho, hrange, hk, View.readyStep, hother _ hne]
    cases hst : s.channels.state raw.toUInt32 with
    | pending =>
      obtain ⟨k, hchan⟩ : ∃ k, s.view.channel raw.toUInt32 = some (.pending, k) := by
        rw [state_eq] at hst
        rcases hc : s.view.channel raw.toUInt32 with _ | ⟨st, k⟩
        · simp [hc] at hst
        · exact ⟨k, by simpa [hc] using hst⟩
      cases ho : fieldUint msg fieldChannelResult with
      | none => simp [applyChannelReady, Act.ofChannelReady, hr, hst, ho, View.readyStep]
      | some resultRaw =>
        by_cases hrange : resultRaw > 255
        · simp [applyChannelReady, Act.ofChannelReady, hr, hst, ho, hrange, View.readyStep]
        cases hk : ChannelResult.fromU8 resultRaw.toUInt8 with
        | none =>
          simp [applyChannelReady, Act.ofChannelReady, hr, hst, ho, hrange, hk, View.readyStep]
        | some result =>
          cases hsucc : result.isSuccess <;>
            simp [applyChannelReady, Act.ofChannelReady, hr, hst, ho, hrange, hk, hsucc,
              View.readyStep, hchan, ChannelAct.step, view_setState s _ hchan]
    | _ => simp [applyChannelReady, hr, hst, hrefused (by simp [hst])]

theorem applyCloseChannel_refines (msg : ControlMessage) :
    Refines s (applyCloseChannel s msg) (s.view.readyStep (Act.ofCloseChannel msg)) := by
  cases hr : fieldUint msg fieldChannelId with
  | none => simp [applyCloseChannel, Act.ofCloseChannel, hr, View.readyStep]
  | some raw =>
    have hst := state_eq s raw.toUInt32
    rcases hc : s.view.channel raw.toUInt32 with _ | ⟨st, k⟩
    · simp [hc] at hst
      simp [applyCloseChannel, Act.ofCloseChannel, hr, hst, View.readyStep, hc, ChannelAct.step]
    · cases st <;> simp [hc] at hst <;>
        simp [applyCloseChannel, Act.ofCloseChannel, hr, hst, View.readyStep, hc,
          ChannelAct.step, view_setState s _ hc]

theorem applyOperationError_refines (channelId : Option UInt32) :
    Refines s (applyOperationError s channelId)
      (s.view.readyStep (Act.ofOperationError channelId)) := by
  cases channelId with
  | none => simp [applyOperationError, Act.ofOperationError, View.readyStep]
  | some id =>
    have hst := state_eq s id
    rcases hc : s.view.channel id with _ | ⟨st, k⟩
    · simp [hc] at hst
      simp [applyOperationError, Act.ofOperationError, hst, View.readyStep, hc, ChannelAct.step]
    · cases st <;> simp [hc] at hst <;>
        simp [applyOperationError, Act.ofOperationError, hst, View.readyStep, hc, ChannelAct.step,
          View.setChannel_of_eq hc]

theorem applyReadyError_refines (msg : ControlMessage) (channelId : Option UInt32) :
    Refines s (applyReadyError s msg channelId)
      (s.view.readyStep (Act.ofScopedError channelId)) := by
  cases channelId with
  | none => simp [applyReadyError, Act.ofScopedError, View.readyStep]
  | some id =>
    have hst := state_eq s id
    rcases hc : s.view.channel id with _ | ⟨st, k⟩
    · simp [hc] at hst
      simp [applyReadyError, Act.ofScopedError, hst, View.readyStep, hc, ChannelAct.step, View.setChannel_of_eq hc]
    · cases st <;> simp [hc] at hst <;>
        simp [applyReadyError, Act.ofScopedError, hst, View.readyStep, hc, ChannelAct.step,
          View.setChannel_of_eq hc, view_setState s _ hc]

/-- An Error is fatal before the ready phase and has its scope's effect in it. -/
theorem applyError_refines (msg : ControlMessage) :
    Refines s (applyError s msg) (s.view.step (.error (Act.ofError msg))) := by
  have hready : s.phase = .ready →
      Refines s (applyError s msg) (s.view.readyStep (Act.ofError msg)) := by
    intro h
    by_cases hscope : (fieldUint msg fieldErrorScope).getD 0 = 2
    · have hop := applyOperationError_refines s ((fieldUint msg fieldChannelId).map UInt64.toUInt32)
      simpa [applyError, h, hscope, Act.ofError] using hop
    · have hch := applyReadyError_refines s msg ((fieldUint msg fieldChannelId).map UInt64.toUInt32)
      simpa [applyError, h, hscope, Act.ofError] using hch
  cases h : s.phase with
  | ready => simpa [View.step, h] using hready h
  | _ => simp [applyError, h, View.step, SessionPhase.isReady, view]

theorem applyAuthenticate_refines (msg : ControlMessage) :
    Refines s (applyAuthenticate s msg) (s.view.step .authenticate) := by
  cases h : s.phase <;> simp [applyAuthenticate, h, View.step, view]

theorem applySessionReady_refines (msg : ControlMessage) :
    Refines s (applySessionReady s msg) (s.view.step .sessionReady) := by
  by_cases h : s.phase = .selectedAwaitSessionReady <;>
    simp [applySessionReady, h, View.step, view]

/-! ## Whole messages -/

/-- A ready-required message is refused before the ready phase. -/
theorem required_refines {o : Outcome} {act : ReadyAct} (e : ProtocolError)
    (h : Refines s o (s.view.readyStep act)) :
    Refines s (if s.phase.isReady = false then reject s e else o) (s.view.step (.ready act)) := by
  by_cases hready : s.phase = .ready
  · simpa [View.step, hready, SessionPhase.isReady] using h
  · have hnot : s.phase.isReady = false := by simpa using hready
    simp [View.step, hready, hnot]

theorem idle_refines (f : SessionEffects) : Refines s (accept s f) (s.view.readyStep .idle) := by
  simp [View.readyStep]

/-- An act that is refused in the ready phase is refused in every phase. -/
theorem step_refused (v : View) : v.step (.ready .refused) = none := by
  simp [View.step, View.readyStep]

section Kinds

attribute [local simp] kindAuthenticate kindSessionReady kindGraphSnapshot kindGraphDelta
  kindSchemaRequest kindSchemaAdvertise kindSchemaResponse kindOpenChannel kindChannelReady
  kindCloseChannel kindClockSync kindHeartbeat kindSessionResume kindSessionResumeResult kindError
  isReadyRequiredKind

theorem applyControl_refines (msg : ControlMessage) (sender : Role) :
    Refines s (applyControl s msg sender) (s.view.step (Act.ofControl sender msg)) := by
  obtain ⟨kind, hkind⟩ : ∃ kind, msg.kind = kind := ⟨_, rfl⟩
  unfold applyControl Act.ofControl
  rw [hkind]
  by_cases hw : wrongSender kind sender
  · simp [hw, step_refused]
  simp only [hw, Bool.false_eq_true, if_false]
  by_cases h1 : kind = 1
  · simpa [h1] using applyAuthenticate_refines s msg
  by_cases h2 : kind = 2
  · simpa [h2] using applySessionReady_refines s msg
  by_cases h15 : kind = 15
  · simpa [h15] using applyError_refines s msg
  by_cases h8 : kind = 8
  · simpa [h8] using required_refines s _ (applyOpenChannel_refines s msg)
  by_cases h9 : kind = 9
  · simpa [h9] using required_refines s _ (applyChannelReady_refines s msg)
  by_cases h10 : kind = 10
  · simpa [h10] using required_refines s _ (applyCloseChannel_refines s msg)
  by_cases h12 : kind = 12
  · simpa [h12] using required_refines s _ (idle_refines s { heartbeat := true })
  by_cases h3 : kind = 3
  · simpa [h3] using required_refines s _ (applyGraphSnapshot_refines s msg)
  by_cases h4 : kind = 4
  · simpa [h4] using required_refines s _ (applyGraphDelta_refines s msg)
  by_cases hparked : kind = 5 ∨ kind = 7 ∨ kind = 6 ∨ kind = 11
  · have hreq := required_refines s (.sessionNotReady "control_before_ready" 0) (idle_refines s {})
    rcases hparked with h | h | h | h <;> simpa [h] using hreq
  -- the resume kinds and the unassigned ones
  · simp only [kindAuthenticate, kindSessionReady, kindError, kindOpenChannel, kindChannelReady,
      kindCloseChannel, kindHeartbeat, kindGraphSnapshot, kindGraphDelta, kindSchemaRequest,
      kindSchemaResponse, kindSchemaAdvertise, kindClockSync, h1, h2, h15, h8, h9, h10, h12, h3,
      h4, hparked, if_false, step_refused]
    split_ifs <;> simp

end Kinds

/-! ### Data frames -/

/-- On a sample the two direction checks of the source say the same. -/
theorem sample_direction (k : OperationKind) (sender : Role) :
    (k.allowsOpcode opcodeRosSample && k.allowsRosSampleFrom sender) = true ↔
      k.allowsOpcode opcodeRosSample = true ∧ k.opcodeSender opcodeRosSample = some sender := by
  cases k <;> cases sender <;> decide

/-- The gates of a data frame, seen from the view. -/
theorem gates_refines (id : UInt32) (sender : Role) (opcode : UInt8) :
    (applyDataChannelGates s id = .ok () ∧
        s.view.channel id = some (.active, activeKind s id)) ∨
      ∃ e, applyDataChannelGates s id = .error e ∧
        (ChannelAct.data sender opcode).step (s.view.channel id) = none := by
  have hst := state_eq s id
  rcases hc : s.view.channel id with _ | ⟨st, k⟩
  · simp [hc] at hst
    exact .inr ⟨_, by rw [applyDataChannelGates, hst], rfl⟩
  · cases st with
    | active =>
      simp [hc] at hst
      exact .inl ⟨by simp [applyDataChannelGates, hst], by rw [← hc, state_eq_active s hst]⟩
    | _ =>
      simp [hc] at hst
      exact .inr ⟨_, by rw [applyDataChannelGates, hst], rfl⟩

theorem applyRosSample_refines (frame : DecodedFrame) (sender : Role) :
    Refines s (applyRosSample s frame sender)
      (s.view.step (.ready (.channel frame.channelId (.data sender opcodeRosSample)))) := by
  by_cases hready : s.phase = .ready
  swap
  · simp [applyRosSample, View.step, hready]
  rcases gates_refines s frame.channelId sender opcodeRosSample with ⟨hg, hc⟩ | ⟨e, hg, hstep⟩
  · have hdir := sample_direction (activeKind s frame.channelId) sender
    by_cases hok : (activeKind s frame.channelId).allowsOpcode opcodeRosSample = true ∧
        (activeKind s frame.channelId).opcodeSender opcodeRosSample = some sender
    · have hsrc := hdir.mpr hok
      rw [Bool.and_eq_true] at hsrc
      simp [applyRosSample, hready, SessionPhase.isReady, hg, hsrc, View.step, View.readyStep, hc,
        ChannelAct.step, hok, View.setChannel_of_eq hc]
    · have hsrc := mt hdir.mp hok
      rw [Bool.and_eq_true, not_and_or] at hsrc
      have hnot : (!(activeKind s frame.channelId).allowsOpcode opcodeRosSample ||
          !(activeKind s frame.channelId).allowsRosSampleFrom sender) = true := by
        simpa using hsrc
      simp only [applyRosSample, hready, SessionPhase.isReady, hg, hnot, View.step,
        View.readyStep, view_phase, hc, ChannelAct.step, hok, if_true, if_false, refines_reject,
        Bool.not_true, Bool.false_eq_true, Option.map_none]
  · simp [applyRosSample, hready, SessionPhase.isReady, hg, View.step, View.readyStep, hstep]

theorem applyServiceActionFrame_refines (frame : DecodedFrame) (sender : Role) :
    Refines s (applyServiceActionFrame s frame sender)
      (s.view.step (Act.ofStream sender frame)) := by
  by_cases hready : s.phase = .ready
  swap
  · cases hchk : checkOperationStream frame <;>
      simp [applyServiceActionFrame, Act.ofStream, hchk, View.step, hready]
  rcases gates_refines s frame.channelId sender frame.opcode with ⟨hg, hc⟩ | ⟨e, hg, hstep⟩
  · by_cases hop : (activeKind s frame.channelId).allowsOpcode frame.opcode = true
    · by_cases hdir : (activeKind s frame.channelId).opcodeSender frame.opcode = some sender
      · cases hchk : checkOperationStream frame <;>
          simp [applyServiceActionFrame, Act.ofStream, hchk, hready, SessionPhase.isReady, hg, hop, hdir,
            View.step, View.readyStep, hc, ChannelAct.step, View.setChannel_of_eq hc]
      · cases hchk : checkOperationStream frame <;>
          simp [applyServiceActionFrame, Act.ofStream, hchk, hready, SessionPhase.isReady, hg, hop, hdir, View.step,
            View.readyStep, hc, ChannelAct.step]
    · cases hchk : checkOperationStream frame <;>
        simp [applyServiceActionFrame, Act.ofStream, hchk, hready, SessionPhase.isReady, hg, hop, View.step,
          View.readyStep, hc, ChannelAct.step]
  · cases hchk : checkOperationStream frame <;>
      simp [applyServiceActionFrame, Act.ofStream, hchk, hready, SessionPhase.isReady, hg, View.step, View.readyStep,
        hstep]

/-- Parked opcodes are refused whatever the gates say. -/
theorem applyParkedFrame_refines (frame : DecodedFrame) :
    Refines s (applyParkedFrame s frame) none := by
  by_cases hready : s.phase = .ready
  · cases hg : applyDataChannelGates s frame.channelId <;>
      simp [applyParkedFrame, hready, SessionPhase.isReady, hg]
  · simp [applyParkedFrame, hready]

theorem ofSelectedPlane_ite {c : Prop} [Decidable c] {a b : Act}
    (ha : a.ofSelectedPlane = true) (hb : b.ofSelectedPlane = true) :
    (if c then a else b).ofSelectedPlane = true := by
  split
  · exact ha
  · exact hb

theorem ofControl_ofSelectedPlane (sender : Role) (msg : ControlMessage) :
    (Act.ofControl sender msg).ofSelectedPlane = true := by
  unfold Act.ofControl
  iterate 10 refine ofSelectedPlane_ite rfl ?_
  exact ofSelectedPlane_ite rfl rfl

/-- A frame is never one of the bootstrap acts. -/
theorem ofFrame_ofSelectedPlane (sender : Role) (frame : DecodedFrame) :
    (Act.ofFrame sender frame).ofSelectedPlane = true := by
  unfold Act.ofFrame
  refine ofSelectedPlane_ite ?_ (ofSelectedPlane_ite rfl (ofSelectedPlane_ite ?_ rfl))
  · cases frame.payload with
    | control msg => exact ofControl_ofSelectedPlane sender msg
    | application b => rfl
  · unfold Act.ofStream
    cases checkOperationStream frame <;> rfl

/-- Outside the selected plane, and after its end, the view refuses every act of a frame. -/
theorem step_ofFrame_of_not_live (frame : DecodedFrame) (sender : Role)
    (h : s.phase.isTerminal = true ∨ s.phase.inSelectedPlane = false) :
    s.view.step (Act.ofFrame sender frame) = none := by
  have hlive : s.phase ≠ .selectedAwaitAuthenticate ∧ s.phase ≠ .selectedAwaitSessionReady ∧
      s.phase ≠ .ready := by
    cases hphase : s.phase <;> simp_all [SessionPhase.isTerminal, SessionPhase.inSelectedPlane]
  have hplane := ofFrame_ofSelectedPlane sender frame
  cases hact : Act.ofFrame sender frame with
  | clientHello | serverHello _ | bootstrapError => simp [hact, Act.ofSelectedPlane] at hplane
  | authenticate | sessionReady | error _ | ready _ => simp [View.step, hlive]

theorem applyFrame_refines (frame : DecodedFrame) (sender : Role) :
    Refines s (applyFrame s frame sender) (s.view.step (Act.ofFrame sender frame)) := by
  by_cases hterm : s.phase.isTerminal = true
  · simp [applyFrame, hterm, step_ofFrame_of_not_live s frame sender (.inl hterm)]
  by_cases hplane : s.phase.inSelectedPlane = true
  swap
  · have hoff : s.phase.inSelectedPlane = false := by simpa using hplane
    simp [applyFrame, hterm, hoff, step_ofFrame_of_not_live s frame sender (.inr hoff)]
  by_cases hctl : frame.opcode = opcodeControlCbor
  · cases hp : frame.payload with
    | control msg =>
      simpa [applyFrame, Act.ofFrame, hterm, hplane, hctl, hp] using
        applyControl_refines s msg sender
    | application b => simp [applyFrame, Act.ofFrame, hterm, hplane, hctl, hp, step_refused]
  by_cases hsample : frame.opcode = opcodeRosSample
  · have h := applyRosSample_refines s frame sender
    simp only [hsample] at hctl
    simpa [applyFrame, Act.ofFrame, hterm, hplane, hsample, hctl] using h
  by_cases hsa : isServiceOrActionOpcode frame.opcode = true
  · have h := applyServiceActionFrame_refines s frame sender
    simpa [applyFrame, Act.ofFrame, hterm, hplane, hctl, hsample, hsa] using h
  · have h := applyParkedFrame_refines s frame
    simpa [applyFrame, Act.ofFrame, hterm, hplane, hctl, hsample, hsa, step_refused] using h

end Transition

namespace Session

/-- **A session accepts what its view accepts**, and the views stay in step. -/
theorem apply_refines (s : SessionState) (m : Message) (sender : Role) :
    Refines s (apply s m sender) (s.view.step (Act.classify sender m)) := by
  cases m with
  | bootstrap record => exact Transition.applyBootstrap_refines s record sender
  | frame frame => exact Transition.applyFrame_refines s frame sender

end Session
end Rclweb
