import Rclweb.Session.Refinement

/-!
# The active channels of a session

Which channels are active, with their kinds, is what an application sees of a session.  Four
messages change it or are about to: SessionReady, OpenChannel, ChannelReady and CloseChannel.
Every other message is *quiet*: it leaves the active channels and the ready phase alone and
makes no channel pending (`View.step_quiet`).

For the three channel messages there is one lemma each, which says what an accepted one does
and which effect it reports.
-/

namespace Rclweb

open Rclweb.Frame Control Transition

namespace View

/-- The kind of a channel, when it is active. -/
def activeKind (v : View) (id : UInt32) : Option OperationKind :=
  match v.channel id with
  | some (.active, kind) => some kind
  | _ => none

/-- A channel was opened and not answered yet. -/
def Pending (v : View) (id : UInt32) : Prop := ∃ kind, v.channel id = some (.pending, kind)

theorem activeKind_eq_some {v : View} {id : UInt32} {kind : OperationKind} :
    v.activeKind id = some kind ↔ v.channel id = some (.active, kind) := by
  unfold activeKind
  split
  · next k h => simp [h]
  · next h =>
    constructor
    · intro hnone
      cases hnone
    · intro hactive
      exact absurd hactive (h kind)

/-- **Nothing about the active channels changes**: neither which ones there are nor that the
session is ready, and no channel becomes pending. -/
structure Quiet (v v' : View) : Prop where
  activeKind : ∀ id, v'.activeKind id = v.activeKind id
  pending : ∀ id, v'.Pending id → v.Pending id
  ready : v'.phase = .ready ↔ v.phase = .ready

@[refl] theorem Quiet.refl (v : View) : v.Quiet v := ⟨fun _ => rfl, fun _ h => h, Iff.rfl⟩

theorem Quiet.trans {v v' v'' : View} (h : v.Quiet v') (h' : v'.Quiet v'') : v.Quiet v'' :=
  ⟨fun id => (h'.activeKind id).trans (h.activeKind id),
    fun id hp => h.pending id (h'.pending id hp), h'.ready.trans h.ready⟩

theorem setChannel_channel (v : View) (id : UInt32) (c : Option ChannelView) (id' : UInt32) :
    (v.setChannel id c).channel id' = if id' = id then c else v.channel id' := by
  by_cases h : id' = id
  · subst h
    simp [setChannel]
  · simp [setChannel, h]

theorem activeKind_setChannel (v : View) (id : UInt32) (c : Option ChannelView) (id' : UInt32) :
    (v.setChannel id c).activeKind id' =
      if id' = id then (match c with | some (.active, kind) => some kind | _ => none)
      else v.activeKind id' := by
  unfold activeKind
  rw [setChannel_channel]
  split_ifs <;> rfl

theorem pending_setChannel {v : View} {id : UInt32} {c : Option ChannelView} {id' : UInt32} :
    (v.setChannel id c).Pending id' ↔
      if id' = id then ∃ kind, c = some (.pending, kind) else v.Pending id' := by
  unfold Pending
  rw [setChannel_channel]
  split_ifs <;> rfl

end View

/-! ## Quiet acts -/

/-- Acts on a channel that neither open, answer nor close it. -/
def ChannelAct.quiet : ChannelAct → Bool
  | opening _ | ready _ | close => false
  | operationError | error | data _ _ => true

def ReadyAct.quiet : ReadyAct → Bool
  | channel _ act => act.quiet
  | _ => true

def Act.quiet : Act → Bool
  | sessionReady => false
  | error act | ready act => act.quiet
  | _ => true

/-- A quiet act keeps an active channel active and a channel that is not active so. -/
theorem ChannelAct.step_quiet {act : ChannelAct} {c c' : Option ChannelView}
    (hact : act.quiet = true) (h : act.step c = some c') :
    c' = c ∨ ∃ kind, c = some (.pending, kind) ∧ c' = some (.failed, kind) := by
  cases act with
  | opening | ready | close => cases hact
  | operationError | data =>
    left
    unfold ChannelAct.step at h
    split at h <;> simp_all
  | error =>
    unfold ChannelAct.step at h
    split at h <;> simp_all

/-- A data frame needs an active channel, on which its sender may send it, and changes
nothing. -/
theorem ChannelAct.step_data {sender : Role} {opcode : UInt8} {c c' : Option ChannelView}
    (h : (data sender opcode).step c = some c') :
    ∃ kind, c = some (.active, kind) ∧ c' = c ∧ kind.allowsOpcode opcode = true ∧
      kind.opcodeSender opcode = some sender := by
  rcases c with _ | ⟨state, kind⟩
  · cases h
  · cases state with
    | active =>
      obtain ⟨⟨hallows, hsender⟩, heq⟩ := Option.ite_none_right_eq_some.mp h
      exact ⟨kind, rfl, (Option.some.inj heq).symm, hallows, hsender⟩
    | unused | pending | failed | closed => cases h

namespace View

variable {v v' : View}

/-- What a quiet act does to one channel. -/
theorem quiet_setChannel {id : UInt32} {c : Option ChannelView}
    (h : c = v.channel id ∨ ∃ kind, v.channel id = some (.pending, kind) ∧
      c = some (.failed, kind)) : v.Quiet (v.setChannel id c) := by
  rcases h with hc | ⟨kind, hpending, rfl⟩
  · rw [setChannel_of_eq hc.symm]
  · refine ⟨fun id' => ?_, fun id' hp => ?_, Iff.rfl⟩
    · rw [activeKind_setChannel]
      split_ifs with hid
      · rw [hid, activeKind, hpending]
      · rfl
    · rw [pending_setChannel] at hp
      split_ifs at hp with hid
      · obtain ⟨k, hk⟩ := hp
        cases hk
      · exact hp

theorem readyStep_quiet {act : ReadyAct} (hact : act.quiet = true)
    (h : v.readyStep act = some v') : v.Quiet v' := by
  cases act with
  | refused => cases h
  | idle => exact Option.some.inj h ▸ .refl v
  | graphSnapshot generation =>
    obtain rfl := Option.some.inj h
    exact ⟨fun _ => rfl, fun _ h => h, Iff.rfl⟩
  | graphDelta base generation =>
    obtain ⟨-, heq⟩ := Option.ite_none_right_eq_some.mp h
    obtain rfl := Option.some.inj heq
    exact ⟨fun _ => rfl, fun _ h => h, Iff.rfl⟩
  | channel id act =>
    obtain ⟨c, hc, rfl⟩ := Option.map_eq_some_iff.mp h
    exact quiet_setChannel (ChannelAct.step_quiet hact hc)

/-- **A quiet act changes nothing about the active channels.** -/
theorem step_quiet {act : Act} (hact : act.quiet = true) (h : v.step act = some v') :
    v.Quiet v' := by
  have hphase {p : SessionPhase} (hp : p ≠ .ready) (hv : v.phase ≠ .ready) :
      v.Quiet { v with phase := p } :=
    ⟨fun _ => rfl, fun _ h => h, iff_of_false hp hv⟩
  cases act with
  | clientHello | authenticate =>
    obtain ⟨hp, heq⟩ := Option.ite_none_right_eq_some.mp h
    obtain rfl := Option.some.inj heq
    exact hphase (by decide) (by rw [hp]; decide)
  | serverHello version =>
    obtain ⟨hp, heq⟩ := Option.ite_none_right_eq_some.mp h
    obtain rfl := Option.some.inj heq
    exact ⟨fun _ => rfl, fun _ h => h, iff_of_false (by simp) (by rw [hp]; decide)⟩
  | bootstrapError =>
    obtain ⟨hp, heq⟩ := Option.ite_none_right_eq_some.mp h
    obtain rfl := Option.some.inj heq
    exact hphase (by decide) (by rw [hp]; decide)
  | sessionReady => cases hact
  | error act =>
    change (if v.phase = .selectedAwaitAuthenticate ∨ v.phase = .selectedAwaitSessionReady then
        some { v with phase := .failed }
      else if v.phase = .ready then v.readyStep act else none) = some v' at h
    split_ifs at h with hp hready
    · obtain rfl := Option.some.inj h
      refine hphase (by decide) ?_
      rcases hp with hp | hp <;> rw [hp] <;> decide
    · exact readyStep_quiet hact h
  | ready act =>
    obtain ⟨-, h⟩ := Option.ite_none_right_eq_some.mp h
    exact readyStep_quiet hact h

end View

namespace Act

theorem quiet_ite {c : Prop} [Decidable c] {a b : Act} (ha : a.quiet = true)
    (hb : b.quiet = true) : (if c then a else b).quiet = true := by
  split
  · exact ha
  · exact hb

theorem ofError_quiet (msg : ControlMessage) : (ofError msg).quiet = true := by
  unfold ofError
  dsimp only
  split_ifs
  · unfold ofOperationError
    split <;> rfl
  · unfold ofScopedError
    split <;> rfl

/-- Four kinds of control messages are not quiet. -/
theorem ofControl_quiet {sender : Role} {msg : ControlMessage}
    (hready : msg.kind ≠ kindSessionReady) (hopen : msg.kind ≠ kindOpenChannel)
    (hchannel : msg.kind ≠ kindChannelReady) (hclose : msg.kind ≠ kindCloseChannel) :
    (ofControl sender msg).quiet = true := by
  unfold ofControl
  rw [if_neg hready, if_neg hopen, if_neg hchannel, if_neg hclose]
  refine quiet_ite rfl (quiet_ite rfl (quiet_ite (ofError_quiet msg) (quiet_ite rfl
    (quiet_ite ?_ (quiet_ite ?_ (quiet_ite rfl rfl))))))
  · unfold ofGraphSnapshot
    split <;> rfl
  · unfold ofGraphDelta
    split <;> rfl

/-- Two of them are not for a client to send. -/
theorem ofControl_client_quiet {msg : ControlMessage} (hopen : msg.kind ≠ kindOpenChannel)
    (hclose : msg.kind ≠ kindCloseChannel) : (ofControl .client msg).quiet = true := by
  by_cases hserver : msg.kind = kindSessionReady ∨ msg.kind = kindChannelReady
  · have hwrong : wrongSender msg.kind .client = true := by
      rcases hserver with h | h <;> rw [h] <;> decide
    rw [ofControl, if_pos hwrong]
    rfl
  · rw [not_or] at hserver
    exact ofControl_quiet hserver.1 hopen hserver.2 hclose

/-- Frames of every opcode but the control one are quiet. -/
theorem ofFrame_quiet {sender : Role} {frame : DecodedFrame}
    (hopcode : frame.opcode ≠ opcodeControlCbor) : (ofFrame sender frame).quiet = true := by
  unfold ofFrame
  rw [if_neg hopcode]
  split_ifs
  · rfl
  · unfold ofStream
    split <;> rfl
  · rfl

end Act

/-! ## Acts that leave the channels alone -/

/-- Acts of the ready phase that change no channel. -/
def ReadyAct.keepsChannels : ReadyAct → Bool
  | channel _ .operationError | channel _ (.data _ _) => true
  | channel _ _ => false
  | _ => true

/-- Acts that change no channel. -/
def Act.keepsChannels : Act → Bool
  | .error act | .ready act => act.keepsChannels
  | _ => true

namespace View

variable {v v' : View}

theorem readyStep_keepsChannels {act : ReadyAct} (hact : act.keepsChannels = true)
    (h : v.readyStep act = some v') : v'.channel = v.channel := by
  cases act with
  | refused => cases h
  | idle | graphSnapshot => exact Option.some.inj h ▸ rfl
  | graphDelta =>
    obtain ⟨-, heq⟩ := Option.ite_none_right_eq_some.mp h
    exact Option.some.inj heq ▸ rfl
  | channel id act =>
    obtain ⟨c, hc, rfl⟩ := Option.map_eq_some_iff.mp h
    have hsame : v.channel id = c := by
      cases act with
      | opening | ready | close | error => cases hact
      | data => exact (ChannelAct.step_data hc).choose_spec.2.1.symm
      | operationError =>
        unfold ChannelAct.step at hc
        split at hc <;> simp_all
    rw [setChannel_of_eq hsame]

theorem step_keepsChannels {act : Act} (hact : act.keepsChannels = true)
    (h : v.step act = some v') : v'.channel = v.channel := by
  cases act with
  | clientHello | serverHello | bootstrapError | authenticate | sessionReady =>
    obtain ⟨-, heq⟩ := Option.ite_none_right_eq_some.mp h
    exact Option.some.inj heq ▸ rfl
  | error act =>
    change (if v.phase = .selectedAwaitAuthenticate ∨ v.phase = .selectedAwaitSessionReady then
        some { v with phase := .failed }
      else if v.phase = .ready then v.readyStep act else none) = some v' at h
    split_ifs at h
    · exact Option.some.inj h ▸ rfl
    · exact readyStep_keepsChannels hact h
  | ready act =>
    obtain ⟨-, h⟩ := Option.ite_none_right_eq_some.mp h
    exact readyStep_keepsChannels hact h

end View

namespace Act

theorem keepsChannels_ite {c : Prop} [Decidable c] {a b : Act} (ha : a.keepsChannels = true)
    (hb : b.keepsChannels = true) : (if c then a else b).keepsChannels = true := by
  split
  · exact ha
  · exact hb

/-- Four kinds of control messages may change a channel. -/
theorem ofControl_keepsChannels {sender : Role} {msg : ControlMessage}
    (herror : msg.kind ≠ kindError) (hopen : msg.kind ≠ kindOpenChannel)
    (hready : msg.kind ≠ kindChannelReady) (hclose : msg.kind ≠ kindCloseChannel) :
    (ofControl sender msg).keepsChannels = true := by
  unfold ofControl
  rw [if_neg herror, if_neg hopen, if_neg hready, if_neg hclose]
  refine keepsChannels_ite rfl (keepsChannels_ite rfl (keepsChannels_ite rfl (keepsChannels_ite rfl
    (keepsChannels_ite ?_ (keepsChannels_ite ?_ (keepsChannels_ite rfl rfl))))))
  · unfold ofGraphSnapshot
    split <;> rfl
  · unfold ofGraphDelta
    split <;> rfl

/-- Frames of every opcode but the control one change no channel. -/
theorem ofFrame_keepsChannels {sender : Role} {frame : DecodedFrame}
    (hopcode : frame.opcode ≠ opcodeControlCbor) :
    (ofFrame sender frame).keepsChannels = true := by
  unfold ofFrame
  rw [if_neg hopcode]
  split_ifs
  · rfl
  · unfold ofStream
    split <;> rfl
  · rfl

end Act

/-! ## The messages about channels -/

namespace Transition

variable {s s' : SessionState} {msg : ControlMessage} {effects : SessionEffects}

/-- The channel a control message names. -/
def namedChannel (msg : ControlMessage) : Option UInt32 :=
  (fieldUint msg fieldChannelId).map UInt64.toUInt32

/-- **An accepted OpenChannel** makes an unknown channel pending and reports it. -/
theorem applyOpenChannel_ok (h : applyOpenChannel s msg = (.ok effects, s')) :
    ∃ id kind raw, namedChannel msg = some id ∧ fieldUint msg fieldOperationKind = some raw ∧
      OperationKind.fromU8 raw.toUInt8 = some kind ∧ raw ≤ 255 ∧ id ≠ 0 ∧
      s.view.channel id = none ∧ effects.channelOpened = some id ∧
      s'.view = s.view.setChannel id (some (.pending, kind)) := by
  unfold applyOpenChannel at h
  split at h
  · cases h
  · next named hnamed =>
    dsimp only at h
    split_ifs at h with hzero hcontains
    · cases h
    · cases h
    · split at h
      · cases h
      · next raw hraw =>
        split_ifs at h with hbig
        · cases h
        · split at h
          · cases h
          · next kind hkind =>
            cases h
            refine ⟨_, kind, raw, by rw [namedChannel, hnamed]; rfl, hraw, hkind,
              UInt64.not_lt.mp hbig, hzero, ?_, rfl, s.view_insertPending _ kind _⟩
            rw [SessionState.view_channel]
            rw [ChannelTable.contains, Bool.not_eq_true, Option.isSome_eq_false_iff,
              Option.isNone_iff_eq_none] at hcontains
            rw [hcontains]
            rfl

/-- **An accepted CloseChannel** closes an active channel and reports it. -/
theorem applyCloseChannel_ok (h : applyCloseChannel s msg = (.ok effects, s')) :
    ∃ id kind, namedChannel msg = some id ∧ s.view.channel id = some (.active, kind) ∧
      effects.channelClosed = some id ∧ s'.view = s.view.setChannel id (some (.closed, kind)) := by
  unfold applyCloseChannel at h
  split at h
  · cases h
  · next named hnamed =>
    dsimp only at h
    split at h
    · next hstate =>
      cases h
      have hactive := s.state_eq_active hstate
      exact ⟨_, _, by rw [namedChannel, hnamed]; rfl, hactive, rfl, s.view_setState _ hactive⟩
    all_goals cases h

/-- **An accepted ChannelReady** answers a pending channel, and reports it if it is refused. -/
theorem applyChannelReady_ok (h : applyChannelReady s msg = (.ok effects, s')) :
    ∃ id kind raw result, namedChannel msg = some id ∧
      s.view.channel id = some (.pending, kind) ∧ fieldUint msg fieldChannelResult = some raw ∧
      raw ≤ 255 ∧ ChannelResult.fromU8 raw.toUInt8 = some result ∧
      effects.channelFailed = (if result.isSuccess then none else some id) ∧
      s'.view =
        s.view.setChannel id (some (if result.isSuccess then .active else .failed, kind)) := by
  unfold applyChannelReady at h
  split at h
  · cases h
  · next named hnamed =>
    have hid : namedChannel msg = some named.toUInt32 := by rw [namedChannel, hnamed]; rfl
    dsimp only at h
    split at h
    · cases h
    · next hstate =>
      obtain ⟨kind, hpending⟩ := s.state_eq_pending hstate
      split at h
      · cases h
      · next raw hraw =>
        split_ifs at h with hbig
        · cases h
        · split at h
          · cases h
          · next result hresult =>
            refine ⟨_, kind, raw, result, hid, hpending, hraw, UInt64.not_lt.mp hbig, hresult, ?_⟩
            split_ifs at h with hsuccess
            · cases h
              rw [if_pos hsuccess, if_pos hsuccess]
              exact ⟨rfl, s.view_setState _ hpending⟩
            · cases h
              rw [if_neg hsuccess, if_neg hsuccess]
              exact ⟨rfl, s.view_setState _ hpending⟩
    · cases h

/-- **An accepted Error** leaves the channels alone, or fails a pending one and reports it. -/
theorem applyError_ok (h : applyError s msg = (.ok effects, s')) :
    s'.view.channel = s.view.channel ∧
        (effects.sessionError = true ∨ effects.channelFailed = none) ∨
      ∃ id kind, namedChannel msg = some id ∧ (fieldUint msg fieldErrorScope).getD 0 ≠ 2 ∧
        s.view.channel id = some (.pending, kind) ∧ effects.sessionError = false ∧
        effects.operationCancelled = none ∧ effects.channelFailed = some id ∧
        s'.view = s.view.setChannel id (some (.failed, kind)) := by
  unfold applyError at h
  dsimp only at h
  split_ifs at h with hawait hready hscope
  · cases h
    exact .inl ⟨rfl, .inl rfl⟩
  · unfold applyOperationError at h
    split at h
    · cases h
    · split_ifs at h
      · cases h
      · cases h
        exact .inl ⟨rfl, .inr rfl⟩
  · unfold applyReadyError at h
    split at h
    · next id hid =>
      split_ifs at h with hstate
      · cases h
        obtain ⟨kind, hpending⟩ := s.state_eq_pending hstate
        exact .inr ⟨id, kind, hid, hscope, hpending, rfl, rfl, rfl, s.view_setState _ hpending⟩
      · cases h
        exact .inl ⟨rfl, .inl rfl⟩
    · cases h
      exact .inl ⟨rfl, .inl rfl⟩
  · cases h
    exact .inl ⟨rfl, .inl rfl⟩
  · cases h

/-- A control frame that is accepted was a control message of the right sender. -/
theorem applyControl_of_applyFrame {frame : DecodedFrame} {sender : Role}
    (hopcode : frame.opcode = opcodeControlCbor) (hpayload : frame.payload = .control msg)
    (h : applyFrame s frame sender = (.ok effects, s')) :
    applyControl s msg sender = (.ok effects, s') := by
  unfold applyFrame at h
  by_cases hterm : s.phase.isTerminal = true
  · rw [if_pos hterm] at h
    cases h
  by_cases hplane : (!s.phase.inSelectedPlane) = true
  · rw [if_neg hterm, if_pos hplane] at h
    cases h
  rw [if_neg hterm, if_neg hplane, if_pos hopcode, hpayload] at h
  exact h

theorem applyControl_openChannel (hkind : msg.kind = kindOpenChannel) {sender : Role}
    (h : applyControl s msg sender = (.ok effects, s')) :
    s.phase = .ready ∧ applyOpenChannel s msg = (.ok effects, s') := by
  unfold applyControl at h
  rw [hkind] at h
  by_cases hwrong : wrongSender kindOpenChannel sender = true
  · rw [if_pos hwrong] at h
    cases h
  rw [if_neg hwrong, if_neg (by decide)] at h
  by_cases hready : (!s.phase.isReady && isReadyRequiredKind kindOpenChannel) = true
  · rw [if_pos hready] at h
    cases h
  rw [if_neg hready, if_neg (by decide), if_neg (by decide), if_neg (by decide), if_pos rfl] at h
  have hrequired : isReadyRequiredKind kindOpenChannel = true := by decide
  rw [hrequired, Bool.and_true, Bool.not_eq_true', Bool.not_eq_false,
    SessionPhase.isReady_iff] at hready
  exact ⟨hready, h⟩

theorem applyControl_closeChannel (hkind : msg.kind = kindCloseChannel) {sender : Role}
    (h : applyControl s msg sender = (.ok effects, s')) :
    applyCloseChannel s msg = (.ok effects, s') := by
  unfold applyControl at h
  rw [hkind] at h
  by_cases hwrong : wrongSender kindCloseChannel sender = true
  · rw [if_pos hwrong] at h
    cases h
  rw [if_neg hwrong, if_neg (by decide)] at h
  by_cases hready : (!s.phase.isReady && isReadyRequiredKind kindCloseChannel) = true
  · rw [if_pos hready] at h
    cases h
  rw [if_neg hready, if_neg (by decide), if_neg (by decide), if_neg (by decide),
    if_neg (by decide), if_neg (by decide), if_pos rfl] at h
  exact h

theorem applyControl_channelReady (hkind : msg.kind = kindChannelReady) {sender : Role}
    (h : applyControl s msg sender = (.ok effects, s')) :
    applyChannelReady s msg = (.ok effects, s') := by
  unfold applyControl at h
  rw [hkind] at h
  by_cases hwrong : wrongSender kindChannelReady sender = true
  · rw [if_pos hwrong] at h
    cases h
  rw [if_neg hwrong, if_neg (by decide)] at h
  by_cases hready : (!s.phase.isReady && isReadyRequiredKind kindChannelReady) = true
  · rw [if_pos hready] at h
    cases h
  rw [if_neg hready, if_neg (by decide), if_neg (by decide), if_neg (by decide),
    if_neg (by decide), if_pos rfl] at h
  exact h

theorem applyControl_error (hkind : msg.kind = kindError) {sender : Role}
    (h : applyControl s msg sender = (.ok effects, s')) :
    applyError s msg = (.ok effects, s') := by
  unfold applyControl at h
  rw [hkind] at h
  by_cases hwrong : wrongSender kindError sender = true
  · rw [if_pos hwrong] at h
    cases h
  rw [if_neg hwrong, if_neg (by decide)] at h
  by_cases hready : (!s.phase.isReady && isReadyRequiredKind kindError) = true
  · rw [if_pos hready] at h
    cases h
  rw [if_neg hready, if_neg (by decide), if_neg (by decide), if_pos rfl] at h
  exact h

end Transition

namespace Session

variable {s s' : Session} {frame : DecodedFrame} {effects : SessionEffects}

/-- **What a session accepts from its peer** is a step of the view. -/
theorem ingestFrame_refines (h : s.ingestFrame frame = (.ok effects, s')) :
    s'.inner.role = s.inner.role ∧
      s.inner.view.step (Act.ofFrame s.inner.role.peer frame) = some s'.inner.view := by
  have hrefines := Transition.applyFrame_refines s.inner frame s.inner.role.peer
  have happly : applyFrame s.inner frame s.inner.role.peer = (.ok effects, s'.inner) := by
    simp only [ingestFrame, ofOutcome, Prod.mk.injEq] at h
    rw [← h.1, ← h.2]
  rw [Refines, happly] at hrefines
  exact hrefines.symm

/-- **What a session records as sent** is a step of the view. -/
theorem recordSendFrame_refines (h : s.recordSendFrame frame = (.ok effects, s')) :
    s'.inner.role = s.inner.role ∧
      s.inner.view.step (Act.ofFrame s.inner.role frame) = some s'.inner.view := by
  have hrefines := Transition.applyFrame_refines s.inner frame s.inner.role
  have happly : applyFrame s.inner frame s.inner.role = (.ok effects, s'.inner) := by
    simp only [recordSendFrame, ofOutcome, Prod.mk.injEq] at h
    rw [← h.1, ← h.2]
  rw [Refines, happly] at hrefines
  exact hrefines.symm

/-- What a server accepts from its client is a step of the view. -/
theorem ingestFrame_ok (hrole : s.inner.role = .server)
    (h : s.ingestFrame frame = (.ok effects, s')) :
    s'.inner.role = .server ∧
      s.inner.view.step (Act.ofFrame .client frame) = some s'.inner.view := by
  have hrefines := ingestFrame_refines h
  rw [hrole] at hrefines
  exact hrefines

/-- What a server records as sent is a step of the view. -/
theorem recordSendFrame_ok (hrole : s.inner.role = .server)
    (h : s.recordSendFrame frame = (.ok effects, s')) :
    s'.inner.role = .server ∧
      s.inner.view.step (Act.ofFrame .server frame) = some s'.inner.view := by
  have hrefines := recordSendFrame_refines h
  rw [hrole] at hrefines
  exact hrefines

theorem quiet_of_applyBootstrap {record : BootstrapRecord} {sender : Role}
    {state state' : SessionState}
    (h : Transition.applyBootstrap state record sender = (.ok effects, state')) :
    state'.role = state.role ∧ state.view.Quiet state'.view := by
  have hrefines := Transition.applyBootstrap_refines state record sender
  rw [Refines, h] at hrefines
  refine ⟨hrefines.2, View.step_quiet ?_ hrefines.1⟩
  unfold Act.ofBootstrap
  split <;> rfl

/-- A bootstrap record that a server takes is quiet. -/
theorem quiet_of_ingestBootstrap {record : BootstrapRecord} (hrole : s.inner.role = .server)
    (h : s.ingestBootstrap record = (.ok effects, s')) :
    s'.inner.role = .server ∧ s.inner.view.Quiet s'.inner.view := by
  have happly : Transition.applyBootstrap s.inner record s.inner.role.peer =
      (.ok effects, s'.inner) := by
    simp only [ingestBootstrap, ofOutcome, Prod.mk.injEq] at h
    rw [← h.1, ← h.2]
  obtain ⟨hserver, hquiet⟩ := quiet_of_applyBootstrap happly
  exact ⟨hserver.trans hrole, hquiet⟩

/-- A bootstrap record that a server sends is quiet. -/
theorem quiet_of_recordSendBootstrap {record : BootstrapRecord} (hrole : s.inner.role = .server)
    (h : s.recordSendBootstrap record = (.ok effects, s')) :
    s'.inner.role = .server ∧ s.inner.view.Quiet s'.inner.view := by
  have happly : Transition.applyBootstrap s.inner record s.inner.role = (.ok effects, s'.inner) := by
    simp only [recordSendBootstrap, ofOutcome, Prod.mk.injEq] at h
    rw [← h.1, ← h.2]
  obtain ⟨hserver, hquiet⟩ := quiet_of_applyBootstrap happly
  exact ⟨hserver.trans hrole, hquiet⟩

/-- The control message of an accepted frame was accepted. -/
theorem ingestFrame_control {msg : ControlMessage} (hopcode : frame.opcode = opcodeControlCbor)
    (hpayload : frame.payload = .control msg) (h : s.ingestFrame frame = (.ok effects, s')) :
    applyControl s.inner msg s.inner.role.peer = (.ok effects, s'.inner) := by
  refine applyControl_of_applyFrame hopcode hpayload ?_
  simp only [ingestFrame, ofOutcome, Prod.mk.injEq] at h
  rw [← h.1, ← h.2]

/-- The control message of a frame that was recorded as sent was accepted. -/
theorem recordSendFrame_control {msg : ControlMessage}
    (hopcode : frame.opcode = opcodeControlCbor) (hpayload : frame.payload = .control msg)
    (h : s.recordSendFrame frame = (.ok effects, s')) :
    applyControl s.inner msg s.inner.role = (.ok effects, s'.inner) := by
  refine applyControl_of_applyFrame hopcode hpayload ?_
  simp only [recordSendFrame, ofOutcome, Prod.mk.injEq] at h
  rw [← h.1, ← h.2]

/-- Bootstrap records change no channel. -/
theorem channel_of_applyBootstrap {record : BootstrapRecord} {sender : Role}
    {state state' : SessionState}
    (h : Transition.applyBootstrap state record sender = (.ok effects, state')) :
    state'.role = state.role ∧ state'.view.channel = state.view.channel := by
  have hrefines := Transition.applyBootstrap_refines state record sender
  rw [Refines, h] at hrefines
  refine ⟨hrefines.2, View.step_keepsChannels ?_ hrefines.1⟩
  unfold Act.ofBootstrap
  split <;> rfl

theorem channel_of_ingestBootstrap {record : BootstrapRecord}
    (h : s.ingestBootstrap record = (.ok effects, s')) :
    s'.inner.role = s.inner.role ∧ s'.inner.view.channel = s.inner.view.channel := by
  simp only [ingestBootstrap, ofOutcome, Prod.mk.injEq] at h
  have happly : Transition.applyBootstrap s.inner record s.inner.role.peer =
      (.ok effects, s'.inner) := by rw [← h.1, ← h.2]
  exact channel_of_applyBootstrap happly

theorem channel_of_recordSendBootstrap {record : BootstrapRecord}
    (h : s.recordSendBootstrap record = (.ok effects, s')) :
    s'.inner.role = s.inner.role ∧ s'.inner.view.channel = s.inner.view.channel := by
  simp only [recordSendBootstrap, ofOutcome, Prod.mk.injEq] at h
  have happly : Transition.applyBootstrap s.inner record s.inner.role =
      (.ok effects, s'.inner) := by rw [← h.1, ← h.2]
  exact channel_of_applyBootstrap happly

end Session
end Rclweb
