import Mathlib.Logic.Relation
import Rclweb.Session.Refinement
import Rclweb.Session.TwoPeer

/-!
# The life of a channel, and the end of a session

What a whole run of one session machine does to a channel id.  The table itself enforces
nothing: `setState` writes any state and `insertPending` any entry.  The order of the
states is a property of the handlers, stated once for a single entry as `EntryStep` and
carried from there to a message and to a list of calls.

The second half is about the two ways a message can fail: a rejected message leaves the
session alone, and a reported session error ends it in every phase but the ready one.
-/

namespace Rclweb

open Rclweb.Frame Control Transition

/-! ## One entry -/

/-- The edges of the lifecycle. -/
inductive ChannelState.Next : ChannelState → ChannelState → Prop
  | opened : Next unused pending
  | readied : Next pending active
  | refused : Next pending failed
  | shut : Next active closed

/-- A channel that left the unused state never returns to it, nor does a decided channel
become pending again, and the two ends are kept. -/
theorem ChannelState.Next.keeps {s s' : ChannelState} (h : Relation.ReflTransGen Next s s') :
    (s ≠ unused → s' ≠ unused) ∧ (s ≠ unused → s ≠ pending → s' ≠ pending) ∧
      (s = failed ∨ s = closed → s' = s) := by
  induction h with
  | refl => exact ⟨id, fun _ h => h, fun _ => rfl⟩
  | tail _ hnext ih =>
    obtain ⟨hused, hdecided, hend⟩ := ih
    cases hnext with
    | opened =>
      refine ⟨nofun, fun h => absurd rfl (hused h), fun h => ?_⟩
      have hs := hend h
      rcases h with rfl | rfl <;> contradiction
    | readied | refused | shut =>
      refine ⟨nofun, nofun, fun h => ?_⟩
      have hs := hend h
      rcases h with rfl | rfl <;> contradiction

/-- **What one message may do to the entry of a channel id**, in a phase. -/
inductive EntryStep (phase : SessionPhase) (id : UInt32) :
    Option ChannelEntry → Option ChannelEntry → Prop
  | keep (c : Option ChannelEntry) : EntryStep phase id c c
  | opened (kind : OperationKind) (correlation : List UInt8) :
      phase = .ready → id ≠ 0 → EntryStep phase id none (some ⟨.pending, kind, correlation⟩)
  | moved (e : ChannelEntry) (state : ChannelState) : e.state ≠ .unused →
      e.state.Next state → EntryStep phase id (some e) (some { e with state := state })

namespace EntryStep

variable {phase : SessionPhase} {id : UInt32} {c c' : Option ChannelEntry}

/-- The lifecycle state of an entry. -/
abbrev stateOf (c : Option ChannelEntry) : ChannelState := (c.map (·.state)).getD .unused

theorem state (h : EntryStep phase id c c') :
    stateOf c' = stateOf c ∨ (stateOf c).Next (stateOf c') := by
  cases h with
  | keep => exact .inl rfl
  | opened => exact .inr .opened
  | moved e state _ hnext => exact .inr hnext

/-- Kind and correlation stay what the OpenChannel said. -/
theorem recorded (h : EntryStep phase id c c') {e : ChannelEntry} (hc : c = some e) :
    ∃ e', c' = some e' ∧ e'.operationKind = e.operationKind ∧
      e'.openCorrelation = e.openCorrelation := by
  cases h with
  | keep => exact ⟨e, hc, rfl, rfl⟩
  | opened => contradiction
  | moved e₀ state =>
    obtain rfl : e₀ = e := Option.some.inj hc
    exact ⟨_, rfl, rfl, rfl⟩

end EntryStep

/-! ## One message -/

namespace Transition

variable {s : SessionState}

/-- An outcome moves every entry along the lifecycle. -/
def Advances (s : SessionState) (o : Outcome) : Prop :=
  ∀ id, EntryStep s.phase id (s.channels.get id) (o.2.channels.get id)

theorem advances_of_channels {o : Outcome} (h : o.2.channels = s.channels) : Advances s o :=
  fun _ => h ▸ .keep _

@[simp] theorem advances_reject (s : SessionState) (e : ProtocolError) :
    Advances s (reject s e) := advances_of_channels rfl

theorem advances_setState {id : UInt32} {state : ChannelState} {f : SessionEffects}
    (hused : s.channels.state id ≠ .unused) (hnext : (s.channels.state id).Next state) :
    Advances s (accept { s with channels := s.channels.setState id state } f) := by
  intro id'
  simp only [accept, ChannelTable.get_setState]
  by_cases hid : id' = id
  · subst hid
    cases hget : s.channels.get id' with
    | none => simp [ChannelTable.state, hget] at hused
    | some e =>
      simp only [ChannelTable.state, hget, Option.map_some, Option.getD_some] at hused hnext
      simpa using EntryStep.moved e state hused hnext
  · simpa [hid] using EntryStep.keep (s.channels.get id')

theorem channels_applyGraphSnapshot (msg : ControlMessage) :
    (applyGraphSnapshot s msg).2.channels = s.channels := by
  unfold applyGraphSnapshot
  split <;> rfl

theorem channels_applyGraphDelta (msg : ControlMessage) :
    (applyGraphDelta s msg).2.channels = s.channels := by
  unfold applyGraphDelta
  split
  · rfl
  split
  · rfl
  split
  · rfl
  split
  · rfl
  split <;> rfl

theorem channels_applyAuthenticate (msg : ControlMessage) :
    (applyAuthenticate s msg).2.channels = s.channels := by
  unfold applyAuthenticate
  split <;> rfl

theorem channels_applySessionReady (msg : ControlMessage) :
    (applySessionReady s msg).2.channels = s.channels := by
  unfold applySessionReady
  split <;> rfl

theorem advances_applyOperationError (channelId : Option UInt32) :
    Advances s (applyOperationError s channelId) := by
  cases channelId with
  | none => exact advances_reject s _
  | some id =>
    simp only [applyOperationError]
    split
    · exact advances_reject s _
    · exact advances_of_channels rfl

theorem advances_applyReadyError (msg : ControlMessage) (channelId : Option UInt32) :
    Advances s (applyReadyError s msg channelId) := by
  cases channelId with
  | none => exact advances_of_channels rfl
  | some id =>
    by_cases h : s.channels.state id = .pending
    · simpa [applyReadyError, h] using
        advances_setState (by simp [h]) (h ▸ ChannelState.Next.refused)
    · have hkeep : Advances s (accept s { sessionError := true }) := advances_of_channels rfl
      simpa [applyReadyError, h] using hkeep

theorem advances_applyError (msg : ControlMessage) : Advances s (applyError s msg) := by
  unfold applyError
  split
  · exact advances_of_channels rfl
  split
  · dsimp only
    split
    · exact advances_applyOperationError _
    · exact advances_applyReadyError msg _
  split
  · exact advances_of_channels rfl
  · exact advances_reject s _

/-- An OpenChannel uses an id that is neither zero nor recorded. -/
theorem advances_applyOpenChannel (msg : ControlMessage) (hready : s.phase = .ready) :
    Advances s (applyOpenChannel s msg) := by
  unfold applyOpenChannel
  split
  · exact advances_reject s _
  next raw _ =>
  dsimp only
  split
  · exact advances_reject s _
  next hzero =>
  split
  · exact advances_reject s _
  next hfresh =>
  have hnone : s.channels.get raw.toUInt32 = none := by
    simpa [ChannelTable.contains] using hfresh
  split
  · exact advances_reject s _
  split
  · exact advances_reject s _
  split
  · exact advances_reject s _
  next kind _ =>
  intro id
  simp only [accept, ChannelTable.get_insertPending]
  by_cases hid : id = raw.toUInt32
  · subst hid
    simpa [hnone] using EntryStep.opened kind (correlationVec msg) hready hzero
  · simpa [hid] using EntryStep.keep (s.channels.get id)

theorem advances_applyChannelReady (msg : ControlMessage) :
    Advances s (applyChannelReady s msg) := by
  unfold applyChannelReady
  split
  · exact advances_reject s _
  next raw _ =>
  dsimp only
  split
  · exact advances_reject s _
  · next hpending =>
    have hused : s.channels.state raw.toUInt32 ≠ .unused := by simp [hpending]
    split
    · exact advances_reject s _
    split
    · exact advances_reject s _
    split
    · exact advances_reject s _
    split
    · exact advances_setState hused (hpending ▸ .readied)
    · exact advances_setState hused (hpending ▸ .refused)
  · exact advances_reject s _

theorem advances_applyCloseChannel (msg : ControlMessage) :
    Advances s (applyCloseChannel s msg) := by
  unfold applyCloseChannel
  split
  · exact advances_reject s _
  dsimp only
  split
  · next hactive => exact advances_setState (by simp [hactive]) (hactive ▸ .shut)
  all_goals exact advances_reject s _

theorem advances_ite {c : Prop} [Decidable c] {o o' : Outcome} (h : c → Advances s o)
    (h' : ¬ c → Advances s o') : Advances s (if c then o else o') :=
  iteInduction (motive := Advances s) h h'

theorem advances_applyControl (msg : ControlMessage) (sender : Role) :
    Advances s (applyControl s msg sender) := by
  unfold applyControl
  refine advances_ite (fun _ => advances_reject s _) fun _ => ?_
  refine advances_ite (fun _ => advances_reject s _) fun _ => ?_
  refine advances_ite (fun _ => advances_reject s _) fun hready => ?_
  refine advances_ite (fun _ => advances_of_channels (channels_applyAuthenticate msg)) fun _ => ?_
  refine advances_ite (fun _ => advances_of_channels (channels_applySessionReady msg)) fun _ => ?_
  refine advances_ite (fun _ => advances_applyError msg) fun _ => ?_
  refine advances_ite (fun hkind => ?_) fun _ => ?_
  · -- the guard above lets an OpenChannel through in the ready phase only
    have hrequired : isReadyRequiredKind msg.kind = true := hkind ▸ rfl
    have hphase : s.phase = .ready := by simpa [hrequired] using hready
    exact advances_applyOpenChannel msg hphase
  refine advances_ite (fun _ => advances_applyChannelReady msg) fun _ => ?_
  refine advances_ite (fun _ => advances_applyCloseChannel msg) fun _ => ?_
  refine advances_ite (fun _ => advances_of_channels rfl) fun _ => ?_
  refine advances_ite (fun _ => advances_of_channels (channels_applyGraphSnapshot msg)) fun _ => ?_
  refine advances_ite (fun _ => advances_of_channels (channels_applyGraphDelta msg)) fun _ => ?_
  exact advances_ite (fun _ => advances_of_channels rfl) fun _ => advances_reject s _

/-- A data frame writes nothing. -/
theorem state_applyRosSample (frame : DecodedFrame) (sender : Role) :
    (applyRosSample s frame sender).2 = s := by
  unfold applyRosSample
  split
  · rfl
  split
  · rfl
  dsimp only
  split <;> rfl

theorem state_applyServiceActionFrame (frame : DecodedFrame) (sender : Role) :
    (applyServiceActionFrame s frame sender).2 = s := by
  unfold applyServiceActionFrame
  split
  · rfl
  split
  · rfl
  dsimp only
  split
  · rfl
  split
  · rfl
  split <;> rfl

theorem state_applyParkedFrame (frame : DecodedFrame) : (applyParkedFrame s frame).2 = s := by
  unfold applyParkedFrame
  split
  · rfl
  split <;> rfl

theorem advances_applyFrame (frame : DecodedFrame) (sender : Role) :
    Advances s (applyFrame s frame sender) := by
  unfold applyFrame
  refine advances_ite (fun _ => advances_reject s _) fun _ => ?_
  refine advances_ite (fun _ => advances_reject s _) fun _ => ?_
  refine advances_ite (fun _ => ?_) fun _ => ?_
  · cases frame.payload with
    | control msg => exact advances_applyControl msg sender
    | application _ => exact advances_reject s _
  refine advances_ite (fun _ => ?_) fun _ => ?_
  · exact advances_of_channels (by rw [state_applyRosSample])
  refine advances_ite (fun _ => ?_) fun _ => ?_
  · exact advances_of_channels (by rw [state_applyServiceActionFrame])
  · exact advances_of_channels (by rw [state_applyParkedFrame])

theorem advances_applyBootstrap (record : BootstrapRecord) (sender : Role) :
    Advances s (applyBootstrap s record sender) := by
  refine advances_of_channels ?_
  unfold applyBootstrap
  split
  · rfl
  split
  · rfl
  split
  all_goals
    split
    · rfl
    split <;> rfl

end Transition

/-! ## Runs of one session -/

namespace Session

/-- One call of the session machine. -/
inductive Call where
  | ingest (m : Message)
  | recordSend (m : Message)

/-- The session after a call, whatever its result. -/
def call (s : Session) : Call → Session
  | .ingest m => (s.ingest m).2
  | .recordSend m => (s.recordSend m).2

/-- The session after a list of calls. -/
def calls (s : Session) (cs : List Call) : Session := cs.foldl call s

/-- The entry of a channel id. -/
def entry (s : Session) (id : UInt32) : Option ChannelEntry := s.inner.channels.get id

theorem entryStep_call (s : Session) (c : Call) (id : UInt32) :
    EntryStep s.phase id (s.entry id) ((s.call c).entry id) := by
  cases c with
  | ingest m | recordSend m =>
    cases m with
    | bootstrap record => exact Transition.advances_applyBootstrap record _ id
    | frame frame => exact Transition.advances_applyFrame frame _ id

theorem channelState_call (s : Session) (c : Call) (id : UInt32) :
    (s.call c).channelState id = s.channelState id ∨
      (s.channelState id).Next ((s.call c).channelState id) :=
  (entryStep_call s c id).state

theorem reaches_channelState (s : Session) (cs : List Call) (id : UInt32) :
    Relation.ReflTransGen ChannelState.Next (s.channelState id)
      ((s.calls cs).channelState id) := by
  induction cs generalizing s with
  | nil => exact .refl
  | cons c cs ih =>
    rcases channelState_call s c id with heq | hnext
    · exact heq ▸ ih (s.call c)
    · exact .head hnext (ih (s.call c))

theorem recorded_calls (s : Session) (cs : List Call) (id : UInt32) (e : ChannelEntry)
    (h : s.entry id = some e) :
    ∃ e', (s.calls cs).entry id = some e' ∧ e'.operationKind = e.operationKind ∧
      e'.openCorrelation = e.openCorrelation := by
  induction cs generalizing s e with
  | nil => exact ⟨e, h, rfl, rfl⟩
  | cons c cs ih =>
    obtain ⟨e₁, h₁, hkind, hcorr⟩ := (entryStep_call s c id).recorded h
    obtain ⟨e₂, h₂, hkind₂, hcorr₂⟩ := ih (s.call c) e₁ h₁
    exact ⟨e₂, h₂, hkind₂.trans hkind, hcorr₂.trans hcorr⟩

/-- A channel id leaves the unused state in the ready phase only, and id 0 never does. -/
theorem ready_of_leaves_unused {s : Session} {c : Call} {id : UInt32}
    (hbefore : s.channelState id = .unused) (hafter : (s.call c).channelState id ≠ .unused) :
    s.phase = .ready ∧ id ≠ 0 := by
  have hstep := entryStep_call s c id
  have hb : EntryStep.stateOf (s.entry id) = .unused := hbefore
  have ha : EntryStep.stateOf ((s.call c).entry id) ≠ .unused := hafter
  generalize s.entry id = c₀ at hstep hb
  generalize (s.call c).entry id = c₁ at hstep ha
  cases hstep with
  | keep => exact absurd hb ha
  | opened _ _ hready hzero => exact ⟨hready, hzero⟩
  | moved e _ hused _ => exact absurd hb hused

theorem channelState_zero (role : Role) (cs : List Call) :
    ((new role).calls cs).channelState 0 = .unused := by
  suffices h : ∀ (cs : List Call) (s : Session), s.channelState 0 = .unused →
      (s.calls cs).channelState 0 = .unused from h cs (new role) rfl
  intro cs
  induction cs with
  | nil => exact fun _ h => h
  | cons c cs ih =>
    intro s h
    refine ih (s.call c) ?_
    by_contra hleft
    exact (ready_of_leaves_unused h hleft).2 rfl

/-- **The life of a channel id over a run**: what `later` calls do to it after `earlier`
ones, from either role's initial session. -/
theorem channel_lifecycle (role : Role) (earlier later : List Call) (id : UInt32) :
    let s := (new role).calls earlier
    let s' := s.calls later
    Relation.ReflTransGen ChannelState.Next (s.channelState id) (s'.channelState id) ∧
    (∀ c, (s.call c).channelState id = s.channelState id ∨
      (s.channelState id).Next ((s.call c).channelState id)) ∧
    (s.channelState id = .failed ∨ s.channelState id = .closed →
      s'.channelState id = s.channelState id) ∧
    (s.channelState id ≠ .unused → s'.channelState id ≠ .unused) ∧
    (s.channelState id ≠ .unused → s.channelState id ≠ .pending →
      s'.channelState id ≠ .pending) ∧
    (∀ e, s.entry id = some e → ∃ e', s'.entry id = some e' ∧
      e'.operationKind = e.operationKind ∧ e'.openCorrelation = e.openCorrelation) ∧
    (∀ c, s.channelState id = .unused → (s.call c).channelState id ≠ .unused →
      s.phase = .ready) ∧
    s.channelState 0 = .unused := by
  intro s s'
  have hreach := reaches_channelState s later id
  obtain ⟨hused, hdecided, hend⟩ := ChannelState.Next.keeps hreach
  exact ⟨hreach, fun c => channelState_call s c id, hend, hused, hdecided,
    fun e he => recorded_calls s later id e he,
    fun c hb ha => (ready_of_leaves_unused hb ha).1, channelState_zero role earlier⟩

/-! ## Rejected messages -/

/-- **A rejected message leaves the session untouched**, in any state and from any sender. -/
theorem state_eq_of_rejected (s : SessionState) (m : Message) (sender : Role) (e : ProtocolError)
    (s' : SessionState) (h : apply s m sender = (.error e, s')) : s' = s := by
  have hrefines := apply_refines s m sender
  rw [Refines, h] at hrefines
  exact hrefines.2

/-- A hello of the wrong direction is refused, and the server still waits for the right one. -/
theorem state_eq_of_wrong_hello :
    ∃ e s', apply (SessionState.new .server) (.bootstrap (.bootstrapError ⟨2, none, none⟩))
        .client = (.error e, s') ∧ s' = SessionState.new .server := by
  obtain ⟨e, s', h⟩ : ∃ e s', apply (SessionState.new .server)
      (.bootstrap (.bootstrapError ⟨2, none, none⟩)) .client = (.error e, s') := ⟨_, _, rfl⟩
  exact ⟨e, s', h, state_eq_of_rejected _ _ .client e s' h⟩

/-! ## Reported session errors -/

/-- A session error leaves the phase failed, except that the ready phase is kept. -/
def EndsOnError (s : SessionState) (o : Outcome) : Prop :=
  ∀ f, o.1 = .ok f → f.sessionError = true →
    (s.phase = .ready → o.2.phase = .ready) ∧ (s.phase ≠ .ready → o.2.phase = .failed)

section Errors

variable {s : SessionState}

theorem endsOnError_reject (s : SessionState) (e : ProtocolError) :
    EndsOnError s (reject s e) := by
  intro f h
  contradiction

/-- An outcome without the flag has nothing to keep. -/
theorem endsOnError_accept {s' : SessionState} {f : SessionEffects}
    (h : f.sessionError = false) : EndsOnError s (accept s' f) := by
  intro f' hf herror
  obtain rfl : f = f' := Except.ok.inj hf
  rw [h] at herror
  contradiction

theorem endsOnError_ite {c : Prop} [Decidable c] {o o' : Outcome} (h : EndsOnError s o)
    (h' : EndsOnError s o') : EndsOnError s (if c then o else o') :=
  iteInduction (motive := EndsOnError s) (fun _ => h) fun _ => h'

/-- Only an Error reports one. -/
theorem endsOnError_applyError (s : SessionState) (msg : ControlMessage) :
    EndsOnError s (applyError s msg) := by
  intro f hf _
  constructor
  · intro hready
    revert hf
    simp only [applyError, hready, SessionPhase.isReady, reduceCtorEq, if_false, if_true]
    split
    · cases (fieldUint msg fieldChannelId).map UInt64.toUInt32 <;>
        simp only [applyOperationError, reject, accept] <;> try split
      all_goals simp [hready]
    · cases (fieldUint msg fieldChannelId).map UInt64.toUInt32 <;>
        simp only [applyReadyError, accept] <;> try split
      all_goals simp [hready]
  · intro hnot
    revert hf
    cases hphase : s.phase <;> simp_all [applyError, SessionPhase.isReady, accept, reject]

theorem endsOnError_applyAuthenticate (msg : ControlMessage) :
    EndsOnError s (applyAuthenticate s msg) := by
  unfold applyAuthenticate
  split
  · exact endsOnError_accept rfl
  all_goals exact endsOnError_reject s _

theorem endsOnError_applySessionReady (msg : ControlMessage) :
    EndsOnError s (applySessionReady s msg) :=
  endsOnError_ite (endsOnError_reject s _) (endsOnError_accept rfl)

theorem endsOnError_applyGraphSnapshot (msg : ControlMessage) :
    EndsOnError s (applyGraphSnapshot s msg) := by
  unfold applyGraphSnapshot
  split
  · exact endsOnError_reject s _
  · exact endsOnError_accept rfl

theorem endsOnError_applyGraphDelta (msg : ControlMessage) :
    EndsOnError s (applyGraphDelta s msg) := by
  unfold applyGraphDelta
  iterate 3
    split
    · exact endsOnError_reject s _
  exact endsOnError_ite (endsOnError_reject s _)
    (endsOnError_ite (endsOnError_reject s _) (endsOnError_accept rfl))

theorem endsOnError_applyOpenChannel (msg : ControlMessage) :
    EndsOnError s (applyOpenChannel s msg) := by
  unfold applyOpenChannel
  split
  · exact endsOnError_reject s _
  refine endsOnError_ite (endsOnError_reject s _) (endsOnError_ite (endsOnError_reject s _) ?_)
  split
  · exact endsOnError_reject s _
  refine endsOnError_ite (endsOnError_reject s _) ?_
  split
  · exact endsOnError_reject s _
  · exact endsOnError_accept rfl

theorem endsOnError_applyChannelReady (msg : ControlMessage) :
    EndsOnError s (applyChannelReady s msg) := by
  unfold applyChannelReady
  split
  · exact endsOnError_reject s _
  dsimp only
  split
  · exact endsOnError_reject s _
  · split
    · exact endsOnError_reject s _
    refine endsOnError_ite (endsOnError_reject s _) ?_
    split
    · exact endsOnError_reject s _
    · exact endsOnError_ite (endsOnError_accept rfl) (endsOnError_accept rfl)
  · exact endsOnError_reject s _

theorem endsOnError_applyCloseChannel (msg : ControlMessage) :
    EndsOnError s (applyCloseChannel s msg) := by
  unfold applyCloseChannel
  split
  · exact endsOnError_reject s _
  dsimp only
  split
  · exact endsOnError_accept rfl
  all_goals exact endsOnError_reject s _

theorem endsOnError_applyControl (msg : ControlMessage) (sender : Role) :
    EndsOnError s (applyControl s msg sender) := by
  unfold applyControl
  refine endsOnError_ite (endsOnError_reject s _) ?_
  refine endsOnError_ite (endsOnError_reject s _) ?_
  refine endsOnError_ite (endsOnError_reject s _) ?_
  refine endsOnError_ite (endsOnError_applyAuthenticate msg) ?_
  refine endsOnError_ite (endsOnError_applySessionReady msg) ?_
  refine endsOnError_ite (endsOnError_applyError s msg) ?_
  refine endsOnError_ite (endsOnError_applyOpenChannel msg) ?_
  refine endsOnError_ite (endsOnError_applyChannelReady msg) ?_
  refine endsOnError_ite (endsOnError_applyCloseChannel msg) ?_
  refine endsOnError_ite (endsOnError_accept rfl) ?_
  refine endsOnError_ite (endsOnError_applyGraphSnapshot msg) ?_
  refine endsOnError_ite (endsOnError_applyGraphDelta msg) ?_
  exact endsOnError_ite (endsOnError_accept rfl) (endsOnError_reject s _)

theorem endsOnError_applyRosSample (frame : DecodedFrame) (sender : Role) :
    EndsOnError s (applyRosSample s frame sender) := by
  unfold applyRosSample
  refine endsOnError_ite (endsOnError_reject s _) ?_
  split
  · exact endsOnError_reject s _
  · exact endsOnError_ite (endsOnError_reject s _) (endsOnError_accept rfl)

theorem endsOnError_applyServiceActionFrame (frame : DecodedFrame) (sender : Role) :
    EndsOnError s (applyServiceActionFrame s frame sender) := by
  unfold applyServiceActionFrame
  refine endsOnError_ite (endsOnError_reject s _) ?_
  split
  · exact endsOnError_reject s _
  refine endsOnError_ite (endsOnError_reject s _) (endsOnError_ite (endsOnError_reject s _) ?_)
  split
  · exact endsOnError_reject s _
  · exact endsOnError_accept rfl

theorem endsOnError_applyParkedFrame (frame : DecodedFrame) :
    EndsOnError s (applyParkedFrame s frame) := by
  unfold applyParkedFrame
  refine endsOnError_ite (endsOnError_reject s _) ?_
  split
  all_goals exact endsOnError_reject s _

theorem endsOnError_applyFrame (frame : DecodedFrame) (sender : Role) :
    EndsOnError s (applyFrame s frame sender) := by
  unfold applyFrame
  refine endsOnError_ite (endsOnError_reject s _) (endsOnError_ite (endsOnError_reject s _) ?_)
  refine endsOnError_ite ?_ (endsOnError_ite (endsOnError_applyRosSample frame sender)
    (endsOnError_ite (endsOnError_applyServiceActionFrame frame sender)
      (endsOnError_applyParkedFrame frame)))
  cases frame.payload with
  | control msg => exact endsOnError_applyControl msg sender
  | application _ => exact endsOnError_reject s _

end Errors

/-- A failed session takes nothing more. -/
theorem rejects_of_failed {s : SessionState} (h : s.phase = .failed) (frame : DecodedFrame)
    (sender : Role) : ∃ e, (applyFrame s frame sender).1 = .error e := by
  refine ⟨.protocolViolation "session_terminal" 0 25, ?_⟩
  simp [applyFrame, h, SessionPhase.isTerminal, reject]

/-- **A reported session error is terminal exactly outside the ready phase**: there the
session fails and takes no later frame. -/
theorem terminal_iff_of_sessionError (s : SessionState) (frame : DecodedFrame) (sender : Role)
    (f : SessionEffects) (s' : SessionState) (h : applyFrame s frame sender = (.ok f, s'))
    (herror : f.sessionError = true) :
    (s'.phase = .failed ∧ ∀ frame' sender', ∃ e, (applyFrame s' frame' sender').1 = .error e) ↔
      s.phase ≠ .ready := by
  obtain ⟨hready, hother⟩ := endsOnError_applyFrame (s := s) frame sender f (by rw [h]) herror
  rw [h] at hready hother
  constructor
  · intro hfailed hphase
    rw [hready hphase] at hfailed
    exact absurd hfailed.1 (by decide)
  · intro hphase
    exact ⟨hother hphase, rejects_of_failed (hother hphase)⟩

/-- The client's handshake, call by call. -/
def clientHandshake : List Call :=
  [.recordSend TwoPeer.clientHello, .ingest TwoPeer.serverHello, .recordSend TwoPeer.authenticate,
    .ingest TwoPeer.sessionReady]

/-- A session-scope Error of the server. -/
def sessionErrorFrame : DecodedFrame :=
  TwoPeer.controlFrame kindError [(48, .unsigned 25), (49, .unsigned 0), (51, .text "fatal")]

/-- In the ready phase the error is reported, and the session goes on. -/
theorem not_terminal_of_ready :
    ¬ ∀ (role : Role) (cs : List Call) (frame : DecodedFrame) (sender : Role)
      (f : SessionEffects) (s' : SessionState),
      applyFrame ((new role).calls cs).inner frame sender = (.ok f, s') → f.sessionError = true →
        s'.phase = .failed ∧ ∀ frame' sender', ∃ e, (applyFrame s' frame' sender').1 = .error e := by
  intro h
  obtain ⟨f, s', happly, herror, hphase⟩ : ∃ f s',
      applyFrame ((new .client).calls clientHandshake).inner sessionErrorFrame .server =
        (.ok f, s') ∧ f.sessionError = true ∧ s'.phase = .ready := ⟨_, _, rfl, rfl, rfl⟩
  have hfailed := (h .client clientHandshake sessionErrorFrame .server f s' happly herror).1
  rw [hphase] at hfailed
  contradiction

/-- Before the SessionReady the same error ends the session. -/
theorem terminal_of_awaiting_sessionReady :
    ∃ f s', applyFrame ((new .client).calls (clientHandshake.take 3)).inner sessionErrorFrame
        .server = (.ok f, s') ∧
      ((s'.phase = .failed ∧
          ∀ frame' sender', ∃ e, (applyFrame s' frame' sender').1 = .error e) ↔
        ((new .client).calls (clientHandshake.take 3)).inner.phase ≠ .ready) := by
  obtain ⟨f, s', happly, herror⟩ : ∃ f s',
      applyFrame ((new .client).calls (clientHandshake.take 3)).inner sessionErrorFrame .server =
        (.ok f, s') ∧ f.sessionError = true := ⟨_, _, rfl, rfl⟩
  exact ⟨f, s', happly, terminal_iff_of_sessionError _ _ .server f s' happly herror⟩

end Session
end Rclweb
