import Rclweb.Gateway.GraphMessages

/-!
# The stream of graph messages

What a connection may show to its client is determined by the answers of the backend: the view it
asks for after Authenticate, and for every channel that was opened the first endpoint of a new view
with the name and the type of the channel (`told`).  Whatever a connection has sent, the endpoints
it shows are among these (`shows_of_reachable`).
-/

namespace Rclweb

open Rclweb.Frame Control Transition

namespace Gateway

variable {jwt : JwtLibrary}

/-! ## What the backend told -/

/-- The endpoints a connection has to show, with their positions in the view they are from, and the
channel that was created just before. -/
structure Told where
  opened : Option ChannelSpec
  endpoints : List (GraphEndpointInfo × ℕ)

/-- The endpoint of a channel. -/
def ChannelSpec.names (spec : ChannelSpec) (endpoint : GraphEndpointInfo) : Bool :=
  endpoint.name == spec.topic && endpoint.typeName == spec.typeName

/-- What is shown of a view: all of it, or the endpoint of the channel that was created. -/
def Told.shown (s : Told) (view : GraphView) : List (GraphEndpointInfo × ℕ) :=
  match s.opened with
  | some spec => (view.endpoints.zipIdx.find? fun p => spec.names p.1).toList
  | none => view.endpoints.zipIdx

/-- One more answer. -/
def Told.next (s : Told) : BackendEvent → Told
  | ⟨.create _ spec, answer⟩ =>
    match (answer : Except BackendError EntityId) with
    | .ok _ => ⟨some spec, s.endpoints⟩
    | .error _ => ⟨none, s.endpoints⟩
  | ⟨.graphView, answer⟩ =>
    match (answer : Except BackendError GraphView) with
    | .ok view => ⟨none, s.endpoints ++ s.shown view⟩
    | .error _ => ⟨none, s.endpoints⟩
  | _ => ⟨none, s.endpoints⟩

/-- **What the answers of a history tell.** -/
def told (history : List BackendEvent) : Told := history.foldl Told.next ⟨none, []⟩

theorem told_append (history : List BackendEvent) (event : BackendEvent) :
    told (history ++ [event]) = (told history).next event := List.foldl_append

/-- An operation that neither creates an entity nor asks for the graph. -/
def BackendOp.plain : BackendOp → Bool
  | .create _ _ | .graphView => false
  | _ => true

theorem Told.next_of_plain {op : BackendOp} (h : op.plain = true) (s : Told) (answer : op.Answer) :
    s.next ⟨op, answer⟩ = ⟨none, s.endpoints⟩ := by
  cases op with
  | create kind spec => cases h
  | graphView => cases h
  | _ => rfl

theorem Told.endpoints_next (s : Told) (event : BackendEvent) :
    s.endpoints ⊆ (s.next event).endpoints := by
  obtain ⟨op, answer⟩ := event
  cases op with
  | create kind spec => cases answer <;> exact List.Subset.refl _
  | graphView =>
    cases answer with
    | error err => exact List.Subset.refl _
    | ok view => exact List.subset_append_left _ _
  | _ => exact List.Subset.refl _

/-! ## Turns -/

/-- The bytes show only endpoints that were told. -/
def Shows (history : List BackendEvent) (bytes : List UInt8) : Prop :=
  ∀ e ∈ sentEntries bytes, ∃ p ∈ (told history).endpoints, e = .of p.1

theorem shows_of_quiet {history : List BackendEvent} {bytes : List UInt8}
    (h : sentEntries bytes = []) : Shows history bytes := by
  rintro e he
  rw [h] at he
  cases he

theorem Shows.append {history : List BackendEvent} {bytes : List UInt8} (h : Shows history bytes)
    (event : BackendEvent) : Shows (history ++ [event]) bytes := by
  intro e he
  obtain ⟨p, hp, heq⟩ := h e he
  exact ⟨p, by rw [told_append]; exact Told.endpoints_next _ _ hp, heq⟩

namespace Turn

variable {config : GatewayConfig jwt} {active : ActiveTransport} {history : List BackendEvent}
  {opened : Option ChannelSpec} {t : Turn}

/-- **A turn tells what the backend told**, just after the given channel was created, if any. -/
structure Tells (opened : Option ChannelSpec) (history : List BackendEvent) (t : Turn) :
    Prop where
  shows : ∀ b ∈ t.outcome.outbound, Shows history b
  opened : (told history).opened = opened

/-- What shows nothing may be queued at any time. -/
theorem Tells.queue (h : t.Tells opened history) {bytes : List UInt8}
    (hbytes : Shows history bytes) : (t.queue bytes).Tells opened history := by
  refine ⟨fun b hb => ?_, h.opened⟩
  rcases List.mem_append.mp hb with hb | hb
  · exact h.shows b hb
  · exact List.mem_singleton.mp hb ▸ hbytes

theorem Tells.modify (h : t.Tells opened history) (f : ConnState → ConnState) :
    (t.modify f).Tells opened history := ⟨h.shows, h.opened⟩

theorem Tells.close (h : t.Tells opened history) : t.close.Tells opened history :=
  ⟨h.shows, h.opened⟩

theorem Tells.assertionFailed (h : t.Tells opened history) :
    t.assertionFailed.Tells opened history := ⟨h.shows, h.opened⟩

/-- An answer that tells nothing new. -/
theorem Tells.append (h : t.Tells opened history) {opened' : Option ChannelSpec}
    {event : BackendEvent} (hopened : ((told history).next event).opened = opened') :
    t.Tells opened' (history ++ [event]) :=
  ⟨fun b hb => (h.shows b hb).append event, by rw [told_append, hopened]⟩

theorem Tells.plain (h : t.Tells opened history) {op : BackendOp} (hop : op.plain = true)
    (answer : op.Answer) : t.Tells none (history ++ [⟨op, answer⟩]) :=
  h.append (by rw [Told.next_of_plain hop])

/-- **A control message** whose endpoints were told. -/
theorem Tells.pushShown (h : t.Tells opened history) {raw : List (UInt64 × CborValue)}
    (hshown : ∀ e ∈ graphEntries (sortByKey (CborValue.canonEntries raw)),
      ∃ p ∈ (told history).endpoints, e = .of p.1) :
    (t.pushControl (.map raw)).1.Tells opened history := by
  unfold Turn.pushControl
  split
  · exact h.close
  · next bytes hbytes =>
    split
    · exact h.assertionFailed
    · next session hrecorded =>
      obtain ⟨frame, effects, hparse, -⟩ := parse_of_recorded hrecorded
      refine (h.modify _).queue fun e he => ?_
      rw [sentEntries_control hbytes hparse] at he
      exact hshown e he

/-- A control message of another kind. -/
theorem Tells.pushControl (h : t.Tells opened history) {raw : List (UInt64 × CborValue)}
    {k : UInt64} (hk : raw.lookup 1 = some (.unsigned k)) (hne : k ≠ 3 ∧ k ≠ 4) :
    (t.pushControl (.map raw)).1.Tells opened history := by
  unfold Turn.pushControl
  split
  · exact h.close
  · next bytes hbytes =>
    split
    · exact h.assertionFailed
    · next session hrecorded =>
      obtain ⟨frame, effects, hparse, -⟩ := parse_of_recorded hrecorded
      exact (h.modify _).queue (shows_of_quiet (sentEntries_of_kind hbytes hparse hk hne))

theorem Tells.pushAppFrame (h : t.Tells opened history) {header : FrameHeader}
    (hopcode : header.opcode ≠ opcodeControlCbor) (operationId : Option OperationId)
    (payload : List UInt8) : (t.pushAppFrame header operationId payload).Tells opened history := by
  unfold Turn.pushAppFrame
  dsimp only
  split
  · exact h.close
  · split
    · exact h.close
    · next bytes hbytes =>
      split
      · exact h.assertionFailed
      · refine (h.modify _).queue (shows_of_quiet (sentEntries_of_opcode fun frame hparse => ?_))
        rw [opcode_of_parse hbytes hparse]
        exact hopcode

theorem Tells.pushBootstrapError (h : t.Tells opened history) (code : UInt8) (message : String) :
    (t.pushBootstrapError code message).Tells opened history := by
  unfold Turn.pushBootstrapError
  split
  · next bytes hbytes => exact (h.queue (shows_of_quiet (sentEntries_bootstrap hbytes))).close
  · exact h.close

theorem Tells.failSession (h : t.Tells opened history) (err : ProtocolError) :
    (t.failSession err).Tells opened history := by
  unfold Turn.failSession
  split_ifs
  · exact (h.pushControl rfl (by decide)).close
  · exact (h.pushBootstrapError _ _).close

theorem Tells.handleBootstrap (h : t.Tells opened history) (bytes : List UInt8) :
    (t.handleBootstrap config active bytes).Tells opened history := by
  unfold Turn.handleBootstrap
  split
  · exact h.pushBootstrapError _ _
  · split
    · exact h.pushBootstrapError _ _
    · dsimp only
      split
      · split
        · exact (h.modify _).pushBootstrapError _ _
        · split
          · exact (h.modify _).close
          · next hbytes =>
            split
            · exact (h.modify _).assertionFailed
            · exact ((h.modify _).modify _).queue (shows_of_quiet (sentEntries_bootstrap hbytes))
      · exact (h.modify _).close

theorem Tells.pushOperation (h : t.Tells opened history) (channelId : UInt32)
    (runtime : ChannelRuntime) {opcode : UInt8} (hopcode : opcode ≠ opcodeControlCbor)
    (opid : OperationId) (payload : List UInt8) :
    (t.pushOperation channelId runtime opcode opid payload).Tells opened history := by
  unfold Turn.pushOperation
  exact (h.modify _).pushAppFrame hopcode _ _

theorem Tells.pushChannelError (h : t.Tells opened history) (channelId : UInt32)
    (err : BackendError) : (t.pushChannelError channelId err).Tells opened history :=
  h.pushControl rfl (by decide)

/-! ## Handlers -/

/-- **A handler tells what the backend told**, however the backend answers. -/
abbrev Announces (history : List BackendEvent) (task : Task Turn) : Prop :=
  Program.Ensures (fun _ _ => True) (fun _ _ => True) (fun history t => t.Tells none history)
    history task

/-- An operation that neither creates an entity nor asks for the graph. -/
theorem Tells.await (h : t.Tells none history) {op : BackendOp} (hop : op.plain = true)
    {next : op.Answer → Task Turn}
    (hnext : ∀ answer history', t.Tells none history' → Announces history' (next answer)) :
    Announces history (.await op next) :=
  ⟨trivial, fun answer _ => hnext answer _ (h.plain hop answer)⟩

/-- **Asking for the graph and showing all of it.** -/
theorem Tells.announces_pushGraphSnapshot (h : t.Tells none history) (generation : UInt64) :
    Announces history (t.pushGraphSnapshot config generation) := by
  refine ⟨trivial, fun answer _ => ?_⟩
  rcases answer with err | view
  · have hnext : t.Tells none (history ++ [⟨.graphView, .error err⟩]) := h.append rfl
    exact (hnext.pushControl rfl (by decide)).close
  · have htold : told (history ++ [⟨.graphView, .ok view⟩]) =
        ⟨none, (told history).endpoints ++ view.endpoints.zipIdx⟩ := by
      rw [told_append]
      show Told.mk _ ((told history).endpoints ++ (told history).shown view) = _
      rw [Told.shown, h.opened]
    have hnext : t.Tells none (history ++ [⟨.graphView, .ok view⟩]) := h.append rfl
    have hpush : (t.pushControl (graphSnapshot config zeroCorrelation generation view)).1.Tells
        none (history ++ [⟨.graphView, .ok view⟩]) := by
      refine hnext.pushShown fun e he => ?_
      obtain ⟨endpoint, hendpoint, rfl⟩ :=
        List.mem_map.mp ((mem_graphEntries_graphSnapshot rfl).mp he)
      obtain ⟨i, hi⟩ := List.mem_iff_getElem?.mp hendpoint
      refine ⟨(endpoint, i), ?_, rfl⟩
      rw [htold]
      exact List.mem_append_right _ (List.mk_mem_zipIdx_iff_getElem?.mpr hi)
    dsimp only
    split
    · next u hu =>
      rw [hu] at hpush
      exact hpush.modify _
    · next u hu =>
      rw [hu] at hpush
      exact hpush

theorem Tells.announces_handleAuthenticate (h : t.Tells none history) (sessionId : ByteArrayOf 32)
    (msg : ControlMessage) : Announces history (t.handleAuthenticate config sessionId msg) := by
  unfold Turn.handleAuthenticate
  dsimp only
  split
  · exact (h.pushControl rfl (by decide)).close
  · split
    · exact h.close
    · next serverHello _ =>
      set decision := authenticate config ((fieldBytes msg 17).getD [])
      have hpush : ((t.modify fun c => { c with subject := decision.subject }).pushControl
          (sessionReady config serverHello ((fieldBytes msg 2).getD zeroCorrelation) sessionId.1
            decision.subject)).1.Tells none history :=
        (h.modify _).pushControl rfl (by decide)
      split
      · next u hu =>
        rw [hu] at hpush
        exact hpush
      · next u hu =>
        rw [hu] at hpush
        exact hpush.announces_pushGraphSnapshot 1

theorem Tells.pushChannelReady (h : t.Tells opened history) (kind : OperationKind)
    (correlation : List UInt8) (channelId : UInt32) (priority : UInt8) (qos : EffectiveQos) :
    (t.pushControl (channelReadyOf config kind correlation channelId priority qos)).1.Tells opened
      history := by
  unfold Turn.channelReadyOf
  split_ifs <;> exact h.pushControl rfl (by decide)

/-- A delta of an endpoint that was told. -/
theorem Tells.pushGraphDelta (h : t.Tells opened history) {endpoint : GraphEndpointInfo} {i : ℕ}
    (hmem : (endpoint, i) ∈ (told history).endpoints) :
    (t.pushGraphDeltaForEndpoint config endpoint).Tells opened history := by
  unfold Turn.pushGraphDeltaForEndpoint
  split
  · exact h
  · next base _ =>
    have hpush : (t.pushControl (graphDelta config zeroCorrelation base (saturatingSucc base)
        [graphDeltaAddEndpoint endpoint config.supportRow])).1.Tells opened history := by
      refine h.pushShown fun e he => ?_
      rw [graphEntries_graphDelta rfl, List.mem_singleton] at he
      exact ⟨_, hmem, he⟩
    dsimp only
    split
    · next u hu =>
      rw [hu] at hpush
      exact hpush.modify _
    · next u hu =>
      rw [hu] at hpush
      exact hpush

/-- The endpoint of a channel is the one that is looked up with its position. -/
theorem mem_shown_of_find {spec : ChannelSpec} {view : GraphView} {endpoint : GraphEndpointInfo}
    (h : view.endpoints.find? spec.names = some endpoint) :
    ∃ i, (view.endpoints.zipIdx.find? fun p => spec.names p.1) = some (endpoint, i) := by
  have hfst : (view.endpoints.zipIdx.find? fun p => spec.names p.1).map Prod.fst =
      some endpoint := by
    have hzip := congrArg (List.find? spec.names) (List.zipIdx_map_fst 0 view.endpoints)
    rw [List.find?_map] at hzip
    exact hzip.trans h
  obtain ⟨⟨e, i⟩, hfind, rfl⟩ := Option.map_eq_some_iff.mp hfst
  exact ⟨i, hfind⟩

/-- **A channel that was created**: its endpoint is shown. -/
theorem Tells.announces_channelCreated {spec : ChannelSpec} (h : t.Tells (some spec) history)
    (correlation : List UInt8) (kind : OperationKind) (priority : UInt8) (entity : EntityId) :
    Announces history (t.channelCreated config correlation kind spec priority entity) := by
  unfold Turn.channelCreated
  dsimp only
  set t' := t.modify fun c =>
    { c with
      channels := c.channels.set spec.channelId
        ⟨kind, entity, runtimeReliable kind spec.qos, spec.qos.transientLocal, priority, 0, 0,
          ∅, ∅⟩ }
  have hpush : (t'.pushControl (channelReadyOf config kind correlation spec.channelId priority
      spec.qos)).1.Tells (some spec) history :=
    Tells.pushChannelReady (h.modify _) kind correlation spec.channelId priority spec.qos
  split
  · next u hu =>
    rw [hu] at hpush
    split
    · next runtime _ =>
      have hdestroy : (BackendOp.destroy runtime.entity).plain = true := rfl
      exact ⟨trivial, fun answer _ => (hpush.plain hdestroy answer).modify _⟩
    · next hnone =>
      -- a message that was not sent leaves the channel in the table
      rcases pushControl_cases t' (channelReadyOf config kind correlation spec.channelId priority
        spec.qos) with ⟨-, hgives⟩ | ⟨_, _, _, _, _, _, _, heq, -⟩
      · rw [hu] at hgives
        rw [hgives.conn] at hnone
        have hset : t'.conn.channels.find? spec.channelId = some _ := Table.find?_set_self _ _ _
        rw [hset] at hnone
        cases hnone
      · rw [hu] at heq
        cases (Prod.mk.inj heq).2
  · next u hu =>
    rw [hu] at hpush
    refine ⟨trivial, fun answer _ => ?_⟩
    rcases answer with err | view
    · exact hpush.append rfl
    · have htold : told (history ++ [⟨.graphView, .ok view⟩]) = ⟨none, (told history).endpoints ++
          (view.endpoints.zipIdx.find? fun p => spec.names p.1).toList⟩ := by
        rw [told_append]
        show Told.mk _ ((told history).endpoints ++ (told history).shown view) = _
        rw [Told.shown, h.opened]
      have hnext : u.Tells none (history ++ [⟨.graphView, .ok view⟩]) := hpush.append rfl
      dsimp only
      split
      · next endpoint hfind =>
        obtain ⟨i, hi⟩ := mem_shown_of_find hfind
        refine hnext.pushGraphDelta (i := i) ?_
        rw [htold, hi]
        exact List.mem_append_right _ (List.mem_singleton.mpr rfl)
      · exact hnext

/-- The answer to an OpenChannel whose entity could not be created. -/
theorem Tells.pushCreateFailed (h : t.Tells none history) {event : BackendEvent}
    (hopened : ((told history).next event).opened = none) (correlation : List UInt8)
    (channelId : UInt32) (code : UInt8) (message : String) :
    (t.pushControl (channelReadyError correlation channelId code message)).1.Tells none
      (history ++ [event]) :=
  (h.append hopened).pushControl rfl (by decide)

theorem Tells.announces_openChannel (h : t.Tells none history) (channelId : UInt32)
    (msg : ControlMessage) : Announces history (t.openChannel config channelId msg) := by
  unfold Turn.openChannel
  dsimp only
  split
  · exact h.close
  · split
    · exact h.pushControl rfl (by decide)
    · split_ifs
      · exact h.pushControl rfl (by decide)
      · refine ⟨trivial, fun answer _ => ?_⟩
        rcases answer with err | entity
        · exact h.pushCreateFailed rfl _ _ _ _
        · exact Tells.announces_channelCreated (h.append rfl) _ _ _ entity

theorem Tells.announces_handleCloseChannel (h : t.Tells none history) (effects : SessionEffects) :
    Announces history (t.handleCloseChannel effects) := by
  unfold Turn.handleCloseChannel
  split
  · exact h
  · split
    · exact h
    · exact h.await rfl fun _ _ h => h.modify _

theorem Tells.announces_handleControl (h : t.Tells none history) (sessionId : ByteArrayOf 32)
    (msg : ControlMessage) (effects : SessionEffects) :
    Announces history (t.handleControl config sessionId msg effects) := by
  refine Turn.handleControl_cases (h.announces_handleAuthenticate sessionId msg)
    (fun _ => h.announces_openChannel _ msg) (h.announces_handleCloseChannel effects)
    (fun _ => ?_) h.close h
  exact (h.modify _).pushControl rfl (by decide)

theorem Tells.announces_reportFailure (h : t.Tells none history) (channelId : UInt32)
    (answer : Except BackendError Unit) :
    Announces history (t.reportFailure channelId answer) := by
  unfold Turn.reportFailure
  split
  · exact h
  · exact h.pushChannelError _ _

theorem Tells.announces_replyOperation (h : t.Tells none history) (channelId : UInt32)
    {opcode : UInt8} (hopcode : opcode ≠ opcodeControlCbor) (opid : OperationId)
    (answer : Except BackendError (List UInt8)) :
    Announces history (t.replyOperation channelId opcode opid answer) := by
  unfold Turn.replyOperation
  split
  · exact h.pushChannelError _ _
  · split
    · exact h
    · exact h.pushOperation _ _ hopcode _ _

theorem Tells.announces_handlePublishSample (h : t.Tells none history) (frame : DecodedFrame)
    (inbound : List UInt8) : Announces history (t.handlePublishSample frame inbound) := by
  unfold Turn.handlePublishSample
  split
  · exact h.close
  · split_ifs
    · exact h.failSession _
    · exact h.failSession _
    · split
      · exact h.failSession _
      · exact h
      · dsimp only
        split
        · exact (h.modify _).close
        · exact (h.modify _).await rfl fun answer _ h => h.announces_reportFailure _ answer

theorem Tells.announces_serviceTask (h : t.Tells none history) (runtime : ChannelRuntime)
    (frame : DecodedFrame) (opid : OperationId) (payload : List UInt8) :
    Announces history (t.serviceTask runtime frame opid payload) := by
  unfold Turn.serviceTask
  split_ifs
  · exact h.await rfl fun answer _ h =>
      h.announces_replyOperation _ (by decide) opid answer
  · exact h.await rfl fun answer _ h => h.announces_reportFailure _ answer
  · exact h

theorem Tells.announces_actionTask (h : t.Tells none history) (runtime : ChannelRuntime)
    (frame : DecodedFrame) (opid : OperationId) (payload : List UInt8) :
    Announces history (t.actionTask runtime frame opid payload) := by
  unfold Turn.actionTask
  split_ifs
  · exact h.await rfl fun answer _ h =>
      h.announces_replyOperation _ (by decide) opid answer
  · exact h.await rfl fun answer _ h => h.announces_reportFailure _ answer
  · exact h.await rfl fun answer _ h => h.announces_reportFailure _ answer
  · exact h.await rfl fun answer _ h => h.announces_reportFailure _ answer
  · exact h.await rfl fun answer _ h => h.announces_reportFailure _ answer
  · exact h

theorem Tells.announces_handleOperation (h : t.Tells none history)
    {task : Turn → ChannelRuntime → DecodedFrame → OperationId → List UInt8 → Task Turn}
    {frame : DecodedFrame}
    (htask : ∀ (u : Turn) runtime opid payload, u.Tells none history →
      Announces history (task u runtime frame opid payload)) (inbound : List UInt8) :
    Announces history (handleOperation task t frame inbound) := by
  unfold Turn.handleOperation
  split
  · exact h.close
  · split
    · exact h.failSession _
    · split
      · exact h.failSession _
      · dsimp only
        split
        · exact (h.modify _).close
        · exact htask _ _ _ _ (h.modify _)

theorem Tells.announces_dispatch (h : t.Tells none history) (sessionId : ByteArrayOf 32)
    (frame : DecodedFrame) (inbound : List UInt8) (effects : SessionEffects) :
    Announces history (t.dispatch config sessionId frame inbound effects) := by
  unfold Turn.dispatch
  split
  · split
    · exact h.failSession _
    · dsimp only
      split
      · exact Tells.announces_handleControl (h.modify _) sessionId _ effects
      · exact (h.modify _).close
  · split
    · exact h.announces_handlePublishSample frame inbound
    · split
      · exact h.announces_handleOperation
          (fun _ _ _ _ hu => hu.announces_serviceTask _ _ _ _) inbound
      · split
        · exact h.announces_handleOperation
            (fun _ _ _ _ hu => hu.announces_actionTask _ _ _ _) inbound
        · exact h

end Turn

/-- **Every handler tells what the backend told.** -/
theorem ConnState.announces_handleInbound {config : GatewayConfig jwt} {active : ActiveTransport}
    {history : List BackendEvent} (hopened : (told history).opened = none)
    (sessionId : ByteArrayOf 32) (conn : ConnState) (bytes : List UInt8) :
    Turn.Announces history (conn.handleInbound config active sessionId bytes) := by
  have hnone : (Turn.mk conn {}).Tells none history := ⟨fun b hb => (by cases hb), hopened⟩
  unfold ConnState.handleInbound
  split_ifs
  · exact hnone.close
  · exact hnone.handleBootstrap bytes
  · unfold Turn.handleFrame
    split
    · exact hnone.failSession _
    · split
      · exact hnone.failSession _
      · exact Turn.Tells.announces_dispatch (hnone.modify _) sessionId _ bytes _

theorem ConnState.tells_pushInbound {history : List BackendEvent}
    (hopened : (told history).opened = none) (conn : ConnState) (kind : OperationKind)
    (channelId : UInt32) {opcode : UInt8} (hopcode : opcode ≠ opcodeControlCbor)
    (opid : OperationId) (frameBuf : List UInt8) :
    (conn.pushInbound kind channelId opcode opid frameBuf).Tells none history := by
  have hnone : (Turn.mk conn {}).Tells none history := ⟨fun b hb => (by cases hb), hopened⟩
  unfold pushInbound
  split
  · exact hnone
  · split_ifs
    · exact hnone
    · exact hnone.pushOperation _ _ hopcode _ _

/-! ## Runs -/

namespace Loop

variable {config : GatewayConfig jwt} {active : ActiveTransport} {l m : Loop} {label : Label}

/-- **The graph messages of a run**: what was sent shows what was told, and a handler that is
running does so too. -/
structure Tells (l : Loop) : Prop where
  sent : ∀ b ∈ l.sent, Shows l.history b
  fits : l.writeQueue.Fits
  selecting : l.phase = .selecting → (told l.history).opened = none
  handling : ∀ task, l.phase = .handling task → Turn.Announces l.history task

theorem tells_initial (config : GatewayConfig jwt) : (Loop.initial config).Tells where
  sent b hb := by cases hb
  fits f hf := by cases hf
  selecting _ := rfl
  handling task hphase := by cases hphase

namespace Tells

variable (h : l.Tells)
include h

theorem shows_append {new : List (List UInt8)} (hnew : ∀ b ∈ new, Shows l.history b) :
    ∀ b ∈ l.sent ++ new, Shows l.history b := fun b hb =>
  (List.mem_append.mp hb).elim (h.sent b) (hnew b)

omit h in
/-- Samples show no endpoint. -/
theorem shows_waiting {queue : SampleWriteQueue} (hfits : queue.Fits) :
    ∀ b ∈ queue.items.map (·.bytes), Shows l.history b := by
  intro b hb
  obtain ⟨f, hf, rfl⟩ := List.mem_map.mp hb
  exact shows_of_quiet (sentEntries_sample (hfits f hf).1)

theorem sendFailed {conn : ConnState} {messages : List (List UInt8)}
    (hmessages : ∀ b ∈ messages, Shows l.history b) (n : ℕ) :
    (l.sendFailed conn messages n).Tells where
  sent := h.shows_append fun b hb => hmessages b (List.mem_of_mem_take hb)
  fits := h.fits
  selecting hphase := by cases hphase
  handling task hphase := by cases hphase

theorem finish {t : Turn} (htells : t.Tells none l.history) : (l.finish t).Tells := by
  have hsent := h.shows_append htells.shows
  unfold Loop.finish
  dsimp only
  split_ifs
  · exact ⟨hsent, h.fits, fun hphase => (by cases hphase), fun task hphase => by cases hphase⟩
  · exact ⟨hsent, h.fits, fun _ => htells.opened, fun task hphase => by cases hphase⟩

theorem flush (hphase : ∀ task, l.phase ≠ .handling task) : l.flush.Tells where
  sent := h.shows_append (shows_waiting h.fits)
  fits f hf := by cases hf
  selecting := h.selecting
  handling task htask := absurd htask (hphase task)

/-- **Every step keeps the account of the graph messages.** -/
theorem step (hstep : Step config active l label m) : m.Tells := by
  cases hstep with
  | arrive | offerSample | offerRequest | offerAction =>
    exact ⟨h.sent, h.fits, h.selecting, h.handling⟩
  | recv bytes rest sessionId hphase _ =>
    refine ⟨h.sent, h.fits, fun hphase => (by cases hphase), fun task htask => ?_⟩
    obtain rfl := Phase.handling.inj htask
    exact l.conn.announces_handleInbound (h.selecting hphase) sessionId bytes
  | recvEnd hphase =>
    exact ⟨h.sent, h.fits, fun hphase => (by cases hphase), fun task hphase => by cases hphase⟩
  | answer op next answer hphase =>
    refine ⟨fun b hb => (h.sent b hb).append _, h.fits, fun hphase => (by cases hphase),
      fun task htask => ?_⟩
    obtain rfl := Phase.handling.inj htask
    exact (h.handling _ hphase).2 answer trivial
  | finish t hphase =>
    have hfinish := h.finish (h.handling _ hphase)
    unfold Loop.finishInbound
    split_ifs with hclose
    · exact hfinish
    · refine hfinish.flush fun task htask => ?_
      unfold Loop.finish at htask
      rw [if_neg hclose] at htask
      cases htask
  | finishFailed t n hphase =>
    have htells : t.Tells none l.history := h.handling _ hphase
    refine h.sendFailed (fun b hb => ?_) n
    rcases List.mem_append.mp hb with hb | hb
    · exact htells.shows b hb
    · split_ifs at hb
      · cases hb
      · exact shows_waiting h.fits b hb
  | sample sample rest conn queue hphase _ hadmitted =>
    obtain ⟨hfits, -⟩ := h.fits.admitSample hadmitted
    have hnext : ({ l with samples := rest, conn := conn, writeQueue := queue } : Loop).Tells :=
      ⟨h.sent, hfits, h.selecting, h.handling⟩
    refine hnext.flush fun task htask => ?_
    rw [hphase] at htask
    cases htask
  | sampleFailed sample rest conn queue n hphase _ hadmitted =>
    obtain ⟨hfits, -⟩ := h.fits.admitSample hadmitted
    have hnext : ({ l with samples := rest, writeQueue := queue } : Loop).Tells :=
      ⟨h.sent, hfits, h.selecting, h.handling⟩
    exact hnext.sendFailed (shows_waiting hfits) n
  | request request rest hphase _ =>
    have hnext : ({ l with requests := rest } : Loop).Tells :=
      ⟨h.sent, h.fits, h.selecting, h.handling⟩
    exact hnext.finish (l.conn.tells_pushInbound (h.selecting hphase) _ _ (by decide) _ _)
  | requestFailed request rest n hphase _ =>
    have hnext : ({ l with requests := rest } : Loop).Tells :=
      ⟨h.sent, h.fits, h.selecting, h.handling⟩
    exact hnext.sendFailed
      (l.conn.tells_pushInbound (h.selecting hphase) _ _ (by decide) _ _).shows n
  | action action rest hphase _ =>
    have hnext : ({ l with actions := rest } : Loop).Tells :=
      ⟨h.sent, h.fits, h.selecting, h.handling⟩
    exact hnext.finish (l.conn.tells_pushInbound (h.selecting hphase) _ _ (by split <;> decide) _ _)
  | actionFailed action rest n hphase _ =>
    have hnext : ({ l with actions := rest } : Loop).Tells :=
      ⟨h.sent, h.fits, h.selecting, h.handling⟩
    exact hnext.sendFailed
      (l.conn.tells_pushInbound (h.selecting hphase) _ _ (by split <;> decide) _ _).shows n
  | destroyed op next answer hphase =>
    exact ⟨fun b hb => (h.sent b hb).append _, h.fits, fun hphase => (by cases hphase),
      fun task hphase => by cases hphase⟩
  | tornDown hphase =>
    exact ⟨h.sent, h.fits, fun hphase => (by cases hphase), fun task hphase => by cases hphase⟩

end Tells
end Loop

/-- **Whatever a connection has sent shows what the backend told.** -/
theorem shows_of_reachable {config : GatewayConfig jwt} {active : ActiveTransport} {l : Loop}
    (h : Reachable config active l) : ∀ b ∈ l.sent, Shows l.history b := by
  have htells : l.Tells := by
    induction h with
    | refl => exact Loop.tells_initial config
    | tail _ hstep ih =>
      obtain ⟨label, hstep⟩ := hstep
      exact ih.step hstep
  exact htells.sent

end Gateway
end Rclweb
