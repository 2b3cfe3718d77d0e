import Rclweb.Gateway.Steady

/-!
# The contracts of the handlers

Each handler is a program over the backend.  `May` says what has to be so whenever it hands the
backend an operation: an entity is created only for an authenticated subject the policy admits,
and used or destroyed only while it is live, for a message on its own channel.  `Meets` says that
a handler does so and returns a good turn, however the backend answers.

There is one contract for each handler, and `meets_handleInbound` for a whole message.
-/

namespace Rclweb

open Rclweb.Frame Control Transition

namespace Gateway

variable {jwt : JwtLibrary}

/-- **An entity of a kind may be created for a name**: an Authenticate was allowed, its
SessionReady was sent, and the policy admits its subject. -/
def Mediated (config : GatewayConfig jwt) (received sent : List (List UInt8))
    (kind : OperationKind) (topic : String) : Prop :=
  ∃ subject, (∃ b ∈ received, Allows config subject b) ∧ (∃ b ∈ sent, IsSessionReady b) ∧
    aclAdmits config subject kind topic = true

/-- **What has to be so when an operation is handed to the backend** while `bytes` is handled. -/
structure May (config : GatewayConfig jwt) (received sent : List (List UInt8))
    (bytes : List UInt8) (history : List BackendEvent) (op : BackendOp) : Prop where
  mediated : ∀ kind spec, op = .create kind spec → Mediated config received sent kind spec.topic
  live : ∀ entity ∈ op.entity?, destroyed entity history < created entity history
  owned : ∀ entity ∈ op.entity?, ∀ kind ∈ op.kind?, ∃ frame spec,
    parseFrame bytes defaultOptions = .ok frame ∧ spec.channelId = frame.channelId ∧
      creation kind spec entity ∈ history

/-- **A handler meets its contract.** -/
abbrev Meets (config : GatewayConfig jwt) (received sent : List (List UInt8))
    (bytes : List UInt8) (fixed : Option String) (history : List BackendEvent)
    (task : Task Turn) : Prop :=
  Program.Ensures (fun _ _ => True) (May config received sent bytes)
    (fun history t => t.Good config received sent none fixed history) history task

/-- An operation on an entity neither creates nor destroys one. -/
theorem BackendOp.quiet_of_kind? {op : BackendOp} {kind : OperationKind} (h : op.kind? = some kind)
    (answer : op.Answer) :
    createdEntity ⟨op, answer⟩ = none ∧ destroyedEntity ⟨op, answer⟩ = none := by
  cases op <;> first | exact ⟨rfl, rfl⟩ | cases h

namespace Turn

variable {config : GatewayConfig jwt} {received sent : List (List UInt8)} {bytes : List UInt8}
  {fixed : Option String} {history : List BackendEvent} {t : Turn} {frame : DecodedFrame}

/-! ## Steps -/

/-- Asking for the graph. -/
theorem Good.meets_graphView {opening : Option UInt32}
    (h : t.Good config received sent opening fixed history)
    {next : BackendOp.Answer .graphView → Task Turn}
    (hnext : ∀ answer history', t.Good config received sent opening fixed history' →
      Meets config received sent bytes fixed history' (next answer)) :
    Meets config received sent bytes fixed history (.await .graphView next) := by
  refine ⟨⟨?_, ?_, ?_⟩, fun answer _ => hnext answer _ (h.append rfl rfl)⟩
  · intro kind spec hop
    cases hop
  · intro entity hentity
    cases hentity
  · intro entity hentity
    cases hentity

/-- **Using the entity of the channel a message is on.** -/
theorem Good.meets_use (h : t.Good config received sent none fixed history)
    (hparse : parseFrame bytes defaultOptions = .ok frame) {runtime : ChannelRuntime}
    (hfind : t.conn.channels.find? frame.channelId = some runtime) {op : BackendOp}
    (hentity : op.entity? = some runtime.entity) (hkind : op.kind? = some runtime.kind)
    {next : op.Answer → Task Turn}
    (hnext : ∀ answer history', t.Good config received sent none fixed history' →
      Meets config received sent bytes fixed history' (next answer)) :
    Meets config received sent bytes fixed history (.await op next) := by
  refine ⟨⟨?_, ?_, ?_⟩, fun answer _ => ?_⟩
  · rintro kind spec rfl
    cases hentity
  · intro entity he
    rw [hentity] at he
    obtain rfl := Option.some.inj he
    exact h.held.live hfind
  · intro entity he kind hk
    rw [hentity] at he
    rw [hkind] at hk
    obtain rfl := Option.some.inj he
    obtain rfl := Option.some.inj hk
    obtain ⟨spec, hspec, hmem⟩ := h.held.origin _ runtime hfind
    exact ⟨frame, spec, hparse, hspec, hmem⟩
  · obtain ⟨hcreated, hdestroyed⟩ := BackendOp.quiet_of_kind? hkind answer
    exact hnext answer _ (h.append hcreated hdestroyed)

/-- A failure of the backend is reported on the channel. -/
theorem Good.meets_reportFailure (h : t.Good config received sent none fixed history)
    (channelId : UInt32) (answer : Except BackendError Unit) :
    Meets config received sent bytes fixed history (t.reportFailure channelId answer) := by
  unfold Turn.reportFailure
  split
  · exact h
  · exact h.keeps (keeps_pushChannelError t channelId _)

/-! ## Application frames -/

theorem Good.meets_handlePublishSample (h : t.Good config received sent none fixed history)
    (hparse : parseFrame bytes defaultOptions = .ok frame)
    (hkind : ∀ runtime, t.conn.channels.find? frame.channelId = some runtime →
      runtime.kind = .topicPublish) :
    Meets config received sent bytes fixed history (t.handlePublishSample frame bytes) := by
  unfold Turn.handlePublishSample
  split
  · exact h.keeps (keeps_close t)
  · next runtime hfind =>
    split_ifs
    · exact h.keeps (keeps_failSession t _)
    · exact h.keeps (keeps_failSession t _)
    · split
      · exact h.keeps (keeps_failSession t _)
      · exact h
      · next runtime' hadmitted =>
        have hstem : runtime'.stem = runtime.stem := by
          unfold admitSampleIn at hadmitted
          split_ifs at hadmitted
          · obtain rfl := Option.some.inj (Option.some.inj hadmitted)
            rfl
          · obtain rfl := Option.some.inj (Option.some.inj hadmitted)
            rfl
          · cases hadmitted
        have hgood := h.keeps (keeps_setRuntime hfind hstem)
        have hkind' : runtime'.kind = .topicPublish := by
          rw [show runtime'.kind = runtime.kind from congrArg Prod.fst hstem, hkind runtime hfind]
        dsimp only
        split
        · exact hgood.keeps (keeps_close _)
        · exact hgood.meets_use hparse (Table.find?_set_self _ _ _) rfl (by rw [hkind']; rfl)
            fun answer _ hgood => hgood.meets_reportFailure _ answer

/-- The reply to a request, or the report of its failure. -/
theorem Good.meets_replyOperation (h : t.Good config received sent none fixed history)
    (channelId : UInt32) {opcode : UInt8} (hopcode : opcode ∉ [opcodeControlCbor, opcodeRosSample])
    (opid : OperationId) (answer : Except BackendError (List UInt8)) :
    Meets config received sent bytes fixed history
      (t.replyOperation channelId opcode opid answer) := by
  unfold Turn.replyOperation
  split
  · exact h.keeps (keeps_pushChannelError t channelId _)
  · split
    · exact h
    · next hfind => exact h.keeps (keeps_pushOperation hfind hopcode opid _)

theorem Good.meets_serviceTask (h : t.Good config received sent none fixed history)
    (hparse : parseFrame bytes defaultOptions = .ok frame) {runtime : ChannelRuntime}
    (hfind : t.conn.channels.find? frame.channelId = some runtime) (opid : OperationId)
    (payload : List UInt8) :
    Meets config received sent bytes fixed history (t.serviceTask runtime frame opid payload) := by
  unfold Turn.serviceTask
  split_ifs with hcall hresponse
  · exact h.meets_use hparse hfind rfl (by rw [hcall.1]; rfl)
      fun answer _ hgood => hgood.meets_replyOperation _ (by decide) opid answer
  · exact h.meets_use hparse hfind rfl (by rw [hresponse.1]; rfl)
      fun answer _ hgood => hgood.meets_reportFailure _ answer
  · exact h

theorem Good.meets_actionTask (h : t.Good config received sent none fixed history)
    (hparse : parseFrame bytes defaultOptions = .ok frame) {runtime : ChannelRuntime}
    (hfind : t.conn.channels.find? frame.channelId = some runtime) (opid : OperationId)
    (payload : List UInt8) :
    Meets config received sent bytes fixed history (t.actionTask runtime frame opid payload) := by
  unfold Turn.actionTask
  split_ifs with hgoal hcancel hfeedback hresult hstatus
  · exact h.meets_use hparse hfind rfl (by rw [hgoal.1]; rfl)
      fun answer _ hgood => hgood.meets_replyOperation _ (by decide) opid answer
  · exact h.meets_use hparse hfind rfl (by rw [hcancel.1]; rfl)
      fun answer _ hgood => hgood.meets_reportFailure _ answer
  · exact h.meets_use hparse hfind rfl (by rw [hfeedback.1]; rfl)
      fun answer _ hgood => hgood.meets_reportFailure _ answer
  · exact h.meets_use hparse hfind rfl (by rw [hresult.1]; rfl)
      fun answer _ hgood => hgood.meets_reportFailure _ answer
  · exact h.meets_use hparse hfind rfl (by rw [hstatus.1]; rfl)
      fun answer _ hgood => hgood.meets_reportFailure _ answer
  · exact h

/-- The gates service and action frames share. -/
theorem Good.meets_handleOperation (h : t.Good config received sent none fixed history)
    {task : Turn → ChannelRuntime → DecodedFrame → OperationId → List UInt8 → Task Turn}
    (htask : ∀ (u : Turn) runtime opid payload,
      u.Good config received sent none fixed history →
      u.conn.channels.find? frame.channelId = some runtime →
      Meets config received sent bytes fixed history (task u runtime frame opid payload)) :
    Meets config received sent bytes fixed history (handleOperation task t frame bytes) := by
  unfold Turn.handleOperation
  split
  · exact h.keeps (keeps_close t)
  · next runtime hfind =>
    split
    · exact h.keeps (keeps_failSession t _)
    · next opid _ =>
      split
      · exact h.keeps (keeps_failSession t _)
      · next runtime' hadmitted =>
        have hstem : runtime'.stem = runtime.stem := by
          unfold admitOpSeqIn at hadmitted
          dsimp only at hadmitted
          split_ifs at hadmitted
          obtain rfl := Option.some.inj hadmitted
          rfl
        have hgood := h.keeps (keeps_setRuntime hfind hstem)
        dsimp only
        split
        · exact hgood.keeps (keeps_close _)
        · exact htask _ runtime' opid _ hgood (Table.find?_set_self _ _ _)

/-! ## Opening a channel -/

/-- **An OpenChannel was accepted and is not answered yet.** -/
structure Opening (config : GatewayConfig jwt) (received sent : List (List UInt8))
    (fixed : Option String) (history : List BackendEvent) (id : UInt32) (kind : OperationKind)
    (t : Turn) : Prop where
  held : Held history t.conn
  subject : ∀ s ∈ fixed, t.conn.subject = s
  steady : Steady config received sent (some id) t.conn
  pending : t.conn.view.channel id = some (.pending, kind)
  ready : t.conn.session.phase = .ready
  ne_zero : id ≠ 0
  outbound : t.outcome.outbound = []

theorem Opening.unsampled {id : UInt32} {kind : OperationKind}
    (h : Opening config received sent fixed history id kind t) :
    ∀ b ∈ t.outcome.outbound, ¬ IsSample b := by
  intro b hb
  rw [h.outbound] at hb
  cases hb

variable {id : UInt32} {kind : OperationKind}

/-- An operation that neither creates nor destroys. -/
theorem Opening.append (h : Opening config received sent fixed history id kind t)
    {event : BackendEvent} (hcreated : createdEntity event = none)
    (hdestroyed : destroyedEntity event = none) :
    Opening config received sent fixed (history ++ [event]) id kind t :=
  { h with held := h.held.append hcreated hdestroyed }

/-- A new session in which the pending channel became something else. -/
theorem Opening.settled (h : Opening config received sent fixed history id kind t)
    {conn : ConnState} {state : ChannelState} (hstate : state ≠ .pending)
    (hview : conn.view = t.conn.view.setChannel id (some (state, kind))) (id' : UInt32)
    (hpending : conn.view.Pending id') : (none : Option UInt32) = some id' := by
  rw [hview, View.pending_setChannel] at hpending
  split_ifs at hpending with hid
  · obtain ⟨k, hk⟩ := hpending
    exact absurd (congrArg Prod.fst (Option.some.inj hk)) hstate
  · exact absurd (Option.some.inj (h.steady.settled id' hpending)).symm hid

/-- **An OpenChannel is refused**: the session has the channel failed, the gateway never had
it. -/
theorem Opening.good_refused (h : Opening config received sent fixed history id kind t)
    (correlation : List UInt8) (code : UInt8) (message : String) :
    (t.pushControl (channelReadyError correlation id code message)).1.Good config received sent
      none fixed history := by
  generalize hmessage : channelReadyError correlation id code message = answer
  obtain ⟨raw, rfl, hk, hid, hresult⟩ : ∃ raw, answer = .map raw ∧
      raw.lookup 1 = some (.unsigned 9) ∧ raw.lookup 29 = some (.unsigned id.toUInt64) ∧
      raw.lookup 33 = some (.unsigned 3) := ⟨_, hmessage.symm, rfl, rfl, rfl⟩
  have hpush := pushControl_channelReady (r := .error) raw h.steady.server h.pending hk hid hresult
    (by decide) rfl
  rcases hpush with ⟨-, hfail⟩ | ⟨out, session, msg, hpush, hrole, hview, -, -, -, -, hout⟩
  · exact hfail.good h.held h.subject h.unsampled
  · rw [hpush]
    replace hview : session.inner.view = t.conn.view.setChannel id (some (.failed, kind)) := hview
    have hphase : session.inner.phase = .ready := by
      have := congrArg View.phase hview
      exact this.trans h.ready
    refine ⟨⟨h.held.accounted, h.held.origin⟩, h.subject, unsampled_queue h.unsampled hout,
      fun _ => ?_⟩
    have hmono : Steady config received (sent ++ (t.outcome.outbound ++ [out])) (some id) t.conn :=
      h.steady.mono (fun _ hb => hb) (List.subset_append_left _ _)
    refine ⟨hrole, fun id' => ?_, h.settled (by decide) hview,
      fun _ => hmono.authenticated h.ready, fun id' runtime hfind =>
        ⟨hphase, (hmono.open_ready id' runtime hfind).2⟩⟩
    show (t.conn.channels.find? id').map _ = session.inner.view.activeKind id'
    rw [hview, View.activeKind_setChannel]
    split_ifs with hid
    · rw [hid, h.steady.find?_of_pending ⟨kind, h.pending⟩]
      rfl
    · exact h.steady.kinds id'

/-- Whatever the kind, the answer is a ChannelReady for the channel. -/
theorem channelReadyOf_eq (config : GatewayConfig jwt) (kind : OperationKind)
    (correlation : List UInt8) (id : UInt32) (priority : UInt8) (qos : EffectiveQos) :
    ∃ field, channelReadyOf config kind correlation id priority qos =
      channelReady config correlation id priority field := by
  unfold channelReadyOf
  split_ifs
  · exact ⟨_, rfl⟩
  · exact ⟨_, rfl⟩
  · exact ⟨_, rfl⟩

/-- **The entity of a channel is created**: the channel becomes active, or the entity is destroyed
and the connection closes. -/
theorem Opening.meets_channelCreated (h : Opening config received sent fixed history id kind t)
    (correlation : List UInt8) {spec : ChannelSpec} (hspec : spec.channelId = id)
    {priority : UInt8} (hpriority : priority ≤ 4) (entity : EntityId) :
    Meets config received sent bytes fixed (history ++ [creation kind spec entity])
      (t.channelCreated config correlation kind spec priority entity) := by
  subst hspec
  unfold Turn.channelCreated
  dsimp only
  set runtime : ChannelRuntime := ⟨kind, entity, runtimeReliable kind spec.qos,
    spec.qos.transientLocal, priority, 0, 0, ∅, ∅⟩ with hruntime
  set u := t.modify fun c => { c with channels := c.channels.set spec.channelId runtime } with hu
  have hnone := h.steady.find?_of_pending ⟨kind, h.pending⟩
  have hheld : Held (history ++ [creation kind spec entity]) u.conn :=
    h.held.create hnone rfl runtime rfl
  have hfind : u.conn.channels.find? spec.channelId = some runtime := Table.find?_set_self _ _ _
  generalize hmessage :
    channelReadyOf config kind correlation spec.channelId priority spec.qos = message
  obtain ⟨raw, rfl, hk, hid, hresult⟩ : ∃ raw, message = .map raw ∧
      raw.lookup 1 = some (.unsigned 9) ∧
      raw.lookup 29 = some (.unsigned spec.channelId.toUInt64) ∧
      raw.lookup 33 = some (.unsigned 0) := by
    obtain ⟨qos, hqos⟩ :=
      channelReadyOf_eq config kind correlation spec.channelId priority spec.qos
    exact ⟨_, hmessage.symm.trans hqos, rfl, rfl, rfl⟩
  have hpush := pushControl_channelReady (t := u) (r := .allow) raw h.steady.server h.pending hk hid
    hresult (by decide) rfl
  rcases hpush with ⟨hfail, hgives⟩ | ⟨out, session, msg, hpush, hrole, hview, hparse, hmsg, hmsgId,
    hmsgResult, hout⟩
  · -- the answer could not be sent: the entity is destroyed again
    split
    · next w hw =>
      rw [hw] at hgives
      replace hgives : u.GivesUp w := hgives
      rw [hgives.conn, hfind]
      dsimp only
      refine ⟨⟨?_, ?_, ?_⟩, fun answer _ => .of_close ?_ ?_ ?_ hgives.close⟩
      · intro k s hop
        cases hop
      · intro e he
        obtain rfl := Option.some.inj he
        exact hheld.live hfind
      · intro e he k hk
        cases hk
      · exact hheld.remove hfind rfl rfl (by rw [← hgives.conn]; rfl)
      · intro s hs
        show w.conn.subject = s
        rw [hgives.conn]
        exact h.subject s hs
      · show ∀ b ∈ w.outcome.outbound, ¬ IsSample b
        rw [hgives.outbound]
        exact h.unsampled
    · next w hw =>
      rw [hw] at hfail
      cases hfail
  · rw [hpush]
    dsimp only
    replace hview : session.inner.view =
        t.conn.view.setChannel spec.channelId (some (.active, kind)) := hview
    have hphase : session.inner.phase = .ready := (congrArg View.phase hview).trans h.ready
    have hmono : Steady config received (sent ++ (t.outcome.outbound ++ [out]))
        (some spec.channelId) t.conn :=
      h.steady.mono (fun _ hb => hb) (List.subset_append_left _ _)
    obtain ⟨frame, hparse, hpayload⟩ := hparse
    have hgood : ((u.modify fun c =>
        { c with session := session, controlSeqOut := c.controlSeqOut + 1 }).queue out).Good config
          received sent none fixed (history ++ [creation kind spec entity]) := by
      refine ⟨⟨hheld.accounted, hheld.origin⟩, h.subject, unsampled_queue h.unsampled hout,
        fun _ => ?_⟩
      refine ⟨hrole, fun id' => ?_, h.settled (by decide) hview,
        fun _ => hmono.authenticated h.ready, fun id' runtime' hfind' => ?_⟩
      · show ((t.conn.channels.set spec.channelId runtime).find? id').map _ =
          session.inner.view.activeKind id'
        rw [hview, View.activeKind_setChannel, Table.find?_set]
        split_ifs with hid
        · rfl
        · exact h.steady.kinds id'
      · have hfind' : (t.conn.channels.set spec.channelId runtime).find? id' = some runtime' :=
          hfind'
        rw [Table.find?_set] at hfind'
        split_ifs at hfind' with hid
        · obtain rfl := Option.some.inj hfind'
          exact ⟨hphase, hid ▸ h.ne_zero, hpriority, out, by simp [queue, modify], frame, msg, hparse,
            hpayload, hmsg, hid ▸ hmsgId, hmsgResult⟩
        · exact ⟨hphase, (hmono.open_ready id' runtime' hfind').2⟩
    refine hgood.meets_graphView fun answer history' hgood => ?_
    rcases answer with err | view
    · exact hgood
    · dsimp only
      split
      · exact hgood.keeps (keeps_pushGraphDelta _ config _)
      · exact hgood

theorem Opening.meets_openChannel (h : Opening config received sent fixed history id kind t)
    {msg : ControlMessage} (hkind : ∀ k, openKind msg = some k → k = kind)
    (hpriority : ((fieldUint msg 32).getD 2).toUInt8 ≤ 4) :
    Meets config received sent bytes fixed history (t.openChannel config id msg) := by
  unfold Turn.openChannel
  dsimp only
  split
  · exact .of_close h.held h.subject h.unsampled rfl
  · next k hk =>
    obtain rfl := hkind k hk
    split
    · exact h.good_refused _ _ _
    · split_ifs with hadmits
      · exact h.good_refused _ _ _
      · obtain ⟨hallows, hsession⟩ := h.steady.authenticated h.ready
        refine ⟨⟨?_, ?_, ?_⟩, fun answer _ => ?_⟩
        · intro k' spec hop
          obtain ⟨rfl, rfl⟩ := BackendOp.create.inj hop
          exact ⟨t.conn.subject, hallows, hsession, by simpa using hadmits⟩
        · intro e he
          cases he
        · intro e he
          cases he
        · rcases answer with err | entity
          · exact (h.append rfl rfl).good_refused _ _ _
          · exact h.meets_channelCreated _ rfl hpriority entity

/-! ## Closing a channel -/

/-- **A CloseChannel was accepted**: the entity is destroyed, and the channel leaves the table. -/
theorem meets_handleCloseChannel {effects : SessionEffects}
    (hheld : Held history t.conn) (hsubject : ∀ s ∈ fixed, t.conn.subject = s)
    (hunsampled : ∀ b ∈ t.outcome.outbound, ¬ IsSample b)
    (hclosed : effects.channelClosed = some id) {runtime : ChannelRuntime}
    (hfind : t.conn.channels.find? id = some runtime)
    (hsteady : Steady config received (sent ++ t.outcome.outbound) none
      { t.conn with channels := t.conn.channels.remove id }) :
    Meets config received sent bytes fixed history (t.handleCloseChannel effects) := by
  unfold Turn.handleCloseChannel
  rw [hclosed]
  dsimp only
  rw [hfind]
  refine ⟨⟨?_, ?_, ?_⟩, fun answer _ => ⟨?_, hsubject, hunsampled, fun _ => hsteady⟩⟩
  · intro k s hop
    cases hop
  · intro e he
    obtain rfl := Option.some.inj he
    exact hheld.live hfind
  · intro e he k hk
    cases hk
  · exact hheld.remove hfind rfl rfl rfl

/-! ## Authentication -/

theorem Good.meets_pushGraphSnapshot (h : t.Good config received sent none fixed history)
    (generation : UInt64) :
    Meets config received sent bytes fixed history (t.pushGraphSnapshot config generation) := by
  refine h.meets_graphView fun answer history' hgood => ?_
  rcases answer with err | view
  · exact hgood.keeps ((keeps_sessionError t _ _ _).trans (keeps_close _))
  · have hpush := hgood.keeps (keeps_graphSnapshot t config generation view)
    dsimp only
    split
    · next u hu =>
      rw [hu] at hpush
      exact hpush.keeps (keeps_modify rfl rfl rfl)
    · next u hu =>
      rw [hu] at hpush
      exact hpush

/-- **An Authenticate was accepted**: unless it is denied, the subject is fixed and the session
becomes ready. -/
theorem meets_handleAuthenticate (h : t.Good config received sent none none history)
    (hclose : t.outcome.close = false) (hphase : t.conn.session.phase ≠ .ready)
    (hbytes : bytes ∈ received) {msg : ControlMessage}
    (hparse : parseFrame bytes defaultOptions = .ok frame) (hpayload : frame.payload = .control msg)
    (hkind : msg.kind = kindAuthenticate) (sessionId : ByteArrayOf 32) :
    Meets config received sent bytes none history (t.handleAuthenticate config sessionId msg) := by
  have hdecision : authenticate config ((fieldBytes msg 17).getD []) = decision config msg := rfl
  unfold Turn.handleAuthenticate
  simp only [hdecision]
  split_ifs with hdeny
  · exact h.keeps ((keeps_sessionError t _ _ _).trans (keeps_close _))
  · have hallow : (decision config msg).allow = true := by
      rw [Bool.not_eq_true', Bool.not_eq_false] at hdeny
      exact hdeny
    split
    · exact h.keeps (keeps_close t)
    · next serverHello _ =>
      have hsteady := h.steady hclose
      set u := t.modify fun c => { c with subject := (decision config msg).subject } with hu
      have hheld : Held history u.conn := ⟨h.held.accounted, h.held.origin⟩
      generalize hmessage : sessionReady config serverHello
        ((fieldBytes msg 2).getD zeroCorrelation) sessionId.1 (decision config msg).subject = message
      obtain ⟨raw, rfl, hk⟩ : ∃ raw, message = .map raw ∧ raw.lookup 1 = some (.unsigned 2) :=
        ⟨_, hmessage.symm, rfl⟩
      have hpush := pushControl_sessionReady (t := u) raw hsteady.server hk
      rcases hpush with ⟨hfail, hgives⟩ | ⟨out, session, reply, hpush, hrole, hview, hreply,
        hreplyKind, hout⟩
      · split
        · next w hw =>
          rw [hw] at hgives
          replace hgives : u.GivesUp w := hgives
          refine hgives.good hheld ?_ h.unsampled
          intro s hs
          cases hs
        · next w hw =>
          rw [hw] at hfail
          cases hfail
      · rw [hpush]
        dsimp only
        have hgood : ((u.modify fun c =>
            { c with session := session, controlSeqOut := c.controlSeqOut + 1 }).queue out).Good
              config received sent none none history := by
          refine ⟨⟨hheld.accounted, hheld.origin⟩, ?_, unsampled_queue h.unsampled hout,
            fun _ => ?_⟩
          · intro s hs
            cases hs
          refine ⟨hrole, fun id' => ?_, fun id' hp => hsteady.settled id' ?_, fun _ => ?_,
            fun id' runtime hfind => ?_⟩
          · show (t.conn.channels.find? id').map _ = session.inner.view.activeKind id'
            rw [hview]
            exact hsteady.kinds id'
          · have hp : session.inner.view.Pending id' := hp
            rw [hview] at hp
            exact hp
          · obtain ⟨rframe, hrparse, hrpayload⟩ := hreply
            exact ⟨⟨bytes, hbytes, frame, msg, hparse, hpayload, hkind, hallow, rfl⟩, out,
              by simp [queue, modify], rframe, reply, hrparse, hrpayload, hreplyKind⟩
          · exact absurd (hsteady.open_ready id' runtime hfind).1 hphase
        exact hgood.meets_pushGraphSnapshot 1

/-! ## Whole messages -/

theorem failSession_close (t : Turn) (err : ProtocolError) :
    (t.failSession err).outcome.close = true := by
  unfold Turn.failSession
  split_ifs <;> rfl

/-- A session that fails need not agree with the gateway. -/
theorem good_failSession (hheld : Held history t.conn) (hsubject : ∀ s ∈ fixed, t.conn.subject = s)
    (hunsampled : ∀ b ∈ t.outcome.outbound, ¬ IsSample b) (err : ProtocolError) :
    (t.failSession err).Good config received sent none fixed history :=
  have hkeeps := keeps_failSession t err
  .of_close (hkeeps.held_iff hheld) (fun s hs => hkeeps.subject.trans (hsubject s hs))
    (hkeeps.unsampled hunsampled) (failSession_close t err)

/-- **The state in which a message is taken.** -/
structure Taken (config : GatewayConfig jwt) (received sent : List (List UInt8))
    (fixed : Option String) (history : List BackendEvent) (bytes : List UInt8) (conn : ConnState) :
    Prop where
  held : Held history conn
  steady : Steady config received sent none conn
  fixed : ∀ s ∈ fixed, conn.subject = s ∧ conn.session.phase = .ready
  received : bytes ∈ received

variable {conn : ConnState} {session : Session} {effects : SessionEffects}

theorem Taken.good (h : Taken config received sent fixed history bytes conn) :
    (Turn.mk conn {}).Good config received sent none fixed history :=
  ⟨h.held, fun s hs => (h.fixed s hs).1, fun b hb => (by cases hb),
    fun _ => by simpa using h.steady⟩

/-- A quiet message keeps the channels. -/
theorem Taken.keeps (h : Taken config received sent fixed history bytes conn)
    (hingest : conn.session.ingestFrame frame = (.ok effects, session))
    (hquiet : (Act.ofFrame .client frame).quiet = true) {u : Turn} (hu : u.outcome = {})
    (hsession : u.conn.session = session) (hchannels : u.conn.channels = conn.channels)
    (hsubject : u.conn.subject = conn.subject) : (Turn.mk conn {}).Keeps u where
  runtime id := by rw [hchannels]
  held entity := by rw [ConnState.held, hchannels]; rfl
  subject := hsubject
  server _ := by
    obtain ⟨hserver, hstep⟩ := Session.ingestFrame_ok h.steady.server hingest
    show u.conn.session.inner.role = _ ∧ conn.view.Quiet u.conn.session.inner.view
    rw [hsession]
    exact ⟨hserver, View.step_quiet hquiet hstep⟩
  outbound := List.nil_prefix
  close hclose := by cases hclose
  unsampled _ b hb := by
    rw [hu] at hb
    cases hb

/-- An accepted OpenChannel is being answered. -/
theorem Taken.opening (h : Taken config received sent fixed history bytes conn)
    (hingest : conn.session.ingestFrame frame = (.ok effects, session)) {msg : ControlMessage}
    (hopcode : frame.opcode = opcodeControlCbor) (hpayload : frame.payload = .control msg)
    (hkind : msg.kind = kindOpenChannel) {u : Turn} (hu : u.outcome = {})
    (hsession : u.conn.session = session) (hchannels : u.conn.channels = conn.channels)
    (hsubject : u.conn.subject = conn.subject) :
    ∃ id kind, effects.channelOpened = some id ∧ (∀ k, openKind msg = some k → k = kind) ∧
      Opening config received sent fixed history id kind u := by
  obtain ⟨hserver, -⟩ := Session.ingestFrame_ok h.steady.server hingest
  obtain ⟨hready, hopen⟩ :=
    applyControl_openChannel hkind (Session.ingestFrame_control hopcode hpayload hingest)
  obtain ⟨id, kind, raw, -, hraw, hkind', hle, hne, hnone, hopened, hview⟩ :=
    applyOpenChannel_ok hopen
  have hphase : session.inner.phase = .ready := (congrArg View.phase hview).trans hready
  refine ⟨id, kind, hopened, fun k hk => ?_, ?_⟩
  · -- both read the kind from the same field
    have hget : msg.get 30 = some (.unsigned raw) ∨ ∃ v, msg.get 30 = some (.negative v) := by
      rw [Transition.fieldUint] at hraw
      split at hraw
      · next v hv => exact .inl (by rw [← Option.some.inj hraw]; exact hv)
      · next v hv => exact .inr ⟨v, hv⟩
      · cases hraw
    rcases hget with hget | ⟨v, hget⟩
    · unfold openKind Gateway.fieldUint at hk
      rw [hget] at hk
      dsimp only at hk
      split at hk <;> simp_all [OperationKind.fromU8]
    · unfold openKind Gateway.fieldUint at hk
      rw [hget] at hk
      cases hk
  · have hpending : session.inner.view.channel id = some (.pending, kind) := by
      rw [hview, View.setChannel_channel, if_pos rfl]
    refine ⟨⟨fun e => ?_, fun id' runtime hfind => ?_⟩, fun s hs => ?_, ?_, ?_, ?_, hne, by rw [hu]⟩
    · rw [ConnState.held, hchannels]
      exact h.held.accounted e
    · rw [hchannels] at hfind
      exact h.held.origin id' runtime hfind
    · rw [hsubject]
      exact (h.fixed s hs).1
    · refine ⟨by rw [hsession]; exact hserver, fun id' => ?_, fun id' hp => ?_, fun _ => ?_,
        fun id' runtime hfind => ?_⟩
      · rw [hchannels, ConnState.view, hsession, hview, View.activeKind_setChannel,
          h.steady.kinds id']
        split_ifs with hid
        · rw [hid, View.activeKind, hnone]
        · rfl
      · rw [ConnState.view, hsession, hview, View.pending_setChannel] at hp
        split_ifs at hp with hid
        · rw [hid]
        · cases h.steady.settled id' hp
      · rw [hsubject]
        exact h.steady.authenticated hready
      · rw [hchannels] at hfind
        exact ⟨by rw [hsession]; exact hphase, (h.steady.open_ready id' runtime hfind).2⟩
    · rw [ConnState.view, hsession]
      exact hpending
    · rw [hsession]
      exact hphase

/-- An accepted CloseChannel is carried out. -/
theorem Taken.meets_handleCloseChannel (h : Taken config received sent fixed history bytes conn)
    (hingest : conn.session.ingestFrame frame = (.ok effects, session)) {msg : ControlMessage}
    (hopcode : frame.opcode = opcodeControlCbor) (hpayload : frame.payload = .control msg)
    (hkind : msg.kind = kindCloseChannel) {u : Turn} (hu : u.outcome = {})
    (hsession : u.conn.session = session) (hchannels : u.conn.channels = conn.channels)
    (hsubject : u.conn.subject = conn.subject) :
    Meets config received sent bytes fixed history (u.handleCloseChannel effects) := by
  obtain ⟨hserver, -⟩ := Session.ingestFrame_ok h.steady.server hingest
  have hclose :=
    applyControl_closeChannel hkind (Session.ingestFrame_control hopcode hpayload hingest)
  obtain ⟨id, kind, -, hactive, hclosed, hview⟩ := applyCloseChannel_ok hclose
  have hphase : session.inner.phase = conn.session.phase := congrArg View.phase hview
  obtain ⟨runtime, hfind, -⟩ : ∃ runtime, conn.channels.find? id = some runtime ∧ _ :=
    Option.map_eq_some_iff.mp ((h.steady.kinds id).trans (View.activeKind_eq_some.mpr hactive))
  have hheld : Held history u.conn := by
    refine ⟨fun e => ?_, fun id' runtime hfind => ?_⟩
    · rw [ConnState.held, hchannels]
      exact h.held.accounted e
    · rw [hchannels] at hfind
      exact h.held.origin id' runtime hfind
  refine Turn.meets_handleCloseChannel hheld (fun s hs => ?_) (fun b hb => ?_) hclosed
    (hchannels ▸ hfind) ?_
  · rw [hsubject]
    exact (h.fixed s hs).1
  · rw [hu] at hb
    cases hb
  · rw [hu, List.append_nil]
    refine ⟨by rw [← hsession] at hserver; exact hserver, fun id' => ?_, fun id' hp => ?_,
      fun hready => ?_, fun id' runtime hfind => ?_⟩
    · show ((u.conn.channels.remove id).find? id').map _ =
        u.conn.session.inner.view.activeKind id'
      rw [hchannels, hsession, hview, View.activeKind_setChannel, Table.find?_remove]
      split_ifs with hid
      · rfl
      · exact h.steady.kinds id'
    · have hp : u.conn.session.inner.view.Pending id' := hp
      rw [hsession, hview, View.pending_setChannel] at hp
      split_ifs at hp with hid
      · obtain ⟨k, hk⟩ := hp
        cases hk
      · exact h.steady.settled id' hp
    · have hready : u.conn.session.phase = .ready := hready
      rw [hsession] at hready
      show (∃ b ∈ received, Allows config u.conn.subject b) ∧ _
      rw [hsubject]
      exact h.steady.authenticated (hphase.symm.trans hready)
    · have hfind : (u.conn.channels.remove id).find? id' = some runtime := hfind
      rw [hchannels, Table.find?_remove] at hfind
      split_ifs at hfind with hid
      obtain ⟨hready, hrest⟩ := h.steady.open_ready id' runtime hfind
      refine ⟨?_, hrest⟩
      show u.conn.session.phase = .ready
      rw [hsession]
      exact hphase.trans hready

/-- **A control message meets its contract.** -/
theorem Taken.meets_handleControl (h : Taken config received sent fixed history bytes conn)
    (hparse : parseFrame bytes defaultOptions = .ok frame)
    (hingest : conn.session.ingestFrame frame = (.ok effects, session)) {msg : ControlMessage}
    (hpayload : frame.payload = .control msg) (sessionId : ByteArrayOf 32) {u : Turn}
    (hu : u.outcome = {}) (hsession : u.conn.session = session)
    (hchannels : u.conn.channels = conn.channels) (hsubject : u.conn.subject = conn.subject) :
    Meets config received sent bytes fixed history
      (u.handleControl config sessionId msg effects) := by
  obtain ⟨hopcode, value, hvalue⟩ := valid_of_parse hparse hpayload
  have hact : Act.ofFrame .client frame = Act.ofControl .client msg := by
    rw [Act.ofFrame, if_pos hopcode, hpayload]
  have hgood (hopen : msg.kind ≠ kindOpenChannel) (hclose : msg.kind ≠ kindCloseChannel) :
      u.Good config received sent none fixed history :=
    h.good.keeps (h.keeps hingest (hact ▸ Act.ofControl_client_quiet hopen hclose) hu hsession
      hchannels hsubject)
  unfold Turn.handleControl
  refine iteInduction (fun hauth => ?_) fun _ => iteInduction (fun hopen => ?_) fun hopen =>
    iteInduction (fun hclose => ?_) fun hclose => iteInduction (fun _ => ?_) fun _ =>
      iteInduction (fun _ => ?_) fun _ => hgood hopen hclose
  · -- an Authenticate is accepted before the session is ready only
    have hstep : conn.view.step .authenticate = some session.inner.view := by
      have hauthenticate : Act.ofControl .client msg = .authenticate := by
        have hwrong : wrongSender kindAuthenticate .client = false := by decide
        unfold Act.ofControl
        rw [hauth, hwrong]
        rfl
      rw [← hauthenticate, ← hact]
      exact (Session.ingestFrame_ok h.steady.server hingest).2
    obtain ⟨hbefore, hview⟩ := Option.ite_none_right_eq_some.mp hstep
    have hnone : fixed = none := by
      cases hfixed : fixed with
      | none => rfl
      | some s =>
        have hready : conn.session.phase = .ready := (h.fixed s hfixed).2
        rw [show conn.session.phase = _ from hbefore] at hready
        cases hready
    subst hnone
    refine meets_handleAuthenticate (hgood (by rw [hauth]; decide) (by rw [hauth]; decide))
      (by rw [hu]) ?_ h.received hparse hpayload hauth sessionId
    have hafter : session.inner.phase = .selectedAwaitSessionReady :=
      (congrArg View.phase (Option.some.inj hview)).symm
    rw [hsession]
    show session.inner.phase ≠ .ready
    rw [hafter]
    decide
  · obtain ⟨id, kind, hopened, hkind, hopening⟩ :=
      h.opening hingest hopcode hpayload hopen hu hsession hchannels hsubject
    rw [hopened]
    refine hopening.meets_openChannel hkind ?_
    obtain ⟨raw, rfl, hvalid⟩ := validateOpenChannel_of_ok hvalue hopen
    unfold Gateway.fieldUint
    split
    · next v hv =>
      obtain ⟨n, hn, hle⟩ := priority_of_validateOpenChannel hvalid hv
      obtain rfl := CborValue.unsigned.inj hn
      rw [UInt8.le_iff_toNat_le, Option.getD_some, UInt64.toNat_toUInt8]
      exact (Nat.mod_le _ _).trans hle
    · decide
  · exact h.meets_handleCloseChannel hingest hopcode hpayload hclose hu hsession hchannels hsubject
  · exact (hgood hopen hclose).keeps (keeps_handleHeartbeat u)
  · cases effects.sessionError with
    | false => exact hgood hopen hclose
    | true => exact (hgood hopen hclose).keeps (keeps_close u)

/-- A sample of the client that was accepted is on an active channel to publish on. -/
theorem active_of_ingest {conn : ConnState} (hserver : conn.session.inner.role = .server)
    (hingest : conn.session.ingestFrame frame = (.ok effects, session))
    (hopcode : frame.opcode = opcodeRosSample) :
    conn.view.activeKind frame.channelId = some .topicPublish := by
  obtain ⟨-, hstep⟩ := Session.ingestFrame_ok hserver hingest
  have hact : Act.ofFrame .client frame =
      .ready (.channel frame.channelId (.data .client opcodeRosSample)) := by
    rw [Act.ofFrame, if_neg (by rw [hopcode]; decide), if_pos hopcode]
  rw [hact] at hstep
  obtain ⟨-, hstep⟩ := Option.ite_none_right_eq_some.mp hstep
  obtain ⟨c, hc, -⟩ := Option.map_eq_some_iff.mp hstep
  obtain ⟨kind, hactive, -, -, hsender⟩ := ChannelAct.step_data hc
  rw [View.activeKind_eq_some]
  cases kind with
  | topicPublish => exact hactive
  | topicSubscribe | serviceClient | serviceServer | actionClient | actionServer =>
    exfalso
    revert hsender
    decide

/-- **A frame meets its contract.** -/
theorem Taken.meets_handleFrame (h : Taken config received sent fixed history bytes conn)
    (sessionId : ByteArrayOf 32) :
    Meets config received sent bytes fixed history
      (Turn.handleFrame config sessionId ⟨conn, {}⟩ bytes) := by
  have hsubject : ∀ s ∈ fixed, conn.subject = s := fun s hs => (h.fixed s hs).1
  unfold Turn.handleFrame
  split
  · exact h.good.keeps (keeps_failSession _ _)
  · next frame hparse =>
    split
    · exact h.good.keeps (keeps_failSession _ _)
    · next effects session hingest =>
      set u : Turn := Turn.modify ⟨conn, {}⟩ fun c => { c with session := session } with hu
      have hheld : Held history u.conn := ⟨h.held.accounted, h.held.origin⟩
      unfold Turn.dispatch
      split
      · next hopcode =>
        split
        · exact good_failSession hheld hsubject (fun b hb => by cases hb) _
        · dsimp only
          split
          · next msg hpayload =>
            exact h.meets_handleControl hparse hingest hpayload sessionId rfl rfl rfl rfl
          · exact .of_close ⟨hheld.accounted, hheld.origin⟩ hsubject (fun b hb => by cases hb) rfl
      · next hopcode =>
        have hgood : u.Good config received sent none fixed history :=
          h.good.keeps (h.keeps hingest (Act.ofFrame_quiet hopcode) rfl rfl rfl rfl)
        split_ifs with hsample hservice haction
        · refine hgood.meets_handlePublishSample hparse fun runtime hfind => ?_
          have hkind := h.steady.kinds frame.channelId
          rw [active_of_ingest h.steady.server hingest hsample,
            show conn.channels.find? frame.channelId = some runtime from hfind] at hkind
          exact Option.some.inj hkind
        · exact hgood.meets_handleOperation fun w runtime opid payload hw hfind =>
            hw.meets_serviceTask hparse hfind opid payload
        · exact hgood.meets_handleOperation fun w runtime opid payload hw hfind =>
            hw.meets_actionTask hparse hfind opid payload
        · exact hgood

/-- Bootstrap records leave the channels alone. -/
theorem keeps_handleBootstrap (config : GatewayConfig jwt) (active : ActiveTransport)
    (conn : ConnState) (bytes : List UInt8) :
    (Turn.mk conn {}).Keeps (Turn.handleBootstrap config active ⟨conn, {}⟩ bytes) := by
  unfold Turn.handleBootstrap
  split
  · exact keeps_pushBootstrapError _ _ _
  · next record _ =>
    split
    · exact keeps_pushBootstrapError _ _ _
    · next effects session hingest =>
      have hkeeps : (Turn.mk conn {}).Keeps
          (Turn.modify ⟨conn, {}⟩ fun c => { c with session := session }) :=
        keeps_session rfl rfl fun hserver => Session.quiet_of_ingestBootstrap hserver hingest
      dsimp only
      split
      · split
        · exact hkeeps.trans (keeps_pushBootstrapError _ _ _)
        · split
          · exact hkeeps.trans (keeps_close _)
          · next hbytes =>
            split
            · exact hkeeps.trans (keeps_assertionFailed _)
            · next session' hrecord =>
              refine (hkeeps.trans ?_).trans (keeps_queue _ (not_isSample_of_bootstrap hbytes))
              exact keeps_session rfl rfl fun hserver =>
                Session.quiet_of_recordSendBootstrap hserver hrecord
      · exact hkeeps.trans (keeps_close _)

end Turn

/-- **Every inbound message meets its contract.** -/
theorem ConnState.meets_handleInbound {config : GatewayConfig jwt} {received sent : List (List UInt8)}
    {bytes : List UInt8} {fixed : Option String} {history : List BackendEvent} {conn : ConnState}
    (h : Turn.Taken config received sent fixed history bytes conn) (active : ActiveTransport)
    (sessionId : ByteArrayOf 32) :
    Meets config received sent bytes fixed history
      (conn.handleInbound config active sessionId bytes) := by
  unfold ConnState.handleInbound
  split_ifs
  · exact h.good.keeps (Turn.keeps_close _)
  · exact h.good.keeps (Turn.keeps_handleBootstrap config active conn bytes)
  · exact h.meets_handleFrame sessionId

end Gateway
end Rclweb
