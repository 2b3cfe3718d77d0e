import Rclweb.Engine.Outbound
import Rclweb.Session.ActiveChannels

/-!
# The tables of the engine and its session

The engine keeps five tables next to its session: the channels that wait for an answer, and the
active ones by kind.  A `Ledger` is what session and tables say about the channels, and it
*tracks* when the tables hold every channel where its state wants it (`ChannelState.book`).

Most handlers *spare* the ledger.  The others open a channel, close one for the application, or
take the peer's answer to one; each of them has a lemma that the tables follow.  There is no
handler for a channel that the peer closes, and an answer that is out of turn is taken by the
session but not by the tables: `canFollow` tells the inbound messages that are neither.
-/

namespace Rclweb

open Rclweb.Frame Control Transition

/-- Where the tables have to hold a channel of a state: whether as pending, and in how many of
the tables of active channels. -/
def ChannelState.book : ChannelState → Bool × ℕ
  | pending => (true, 0)
  | active => (false, 1)
  | unused | failed | closed => (false, 0)

/-- **What an engine knows of its channels**, by its session and by its tables. -/
structure Ledger where
  role : Role
  channel : UInt32 → Option ChannelView
  book : UInt32 → Bool × ℕ

namespace Ledger

/-- The state of a channel. -/
def state (l : Ledger) (id : UInt32) : ChannelState := ((l.channel id).map Prod.fst).getD .unused

/-- **The tables of a client agree with its session.** -/
structure Tracks (l : Ledger) : Prop where
  role : l.role = .client
  book : ∀ id, l.book id = (l.state id).book

theorem state_of_channel {l : Ledger} {id : UInt32} {s : ChannelState} {kind : OperationKind}
    (h : l.channel id = some (s, kind)) : l.state id = s := by
  rw [state, h]
  rfl

/-- A channel gets a new state, and the tables hold it where that state wants it. -/
theorem Tracks.update {l l' : Ledger} (h : l.Tracks) (id : UInt32) {s : ChannelState}
    {kind : OperationKind} (hrole : l'.role = l.role)
    (hchannel : l'.channel = Function.update l.channel id (some (s, kind)))
    (hid : l'.book id = s.book) (hother : ∀ id', id' ≠ id → l'.book id' = l.book id') :
    l'.Tracks := by
  refine ⟨hrole.trans h.role, fun id' => ?_⟩
  by_cases heq : id' = id
  · subst heq
    have hset : l'.channel id' = some (s, kind) := by rw [hchannel, Function.update_self]
    rw [hid, state_of_channel hset]
  · rw [hother id' heq, h.book id', state, state, hchannel, Function.update_of_ne heq]

end Ledger

namespace ClientEngine

/-- In how many of the tables of active channels a channel is. -/
def activeCount (e : ClientEngine) (id : UInt32) : ℕ :=
  (e.activeSubscribes.find? id).isSome.toNat + (e.activePublishes.find? id).isSome.toNat +
    (e.activeServices.find? id).isSome.toNat + (e.activeActions.find? id).isSome.toNat

/-- Where the tables hold a channel. -/
def book (e : ClientEngine) (id : UInt32) : Bool × ℕ :=
  ((e.pendingOpens.find? id).isSome, e.activeCount id)

/-- A channel is remembered as pending. -/
theorem book_setPending (e : ClientEngine) (id : UInt32) (pending : Engine.PendingOpen)
    (id' : UInt32) :
    ({ e with pendingOpens := e.pendingOpens.set id pending } : ClientEngine).book id' =
      if id' = id then (true, (e.book id').2) else e.book id' := by
  simp only [book, activeCount, Table.find?_set]
  split_ifs <;> rfl

/-- A channel is not remembered as pending any more. -/
theorem book_removePending (e : ClientEngine) (id : UInt32) (id' : UInt32) :
    ({ e with pendingOpens := e.pendingOpens.remove id } : ClientEngine).book id' =
      if id' = id then (false, (e.book id').2) else e.book id' := by
  simp only [book, activeCount, Table.find?_remove]
  split_ifs <;> rfl

/-- A channel is taken out of all tables. -/
theorem book_removeAll (e : ClientEngine) (id : UInt32) (id' : UInt32) :
    ({ e with
        pendingOpens := e.pendingOpens.remove id
        activeSubscribes := e.activeSubscribes.remove id
        activePublishes := e.activePublishes.remove id
        activeServices := e.activeServices.remove id
        activeActions := e.activeActions.remove id } : ClientEngine).book id' =
      if id' = id then (false, 0) else e.book id' := by
  simp only [book, activeCount, Table.find?_remove]
  split_ifs <;> rfl

def ledger (e : ClientEngine) : Ledger :=
  ⟨e.session.inner.role, e.session.inner.view.channel, e.book⟩

@[simp] theorem ledger_state (e : ClientEngine) (id : UInt32) :
    e.ledger.state id = e.session.channelState id :=
  (e.session.inner.state_eq id).symm

end ClientEngine

namespace Engine

/-- The channel an event names. -/
def AppEvent.channel? : AppEvent → Option UInt32
  | .subscribed id _ _ | .subscribeFailed id _ _ | .published id _ _ _ | .publishFailed id _ _
  | .sample id _ _ _ _ | .serviceReady id _ _ _ | .serviceFailed id _ _ | .actionReady id _ _ _
  | .actionFailed id _ _ | .operationCancelled id _ _ => some id
  | .serviceRequest e | .serviceResponse e | .actionGoal e | .actionFeedback e
  | .actionResult e | .actionStatus e => some e.channelId
  | .bootstrapComplete _ | .sessionReady _ _ _ | .heartbeat _ | .graphSnapshot _ _ _
  | .graphDelta _ | .error _ _ | .closed _ => none

/-- The bytes of an inbound message. -/
def HostEvent.bytes? : HostEvent → Option (List UInt8)
  | .wsBytes _ bytes => some bytes
  | _ => none

theorem channel?_openFailed (kind : PendingKind) (id : UInt32) (code : UInt8)
    (message : String) : (Turn.openFailed kind id code message).channel? = some id := by
  cases kind <;> rfl

namespace Turn

/-! ## Handlers that spare the channels -/

/-- **Nothing happens to the channels**, and events are only added. -/
structure Spares (t u : Turn) : Prop where
  ledger : u.engine.ledger = t.engine.ledger
  events : t.outcome.events <+: u.outcome.events

@[refl] theorem Spares.refl (t : Turn) : t.Spares t := ⟨rfl, List.prefix_refl _⟩

theorem Spares.trans {t u v : Turn} (h : t.Spares u) (h' : u.Spares v) : t.Spares v :=
  ⟨h'.ledger.trans h.ledger, h.events.trans h'.events⟩

/-- **The tables still agree with the session**, unless the engine is closed, and events are only
added. -/
structure Follows (t u : Turn) : Prop where
  tracks : t.engine.ledger.Tracks → u.engine.closed = false → u.engine.ledger.Tracks
  events : t.outcome.events <+: u.outcome.events

theorem Spares.follows {t u : Turn} (h : t.Spares u) : t.Follows u :=
  ⟨fun ht _ => h.ledger ▸ ht, h.events⟩

theorem Spares.trans_follows {t u v : Turn} (h : t.Spares u) (h' : u.Follows v) : t.Follows v :=
  ⟨fun ht => h'.tracks (h.ledger ▸ ht), h.events.trans h'.events⟩

/-- **What the peer did is reported**: a channel that was pending or active and is so no longer
is named by an event that was added. -/
def Reports (t u : Turn) : Prop :=
  ∀ id, t.engine.ledger.state id = .pending ∨ t.engine.ledger.state id = .active →
    u.engine.ledger.state id ≠ t.engine.ledger.state id →
      ∃ event ∈ u.outcome.events.drop t.outcome.events.length, event.channel? = some id

theorem Spares.reports {t u : Turn} (h : t.Spares u) : t.Reports u :=
  fun _ _ hne => absurd (congrArg (Ledger.state · _) h.ledger) hne

theorem Spares.trans_reports {t u v : Turn} (h : t.Spares u)
    (hsame : u.outcome.events = t.outcome.events) (h' : u.Reports v) : t.Reports v := by
  intro id hstate hne
  rw [← h.ledger] at hstate hne
  rw [← hsame]
  exact h' id hstate hne

variable (t : Turn)

theorem spares_emit (event : AppEvent) : t.Spares (t.emit event) :=
  ⟨rfl, List.prefix_append _ _⟩

/-- A change of the engine that leaves its ledger alone. -/
theorem spares_modify {f : ClientEngine → ClientEngine}
    (h : (f t.engine).ledger = t.engine.ledger) : t.Spares (t.modify f) :=
  ⟨h, List.prefix_refl _⟩

theorem spares_fail (code : UInt8) (message : String) : t.Spares (t.fail code message) :=
  ((t.spares_modify rfl).trans (spares_emit _ _)).trans (spares_emit _ _)

theorem spares_failProtocol (err : ProtocolError) : t.Spares (t.failProtocol err) :=
  t.spares_fail _ _

theorem spares_pushOutbound (bytes : List UInt8) : t.Spares (t.pushOutbound bytes) := by
  unfold pushOutbound
  split_ifs
  · rfl
  · exact ⟨rfl, List.prefix_refl _⟩

theorem spares_retain (bufferId : UInt32) (bytes : List UInt8) :
    t.Spares (t.retain bufferId bytes).2 := by
  unfold retain
  dsimp only
  split_ifs <;> exact ⟨rfl, List.prefix_refl _⟩

theorem spares_issueLease (bufferId : UInt32) (frame : DecodedFrame) :
    t.Spares (t.issueLease bufferId frame).2 := ⟨rfl, List.prefix_refl _⟩

theorem spares_releaseLease (leaseId : UInt32) : t.Spares (t.releaseLease leaseId) := by
  unfold releaseLease
  split
  · rfl
  · exact ⟨rfl, List.prefix_refl _⟩

/-- A new session that knows the same channels. -/
theorem spares_session {session : Session} (hrole : session.inner.role = t.engine.session.inner.role)
    (hchannel : session.inner.view.channel = t.engine.session.inner.view.channel) :
    t.Spares (t.modify fun e => { e with session := session }) := by
  refine t.spares_modify ?_
  show (⟨_, _, _⟩ : Ledger) = ⟨_, _, _⟩
  rw [hrole, hchannel]
  rfl

/-- Bookkeeping under a key that is there already changes no table. -/
theorem isSome_find?_set {ν : Type} {table : Table UInt32 ν} {id : UInt32} {v : ν}
    (h : table.find? id = some v) (w : ν) (id' : UInt32) :
    ((table.set id w).find? id').isSome = (table.find? id').isSome := by
  rw [Table.find?_set]
  split_ifs with hid
  · rw [hid, h]
    rfl
  · rfl

/-! ## Commands -/

variable {t} {u : Turn}

/-- **A control message that was pushed** was accepted by the session, and nothing else happened
to the channels. -/
theorem pushControl_some {message : CborValue} (h : t.pushControl message = some u) :
    ∃ msg effects session, Sendable message msg ∧
      applyControl t.engine.session.inner msg t.engine.session.inner.role = (.ok effects, session) ∧
      session.role = t.engine.session.inner.role ∧
      t.engine.session.inner.view.step (Act.ofControl t.engine.session.inner.role msg) =
        some session.view ∧
      u.engine.ledger = ⟨session.role, session.view.channel, t.engine.book⟩ ∧
      t.outcome.events <+: u.outcome.events := by
  unfold pushControl at h
  split at h
  · cases h
  · next bytes hbytes =>
    obtain ⟨v, hv, rfl⟩ := Option.map_eq_some_iff.mp h
    unfold recordFrame at hv
    split at hv
    · cases hv
    · next frame hparse =>
      obtain ⟨msg, payloadLen, hsendable, rfl⟩ := sendable_of_parse hbytes hparse
      split at hv
      · cases hv
      · next effects session hrecord =>
        obtain rfl := Option.some.inj hv
        obtain ⟨hrole, hstep⟩ := Session.recordSendFrame_refines hrecord
        have hpush := ((t.modify fun e => { e with session := session }).modify fun e =>
          { e with controlSeqOut := e.controlSeqOut + 1 }).spares_pushOutbound bytes
        exact ⟨msg, effects, session.inner, hsendable,
          Session.recordSendFrame_control rfl rfl hrecord, hrole, hstep, hpush.ledger, hpush.events⟩

/-- Messages that change no channel when they are sent. -/
theorem spares_pushControl {raw : List (UInt64 × CborValue)} {kind : UInt64}
    (hkind : raw.lookup 1 = some (.unsigned kind))
    (hkeeps : kind.toUInt8 ∉ [kindError, kindOpenChannel, kindChannelReady, kindCloseChannel])
    (h : t.pushControl (.map raw) = some u) : t.Spares u := by
  obtain ⟨msg, effects, session, hsendable, -, hrole, hstep, hledger, hevents⟩ := pushControl_some h
  rw [← (hsendable.keeps hkind).1] at hkeeps
  simp only [List.mem_cons, List.not_mem_nil, or_false, not_or] at hkeeps
  have hchannel := View.step_keepsChannels
    (Act.ofControl_keepsChannels hkeeps.1 hkeeps.2.1 hkeeps.2.2.1 hkeeps.2.2.2) hstep
  refine ⟨?_, hevents⟩
  rw [hledger, hrole, hchannel]
  rfl

theorem spares_heartbeat (counter : UInt64) :
    t.Spares ((t.pushControl (heartbeat counter)).getD t) := by
  cases h : t.pushControl (heartbeat counter) with
  | none => rfl
  | some u => exact spares_pushControl rfl (by decide) h

theorem spares_authenticate (correlation : ByteArrayOf 16) (scheme : String)
    (token : List UInt8) (failure : String) :
    t.Spares ((t.pushControl (Engine.authenticate correlation scheme token)).getD
      (t.fail 1 failure)) := by
  cases h : t.pushControl (Engine.authenticate correlation scheme token) with
  | none => exact t.spares_fail 1 failure
  | some u => exact spares_pushControl rfl (by decide) h

theorem spares_start (transferable webtransport : Bool) :
    t.Spares (t.start transferable webtransport) := by
  unfold start
  split_ifs
  · rfl
  · refine (t.spares_modify (f := fun e => { e with started := true }) rfl).trans ?_
    dsimp only
    split
    · exact spares_fail _ _ _
    · split
      · exact spares_fail _ _ _
      · next v hv =>
        unfold pushBootstrapOutbound at hv
        split at hv
        · cases hv
        · split at hv
          · cases hv
          · next effects session hrecord =>
            obtain rfl := Option.some.inj hv
            obtain ⟨hrole, hchannel⟩ := Session.channel_of_recordSendBootstrap hrecord
            exact (spares_session _ hrole hchannel).trans (spares_pushOutbound _ _)

/-- A frame that is no control frame, recorded as sent. -/
theorem spares_recordSendFrame {frame : DecodedFrame} {effects : SessionEffects}
    {session : Session} (hopcode : frame.opcode ≠ opcodeControlCbor)
    (h : t.engine.session.recordSendFrame frame = (.ok effects, session)) :
    t.Spares (t.modify fun e => { e with session := session }) := by
  obtain ⟨hrole, hstep⟩ := Session.recordSendFrame_refines h
  exact t.spares_session hrole (View.step_keepsChannels (Act.ofFrame_keepsChannels hopcode) hstep)

theorem spares_sendSamplePayload (channelId : UInt32) (payload : List UInt8) :
    t.Spares (t.sendSamplePayload channelId payload) := by
  unfold sendSamplePayload
  split
  · exact t.spares_emit _
  · next pub hpub =>
    split
    · exact t.spares_emit _
    · next bytes hbytes =>
      split
      · exact t.spares_emit _
      · next frame hparse =>
        split
        · exact t.spares_emit _
        · next effects session hrecord =>
          have hopcode : frame.opcode ≠ opcodeControlCbor := by
            rw [opcode_of_parse hbytes hparse]
            show opcodeRosSample ≠ opcodeControlCbor
            decide
          refine Spares.trans ?_ (spares_pushOutbound _ _)
          refine (spares_recordSendFrame hopcode hrecord).trans (spares_modify (f := fun e =>
            { e with
              activePublishes :=
                e.activePublishes.set channelId { pub with seqOut := pub.seqOut + 1 } }) _ ?_)
          have hbook : ClientEngine.book { t.engine with
              activePublishes := t.engine.activePublishes.set channelId
                { pub with seqOut := pub.seqOut + 1 } } = t.engine.book := by
            funext id
            simp only [ClientEngine.book, ClientEngine.activeCount, isSome_find?_set hpub]
          exact congrArg (Ledger.mk _ _) hbook

theorem spares_takeOperationSequence {channelId : UInt32} {operationId : OperationId}
    {sequence : ℕ} (h : t.takeOperationSequence channelId operationId = some (sequence, u)) :
    t.Spares u := by
  unfold takeOperationSequence at h
  dsimp only at h
  split at h
  · next svc hsvc =>
    cases h
    refine t.spares_modify (congrArg (Ledger.mk _ _) ?_)
    funext id
    simp only [ClientEngine.book, ClientEngine.activeCount, isSome_find?_set hsvc]
  · split at h
    · next act hact =>
      cases h
      refine t.spares_modify (congrArg (Ledger.mk _ _) ?_)
      funext id
      simp only [ClientEngine.book, ClientEngine.activeCount, isSome_find?_set hact]
    · cases h

theorem spares_sendServiceActionFrame (channelId : UInt32) {opcode : UInt8}
    (hopcode : opcode ≠ opcodeControlCbor) (operationId : OperationId) (payload : List UInt8)
    (reliable : Bool) :
    t.Spares (t.sendServiceActionFrame channelId opcode operationId payload reliable) := by
  unfold sendServiceActionFrame
  split
  · exact t.spares_emit _
  · next sequence v htake =>
    refine (spares_takeOperationSequence htake).trans ?_
    split
    · exact v.spares_emit _
    · split
      · exact v.spares_emit _
      · next bytes hbytes =>
        split
        · exact v.spares_emit _
        · next frame hparse =>
          split
          · exact v.spares_emit _
          · next effects session hrecord =>
            have hframe : frame.opcode ≠ opcodeControlCbor := by
              rw [opcode_of_parse hbytes hparse]
              exact hopcode
            exact (spares_recordSendFrame hframe hrecord).trans (spares_pushOutbound _ _)

theorem spares_sendOperation (lib : Library) (channelId : UInt32) (op : GeneratedOpKind)
    {opcode : UInt8} (hopcode : opcode ≠ opcodeControlCbor) (operationId : OperationId)
    (bytes : List UInt8) (reliable : Bool) (failure : AppEvent) :
    t.Spares (sendOperation lib t channelId op opcode operationId bytes reliable failure) := by
  unfold sendOperation
  split
  · exact spares_sendServiceActionFrame channelId hopcode _ _ _
  · exact t.spares_emit _

theorem namedChannel_of_kept {raw : List (UInt64 × CborValue)} {msg : ControlMessage}
    {channelId : UInt32} (hkept : FieldsKept raw msg.fields)
    (hchannel : raw.lookup 29 = some (.unsigned channelId.toUInt64)) :
    namedChannel msg = some channelId := by
  have hget : msg.get fieldChannelId = some (.unsigned channelId.toUInt64) :=
    (hkept 29).2 _ hchannel
  rw [namedChannel, Transition.fieldUint, hget]
  simp

/-- **Opening a channel** makes it pending on both sides. -/
theorem follows_pushOpen {raw : List (UInt64 × CborValue)} {channelId : UInt32}
    (hkind : raw.lookup 1 = some (.unsigned 8))
    (hchannel : raw.lookup 29 = some (.unsigned channelId.toUInt64)) (failure : String)
    (pending : PendingOpen) : t.Follows (t.pushOpen (.map raw) failure channelId pending) := by
  unfold pushOpen
  split
  · exact (t.spares_fail 1 failure).follows
  · next u hpush =>
    obtain ⟨msg, effects, session, hsendable, happly, hrole, -, hledger, hevents⟩ :=
      pushControl_some hpush
    obtain ⟨hmsg, hkept⟩ := hsendable.keeps hkind
    obtain ⟨-, hopen⟩ := applyControl_openChannel hmsg happly
    obtain ⟨id, kind, _, hnamed, -, -, -, -, hunused, -, hview⟩ := applyOpenChannel_ok hopen
    obtain rfl : id = channelId :=
      Option.some.inj (hnamed.symm.trans (namedChannel_of_kept hkept hchannel))
    refine ⟨fun ht _ => ?_, hevents⟩
    have hactive : t.engine.book id = (false, 0) := by
      have hbook := ht.book id
      rw [Ledger.state, show t.engine.ledger.channel id = none from hunused] at hbook
      exact hbook
    have hbook (id' : UInt32) : ({ u.engine with
        pendingOpens := u.engine.pendingOpens.set id pending } : ClientEngine).book id' =
        if id' = id then (true, (t.engine.book id').2) else t.engine.book id' := by
      rw [ClientEngine.book_setPending, show u.engine.book = _ from congrArg Ledger.book hledger]
    refine ht.update id ((congrArg Ledger.role hledger).trans hrole)
      (((congrArg Ledger.channel hledger).trans (congrArg View.channel hview))) ?_ fun id' hne => ?_
    · exact (hbook id).trans (by rw [if_pos rfl, hactive]; rfl)
    · exact (hbook id').trans (if_neg hne)

/-- **Closing a channel** takes it out of all tables. -/
theorem follows_unsubscribe (correlation : ByteArrayOf 16) (channelId : UInt32) :
    t.Follows (t.unsubscribe correlation channelId) := by
  unfold unsubscribe
  split
  · exact (t.spares_fail _ _).follows
  · next u hpush =>
    obtain ⟨msg, effects, session, hsendable, happly, hrole, -, hledger, hevents⟩ :=
      pushControl_some hpush
    obtain ⟨hmsg, hkept⟩ := hsendable.keeps (k := 10) rfl
    obtain ⟨id, kind, hnamed, -, -, hview⟩ :=
      applyCloseChannel_ok (applyControl_closeChannel hmsg happly)
    obtain rfl : id = channelId :=
      Option.some.inj (hnamed.symm.trans (namedChannel_of_kept hkept rfl))
    have hbook (id' : UInt32) : (({ u.engine with
        pendingOpens := u.engine.pendingOpens.remove id
        activeSubscribes := u.engine.activeSubscribes.remove id
        activePublishes := u.engine.activePublishes.remove id
        activeServices := u.engine.activeServices.remove id
        activeActions := u.engine.activeActions.remove id } : ClientEngine)).book id' =
        if id' = id then (false, 0) else t.engine.book id' := by
      rw [ClientEngine.book_removeAll, show u.engine.book = _ from congrArg Ledger.book hledger]
    refine ⟨fun ht _ => ht.update id ((congrArg Ledger.role hledger).trans hrole)
      ((congrArg Ledger.channel hledger).trans (congrArg View.channel hview)) ?_
        fun id' hne => ?_, hevents⟩
    · exact (hbook id).trans (if_pos rfl)
    · exact (hbook id').trans (if_neg hne)

theorem follows_openChannelCmd (lib : Library) (options : TopicOptions) (operationKind : UInt64)
    (kind : PendingKind) : t.Follows (openChannelCmd lib t options operationKind kind) := by
  unfold openChannelCmd
  split
  · exact (t.spares_emit _).follows
  · exact follows_pushOpen rfl rfl _ _

theorem follows_openEndpoint (lib : Library) (options : EndpointOptions) (kind : PendingKind)
    {raw : List (UInt64 × CborValue)} (hkind : raw.lookup 1 = some (.unsigned 8))
    (hchannel : raw.lookup 29 = some (.unsigned options.channelId.toUInt64)) (failure : String) :
    t.Follows (openEndpoint lib t options kind (.map raw) failure) := by
  unfold openEndpoint
  split
  · exact (t.spares_emit _).follows
  · exact follows_pushOpen hkind hchannel _ _

/-- **The tables follow every command.** -/
theorem spares_sendEncoded (channelId : UInt32) (payload : Option (List UInt8))
    (event : AppEvent) :
    t.Spares (match payload with
      | some payload => t.sendSamplePayload channelId payload
      | none => t.emit event) := by
  cases payload with
  | none => exact t.spares_emit event
  | some payload => exact spares_sendSamplePayload channelId payload

theorem follows_handleCommand (lib : Library) (cmd : AppCommand) :
    t.Follows (handleCommand lib t cmd) := by
  cases cmd with
  | start transferable webtransport => exact (spares_start _ _).follows
  | authenticate correlation scheme token => exact (spares_authenticate _ _ _ _).follows
  | subscribe options => exact follows_openChannelCmd lib options _ _
  | publish options => exact follows_openChannelCmd lib options _ _
  | sendSample channelId stringData =>
    show t.Follows (sendSample lib t channelId stringData)
    unfold sendSample
    split
    · exact (t.spares_emit _).follows
    · exact (spares_sendSamplePayload _ _).follows
  | sendPointCloud2 channelId view => exact (spares_sendEncoded _ _ _).follows
  | sendGenerated channelId typeName value => exact (spares_sendEncoded _ _ _).follows
  | openService options => exact follows_openEndpoint lib options _ rfl rfl _
  | callService | sendServiceResponse | sendActionGoal | sendActionFeedback | sendActionResult =>
    exact (spares_sendOperation lib _ _ (by decide) _ _ _ _).follows
  | openAction options => exact follows_openEndpoint lib options _ rfl rfl _
  | cancelAction | sendActionStatus =>
    exact (spares_sendServiceActionFrame _ (by decide) _ _ _).follows
  | unsubscribe correlation channelId => exact follows_unsubscribe correlation channelId
  | close =>
    refine Spares.follows (Spares.trans ?_ (spares_emit _ _))
    exact t.spares_modify (f := fun e => { e with closed := true }) rfl

/-! ## Messages the tables can follow -/

/-- A ChannelReady, or an Error that is not about an operation. -/
def isAnswer (msg : ControlMessage) : Bool :=
  msg.kind == kindChannelReady ||
    msg.kind == kindError && (Transition.fieldUint msg fieldErrorScope).getD 0 != 2

/-- Whether a control message closes no active channel, and is in turn when it answers a pending
one. -/
def canFollowControl (e : ClientEngine) (sequence : UInt64) (msg : ControlMessage) : Bool :=
  match (namedChannel msg).map e.session.channelState with
  | some .active => msg.kind != kindCloseChannel
  | some .pending => !isAnswer msg || sequence == UInt64.ofNat e.controlSeqIn
  | _ => true

/-- **Whether the tables can follow inbound bytes.** -/
def canFollow (e : ClientEngine) (bytes : List UInt8) : Bool :=
  match parseFrameDeclared bytes (retainDeclaredLen bytes) defaultOptions with
  | .error _ => true
  | .ok frame =>
    match frame.payload with
    | .control msg => canFollowControl e frame.sequence msg
    | .application _ => true

section Control

variable {msg : ControlMessage} {effects : SessionEffects} {session : SessionState}
  {sequence : UInt64}

/-- A message that can be followed closes no channel. -/
theorem not_closeChannel_of_canFollow (hcan : canFollowControl t.engine sequence msg = true)
    (happly : applyControl t.engine.session.inner msg .server = (.ok effects, session)) :
    msg.kind ≠ kindCloseChannel := by
  intro hkind
  obtain ⟨id, kind, hnamed, hactive, -⟩ :=
    applyCloseChannel_ok (applyControl_closeChannel hkind happly)
  have hstate : t.engine.session.channelState id = .active := by
    rw [← ClientEngine.ledger_state]
    exact Ledger.state_of_channel hactive
  rw [canFollowControl, hnamed, Option.map_some, hstate, hkind] at hcan
  exact absurd rfl (bne_iff_ne.mp hcan)

/-- A message that is followed though it is out of turn answers no pending channel. -/
theorem not_pending_of_canFollow (hcan : canFollowControl t.engine sequence msg = true)
    (hseq : sequence ≠ UInt64.ofNat t.engine.controlSeqIn) (hanswer : isAnswer msg = true)
    {id : UInt32} (hnamed : namedChannel msg = some id) (kind : OperationKind) :
    t.engine.session.inner.view.channel id ≠ some (.pending, kind) := by
  intro hpending
  have hstate : t.engine.session.channelState id = .pending := by
    rw [← ClientEngine.ledger_state]
    exact Ledger.state_of_channel hpending
  rw [canFollowControl, hnamed, Option.map_some, hstate, hanswer] at hcan
  exact hseq (by simpa using hcan)

/-- Messages of most kinds change no channel. -/
theorem channel_of_quiet
    (hstep : t.engine.session.inner.view.step (Act.ofControl .server msg) = some session.view)
    (happly : applyControl t.engine.session.inner msg .server = (.ok effects, session))
    (herror : msg.kind ≠ kindError) (hready : msg.kind ≠ kindChannelReady)
    (hclose : msg.kind ≠ kindCloseChannel) :
    session.view.channel = t.engine.session.inner.view.channel := by
  have hopen : msg.kind ≠ kindOpenChannel := by
    intro hopen
    have hwrong : wrongSender msg.kind .server = true := by rw [hopen]; decide
    rw [applyControl, if_pos hwrong] at happly
    cases happly
  exact View.step_keepsChannels (Act.ofControl_keepsChannels herror hopen hready hclose) hstep

/-- **An accepted message that is out of turn changes no channel**, when it can be followed. -/
theorem channel_of_outOfTurn
    (hstep : t.engine.session.inner.view.step (Act.ofControl .server msg) = some session.view)
    (happly : applyControl t.engine.session.inner msg .server = (.ok effects, session))
    (hcan : canFollowControl t.engine sequence msg = true)
    (hseq : sequence ≠ UInt64.ofNat t.engine.controlSeqIn) :
    session.view.channel = t.engine.session.inner.view.channel := by
  by_cases hready : msg.kind = kindChannelReady
  · have hanswer : isAnswer msg = true := by simp [isAnswer, hready]
    obtain ⟨id, kind, _, _, hnamed, hpending, -⟩ :=
      applyChannelReady_ok (applyControl_channelReady hready happly)
    exact absurd hpending (not_pending_of_canFollow hcan hseq hanswer hnamed kind)
  by_cases herror : msg.kind = kindError
  · rcases applyError_ok (applyControl_error herror happly) with
      ⟨hsame, -⟩ | ⟨id, kind, hnamed, hscope, hpending, -⟩
    · exact hsame
    · have hanswer : isAnswer msg = true := by simp [isAnswer, herror, hscope]
      exact absurd hpending (not_pending_of_canFollow hcan hseq hanswer hnamed kind)
  · exact channel_of_quiet hstep happly herror hready (not_closeChannel_of_canFollow hcan happly)

/-! ## Inbound control messages -/

/-- The session accepted a message, and the tables are still as they were. -/
structure Accepted (t : Turn) (session : SessionState) (u : Turn) : Prop where
  role : session.role = t.engine.session.inner.role
  ledger : u.engine.ledger = ⟨session.role, session.view.channel, t.engine.book⟩
  events : u.outcome.events = t.outcome.events

/-- A message that changes no channel. -/
theorem Accepted.spares (h : t.Accepted session u)
    (hchannel : session.view.channel = t.engine.session.inner.view.channel) : t.Spares u := by
  refine ⟨?_, h.events ▸ List.prefix_refl _⟩
  rw [h.ledger, h.role, hchannel]
  rfl

/-- **A message that answers a channel**: the tables put it where its new state wants it, and one
event names it. -/
theorem Accepted.answers (h : t.Accepted session u) {v : Turn} {id : UInt32} {s : ChannelState}
    {kind : OperationKind} {event : AppEvent}
    (hview : session.view = t.engine.session.inner.view.setChannel id (some (s, kind)))
    (hsession : v.engine.session = u.engine.session)
    (hbook : t.engine.ledger.Tracks → ∀ id', v.engine.book id' =
      if id' = id then s.book else t.engine.book id')
    (hevents : v.outcome.events = u.outcome.events ++ [event]) (hevent : event.channel? = some id) :
    t.Follows v ∧ t.Reports v := by
  have hrole : v.engine.ledger.role = t.engine.ledger.role := by
    show v.engine.session.inner.role = _
    rw [hsession]
    exact (congrArg Ledger.role h.ledger).trans h.role
  have hchannel : v.engine.ledger.channel =
      Function.update t.engine.ledger.channel id (some (s, kind)) := by
    show v.engine.session.inner.view.channel = _
    rw [hsession]
    exact (congrArg Ledger.channel h.ledger).trans (congrArg View.channel hview)
  refine ⟨⟨fun ht _ => ht.update id hrole hchannel ?_ fun id' hne => ?_, ?_⟩, fun id' _ hne => ?_⟩
  · exact (hbook ht id).trans (if_pos rfl)
  · exact (hbook ht id').trans (if_neg hne)
  · rw [hevents, h.events]
    exact List.prefix_append _ _
  · have hid : id' = id := by
      by_contra hother
      refine hne ?_
      rw [Ledger.state, Ledger.state, hchannel, Function.update_of_ne hother]
    refine ⟨event, ?_, by rw [hevent, hid]⟩
    rw [hevents, h.events, List.drop_left]
    exact List.mem_singleton_self event

/-- What a successful answer does to the tables. -/
theorem activate_spec (t : Turn) (id : UInt32) (pending : PendingOpen) (rel : UInt8) :
    (t.activate id pending rel).engine.session = t.engine.session ∧
      (t.engine.activeCount id = 0 → ∀ id', (t.activate id pending rel).engine.book id' =
        if id' = id then ((t.engine.book id).1, 1) else t.engine.book id') ∧
      ∃ event : AppEvent,
        (t.activate id pending rel).outcome.events = t.outcome.events ++ [event] ∧
          event.channel? = some id := by
  unfold activate
  dsimp only
  split
  all_goals
    refine ⟨rfl, fun hcount id' => ?_, _, rfl, rfl⟩
    unfold ClientEngine.activeCount at hcount
    simp only [engine_modify, engine_emit, ClientEngine.book, ClientEngine.activeCount,
      Table.find?_set]
    split_ifs with hid
    · rw [hid]
      simp only [Option.isSome_some, Bool.toNat_true, Prod.mk.injEq, true_and]
      omega
    · rfl

/-- Engine and session read the same number where the field is an unsigned one. -/
theorem fieldUint_eq {key : UInt64}
    (h : ∀ v, msg.get key = some v → ∃ n : UInt64, v = .unsigned n) :
    Engine.fieldUint msg.fields key = Transition.fieldUint msg key := by
  have hget : msg.get key = msg.fields.lookup key := rfl
  unfold Engine.fieldUint Transition.fieldUint
  rw [← hget]
  cases hv : msg.get key with
  | none => rfl
  | some v =>
    obtain ⟨n, rfl⟩ := h v hv
    rfl

/-- Engine and session agree on which results are a success. -/
theorem isSuccess_iff {raw : UInt64} {result : ChannelResult} (hle : raw ≤ 255)
    (h : ChannelResult.fromU8 raw.toUInt8 = some result) :
    (raw = 0 ∨ raw = 2) ↔ result.isSuccess = true := by
  have hlt : raw.toNat < 256 := by
    have := UInt64.le_iff_toNat_le.mp hle
    exact Nat.lt_succ_of_le this
  have hmod : raw.toUInt8.toNat = raw.toNat := by
    rw [UInt64.toNat_toUInt8]
    omega
  have hzero : raw = 0 ↔ raw.toNat = 0 := UInt64.toNat_inj.symm
  have htwo : raw = 2 ↔ raw.toNat = 2 := UInt64.toNat_inj.symm
  rw [hzero, htwo]
  unfold ChannelResult.fromU8 at h
  rw [hmod] at h
  split at h
  · next heq => cases h; simp [heq, ChannelResult.isSuccess]
  · next heq => cases h; simp [heq, ChannelResult.isSuccess]
  · next heq => cases h; simp [heq, ChannelResult.isSuccess]
  · next heq => cases h; simp [heq, ChannelResult.isSuccess]
  · cases h

/-- **Engine and session take an answer to OpenChannel for the same one**: the channel it is
about, which was pending, and whether it is a success. -/
theorem channel_of_answer {value : CborValue} (hvalid : validateControlMessage value = .ok msg)
    (hkind : msg.kind = kindChannelReady) {s : SessionState}
    (hready : applyChannelReady s msg = (.ok effects, session)) :
    ∃ id kind, s.view.channel id = some (.pending, kind) ∧
      (effects.channelFailed.or
        ((Engine.fieldUint msg.fields 29).map UInt64.toUInt32)).getD 0 = id ∧
      session.view = s.view.setChannel id (some
        (if (Engine.fieldUint msg.fields 33).getD 3 = 0 ∨
          (Engine.fieldUint msg.fields 33).getD 3 = 2 then .active else .failed, kind)) := by
  obtain ⟨id, kind, raw, result, hnamed, hpending, hraw, hle, hresult, hfailed, hview⟩ :=
    applyChannelReady_ok hready
  have hchannel : Engine.fieldUint msg.fields 29 = Transition.fieldUint msg fieldChannelId :=
    fieldUint_eq fun v hv => unsigned_of_channelReady hvalid hkind (.inl rfl) hv
  have hfield : Engine.fieldUint msg.fields 33 = some raw :=
    (fieldUint_eq fun v hv => unsigned_of_channelReady hvalid hkind (.inr rfl) hv).trans hraw
  refine ⟨id, kind, hpending, ?_, ?_⟩
  · rw [hchannel, show Option.map _ _ = some id from hnamed, hfailed]
    split_ifs <;> rfl
  · rw [hfield, Option.getD_some, hview]
    by_cases hsuccess : result.isSuccess = true
    · rw [if_pos hsuccess, if_pos ((isSuccess_iff hle hresult).mpr hsuccess)]
    · rw [if_neg hsuccess, if_neg fun h => hsuccess ((isSuccess_iff hle hresult).mp h)]

/-- **The tables follow an answer to OpenChannel.** -/
theorem Accepted.handleChannelReady (h : t.Accepted session u) {value : CborValue}
    (hvalid : validateControlMessage value = .ok msg) (hkind : msg.kind = kindChannelReady)
    (hready : applyChannelReady t.engine.session.inner msg = (.ok effects, session)) :
    t.Follows (u.handleChannelReady msg.fields effects) ∧
      t.Reports (u.handleChannelReady msg.fields effects) := by
  obtain ⟨id, kind, hpending, hid, hview⟩ := channel_of_answer hvalid hkind hready
  have hbefore (ht : t.engine.ledger.Tracks) : t.engine.book id = (true, 0) := by
    have hbook := ht.book id
    rw [Ledger.state_of_channel hpending] at hbook
    exact hbook
  have hbook (id' : UInt32) : ClientEngine.book
      { u.engine with pendingOpens := u.engine.pendingOpens.remove id } id' =
      if id' = id then (false, (t.engine.book id').2) else t.engine.book id' := by
    rw [ClientEngine.book_removePending, show u.engine.book = _ from congrArg Ledger.book h.ledger]
  unfold Turn.handleChannelReady
  dsimp only
  rw [hid]
  by_cases hsuccess : (Engine.fieldUint msg.fields 33).getD 3 = 0 ∨
      (Engine.fieldUint msg.fields 33).getD 3 = 2
  · rw [if_pos hsuccess]
    rw [if_pos hsuccess] at hview
    obtain ⟨hsession, hactive, event, hevents, hevent⟩ := activate_spec
      (u.modify fun e => { e with pendingOpens := e.pendingOpens.remove id }) id
      ((u.engine.pendingOpens.find? id).getD PendingOpen.assumed)
      ((fieldEffectiveReliability msg.fields).getD
        ((u.engine.pendingOpens.find? id).getD PendingOpen.assumed).qosReliability)
    refine h.answers hview hsession (fun ht id' => ?_) hevents hevent
    have hremoved : ClientEngine.book
        { u.engine with pendingOpens := u.engine.pendingOpens.remove id } id = (false, 0) := by
      rw [hbook, if_pos rfl, hbefore ht]
    refine (hactive (congrArg Prod.snd hremoved) id').trans ?_
    split_ifs with heq
    · exact congrArg (fun b : Bool × ℕ => (b.1, 1)) hremoved
    · exact (hbook id').trans (if_neg heq)
  · rw [if_neg hsuccess]
    rw [if_neg hsuccess] at hview
    refine h.answers hview rfl (fun ht id' => (hbook id').trans ?_) rfl (channel?_openFailed ..)
    split_ifs with heq
    · rw [heq, hbefore ht]
      rfl
    · rfl

/-- **The tables follow an Error.** -/
theorem Accepted.handleError (h : t.Accepted session u)
    (herror : applyError t.engine.session.inner msg = (.ok effects, session)) :
    t.Follows (u.handleError msg.fields effects) ∧
      t.Reports (u.handleError msg.fields effects) := by
  unfold Turn.handleError
  rcases applyError_ok herror with
    ⟨hsame, heffects⟩ | ⟨id, kind, hnamed, -, hpending, hsession, hoperation, hfailed, hview⟩
  · have hspares := h.spares hsame
    suffices hrest : u.Spares (u.handleError msg.fields effects) from
      ⟨(hspares.trans hrest).follows, (hspares.trans hrest).reports⟩
    unfold Turn.handleError
    split_ifs with hfatal
    · exact spares_fail ..
    · rw [heffects.resolve_left hfatal]
      split
      · exact spares_emit ..
      · next heq => cases heq
      · rfl
  · rw [hsession, hoperation, hfailed]
    refine h.answers hview rfl (fun ht id' => ?_) rfl (channel?_openFailed ..)
    have hbook := ht.book id
    rw [Ledger.state_of_channel hpending] at hbook
    refine (ClientEngine.book_removePending u.engine id id').trans ?_
    rw [show u.engine.book = t.engine.book from congrArg Ledger.book h.ledger]
    split_ifs with heq
    · rw [heq, show t.engine.book id = _ from hbook]
      rfl
    · rfl

/-- Messages of other kinds are not about a channel. -/
theorem spares_handleControl (effects : SessionEffects) (hready : msg.kind ≠ kindChannelReady)
    (herror : msg.kind ≠ kindError) : u.Spares (u.handleControl msg effects) := by
  refine handleControl_cases ?_ (fun h => absurd h hready) (fun _ => ?_)
    (fun _ _ _ => spares_emit ..) (fun _ => spares_emit ..) (fun h => absurd h herror) (.refl u)
  · unfold Turn.handleSessionReady
    dsimp only
    split <;> exact ⟨rfl, List.prefix_append _ _⟩
  · unfold Turn.handleHeartbeat
    refine Spares.trans ?_ (spares_heartbeat _)
    exact ⟨rfl, List.prefix_append _ _⟩

/-- **The tables follow an accepted control message**, when it can be followed. -/
theorem Accepted.handleControl (h : t.Accepted session u) {value : CborValue}
    (hvalid : validateControlMessage value = .ok msg)
    (hstep : t.engine.session.inner.view.step (Act.ofControl .server msg) = some session.view)
    (happly : applyControl t.engine.session.inner msg .server = (.ok effects, session))
    (hcan : canFollowControl t.engine sequence msg = true) :
    t.Follows (u.handleControl msg effects) ∧ t.Reports (u.handleControl msg effects) := by
  by_cases hready : msg.kind = kindChannelReady
  · have hcontrol : u.handleControl msg effects = u.handleChannelReady msg.fields effects := by
      rw [Turn.handleControl, hready]
      rfl
    rw [hcontrol]
    exact h.handleChannelReady hvalid hready (applyControl_channelReady hready happly)
  by_cases herror : msg.kind = kindError
  · have hcontrol : u.handleControl msg effects = u.handleError msg.fields effects := by
      rw [Turn.handleControl, herror]
      rfl
    rw [hcontrol]
    exact h.handleError (applyControl_error herror happly)
  · have hchannel := channel_of_quiet hstep happly herror hready
      (not_closeChannel_of_canFollow hcan happly)
    have hspares := (h.spares hchannel).trans (spares_handleControl effects hready herror)
    exact ⟨hspares.follows, hspares.reports⟩

end Control

/-! ## Host events -/

theorem spares_handleBootstrap (bytes : List UInt8) : t.Spares (t.handleBootstrap bytes) := by
  unfold handleBootstrap
  split
  · exact t.spares_failProtocol _
  · split
    · exact t.spares_failProtocol _
    · next effects session hingest =>
      obtain ⟨hrole, hchannel⟩ := Session.channel_of_ingestBootstrap hingest
      refine (t.spares_session hrole hchannel).trans ?_
      dsimp only
      split_ifs
      · exact ⟨rfl, (List.prefix_append _ _).trans (List.prefix_append _ _)⟩
      · exact spares_emit ..
      · rfl

theorem spares_handleSample (lib : Library) (wasm32 : Bool) (bufferId : UInt32)
    (frame : DecodedFrame) (declaredLen : ℕ) :
    t.Spares (handleSample lib wasm32 t bufferId frame declaredLen) := by
  unfold handleSample
  split
  · rfl
  · split_ifs
    · exact t.spares_fail _ _
    · exact (t.spares_issueLease bufferId frame).trans (spares_emit _ _)

theorem spares_handleServiceAction (bufferId : UInt32) (frame : DecodedFrame) (declaredLen : ℕ) :
    t.Spares (t.handleServiceAction bufferId frame declaredLen) := by
  unfold handleServiceAction
  split
  · rfl
  · by_cases hbounds : payloadOutOfBounds frame declaredLen
    · rw [if_pos hbounds]
      exact t.spares_fail _ _
    rw [if_neg hbounds]
    by_cases hcancel : frame.opcode = opcodeActionCancel
    · rw [if_pos hcancel]
    rw [if_neg hcancel]
    dsimp only
    split
    · exact t.spares_fail _ _
    · refine (t.spares_issueLease bufferId frame).trans ?_
      split
      · exact spares_emit _ _
      · exact spares_releaseLease _ _

/-- **The tables follow a frame**, when it can be followed. -/
theorem follows_handleFrame (lib : Library) (wasm32 : Bool) (bufferId : UInt32)
    {bytes : List UInt8} (hrole : t.engine.session.inner.role = .client)
    (hcan : canFollow t.engine bytes = true) :
    t.Follows (handleFrame lib wasm32 t bufferId bytes) ∧
      t.Reports (handleFrame lib wasm32 t bufferId bytes) := by
  have hspares {u : Turn} (h : t.Spares u) : t.Follows u ∧ t.Reports u := ⟨h.follows, h.reports⟩
  unfold handleFrame
  dsimp only
  split
  · exact hspares (t.spares_failProtocol _)
  · next frame hparse =>
    split
    · exact hspares (t.spares_failProtocol _)
    · next effects session hingest =>
      obtain ⟨hkept, hstep⟩ := Session.ingestFrame_refines hingest
      rw [hrole] at hstep
      by_cases hopcode : frame.opcode = opcodeControlCbor
      · rw [if_pos hopcode]
        rw [canFollow, hparse] at hcan
        cases hpayload : frame.payload with
        | application payload =>
          rw [Act.ofFrame, if_pos hopcode, hpayload, View.step] at hstep
          split_ifs at hstep
          cases hstep
        | control msg =>
          obtain ⟨-, value, hvalid⟩ := valid_of_parse hparse hpayload
          have happly := Session.ingestFrame_control hopcode hpayload hingest
          rw [hrole] at happly
          rw [Act.ofFrame, if_pos hopcode, hpayload] at hstep
          dsimp only at hcan hstep
          rw [hpayload] at hcan
          by_cases hseq : frame.sequence = UInt64.ofNat t.engine.controlSeqIn
          · rw [if_neg (by exact not_not_intro hseq)]
            have haccepted : t.Accepted session.inner ((t.modify fun e =>
                { e with session := session }).modify fun e =>
                  { e with controlSeqIn := e.controlSeqIn + 1 }) := ⟨hkept, rfl, rfl⟩
            exact haccepted.handleControl hvalid hstep happly hcan
          · rw [if_pos (by exact hseq)]
            have hchannel := channel_of_outOfTurn hstep happly hcan hseq
            exact hspares ((t.spares_session hkept hchannel).trans (spares_fail _ _ _))
      · rw [if_neg hopcode]
        refine hspares ((t.spares_session hkept
          (View.step_keepsChannels (Act.ofFrame_keepsChannels hopcode) hstep)).trans ?_)
        split_ifs
        · exact spares_handleSample ..
        · exact spares_handleServiceAction ..
        · rfl

/-- **The tables follow inbound bytes**, when they can be followed. -/
theorem follows_handleWsBytes (lib : Library) (wasm32 : Bool) (bufferId : UInt32)
    {bytes : List UInt8} (hrole : t.engine.session.inner.role = .client)
    (hcan : canFollow t.engine bytes = true) :
    t.Follows (handleWsBytes lib wasm32 t bufferId bytes) ∧
      t.Reports (handleWsBytes lib wasm32 t bufferId bytes) := by
  have hretain := t.spares_retain bufferId bytes
  have hevents : (t.retain bufferId bytes).2.outcome.events = t.outcome.events :=
    congrArg PollOutcome.events (t.outbound_retain bufferId bytes)
  have hlink : (t.retain bufferId bytes).2.engine.link = t.engine.link := t.link_retain bufferId bytes
  unfold handleWsBytes
  dsimp only
  generalize hr : t.retain bufferId bytes = r at hretain hevents hlink
  have hinner : r.2.Follows (if r.2.engine.session.phase.inSelectedPlane then
        handleFrame lib wasm32 r.2 r.1 bytes else r.2.handleBootstrap bytes) ∧
      r.2.Reports (if r.2.engine.session.phase.inSelectedPlane then
        handleFrame lib wasm32 r.2 r.1 bytes else r.2.handleBootstrap bytes) := by
    split_ifs
    · have hsession : r.2.engine.session = t.engine.session := congrArg Link.session hlink
      have hseq : r.2.engine.controlSeqIn = t.engine.controlSeqIn :=
        congrArg Link.controlSeqIn hlink
      refine follows_handleFrame lib wasm32 r.1 (by rw [hsession, hrole]) ?_
      rw [← hcan]
      unfold canFollow canFollowControl
      rw [hsession, hseq]
    · exact ⟨(spares_handleBootstrap bytes).follows, (spares_handleBootstrap bytes).reports⟩
  obtain ⟨hfollows, hreports⟩ := hinner
  have hfinal := hretain.trans_follows hfollows
  exact ⟨⟨hfinal.tracks, hfinal.events⟩, hretain.trans_reports hevents hreports⟩

theorem spares_handleTimer (nowMs : UInt64) : t.Spares (t.handleTimer nowMs) := by
  have hrearm (u : Turn) (deadline : UInt64) :
      u.Spares (u.modify fun e => { e with nextHeartbeatMs := some deadline }) :=
    ⟨rfl, List.prefix_refl _⟩
  unfold handleTimer
  dsimp only
  split_ifs
  · exact ⟨rfl, List.prefix_refl _⟩
  · split
    · exact ⟨rfl, List.prefix_refl _⟩
    · split_ifs
      · refine Spares.trans ?_ ((spares_heartbeat _).trans (hrearm _ _))
        exact ⟨rfl, List.prefix_refl _⟩
      · exact ⟨rfl, List.prefix_refl _⟩

/-- **The tables follow a host event.** -/
theorem follows_handleEvent (lib : Library) (wasm32 : Bool) {event : HostEvent}
    (hrole : t.engine.session.inner.role = .client)
    (hcan : ∀ bytes ∈ event.bytes?, canFollow t.engine bytes = true) :
    t.Follows (handleEvent lib wasm32 t event) ∧
      (event.bytes?.isSome = true → t.Reports (handleEvent lib wasm32 t event)) := by
  cases event with
  | wsBytes bufferId bytes =>
    obtain ⟨hfollows, hreports⟩ := follows_handleWsBytes lib wasm32 bufferId hrole (hcan bytes rfl)
    exact ⟨hfollows, fun _ => hreports⟩
  | timer nowMs => exact ⟨(spares_handleTimer nowMs).follows, nofun⟩
  | command cmd => exact ⟨follows_handleCommand lib cmd, nofun⟩
  | releaseLease leaseId => exact ⟨(t.spares_releaseLease leaseId).follows, nofun⟩

/-! ## Batches -/

/-- The turns of a batch, each with the event that comes next. -/
def steps (lib : Library) (wasm32 : Bool) : Turn → List HostEvent → List (Turn × HostEvent)
  | _, [] => []
  | t, event :: events =>
    (t, event) ::
      if (handleEvent lib wasm32 t event).engine.closed then []
      else steps lib wasm32 (handleEvent lib wasm32 t event) events

/-- **The tables follow a batch**, and each step of it reports what the peer did. -/
theorem follows_handleEvents (lib : Library) (wasm32 : Bool) {events : List HostEvent}
    (ht : t.engine.ledger.Tracks)
    (hcan : ∀ p ∈ steps lib wasm32 t events, ∀ bytes ∈ p.2.bytes?,
      canFollow p.1.engine bytes = true) :
    t.Follows (handleEvents lib wasm32 t events) ∧
      ∀ p ∈ steps lib wasm32 t events, p.2.bytes?.isSome = true →
        p.1.Reports (handleEvent lib wasm32 p.1 p.2) ∧
          (handleEvent lib wasm32 p.1 p.2).outcome.events <+:
            (handleEvents lib wasm32 t events).outcome.events := by
  induction events generalizing t with
  | nil =>
    refine ⟨(Spares.refl t).follows, fun p hp => ?_⟩
    rw [steps] at hp
    exact absurd hp List.not_mem_nil
  | cons event events ih =>
    rw [steps] at hcan ⊢
    have hfirst := hcan (t, event) List.mem_cons_self
    obtain ⟨hfollows, hreports⟩ := follows_handleEvent lib wasm32 ht.role hfirst
    rw [handleEvents]
    by_cases hclosed : (handleEvent lib wasm32 t event).engine.closed = true
    · rw [if_pos hclosed]
      refine ⟨hfollows, fun p hp hbytes => ?_⟩
      obtain rfl := List.mem_singleton.mp (by rwa [if_pos hclosed] at hp)
      exact ⟨hreports hbytes, List.prefix_refl _⟩
    · rw [if_neg hclosed] at hcan ⊢
      have hopen := Bool.eq_false_of_not_eq_true hclosed
      obtain ⟨hrest, hall⟩ := ih (hfollows.tracks ht hopen)
        fun p hp => hcan p (List.mem_cons_of_mem _ hp)
      refine ⟨⟨fun _ => hrest.tracks (hfollows.tracks ht hopen),
        hfollows.events.trans hrest.events⟩, fun p hp hbytes => ?_⟩
      rcases List.mem_cons.mp hp with rfl | hp
      · exact ⟨hreports hbytes, hrest.events⟩
      · exact hall p (by rwa [if_neg hclosed] at hp) hbytes

end Turn
end Engine
end Rclweb
