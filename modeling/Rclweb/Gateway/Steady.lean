import Rclweb.Gateway.Keeps

/-!
# Between two messages of a connection

The invariant of a connection has two parts.

`Held` is about the backend: an entity is created as often as it is destroyed or held by a
channel, and what a channel holds was created for this channel and this kind.  It holds at
every moment of every run, also when the connection is about to close.

`Steady` is about the session: the channels of the gateway are the active channels of the
session with the kinds they have there, no channel is pending, and what has to be received and
sent before a channel can be active was received and sent.  It holds between two messages of a
connection that has not decided to close.

`Turn.Good` is what a handler returns; what keeps the channels keeps it (`Good.keeps`).
-/

namespace Rclweb

open Rclweb.Frame Control Transition

namespace Gateway

variable {jwt : JwtLibrary}

/-! ## Entities in the history -/

/-- The entity an operation is about. -/
def BackendOp.entity? : BackendOp → Option EntityId
  | publish entity _ | call entity _ _ | sendServiceResponse entity _ _
  | sendActionGoal entity _ _ | cancelAction entity _ _ | sendActionFeedback entity _ _
  | sendActionResult entity _ _ | sendActionStatus entity _ _ | destroy entity => some entity
  | create _ _ | graphView => none

/-- The kind of channel whose messages lead to an operation. -/
def BackendOp.kind? : BackendOp → Option OperationKind
  | publish _ _ => some .topicPublish
  | call _ _ _ => some .serviceClient
  | sendServiceResponse _ _ _ => some .serviceServer
  | sendActionGoal _ _ _ | cancelAction _ _ _ => some .actionClient
  | sendActionFeedback _ _ _ | sendActionResult _ _ _ | sendActionStatus _ _ _ =>
    some .actionServer
  | create _ _ | graphView | destroy _ => none

/-- The entity a create operation returned. -/
def createdEntity : BackendEvent → Option EntityId
  | ⟨.create _ _, .ok entity⟩ => some entity
  | _ => none

/-- The entity a destroy operation was given. -/
def destroyedEntity : BackendEvent → Option EntityId
  | ⟨.destroy entity, _⟩ => some entity
  | _ => none

/-- A creation that succeeded. -/
def creation (kind : OperationKind) (spec : ChannelSpec) (entity : EntityId) : BackendEvent :=
  ⟨.create kind spec, (.ok entity : Except BackendError EntityId)⟩

/-- How often an entity was returned by a create operation. -/
def created (entity : EntityId) (history : List BackendEvent) : ℕ :=
  history.countP fun event => createdEntity event == some entity

/-- How often an entity was destroyed. -/
def destroyed (entity : EntityId) (history : List BackendEvent) : ℕ :=
  history.countP fun event => destroyedEntity event == some entity

section History

variable (entity : EntityId) (history : List BackendEvent)

theorem created_append (event : BackendEvent) :
    created entity (history ++ [event]) =
      created entity history + if createdEntity event = some entity then 1 else 0 := by
  simp [created, List.countP_append, List.countP_cons]

theorem destroyed_append (event : BackendEvent) :
    destroyed entity (history ++ [event]) =
      destroyed entity history + if destroyedEntity event = some entity then 1 else 0 := by
  simp [destroyed, List.countP_append, List.countP_cons]

end History

/-- **The entities of a connection are accounted for.** -/
structure Held (history : List BackendEvent) (conn : ConnState) : Prop where
  accounted : ∀ entity,
    created entity history = destroyed entity history + conn.held entity
  origin : ∀ id runtime, conn.channels.find? id = some runtime →
    ∃ spec, spec.channelId = id ∧ creation runtime.kind spec runtime.entity ∈ history

namespace Held

variable {history : List BackendEvent} {conn : ConnState}

/-- What a channel holds is not destroyed yet. -/
theorem live (h : Held history conn) {id : UInt32} {runtime : ChannelRuntime}
    (hfind : conn.channels.find? id = some runtime) :
    destroyed runtime.entity history < created runtime.entity history := by
  have hpos := ConnState.held_pos hfind
  have := h.accounted runtime.entity
  omega

/-- An operation that neither creates nor destroys. -/
theorem append (h : Held history conn) {event : BackendEvent}
    (hcreated : createdEntity event = none) (hdestroyed : destroyedEntity event = none) :
    Held (history ++ [event]) conn where
  accounted entity := by
    rw [created_append, destroyed_append, hcreated, hdestroyed]
    simpa using h.accounted entity
  origin id runtime hfind := by
    obtain ⟨spec, hid, hmem⟩ := h.origin id runtime hfind
    exact ⟨spec, hid, List.mem_append_left _ hmem⟩

/-- **A channel is added** for an entity that was just created. -/
theorem create (h : Held history conn) {id : UInt32} (hnone : conn.channels.find? id = none)
    {spec : ChannelSpec} (hspec : spec.channelId = id) (runtime : ChannelRuntime)
    {conn' : ConnState} (hconn : conn'.channels = conn.channels.set id runtime) :
    Held (history ++ [creation runtime.kind spec runtime.entity]) conn' where
  accounted entity := by
    have hcreated : createdEntity (creation runtime.kind spec runtime.entity) =
        some runtime.entity := rfl
    have hdestroyed : destroyedEntity (creation runtime.kind spec runtime.entity) = none := rfl
    have hheld : conn'.held entity = conn.held entity +
        if runtime.entity = entity then 1 else 0 := by
      rw [ConnState.held, hconn, Table.count_set_of_none hnone]
      simp [ConnState.held]
    rw [created_append, destroyed_append, hcreated, hdestroyed, hheld, h.accounted entity]
    simp only [Option.some.injEq, reduceCtorEq, if_false]
    omega
  origin id' runtime' hfind := by
    rw [hconn, Table.find?_set] at hfind
    split_ifs at hfind with hid
    · obtain rfl := Option.some.inj hfind
      exact ⟨spec, hspec.trans hid.symm, List.mem_append_right _ (List.mem_singleton.mpr rfl)⟩
    · obtain ⟨spec', hid', hmem⟩ := h.origin id' runtime' hfind
      exact ⟨spec', hid', List.mem_append_left _ hmem⟩

/-- **A channel is removed** whose entity was just destroyed. -/
theorem remove (h : Held history conn) {id : UInt32} {runtime : ChannelRuntime}
    (hfind : conn.channels.find? id = some runtime) {event : BackendEvent}
    (hcreated : createdEntity event = none)
    (hdestroyed : destroyedEntity event = some runtime.entity) {conn' : ConnState}
    (hconn : conn'.channels = conn.channels.remove id) :
    Held (history ++ [event]) conn' where
  accounted entity := by
    have hheld : conn.held entity = conn'.held entity +
        if runtime.entity = entity then 1 else 0 := by
      rw [ConnState.held, ConnState.held, hconn, Table.count_remove hfind]
      simp
    have haccounted := h.accounted entity
    rw [created_append, destroyed_append, hcreated, hdestroyed]
    simp only [Option.some.injEq, reduceCtorEq, if_false]
    omega
  origin id' runtime' hfind' := by
    rw [hconn, Table.find?_remove] at hfind'
    split_ifs at hfind' with hid
    obtain ⟨spec, hspec, hmem⟩ := h.origin id' runtime' hfind'
    exact ⟨spec, hspec, List.mem_append_left _ hmem⟩

end Held

/-! ## What was received and sent -/

/-- The bytes of a control message that satisfies `p`. -/
def IsControl (p : ControlMessage → Prop) (bytes : List UInt8) : Prop :=
  ∃ frame msg, parseFrame bytes defaultOptions = .ok frame ∧ frame.payload = .control msg ∧ p msg

/-- The decision on an Authenticate. -/
def decision (config : GatewayConfig jwt) (msg : ControlMessage) : AuthResult :=
  authenticate config ((fieldBytes msg 17).getD [])

/-- An Authenticate that is allowed, for a subject. -/
def Allows (config : GatewayConfig jwt) (subject : String) : List UInt8 → Prop :=
  IsControl fun msg => msg.kind = kindAuthenticate ∧ (decision config msg).allow = true ∧
    (decision config msg).subject = subject

def IsSessionReady : List UInt8 → Prop := IsControl fun msg => msg.kind = kindSessionReady

/-- A ChannelReady that allows a channel. -/
def Announces (id : UInt32) : List UInt8 → Prop :=
  IsControl fun msg => msg.kind = kindChannelReady ∧
    msg.get 29 = some (.unsigned id.toUInt64) ∧ msg.get 33 = some (.unsigned 0)

/-- **The session and the gateway agree.**  `opening` is a channel whose OpenChannel is not
answered yet. -/
structure Steady (config : GatewayConfig jwt) (received sent : List (List UInt8))
    (opening : Option UInt32) (conn : ConnState) : Prop where
  server : conn.session.inner.role = .server
  kinds : ∀ id, (conn.channels.find? id).map ChannelRuntime.kind = conn.view.activeKind id
  settled : ∀ id, conn.view.Pending id → opening = some id
  authenticated : conn.session.phase = .ready →
    (∃ b ∈ received, Allows config conn.subject b) ∧ ∃ b ∈ sent, IsSessionReady b
  open_ready : ∀ id runtime, conn.channels.find? id = some runtime →
    conn.session.phase = .ready ∧ id ≠ 0 ∧ runtime.priority ≤ 4 ∧ ∃ b ∈ sent, Announces id b

namespace Steady

variable {config : GatewayConfig jwt} {received sent : List (List UInt8)}
  {opening : Option UInt32} {conn : ConnState}

/-- More was received or sent. -/
theorem mono (h : Steady config received sent opening conn) {received' sent' : List (List UInt8)}
    (hreceived : received ⊆ received') (hsent : sent ⊆ sent') :
    Steady config received' sent' opening conn where
  server := h.server
  kinds := h.kinds
  settled := h.settled
  authenticated hready :=
    have ⟨⟨b, hb, hallows⟩, b', hb', hsession⟩ := h.authenticated hready
    ⟨⟨b, hreceived hb, hallows⟩, b', hsent hb', hsession⟩
  open_ready id runtime hfind :=
    have ⟨hready, hne, hpriority, b, hb, hannounces⟩ := h.open_ready id runtime hfind
    ⟨hready, hne, hpriority, b, hsent hb, hannounces⟩

/-- A pending channel is not in the table. -/
theorem find?_of_pending (h : Steady config received sent opening conn) {id : UInt32}
    (hpending : conn.view.Pending id) : conn.channels.find? id = none := by
  obtain ⟨kind, hkind⟩ := hpending
  have hmap := h.kinds id
  rw [View.activeKind, hkind, Option.map_eq_none_iff] at hmap
  exact hmap

end Steady

namespace Turn

/-- **What a handler returns**: the entities are accounted for and, unless the connection
closes, the session and the gateway agree; a fixed subject is still the subject, and no sample is
queued. -/
structure Good (config : GatewayConfig jwt) (received sent : List (List UInt8))
    (opening : Option UInt32) (fixed : Option String) (history : List BackendEvent) (t : Turn) :
    Prop where
  held : Held history t.conn
  subject : ∀ s ∈ fixed, t.conn.subject = s
  unsampled : ∀ b ∈ t.outcome.outbound, ¬ IsSample b
  steady : t.outcome.close = false →
    Steady config received (sent ++ t.outcome.outbound) opening t.conn

variable {config : GatewayConfig jwt} {received sent : List (List UInt8)}
  {opening : Option UInt32} {fixed : Option String} {history : List BackendEvent} {t u : Turn}

theorem Keeps.find? (h : t.Keeps u) {id : UInt32} {runtime : ChannelRuntime}
    (hfind : u.conn.channels.find? id = some runtime) :
    ∃ runtime', t.conn.channels.find? id = some runtime' ∧ runtime'.stem = runtime.stem := by
  have hmap := h.runtime id
  rw [hfind] at hmap
  exact Option.map_eq_some_iff.mp hmap.symm

theorem Keeps.held_iff (h : t.Keeps u) (hheld : Held history t.conn) : Held history u.conn where
  accounted entity := by rw [h.held, hheld.accounted]
  origin id runtime hfind := by
    obtain ⟨runtime', hfind', hstem⟩ := h.find? hfind
    obtain ⟨spec, hid, hmem⟩ := hheld.origin id runtime' hfind'
    have hkind : runtime'.kind = runtime.kind := congrArg Prod.fst hstem
    have hentity : runtime'.entity = runtime.entity := congrArg (fun s => s.2.1) hstem
    rw [hkind, hentity] at hmem
    exact ⟨spec, hid, hmem⟩

theorem Keeps.steady (h : t.Keeps u)
    (hsteady : Steady config received (sent ++ t.outcome.outbound) opening t.conn) :
    Steady config received (sent ++ u.outcome.outbound) opening u.conn := by
  obtain ⟨hserver, hquiet⟩ := h.server hsteady.server
  have hsent : sent ++ t.outcome.outbound ⊆ sent ++ u.outcome.outbound :=
    List.append_subset.mpr ⟨List.subset_append_left _ _,
      fun b hb => List.mem_append_right _ (h.outbound.subset hb)⟩
  have hmono := hsteady.mono (fun _ hb => hb) hsent
  refine ⟨hserver, fun id => ?_, fun id hp => hmono.settled id (hquiet.pending id hp),
    fun hready => ?_, fun id runtime hfind => ?_⟩
  · rw [hquiet.activeKind, ← hmono.kinds id]
    have hmap := congrArg (Option.map Prod.fst) (h.runtime id)
    rwa [Option.map_map, Option.map_map] at hmap
  · rw [h.subject]
    exact hmono.authenticated (hquiet.ready.mp hready)
  · obtain ⟨runtime', hfind', hstem⟩ := h.find? hfind
    obtain ⟨hready, hne, hpriority, hannounced⟩ := hmono.open_ready id runtime' hfind'
    have heq : runtime'.priority = runtime.priority := congrArg (fun s => s.2.2) hstem
    exact ⟨hquiet.ready.mpr hready, hne, heq ▸ hpriority, hannounced⟩

/-- **What keeps the channels keeps the invariant.** -/
theorem Good.keeps (h : t.Good config received sent opening fixed history) (hkeeps : t.Keeps u) :
    u.Good config received sent opening fixed history where
  held := hkeeps.held_iff h.held
  subject s hs := hkeeps.subject.trans (h.subject s hs)
  unsampled := hkeeps.unsampled h.unsampled
  steady hclose := by
    refine hkeeps.steady (h.steady ?_)
    by_contra htrue
    rw [hkeeps.close (by simpa using htrue)] at hclose
    cases hclose

/-- An operation that neither creates nor destroys. -/
theorem Good.append (h : t.Good config received sent opening fixed history) {event : BackendEvent}
    (hcreated : createdEntity event = none) (hdestroyed : destroyedEntity event = none) :
    t.Good config received sent opening fixed (history ++ [event]) :=
  ⟨h.held.append hcreated hdestroyed, h.subject, h.unsampled, h.steady⟩

/-- A turn that closes need not agree with the session. -/
theorem Good.of_close (hheld : Held history t.conn) (hsubject : ∀ s ∈ fixed, t.conn.subject = s)
    (hunsampled : ∀ b ∈ t.outcome.outbound, ¬ IsSample b) (hclose : t.outcome.close = true) :
    t.Good config received sent opening fixed history :=
  ⟨hheld, hsubject, hunsampled, fun hfalse => by rw [hclose] at hfalse; cases hfalse⟩

/-- A turn that gives up keeps what it had. -/
theorem GivesUp.good (h : t.GivesUp u) (hheld : Held history t.conn)
    (hsubject : ∀ s ∈ fixed, t.conn.subject = s)
    (hunsampled : ∀ b ∈ t.outcome.outbound, ¬ IsSample b) :
    u.Good config received sent opening fixed history := by
  refine .of_close ?_ ?_ ?_ h.close
  · rw [h.conn]
    exact hheld
  · rw [h.conn]
    exact hsubject
  · rw [h.outbound]
    exact hunsampled

/-- One more message that is no sample. -/
theorem unsampled_queue (hunsampled : ∀ b ∈ t.outcome.outbound, ¬ IsSample b) {bytes : List UInt8}
    (hbytes : ¬ IsSample bytes) : ∀ b ∈ (t.queue bytes).outcome.outbound, ¬ IsSample b :=
  (keeps_queue t hbytes).unsampled hunsampled

end Turn
end Gateway
end Rclweb
