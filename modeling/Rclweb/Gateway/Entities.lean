import Rclweb.Gateway.Invariant

/-!
# Channels, session and entities stay in step

Between two messages of a connection the channel table of the gateway is the set of channels that
are active in its session, with the same kinds.  Every entity is created as often as it is
destroyed or held, it is used only while it is live, and when the connection is over nothing is
left: every entity the backend returned was destroyed, as often as it was returned.
-/

namespace Rclweb
namespace Gateway

variable {jwt : JwtLibrary} {config : GatewayConfig jwt} {active : ActiveTransport} {l : Loop}

/-- The active channels of a session, read off its view. -/
theorem activeKind_view (s : Session) (id : UInt32) :
    s.inner.view.activeKind id =
      if s.channelState id = .active then s.operationKind id else none := by
  cases hget : s.inner.channels.get id with
  | none => simp [View.activeKind, SessionState.view_channel, Session.channelState,
      ChannelTable.state, hget]
  | some entry =>
    cases hstate : entry.state <;>
      simp [View.activeKind, SessionState.view_channel, SessionState.entryView,
        Session.channelState, Session.operationKind, ChannelTable.state, hget, hstate]

/-- **The channels of the gateway are the active channels of its session**, kind by kind. -/
theorem Steady.channels {received sent : List (List UInt8)} {opening : Option UInt32}
    {conn : ConnState} (h : Steady config received sent opening conn) (id : UInt32) :
    ((conn.channels.find? id).isSome = true ↔ conn.session.channelState id = .active) ∧
      ∀ runtime, conn.channels.find? id = some runtime →
        conn.session.operationKind id = some runtime.kind := by
  have hkinds := h.kinds id
  rw [activeKind_view] at hkinds
  cases hfind : conn.channels.find? id with
  | none =>
    rw [hfind] at hkinds
    split_ifs at hkinds with hactive
    · -- an active channel has a kind
      obtain ⟨entry, hentry⟩ : ∃ e, conn.session.inner.channels.get id = some e := by
        by_contra hnone
        push Not at hnone
        have hget := Option.eq_none_iff_forall_ne_some.mpr hnone
        simp [Session.channelState, ChannelTable.state, hget] at hactive
      simp [Session.operationKind, hentry] at hkinds
    · simp [hactive]
  | some runtime =>
    rw [hfind] at hkinds
    split_ifs at hkinds with hactive
    · refine ⟨by simp [hactive], fun runtime' heq => ?_⟩
      obtain rfl := Option.some.inj heq
      exact hkinds.symm
    · cases hkinds

/-- **Channels, session and entities stay in step**, in every reachable state: between two messages
the table of the gateway is the active part of the table of the session; an entity is handed to
the backend only while it was returned more often than destroyed; and when the connection is over,
every entity was destroyed exactly as often as it was returned. -/
theorem entities_in_step (h : Reachable config active l) :
    (l.phase = .selecting → ∀ id,
      ((l.conn.channels.find? id).isSome = true ↔ l.conn.session.channelState id = .active) ∧
        ∀ runtime, l.conn.channels.find? id = some runtime →
          l.conn.session.operationKind id = some runtime.kind) ∧
    (∀ before event after, l.history = before ++ event :: after →
      ∀ entity ∈ event.1.entity?, destroyed entity before < created entity before) ∧
    (∀ op, l.Asks op → ∀ entity ∈ op.entity?,
      destroyed entity l.history < created entity l.history) ∧
    (l.phase = .done → ∀ entity, destroyed entity l.history = created entity l.history) := by
  obtain ⟨received, hreceives⟩ := exists_receives h
  have hsound := sound_of_receives hreceives
  refine ⟨fun hphase id => (hsound.selecting hphase).2.2.channels id, hsound.used,
    fun op hop entity hentity => ?_, fun hdone entity => ?_⟩
  · rcases hsound.asks hop with ⟨bytes, -, hmay⟩ | ⟨e, rfl, hlive⟩
    · exact hmay.live entity hentity
    · obtain rfl := Option.some.inj hentity
      exact hlive
  · have hphase := hsound.phase
    rw [Loop.PhaseSound, hdone] at hphase
    exact (hphase entity).symm

/-- Until the end, what was created and not destroyed is held by a channel. -/
theorem held_of_selecting (h : Reachable config active l) (hphase : l.phase = .selecting)
    (entity : EntityId) :
    created entity l.history = destroyed entity l.history + l.conn.held entity := by
  obtain ⟨received, hreceives⟩ := exists_receives h
  exact ((sound_of_receives hreceives).selecting hphase).2.1.accounted entity

/-- An entity that was returned once is not handed to the backend after it was destroyed. -/
theorem not_used_after_destroy (h : Reachable config active l) {before after : List BackendEvent}
    {event : BackendEvent} (hhistory : l.history = before ++ event :: after) {entity : EntityId}
    (honce : created entity l.history = 1) (hentity : entity ∈ event.1.entity?) :
    ∀ earlier ∈ before, destroyedEntity earlier ≠ some entity := by
  obtain ⟨received, hreceives⟩ := exists_receives h
  have hlt := (sound_of_receives hreceives).used before event after hhistory entity hentity
  have hle : created entity before ≤ created entity l.history := by
    rw [hhistory, created, created, List.countP_append]
    omega
  have hzero : destroyed entity before = 0 := by omega
  rw [destroyed, List.countP_eq_zero] at hzero
  intro earlier hmem heq
  exact hzero earlier hmem (by rw [heq]; exact beq_self_eq_true _)

/-- A connection with a service open. -/
theorem entities_in_step_of_opened :
    ∃ l, Reachable sampleConfig .binaryWebSocket l ∧ l.conn.channels.entries.length = 1 ∧
      (l.phase = .selecting → ∀ id,
        ((l.conn.channels.find? id).isSome = true ↔ l.conn.session.channelState id = .active) ∧
          ∀ runtime, l.conn.channels.find? id = some runtime →
            l.conn.session.operationKind id = some runtime.kind) := by
  obtain ⟨l, hreach, hcheck⟩ := reachable_of_scripted (opened 2)
    (fun l => l.conn.channels.entries.length == 1) (by decide +kernel)
  exact ⟨l, hreach, beq_iff_eq.mp hcheck, (entities_in_step hreach).1⟩

end Gateway
end Rclweb
