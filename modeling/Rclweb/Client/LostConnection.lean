import Rclweb.Client.Unsettled

/-!
# Requests and the connection they were made on

When the connection is lost, the client rejects what still waits for an answer in some cases only: a
transport error rejects the opens of topics, a reconnect everything but those who wait for the
session, and a close nothing.  So a request outlives its connection unless nothing is left that the
event does not reject.
-/

namespace Rclweb
namespace Client

open Engine Worker

/-- The calls that wait for an answer of the peer. -/
def AppCall.asks : AppCall → Bool
  | .subscribe _ _ _ | .publish _ _ _ | .createServiceClient _ _ | .createServiceServer _ _ _
  | .createActionClient _ _ | .createActionServer _ _ _ | .call _ _ _ | .sendGoal _ _ _ => true
  | _ => false

namespace InlineClient

variable (s : InlineClient)

/-! ## The connection is lost -/

/-- **Whether the connection is lost** behind an act: the transport or the engine has reported it,
or the client was closed.  It is up again with the next session. -/
def lost (down : Bool) : InlineAct → Bool
  | .transportError _ | .closed _ | .app .close _ | .event (.closed _) _ => true
  | .event (.sessionReady _ _ _) _ => false
  | _ => down

/-- A reconnect is in progress. -/
def Reconnects : Prop := ∃ entry ∈ s.tasks.entries, entry.2.kind ≠ .create

/-- **The tables of what waits for an answer are empty.** -/
structure Idle : Prop where
  subs : s.pendingSubs = ∅
  pubs : s.pendingPubs = ∅
  services : s.pendingServices = ∅
  actions : s.pendingActions = ∅
  calls : s.pendingCalls = ∅
  results : s.pendingActionResults = ∅
  waiters : s.connectWaiters = []

/-- The method that settles a promise is running, or it can go on: it is behind a call of
`flushSync`, or `create` waits for a session that has come. -/
def Running (p : ℕ) : Prop :=
  (∃ f ∈ s.frames, f.promise? = some p) ∨
    ∃ waiter, (p, ⟨.create, .waiting waiter⟩) ∈ s.tasks.entries ∧ waiter ∈ s.settled.keys

/-- **No promise is pending**: the tables are empty, and every promise that was made is settled or
that of a method that is running. -/
structure NothingPending : Prop where
  idle : s.Idle
  settled : ∀ p < s.promises, p ∈ s.settled.keys ∨ s.Running p

/-! ## What is left behind -/

/-- Nothing waits but opens of topics. -/
structure OnlyTopics : Prop where
  services : s.pendingServices = ∅
  actions : s.pendingActions = ∅
  calls : s.pendingCalls = ∅
  results : s.pendingActionResults = ∅
  waiters : s.connectWaiters = []

/-- A close begins a reconnect. -/
def StartsReconnect : Prop :=
  s.reconnecting = false ∧ s.options.reconnect = true ∧ s.url ≠ "" ∧
    s.reconnectAttempts < s.options.max

/-- A task ends when it goes on. -/
def Ends (id : ℕ) : Prop :=
  match s.tasks.find? id with
  | none | some ⟨_, .calling none⟩ => False
  | some ⟨_, .calling (some _)⟩ => True
  | some ⟨_, .waiting waiter⟩ => waiter ∈ s.settled.keys ∧ s.channels.values = []
  | some ⟨_, .reopening _ promise rest⟩ =>
    match s.settled.find? promise with
    | none => False
    | some (.rejected _) => True
    | some (.resolved _) => rest = []

/-- **What an act must not leave behind**: where it reports that the connection is lost and rejects
nothing, nothing waits; where it rejects the opens of topics, nothing else does; on a connection
that is lost nothing is asked for, and a reconnect that ends leaves nothing. -/
def LeavesNothing (down : Bool) : InlineAct → Prop
  | .transportError _ => s.Reconnects ∨ s.OnlyTopics
  | .closed _ => s.Reconnects ∨ s.StartsReconnect ∨ s.Idle
  | .event (.closed _) _ | .app .close _ => s.Reconnects ∨ s.Idle
  | .app call _ => call.asks = true → down = true → s.Reconnects
  | .resume id => down = true → s.Ends id →
      s.Idle ∨ ∃ entry ∈ s.tasks.entries, entry.1 ≠ id ∧ entry.2.kind ≠ .create
  | _ => True

/-! ## Steps -/

variable {s} {down : Bool}

theorem Idle.onlyTopics (h : s.Idle) : s.OnlyTopics :=
  ⟨h.services, h.actions, h.calls, h.results, h.waiters⟩

theorem Idle.newPromise (h : s.Idle) : s.newPromise.Idle :=
  ⟨h.subs, h.pubs, h.services, h.actions, h.calls, h.results, h.waiters⟩

theorem Idle.call (h : s.Idle) (c : HostCall) : (s.call c).Idle :=
  ⟨h.subs, h.pubs, h.services, h.actions, h.calls, h.results, h.waiters⟩

theorem Idle.flushSync (h : s.Idle) (frame : Frame) : (s.flushSync frame).Idle :=
  ⟨h.subs, h.pubs, h.services, h.actions, h.calls, h.results, h.waiters⟩

theorem Idle.forget (h : s.Idle) (kind : ChannelKind) (channelId : ℕ) :
    (s.forget kind channelId).Idle := by
  cases kind <;> exact ⟨h.subs, h.pubs, h.services, h.actions, h.calls, h.results, h.waiters⟩

theorem tasks_onEvent (s : InlineClient) (payload : Payload) (event : AppEvent) :
    (s.onEvent payload event).tasks = s.tasks := by
  cases event
  all_goals
    simp only [onEvent, deliverSample, released]
    repeat' split
  all_goals rfl

/-- An event opens nothing. -/
theorem Idle.onEvent (h : s.Idle) (payload : Payload) (event : AppEvent) :
    (s.onEvent payload event).Idle := by
  cases event with
  | sessionReady => exact ⟨h.subs, h.pubs, h.services, h.actions, h.calls, h.results, rfl⟩
  | subscribed | subscribeFailed =>
    simp only [InlineClient.onEvent]
    rw [h.subs]
    exact h
  | published | publishFailed =>
    simp only [InlineClient.onEvent]
    rw [h.pubs]
    exact h
  | serviceReady | serviceFailed =>
    simp only [InlineClient.onEvent]
    rw [h.services]
    exact h
  | actionReady | actionFailed =>
    simp only [InlineClient.onEvent]
    rw [h.actions]
    exact h
  | operationCancelled =>
    refine ⟨h.subs, h.pubs, h.services, h.actions, ?_, ?_, h.waiters⟩
    · show s.pendingCalls.filter _ = ∅
      rw [h.calls]
      rfl
    · show s.pendingActionResults.filter _ = ∅
      rw [h.results]
      rfl
  | _ =>
    simp only [InlineClient.onEvent, deliverSample, released]
    repeat' split
    all_goals
      exact ⟨h.subs, h.pubs, h.services, h.actions, h.calls, h.results, h.waiters⟩

theorem Idle.returned (h : s.Idle) : s.returned.Idle := by
  unfold InlineClient.returned
  split
  · exact h
  · exact ⟨h.subs, h.pubs, h.services, h.actions, h.calls, h.results, h.waiters⟩
  · refine ⟨h.subs, h.pubs, h.services, h.actions, ?_, h.results, h.waiters⟩
    show s.pendingCalls.remove _ = ∅
    rw [h.calls, InsertionMap.remove_empty]
  · refine ⟨h.subs, h.pubs, h.services, h.actions, h.calls, ?_, h.waiters⟩
    show s.pendingActionResults.remove _ = ∅
    rw [h.results, InsertionMap.remove_empty]
  all_goals exact ⟨h.subs, h.pubs, h.services, h.actions, h.calls, h.results, h.waiters⟩

theorem tasks_returned (s : InlineClient) : s.returned.tasks = s.tasks := by
  unfold InlineClient.returned
  split <;> rfl

/-- A task that is noted down and is none of `create` is a reconnect in progress. -/
theorem reconnects_set {tasks : InsertionMap ℕ Task} {id : ℕ} {task : Task}
    (hkind : task.kind ≠ .create) :
    ∃ entry ∈ (tasks.set id task).entries, entry.2.kind ≠ .create :=
  ⟨(id, task), InsertionMap.mem_entries_set.mpr (.inl rfl), hkind⟩

/-- Without the task of a reconnect, another one is in progress or none. -/
theorem reconnects_remove {tasks : InsertionMap ℕ Task} {id : ℕ}
    (h : ∃ entry ∈ tasks.entries, entry.1 ≠ id ∧ entry.2.kind ≠ .create) :
    ∃ entry ∈ (tasks.remove id).entries, entry.2.kind ≠ .create := by
  obtain ⟨entry, hentry, hid, hkind⟩ := h
  exact ⟨entry, InsertionMap.mem_entries_remove.mpr ⟨hentry, hid⟩, hkind⟩

theorem reconnects_reconnect (hurl : s.url ≠ "") {kind : TaskKind} (hkind : kind ≠ .create)
    (thrown : Option String) : (s.reconnect kind thrown).Reconnects := by
  unfold InlineClient.reconnect
  rw [if_neg hurl]
  exact reconnects_set hkind

theorem reconnects_onClosed (h : s.StartsReconnect) (thrown : Option String) :
    (s.onClosed thrown).Reconnects := by
  obtain ⟨hnot, hoption, hurl, hmax⟩ := h
  unfold onClosed autoReconnect
  rw [if_neg (by rw [hnot]; exact Bool.false_ne_true), if_pos ⟨hoption, hurl⟩,
    if_neg (not_or.mpr ⟨Nat.not_le.mpr hmax, hurl⟩)]
  have hkind : TaskKind.autoReconnect ≠ .create := TaskKind.noConfusion
  exact reconnects_reconnect (s := { s with reconnectAttempts := s.reconnectAttempts + 1 }) hurl
    hkind thrown

theorem onClosed_of_not_starts (h : ¬ s.StartsReconnect) (thrown : Option String) :
    s.onClosed thrown = s := by
  unfold onClosed autoReconnect
  split_ifs with hreconnecting hoption hmax
  · rfl
  · rfl
  · obtain ⟨hattempts, hurl⟩ := not_or.mp hmax
    exact absurd ⟨Bool.eq_false_iff.mpr hreconnecting, hoption.1, hurl, Nat.not_le.mp hattempts⟩ h
  · rfl

theorem idle_app {call : AppCall} {thrown : Option String}
    (hleaves : s.LeavesNothing down (.app call thrown))
    (hsafe : down = true → ¬ s.Reconnects → s.Idle) (hdown : lost down (.app call thrown) = true)
    (hquiet : ¬ (s.app thrown call).Reconnects) : (s.app thrown call).Idle := by
  cases call with
  | reconnect =>
    by_cases hurl : s.url = ""
    · simp only [app, InlineClient.reconnect, hurl, if_pos] at hquiet ⊢
      have h := hsafe hdown hquiet
      exact ⟨h.subs, h.pubs, h.services, h.actions, h.calls, h.results, h.waiters⟩
    · exact absurd (reconnects_reconnect hurl TaskKind.noConfusion thrown) hquiet
  | close =>
    have h := hleaves.resolve_left hquiet
    exact ⟨h.subs, h.pubs, h.services, h.actions, h.calls, h.results, h.waiters⟩
  | subscribe | publish | createServiceClient | createServiceServer | createActionClient
  | createActionServer | call | sendGoal => exact absurd (hleaves rfl hdown) hquiet
  | onGraph =>
    simp only [app, onGraph] at hquiet ⊢
    split_ifs at hquiet ⊢
    all_goals
      have h := hsafe hdown hquiet
      exact ⟨h.subs, h.pubs, h.services, h.actions, h.calls, h.results, h.waiters⟩
  | send channelId typeName message =>
    simp only [app, send] at hquiet ⊢
    split at hquiet
    · exact ((hsafe hdown hquiet).newPromise.call _).flushSync _
    · have h := hsafe hdown hquiet
      exact ⟨h.subs, h.pubs, h.services, h.actions, h.calls, h.results, h.waiters⟩
  | closeChannel kind channelId =>
    have h : s.Idle := by
      cases kind <;> exact hsafe hdown hquiet
    exact ((h.forget kind channelId).newPromise.call _).flushSync _
  | _ =>
    have h := hsafe hdown hquiet
    exact ⟨h.subs, h.pubs, h.services, h.actions, h.calls, h.results, h.waiters⟩

/-- A task that ends leaves the tables alone. -/
theorem Idle.finish (h : s.Idle) (id : ℕ) (kind : TaskKind) : (s.finish id kind).Idle := by
  cases kind <;> exact ⟨h.subs, h.pubs, h.services, h.actions, h.calls, h.results, h.waiters⟩

theorem tasks_finish (s : InlineClient) (id : ℕ) (kind : TaskKind) :
    (s.finish id kind).tasks = s.tasks.remove id := by
  cases kind <;> rfl

theorem Idle.rehandle (h : s.Idle) (record : ChannelRecord) (value : Value) :
    (s.rehandle record value).Idle := by
  unfold InlineClient.rehandle
  split <;> exact ⟨h.subs, h.pubs, h.services, h.actions, h.calls, h.results, h.waiters⟩

theorem tasks_rehandle (s : InlineClient) (record : ChannelRecord) (value : Value) :
    (s.rehandle record value).tasks = s.tasks := by
  unfold InlineClient.rehandle
  split <;> rfl

theorem reconnects_reopen {id : ℕ} {kind : TaskKind} (hkind : kind ≠ .create)
    (record : ChannelRecord) (rest : List ChannelRecord) :
    (s.reopen id kind (record :: rest)).Reconnects :=
  reconnects_set hkind

theorem idle_resume (hwaits : s.Waits) {id : ℕ} (hleaves : s.LeavesNothing down (.resume id))
    (hsafe : down = true → ¬ s.Reconnects → s.Idle) (hdown : down = true)
    (hquiet : ¬ (s.resume id).Reconnects) : (s.resume id).Idle := by
  have hends : s.Ends id → (s.resume id).tasks = s.tasks.remove id → s.Idle := by
    intro hends htasks
    refine (hleaves hdown hends).resolve_right fun hother => hquiet ?_
    rw [Reconnects, htasks]
    exact reconnects_remove hother
  unfold Ends at hends
  unfold resume at hends hquiet ⊢
  split
  · next htask =>
    rw [htask] at hquiet
    exact hsafe hdown hquiet
  · next htask =>
    rw [htask] at hends
    have h := hends trivial rfl
    exact ⟨h.subs, h.pubs, h.services, h.actions, h.calls, h.results, h.waiters⟩
  · next htask =>
    rw [htask] at hquiet
    have hkind := kind_ne_create hwaits htask fun _ => Stage.noConfusion
    exact absurd (@reconnects_set s.tasks id ⟨_, .waiting s.promises⟩ hkind) hquiet
  · next kind waiter htask =>
    rw [htask] at hends hquiet
    dsimp only at hends hquiet
    split
    · next hsettled =>
      rw [hsettled] at hquiet
      exact hsafe hdown hquiet
    · next hsettled =>
      rw [hsettled] at hends hquiet
      have hmem := InsertionMap.mem_keys_of_find? hsettled
      dsimp only at hends hquiet
      split_ifs with hkind
      · rw [if_pos hkind] at hquiet
        refine (hsafe hdown ?_).finish id kind
        rintro ⟨entry, hentry, hreconnect⟩
        refine hquiet ⟨entry, ?_, hreconnect⟩
        rw [tasks_finish, InsertionMap.mem_entries_remove]
        refine ⟨hentry, fun hid => hreconnect ?_⟩
        have hfind : s.tasks.find? id = some entry.2 :=
          hid ▸ InsertionMap.find?_eq_some_iff.mpr hentry
        rw [htask, Option.some_inj] at hfind
        rw [← hfind]
        exact hkind
      · rw [if_neg hkind] at hends hquiet
        unfold reopenChannels at hends hquiet ⊢
        cases hvalues : s.channels.values with
        | nil =>
          rw [hvalues] at hends
          have h := hends ⟨hmem, rfl⟩ (tasks_finish ..)
          have h' : ({ s with channels := ∅ } : InlineClient).Idle :=
            ⟨h.subs, h.pubs, h.services, h.actions, h.calls, h.results, h.waiters⟩
          exact h'.finish id kind
        | cons record rest =>
          rw [hvalues] at hquiet
          exact absurd (reconnects_reopen hkind record rest) hquiet
  · next kind record promise rest htask =>
    have hkind := kind_ne_create hwaits htask fun _ => Stage.noConfusion
    rw [htask] at hends hquiet
    dsimp only at hends hquiet
    split
    · next hsettled =>
      rw [hsettled] at hquiet
      exact hsafe hdown hquiet
    · next hsettled =>
      rw [hsettled] at hends
      have h := hends trivial rfl
      exact ⟨h.subs, h.pubs, h.services, h.actions, h.calls, h.results, h.waiters⟩
    · next hsettled =>
      rw [hsettled] at hends hquiet
      dsimp only at hends hquiet
      cases rest with
      | nil =>
        exact ((hends rfl ((tasks_finish ..).trans (by rw [tasks_rehandle]))).rehandle ..).finish id
          kind
      | cons next rest => exact absurd (reconnects_reopen hkind next rest) hquiet

/-- **A step on a connection that is lost leaves the tables empty**, when it leaves nothing
behind. -/
theorem idle_step (hwaits : s.Waits) {act : InlineAct} (hleaves : s.LeavesNothing down act)
    (hsafe : down = true → ¬ s.Reconnects → s.Idle) (hdown : lost down act = true)
    (hquiet : ¬ (s.step act).Reconnects) : (s.step act).Idle := by
  cases act with
  | app call thrown => exact idle_app hleaves hsafe hdown hquiet
  | event event payload =>
    show (s.onEvent payload event).Idle
    have hsame : ¬ s.Reconnects := by
      rw [Reconnects, ← tasks_onEvent s payload event]
      exact hquiet
    cases event with
    | sessionReady => exact absurd hdown Bool.false_ne_true
    | closed phase => exact hleaves.resolve_left hsame
    | _ => exact Idle.onEvent (hsafe hdown hsame) payload _
  | sample channelId leaseId reading =>
    simp only [step, deliverSample] at hquiet ⊢
    repeat' split at hquiet
    all_goals
      have h := hsafe hdown hquiet
      exact ⟨h.subs, h.pubs, h.services, h.actions, h.calls, h.results, h.waiters⟩
  | transportError message =>
    have h := hleaves.resolve_left hquiet
    exact ⟨rfl, rfl, h.services, h.actions, h.calls, h.results, h.waiters⟩
  | closed thrown =>
    by_cases hstarts : s.StartsReconnect
    · exact absurd (reconnects_onClosed hstarts thrown) hquiet
    · have hsame := onClosed_of_not_starts hstarts thrown
      simp only [step, hsame] at hquiet ⊢
      exact (hleaves.resolve_left hquiet).resolve_left hstarts
  | returned =>
    refine (hsafe hdown ?_).returned
    rw [Reconnects, ← tasks_returned s]
    exact hquiet
  | resume id => exact idle_resume hwaits hleaves hsafe hdown hquiet
  | answered id answer =>
    simp only [step, answered] at hquiet ⊢
    repeat' split at hquiet
    all_goals
      have h := hsafe hdown hquiet
      exact ⟨h.subs, h.pubs, h.services, h.actions, h.calls, h.results, h.waiters⟩

/-! ## Runs -/

/-- The client and whether its connection is lost. -/
def watch (w : InlineClient × Bool) (act : InlineAct) : InlineClient × Bool :=
  (w.1.step act, lost w.2 act)

/-- Without a reconnect in progress, what is kept in an idle client is settled or running. -/
theorem Accounted.nothingPending (h : s.Accounted) (hquiet : ¬ s.Reconnects) (hidle : s.Idle) :
    s.NothingPending := by
  refine ⟨hidle, fun p hp => ?_⟩
  cases h.keeps p hp with
  | settled hp => exact .inl hp
  | sub hp => exact absurd (hidle.subs ▸ hp) List.not_mem_nil
  | pub hp => exact absurd (hidle.pubs ▸ hp) List.not_mem_nil
  | service hp => exact absurd (hidle.services ▸ hp) List.not_mem_nil
  | action hp => exact absurd (hidle.actions ▸ hp) List.not_mem_nil
  | call hp => exact absurd (hidle.calls ▸ hp) List.not_mem_nil
  | result hp => exact absurd (hidle.results ▸ hp) List.not_mem_nil
  | waiter hp => exact absurd (hidle.waiters ▸ hp) List.not_mem_nil
  | frame hf hp => exact .inr (.inl ⟨_, hf, hp⟩)
  | task hp =>
    obtain ⟨⟨id, kind, stage⟩, hentry, rfl⟩ := List.mem_map.mp hp
    obtain rfl : kind = .create := not_not.mp fun hkind => hquiet ⟨_, hentry, hkind⟩
    obtain ⟨waiter, rfl, hwaiter⟩ := h.waits _ hentry rfl
    refine .inr (.inr ⟨waiter, hentry, hwaiter.resolve_right fun hwaiting => ?_⟩)
    exact absurd (hidle.waiters ▸ hwaiting) List.not_mem_nil

/-- **No request outlives its connection**, in every run whose acts use fresh keys and leave nothing
behind. -/
theorem nothingPending_run {url : String} {options : ReconnectOptions} {connect : ConnectOptions}
    {acts : List InlineAct}
    (hmeets : Acts.Meets watch (fun w act => w.1.FreshKeys act ∧ w.1.LeavesNothing w.2 act)
      (create url options connect, false) acts)
    (hlost : (Acts.run watch (create url options connect, false) acts).2 = true)
    (hquiet : ¬ (Acts.run watch (create url options connect, false) acts).1.Reconnects) :
    (Acts.run watch (create url options connect, false) acts).1.NothingPending := by
  obtain ⟨haccounted, hsafe⟩ := Acts.invariant_run
    (fun w : InlineClient × Bool => w.1.Accounted ∧ (w.2 = true → ¬ w.1.Reconnects → w.1.Idle))
    (fun w act hw hact => ⟨hw.1.step hact.1, idle_step hw.1.waits hact.2 hw.2⟩)
    ⟨accounted_create url options connect, fun h => absurd h Bool.false_ne_true⟩ hmeets
  exact haccounted.nothingPending hquiet (hsafe hlost hquiet)

end InlineClient
end Client
end Rclweb
