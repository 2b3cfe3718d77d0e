import Rclweb.Client.LostConnection
import Rclweb.Client.WorkerUnsettled

/-!
# Requests of the worker's client and their connection

The client in front of the worker hears of a lost connection by two messages without a request.  It
rejects nothing at either, so a request outlives its connection unless nothing is pending then, or a
reconnect begins (`no_request_outlives_connection`).
-/

namespace Rclweb
namespace Client

open Worker

namespace WorkerClient

variable (s : WorkerClient)

/-! ## The connection is lost -/

/-- **Whether the connection is lost** behind an act: the worker has reported an error or a close.
It is up again with the next session. -/
def lost (down : Bool) : WorkerAct → Bool
  | .message (.error none _) _ | .message (.closed none) _ => true
  | .message (.connected _) _ => false
  | _ => down

/-- The connection is lost, or the client was closed. -/
def Gone (down : Bool) : Prop := down = true ∨ s.terminated = true

/-- A reconnect is in progress. -/
def Reconnects : Prop := ∃ entry ∈ s.tasks.entries, entry.2.kind.reconnects = true

/-- The method that settles a promise can go on. -/
def Running (p : ℕ) : Prop :=
  ∃ task, (p, task) ∈ s.tasks.entries ∧ task.kind.reconnects = false ∧
    task.stage.promise ∈ s.settled.keys

/-- **No promise is pending**: no request waits, and every promise that was made is settled or that
of a method that can go on. -/
structure NothingPending : Prop where
  pending : s.pending = ∅
  settled : ∀ p < s.promises, p ∈ s.settled.keys ∨ s.Running p

/-! ## What is left behind -/

/-- A close begins a reconnect. -/
def StartsReconnect : Prop :=
  s.reconnecting = false ∧ s.options.reconnect = true ∧ s.url ≠ "" ∧
    s.reconnectAttempts < s.options.max

/-- The reconnect of a task ends when it goes on. -/
def Ends (id : ℕ) : Prop :=
  ∃ task, s.tasks.find? id = some task ∧ task.kind.reconnects = true ∧
    match s.settled.find? task.stage.promise, task.stage with
    | none, _ => False
    | some (.rejected _), _ => True
    | some (.resolved _), .initializing _ => False
    | some (.resolved _), .requested _ => s.channels.values = []
    | some (.resolved _), .reopening _ _ rest => rest = []

/-- A task asks for the connection when it goes on. -/
def Asks (id : ℕ) : Prop :=
  ∃ task promise value, s.tasks.find? id = some task ∧ task.stage = .initializing promise ∧
    s.settled.find? promise = some (.resolved value)

/-- A task closes the client when it goes on. -/
def Closes (id : ℕ) : Prop :=
  ∃ promise value, s.tasks.find? id = some ⟨.close, .requested promise⟩ ∧
    s.settled.find? promise = some (.resolved value)

end WorkerClient

/-- The calls that post a request. -/
def AppCall.posts : AppCall → Bool
  | .reconnect | .onGraph _ | .onMessage _ _ _ | .onFeedback _ _ | .onStatus _ _
  | .send _ _ _ => false
  | _ => true

namespace WorkerClient

variable (s : WorkerClient)

/-- **What an act must not leave behind**: nothing waits where the connection is reported lost or
the client is closed, unless a reconnect is in progress or begins; on a connection that is lost
nothing is asked for, and a reconnect that ends leaves nothing. -/
def LeavesNothing (down : Bool) : WorkerAct → Prop
  | .message (.error none _) _ => s.terminated = true ∨ s.Reconnects ∨ s.pending = ∅
  | .message (.closed none) _ =>
    s.terminated = true ∨ s.Reconnects ∨ s.StartsReconnect ∨ s.pending = ∅
  | .app (.send channelId typeName message) =>
    (publishMessage s.nextRequest channelId typeName message).isOk = true → s.Gone down →
      s.Reconnects
  | .app call => call.posts = true → s.Gone down → s.Reconnects
  | .resume id =>
    (s.Asks id → s.Gone down → s.Reconnects) ∧ (s.Closes id → s.Reconnects ∨ s.pending = ∅) ∧
      (s.Ends id → s.Gone down → s.pending = ∅ ∨
        ∃ entry ∈ s.tasks.entries, entry.1 ≠ id ∧ entry.2.kind.reconnects = true)
  | _ => True

/-! ## Steps -/

variable {s} {down : Bool}

/-- **Requests are answered, and none is made.** -/
structure OnlyAnswers (s s' : WorkerClient) : Prop where
  tasks : s'.tasks = s.tasks
  terminated : s'.terminated = s.terminated
  pending : s.pending = ∅ → s'.pending = ∅

theorem OnlyAnswers.refl (s : WorkerClient) : OnlyAnswers s s :=
  ⟨rfl, rfl, fun h => h⟩

theorem OnlyAnswers.trans {t u : WorkerClient} (h : OnlyAnswers s t) (h' : OnlyAnswers t u) :
    OnlyAnswers s u :=
  ⟨h'.tasks.trans h.tasks, h'.terminated.trans h.terminated, fun hempty =>
    h'.pending (h.pending hempty)⟩

theorem onlyAnswers_answer (requestId : ℕ) (value : Value) :
    OnlyAnswers s (s.answer requestId value) := by
  unfold answer
  split
  · exact .refl s
  · next hfind =>
    refine ⟨rfl, rfl, fun hempty => ?_⟩
    rw [hempty] at hfind
    cases hfind

theorem onlyAnswers_refuse (requestId : ℕ) (message : String) :
    OnlyAnswers s (s.refuse requestId message) := by
  unfold refuse
  split
  · exact .refl s
  · next request hfind =>
    have hsame : (s.reject request message).tasks = s.tasks ∧
        (s.reject request message).terminated = s.terminated := by
      unfold reject
      cases request.cleanup <;> exact ⟨rfl, rfl⟩
    exact {
      tasks := hsame.1
      terminated := hsame.2
      pending := fun hempty => by
        rw [hempty] at hfind
        cases hfind }

theorem onlyAnswers_deliver (handler : Option ℕ) (invocation : ℕ → Invocation) :
    OnlyAnswers s (s.deliver handler invocation) := by
  cases handler <;> exact ⟨rfl, rfl, fun h => h⟩

theorem onlyAnswers_clearInflight (channelId requestId : ℕ) :
    OnlyAnswers s (s.clearInflight channelId requestId) := by
  unfold clearInflight
  split <;> exact ⟨rfl, rfl, fun h => h⟩

theorem onlyAnswers_operationCancelled (channelId : ℕ) (message : String) :
    OnlyAnswers s (s.operationCancelled channelId message) := by
  have hfold : ∀ (requests : List ℕ) (s : WorkerClient),
      OnlyAnswers s (requests.foldl (fun s requestId => s.refuse requestId message) s) := by
    intro requests
    induction requests with
    | nil => exact .refl
    | cons requestId requests ih =>
      exact fun s => (onlyAnswers_refuse requestId message).trans (ih _)
  exact (hfold _ s).trans ⟨rfl, rfl, fun h => h⟩

/-- A message makes no request, but for a close without a request. -/
theorem onlyAnswers_onWorker (decoded : Option SampleContent) {msg : WorkerToMain}
    (hmsg : msg ≠ .closed none) : OnlyAnswers s (s.onWorker decoded msg) := by
  cases msg with
  | ready =>
    simp only [onWorker, WorkerClient.ready]
    split
    · exact .refl s
    · exact onlyAnswers_answer ..
  | connected | published | serviceReady | actionReady | ack => exact onlyAnswers_answer ..
  | subscribed =>
    simp only [onWorker, WorkerClient.subscribed]
    split
    · exact .refl s
    · have hchannels : ∀ channels, OnlyAnswers s { s with channels := channels } :=
        fun _ => ⟨rfl, rfl, fun h => h⟩
      exact (hchannels _).trans (onlyAnswers_answer ..)
  | subscribeFailed | publishFailed | serviceFailed | actionFailed => exact onlyAnswers_refuse ..
  | serviceResponse | actionResult =>
    exact (onlyAnswers_clearInflight ..).trans (onlyAnswers_answer ..)
  | operationCancelled => exact onlyAnswers_operationCancelled ..
  | error requestId =>
    cases requestId with
    | none => exact .refl s
    | some requestId => exact onlyAnswers_refuse ..
  | closed requestId =>
    cases requestId with
    | none => exact absurd rfl hmsg
    | some requestId => exact onlyAnswers_answer ..
  | sample channelId leaseId data =>
    simp only [onWorker]
    split <;> exact ⟨rfl, rfl, fun h => h⟩
  | sampleHostCdr channelId kind view =>
    simp only [onWorker]
    split
    · exact .refl s
    · exact onlyAnswers_deliver ..
  | samplePointCloud2 | sampleGenerated | actionGoal | actionFeedback | actionStatus =>
    exact onlyAnswers_deliver ..
  | serviceRequest =>
    simp only [onWorker, WorkerClient.serviceRequest]
    split <;> exact ⟨rfl, rfl, fun h => h⟩
  | _ => exact ⟨rfl, rfl, fun h => h⟩

/-- A step that makes no request leaves an idle client idle. -/
theorem OnlyAnswers.idle {s' : WorkerClient} (h : OnlyAnswers s s')
    (hsafe : s.Gone down → ¬ s.Reconnects → s.pending = ∅) (hgone : s'.Gone down)
    (hquiet : ¬ s'.Reconnects) : s'.pending = ∅ := by
  rw [Gone, h.terminated] at hgone
  rw [Reconnects, h.tasks] at hquiet
  exact h.pending (hsafe hgone hquiet)

theorem reconnects_set {tasks : InsertionMap ℕ WorkerTask} {id : ℕ} {kind : WorkerTaskKind}
    {stage : WorkerStage} (hkind : kind.reconnects = true) :
    ∃ entry ∈ (tasks.set id ⟨kind, stage⟩).entries, entry.2.kind.reconnects = true :=
  ⟨(id, ⟨kind, stage⟩), InsertionMap.mem_entries_set.mpr (.inl rfl), hkind⟩

theorem reconnects_reconnect {kind : WorkerTaskKind} (hkind : kind.reconnects = true) :
    (s.reconnect kind).Reconnects :=
  reconnects_set hkind

theorem reconnects_onClosed (h : s.StartsReconnect) : s.onClosed.Reconnects := by
  obtain ⟨hnot, hoption, hurl, hmax⟩ := h
  have hcond : (!s.reconnecting && s.options.reconnect && decide (s.url ≠ "")) = true := by
    rw [hnot, hoption, decide_eq_true hurl]
    rfl
  unfold onClosed autoReconnect
  rw [if_pos hcond, if_neg (not_or.mpr ⟨Nat.not_le.mpr hmax, hurl⟩)]
  have hkind : WorkerTaskKind.autoReconnect.reconnects = true := rfl
  exact reconnects_reconnect (s := { s with reconnectAttempts := s.reconnectAttempts + 1 }) hkind

theorem onClosed_of_not_starts (h : ¬ s.StartsReconnect) : s.onClosed = s := by
  unfold onClosed autoReconnect
  split_ifs with hcond hmax
  · rfl
  · obtain ⟨hattempts, hurl⟩ := not_or.mp hmax
    simp only [Bool.and_eq_true, Bool.not_eq_true'] at hcond
    exact absurd ⟨hcond.1.1, hcond.1.2, hurl, Nat.not_le.mp hattempts⟩ h
  · rfl

theorem idle_app (haccounted : s.Accounted) {call : AppCall}
    (hleaves : s.LeavesNothing down (.app call))
    (hsafe : s.Gone down → ¬ s.Reconnects → s.pending = ∅) (hgone : (s.app call).Gone down)
    (hquiet : ¬ (s.app call).Reconnects) : (s.app call).pending = ∅ := by
  cases call with
  | reconnect => exact absurd (reconnects_reconnect rfl) hquiet
  | close =>
    obtain ⟨entry, hentry, hkind⟩ := hleaves rfl hgone
    refine absurd ⟨entry, InsertionMap.mem_entries_set.mpr (.inr ⟨hentry, ?_⟩), hkind⟩ hquiet
    exact Nat.ne_of_lt (haccounted.ids entry.1 (List.mem_map_of_mem hentry))
  | onGraph =>
    simp only [app, onGraph] at hgone hquiet ⊢
    split_ifs at hgone hquiet ⊢
    all_goals exact hsafe hgone hquiet
  | send channelId typeName message =>
    simp only [app, send] at hgone hquiet ⊢
    cases hmessage : publishMessage s.nextRequest channelId typeName message with
    | ok msg =>
      rw [hmessage] at hgone hquiet
      have hok : (publishMessage s.nextRequest channelId typeName message).isOk = true := by
        rw [hmessage]
        rfl
      exact absurd (hleaves hok hgone) hquiet
    | error thrown =>
      rw [hmessage] at hgone hquiet
      exact hsafe hgone hquiet
  | onMessage | onFeedback | onStatus => exact hsafe hgone hquiet
  | closeChannel kind channelId =>
    cases kind <;> exact absurd (hleaves rfl hgone) hquiet
  | _ => exact absurd (hleaves rfl hgone) hquiet

theorem onlyAnswers_rehandle (record : ChannelRecord) (value : Value) :
    OnlyAnswers s (s.rehandle record value) := by
  unfold rehandle
  split <;> exact ⟨rfl, rfl, fun h => h⟩

theorem finish_eq (s : WorkerClient) (id : ℕ) (kind : WorkerTaskKind) :
    (s.finish id kind).tasks = s.tasks.remove id ∧ (s.finish id kind).pending = s.pending ∧
      (kind ≠ .close → (s.finish id kind).terminated = s.terminated) := by
  cases kind
  · exact ⟨rfl, rfl, fun _ => rfl⟩
  · exact ⟨rfl, rfl, fun h => absurd rfl h⟩
  · exact ⟨rfl, rfl, fun _ => rfl⟩
  · exact ⟨rfl, rfl, fun _ => rfl⟩

theorem fail_eq (s : WorkerClient) (id : ℕ) (kind : WorkerTaskKind) (message : String) :
    (s.fail id kind message).tasks = s.tasks.remove id ∧
      (s.fail id kind message).pending = s.pending ∧
      (s.fail id kind message).terminated = s.terminated := by
  cases kind <;> exact ⟨rfl, rfl, rfl⟩

/-- When a task ends that is none of a reconnect, a reconnect stays in progress. -/
theorem reconnects_of_remove {id : ℕ} {task : WorkerTask} (htask : s.tasks.find? id = some task)
    (hkind : task.kind.reconnects = false) (h : s.Reconnects) :
    ∃ entry ∈ (s.tasks.remove id).entries, entry.2.kind.reconnects = true := by
  obtain ⟨⟨id', task'⟩, hentry, hreconnects⟩ := h
  refine ⟨_, InsertionMap.mem_entries_remove.mpr ⟨hentry, ?_⟩, hreconnects⟩
  rintro rfl
  rw [InsertionMap.find?_eq_some_iff.mpr hentry, Option.some_inj] at htask
  rw [htask, hkind] at hreconnects
  exact Bool.false_ne_true hreconnects

/-- A task has ended, and the requests are as they were. -/
theorem idle_of_ended {s' : WorkerClient} {id : ℕ} {task : WorkerTask}
    (htask : s.tasks.find? id = some task) (htasks : s'.tasks = s.tasks.remove id)
    (hquiet : ¬ s'.Reconnects) (hsafe : ¬ s.Reconnects → s.pending = ∅)
    (hends : task.kind.reconnects = true → s.pending = ∅ ∨
      ∃ entry ∈ s.tasks.entries, entry.1 ≠ id ∧ entry.2.kind.reconnects = true) :
    s.pending = ∅ := by
  rw [Reconnects, htasks] at hquiet
  cases hkind : task.kind.reconnects with
  | true =>
    refine (hends hkind).resolve_right fun ⟨entry, hentry, hid, hreconnects⟩ => hquiet ?_
    exact ⟨entry, InsertionMap.mem_entries_remove.mpr ⟨hentry, hid⟩, hreconnects⟩
  | false => exact hsafe fun h => hquiet (reconnects_of_remove htask hkind h)

theorem idle_reopen {id : ℕ} {kind : WorkerTaskKind} {stage : WorkerStage}
    (hkind : kind.reconnects = true) (htask : s.tasks.find? id = some ⟨kind, stage⟩)
    {records : List ChannelRecord} (hgone : (s.reopen id kind records).Gone down)
    (hquiet : ¬ (s.reopen id kind records).Reconnects)
    (hsafe : s.Gone down → ¬ s.Reconnects → s.pending = ∅)
    (hends : records = [] → s.Gone down → s.pending = ∅ ∨
      ∃ entry ∈ s.tasks.entries, entry.1 ≠ id ∧ entry.2.kind.reconnects = true) :
    (s.reopen id kind records).pending = ∅ := by
  cases records with
  | nil =>
    obtain ⟨htasks, hpending, hterminated⟩ := finish_eq s id kind
    have hclose : kind ≠ .close := fun h => by
      rw [h] at hkind
      exact Bool.false_ne_true hkind
    have hgone : s.Gone down := hgone.imp_right fun h => (hterminated hclose).symm.trans h
    exact hpending.trans (idle_of_ended htask htasks hquiet (hsafe hgone) fun _ => hends rfl hgone)
  | cons record rest => exact absurd (reconnects_set hkind) hquiet

theorem idle_resume (haccounted : s.Accounted) {id : ℕ}
    (hleaves : s.LeavesNothing down (.resume id))
    (hsafe : s.Gone down → ¬ s.Reconnects → s.pending = ∅) (hgone : (s.resume id).Gone down)
    (hquiet : ¬ (s.resume id).Reconnects) : (s.resume id).pending = ∅ := by
  obtain ⟨hasks, hcloses, hends⟩ := hleaves
  cases htask : s.tasks.find? id with
  | none =>
    simp only [resume, htask] at hgone hquiet ⊢
    exact hsafe hgone hquiet
  | some task =>
  obtain ⟨kind, stage⟩ := task
  cases hsettled : s.settled.find? stage.promise with
  | none =>
    simp only [resume, htask, hsettled] at hgone hquiet ⊢
    exact hsafe hgone hquiet
  | some outcome =>
  cases outcome with
  | rejected message =>
    simp only [resume, htask, hsettled] at hgone hquiet ⊢
    obtain ⟨htasks, hpending, hterminated⟩ := fail_eq s id kind message
    have hgone : s.Gone down := hgone.imp_right hterminated.symm.trans
    refine hpending.trans (idle_of_ended htask htasks hquiet (hsafe hgone) fun hkind => ?_)
    exact hends ⟨_, htask, hkind, by rw [hsettled]; trivial⟩ hgone
  | resolved value =>
  cases stage with
  | initializing promise =>
    simp only [resume, htask, hsettled] at hgone hquiet ⊢
    obtain ⟨⟨id', task'⟩, hentry, hreconnects⟩ :=
      hasks ⟨_, promise, value, htask, rfl, hsettled⟩ hgone
    by_cases hid : id' = id
    · subst hid
      rw [InsertionMap.find?_eq_some_iff.mpr hentry, Option.some_inj] at htask
      subst htask
      exact absurd (reconnects_set hreconnects) hquiet
    · exact absurd ⟨_, InsertionMap.mem_entries_set.mpr (.inr ⟨hentry, hid⟩), hreconnects⟩ hquiet
  | requested promise =>
    have hreopens : kind.reconnects = true → s.resume id = s.reopenChannels id kind := by
      intro hkind
      simp only [resume, htask, hsettled]
      cases kind <;> first | rfl | exact absurd hkind Bool.false_ne_true
    cases hkind : kind.reconnects with
    | true =>
      rw [hreopens hkind] at hgone hquiet ⊢
      refine idle_reopen (s := { s with channels := ∅ }) hkind htask hgone hquiet hsafe
        fun hempty hgone => ?_
      exact hends ⟨_, htask, hkind, by rw [hsettled]; exact hempty⟩ hgone
    | false =>
      have hfinish : s.resume id = s.finish id kind := by
        simp only [resume, htask, hsettled]
        cases kind <;> first | rfl | exact absurd hkind.symm Bool.false_ne_true
      rw [hfinish] at hgone hquiet ⊢
      obtain ⟨htasks, hpending, hterminated⟩ := finish_eq s id kind
      refine hpending.trans ?_
      have hsame : ¬ s.Reconnects := fun h => hquiet (by
        rw [Reconnects, htasks]
        exact reconnects_of_remove htask hkind h)
      by_cases hclose : kind = .close
      · subst hclose
        exact (hcloses ⟨promise, value, htask, hsettled⟩).resolve_left hsame
      · exact hsafe (hgone.imp_right (hterminated hclose).symm.trans) hsame
  | reopening record promise rest =>
    simp only [resume, htask, hsettled] at hgone hquiet ⊢
    have hkind : kind.reconnects = true :=
      (haccounted.awaits _ (InsertionMap.find?_eq_some_iff.mp htask)).2 _ _ _ rfl
    have hrehandle := onlyAnswers_rehandle (s := s) record value
    have hsafe' : (s.rehandle record value).Gone down → ¬ (s.rehandle record value).Reconnects →
        (s.rehandle record value).pending = ∅ := by
      intro hgone hquiet
      rw [Gone, hrehandle.terminated] at hgone
      rw [Reconnects, hrehandle.tasks] at hquiet
      exact hrehandle.pending (hsafe hgone hquiet)
    refine idle_reopen hkind (hrehandle.tasks ▸ htask) hgone hquiet hsafe'
      fun hempty hgone => ?_
    rw [Gone, hrehandle.terminated] at hgone
    rw [hrehandle.tasks]
    exact (hends ⟨_, htask, hkind, by rw [hsettled]; exact hempty⟩ hgone).imp_left
      hrehandle.pending

/-- **A step leaves no request behind**, when nothing is left behind. -/
theorem idle_step (haccounted : s.Accounted) {act : WorkerAct}
    (hleaves : s.LeavesNothing down act)
    (hsafe : s.Gone down → ¬ s.Reconnects → s.pending = ∅)
    (hgone : (s.step act).Gone (lost down act)) (hquiet : ¬ (s.step act).Reconnects) :
    (s.step act).pending = ∅ := by
  cases act with
  | app call => exact idle_app haccounted hleaves hsafe hgone hquiet
  | message msg decoded =>
    simp only [step] at hgone hquiet ⊢
    by_cases hterminated : s.terminated = true
    · rw [if_pos hterminated] at hquiet ⊢
      exact hsafe (.inr hterminated) hquiet
    rw [if_neg hterminated] at hgone hquiet ⊢
    by_cases hclosed : msg = .closed none
    · subst hclosed
      have hleaves := hleaves.resolve_left hterminated
      by_cases hstarts : s.StartsReconnect
      · exact absurd (reconnects_onClosed hstarts) hquiet
      · simp only [onWorker, onClosed_of_not_starts hstarts] at hquiet ⊢
        exact (hleaves.resolve_left hquiet).resolve_left hstarts
    · have honly := onlyAnswers_onWorker (s := s) decoded hclosed
      have hsame := hquiet
      rw [Reconnects, honly.tasks] at hsame
      cases msg with
      | error requestId message =>
        cases requestId with
        | none => exact (hleaves.resolve_left hterminated).resolve_left hsame
        | some requestId => exact honly.idle hsafe hgone hquiet
      | closed requestId =>
        cases requestId with
        | none => exact absurd rfl hclosed
        | some requestId => exact honly.idle hsafe hgone hquiet
      | connected requestId =>
        rw [Gone, honly.terminated] at hgone
        exact absurd (hgone.resolve_right hterminated) Bool.false_ne_true
      | _ => exact honly.idle hsafe hgone hquiet
  | resume id => exact idle_resume haccounted hleaves hsafe hgone hquiet
  | answered id answer =>
    have honly : OnlyAnswers s (s.answered id answer) := by
      unfold answered
      repeat' split
      all_goals exact ⟨rfl, rfl, fun h => h⟩
    exact honly.idle hsafe hgone hquiet

/-! ## Runs -/

/-- The client and whether its connection is lost. -/
def watch (w : WorkerClient × Bool) (act : WorkerAct) : WorkerClient × Bool :=
  (w.1.step act, lost w.2 act)

/-- Without a reconnect in progress, what is kept without requests is settled or can go on. -/
theorem Accounted.nothingPending (h : s.Accounted) (hquiet : ¬ s.Reconnects)
    (hempty : s.pending = ∅) : s.NothingPending := by
  refine ⟨hempty, fun p hp => ?_⟩
  cases h.keeps p hp with
  | settled hp => exact .inl hp
  | pending hp => exact absurd (hempty ▸ hp) List.not_mem_nil
  | task hp =>
    obtain ⟨⟨id, task⟩, hentry, rfl⟩ := List.mem_map.mp hp
    refine .inr ⟨task, hentry, ?_, (h.awaits _ hentry).1.resolve_right ?_⟩
    · exact Bool.eq_false_iff.mpr fun hkind => hquiet ⟨_, hentry, hkind⟩
    · rintro ⟨request, hrequest, -⟩
      exact absurd (hempty ▸ hrequest) List.not_mem_nil

theorem nothingPending_run {url wasmUrl : String} {options : ReconnectOptions}
    {connectOptions : ConnectOptions} {acts : List WorkerAct}
    (hmeets : Acts.Meets watch (fun w act => w.1.LeavesNothing w.2 act)
      (create url wasmUrl options connectOptions, false) acts)
    (hgone : let w := Acts.run watch (create url wasmUrl options connectOptions, false) acts
      w.1.Gone w.2)
    (hquiet : ¬ (Acts.run watch (create url wasmUrl options connectOptions, false)
      acts).1.Reconnects) :
    (Acts.run watch (create url wasmUrl options connectOptions, false) acts).1.NothingPending := by
  obtain ⟨haccounted, hsafe⟩ := Acts.invariant_run
    (fun w : WorkerClient × Bool =>
      w.1.Accounted ∧ (w.1.Gone w.2 → ¬ w.1.Reconnects → w.1.pending = ∅))
    (fun w act hw hact => ⟨hw.1.step act, idle_step hw.1 hact hw.2⟩)
    ⟨accounted_create url wasmUrl options connectOptions,
      fun h => absurd h (by rintro (h | h) <;> exact Bool.false_ne_true h)⟩ hmeets
  exact haccounted.nothingPending hquiet (hsafe hgone hquiet)

end WorkerClient

/-- **No request outlives its connection when nothing is left behind**: in every run of either
client whose acts leave nothing behind, no promise is pending whenever the connection is lost and no
reconnect is in progress. -/
theorem no_request_outlives_connection (url wasmUrl : String) (options : ReconnectOptions)
    (connect : ConnectOptions) :
    (∀ acts,
      Acts.Meets InlineClient.watch (fun w act => w.1.FreshKeys act ∧ w.1.LeavesNothing w.2 act)
        (InlineClient.create url options connect, false) acts →
      let w := Acts.run InlineClient.watch (InlineClient.create url options connect, false) acts
      w.2 = true → ¬ w.1.Reconnects → w.1.NothingPending) ∧
    ∀ acts,
      Acts.Meets WorkerClient.watch (fun w act => w.1.LeavesNothing w.2 act)
        (WorkerClient.create url wasmUrl options connect, false) acts →
      let w := Acts.run WorkerClient.watch
        (WorkerClient.create url wasmUrl options connect, false) acts
      w.1.Gone w.2 → ¬ w.1.Reconnects → w.1.NothingPending :=
  ⟨fun _ hmeets hlost hquiet => InlineClient.nothingPending_run hmeets hlost hquiet,
    fun _ hmeets hgone hquiet => WorkerClient.nothingPending_run hmeets hgone hquiet⟩

/-! ## An open that is abandoned -/

/-- The session is up, a service client is being opened, and the transport fails and closes. -/
def abandoned : List InlineAct :=
  [.event (.sessionReady "row" 0 "gateway") {}, .resume 0,
    .app (.createServiceClient "/name" "pkg/Type") none, .transportError "gone", .closed none]

theorem request_outlives_connection :
    let w := Acts.run InlineClient.watch (InlineClient.create "wss://gateway" {} {}, false)
      abandoned
    w.2 = true ∧ ¬ w.1.Reconnects ∧ ¬ w.1.NothingPending := by
  refine ⟨rfl, ?_, fun h => absurd h.idle.services (by decide)⟩
  rintro ⟨entry, hentry, -⟩
  exact absurd hentry List.not_mem_nil

/-- The transport of an idle client closes; the worker reports an error to an idle client. -/
theorem no_request_outlives_connection_of_idle :
    (Acts.run InlineClient.watch (InlineClient.create "wss://gateway" {} {}, false)
      [.event (.sessionReady "row" 0 "gateway") {}, .resume 0, .closed none]).1.NothingPending ∧
    (Acts.run WorkerClient.watch (WorkerClient.create "wss://gateway" "" {} {}, false)
      [.message .ready none, .resume 0, .message (.connected 2) none, .resume 0,
        .message (.error none "gone") none]).1.NothingPending := by
  constructor
  · refine (no_request_outlives_connection "wss://gateway" "" {} {}).1 _ ?_ rfl ?_
    · refine ⟨⟨trivial, trivial⟩, ⟨fun _ h => ?_, fun h => absurd h Bool.false_ne_true⟩,
        ⟨trivial, .inr (.inr ⟨rfl, rfl, rfl, rfl, rfl, rfl, rfl⟩)⟩, trivial⟩
      cases h
    · rintro ⟨entry, hentry, -⟩
      exact absurd hentry List.not_mem_nil
  · refine (no_request_outlives_connection "wss://gateway" "" {} {}).2 _ ?_ (.inl rfl) ?_
    · have hup : ∀ {s : WorkerClient}, s.terminated = false → ¬ s.Gone false := by
        rintro s hterminated (h | h)
        · exact Bool.false_ne_true h
        · rw [hterminated] at h
          exact Bool.false_ne_true h
      have hcreate : ∀ {s : WorkerClient} {stage : WorkerStage},
          s.tasks.find? 0 = some ⟨.create, stage⟩ → ¬ s.Closes 0 := by
        rintro s stage htask ⟨promise, value, h, -⟩
        rw [htask] at h
        cases h
      exact ⟨trivial,
        ⟨fun _ h => absurd h (hup rfl), fun h => absurd h (hcreate rfl),
          fun _ h => absurd h (hup rfl)⟩, trivial,
        ⟨fun _ h => absurd h (hup rfl), fun h => absurd h (hcreate rfl),
          fun _ h => absurd h (hup rfl)⟩, .inr (.inr rfl), trivial⟩
    · rintro ⟨entry, hentry, -⟩
      exact absurd hentry List.not_mem_nil

end Client
end Rclweb
