import Rclweb.Client.Promises
import Rclweb.Client.WorkerClient

/-!
# No promise of the worker's client is lost

A promise of the client in front of the worker is settled, under the number of a request, or that of
a task; what a task waits for is settled or under the number of a request.  Numbers are not used
again, so every step keeps every promise (`losesNone_step`).
-/

namespace Rclweb
namespace Client

open Worker

/-- The tasks of a reconnect. -/
def WorkerTaskKind.reconnects : WorkerTaskKind → Bool
  | .create | .close => false
  | .reconnect | .autoReconnect => true

/-- Channels are opened again by a reconnect only. -/
def WorkerTask.Sound (task : WorkerTask) : Prop :=
  ∀ record promise rest, task.stage = .reopening record promise rest → task.kind.reconnects = true

namespace WorkerClient

/-- **Where a promise is kept** until it is settled. -/
inductive Keeps (s : WorkerClient) (p : ℕ) : Prop
  | settled (h : p ∈ s.settled.keys)
  | pending {request : PendingRequest} (h : request ∈ s.pending.values) (hp : request.promise = p)
  | task (h : p ∈ s.tasks.keys)

/-- A promise is settled, or the answer to a request settles it. -/
def Awaited (s : WorkerClient) (p : ℕ) : Prop :=
  p ∈ s.settled.keys ∨ ∃ request ∈ s.pending.values, request.promise = p

/-- **A step from `s` to `s'` loses no promise**: numbers of requests go up, and a task that changes
waits for something that comes. -/
structure LosesNone (s s' : WorkerClient) : Prop where
  settled : ∀ p ∈ s.settled.keys, p ∈ s'.settled.keys
  pending : ∀ request ∈ s.pending.values,
      request ∈ s'.pending.values ∨ request.promise ∈ s'.settled.keys
  tasks : ∀ p ∈ s.tasks.keys, p ∈ s'.tasks.keys ∨ p ∈ s'.settled.keys
  made : ∀ p, s.promises ≤ p → p < s'.promises → s'.Keeps p
  keys : ∀ k ∈ s'.pending.keys, k ∈ s.pending.keys ∨ k < s'.nextRequest
  next : s.nextRequest ≤ s'.nextRequest
  awaits : ∀ entry ∈ s'.tasks.entries,
      entry ∈ s.tasks.entries ∨ (s'.Awaited entry.2.stage.promise ∧ entry.2.Sound)
  ids : ∀ id ∈ s'.tasks.keys, id ∈ s.tasks.keys ∨ id < s'.promises
  promises : s.promises ≤ s'.promises

variable {s s' : WorkerClient}

/-- Where no promise is made, none is lost. -/
theorem none_made (h : s'.promises ≤ s.promises) :
    ∀ p, s.promises ≤ p → p < s'.promises → s'.Keeps p :=
  fun _ hp hlt => absurd (hlt.trans_le h) (Nat.not_lt.mpr hp)

theorem LosesNone.refl (s : WorkerClient) : LosesNone s s where
  settled _ h := h
  pending _ h := .inl h
  tasks _ h := .inl h
  made := none_made le_rfl
  keys _ h := .inl h
  next := Nat.le_refl _
  awaits _ h := .inl h
  ids _ h := .inl h
  promises := Nat.le_refl _

theorem losesNone_channels (channels : InsertionMap ℕ ChannelRecord) :
    LosesNone s { s with channels := channels } :=
  { LosesNone.refl s with made := none_made le_rfl }

theorem LosesNone.keeps (h : LosesNone s s') {p : ℕ} (hp : s.Keeps p) : s'.Keeps p := by
  cases hp with
  | settled hp => exact .settled (h.settled p hp)
  | pending hp heq => exact heq ▸ (h.pending _ hp).elim (.pending · rfl) .settled
  | task hp => exact (h.tasks p hp).elim .task .settled

theorem LosesNone.awaited (h : LosesNone s s') {p : ℕ} (hp : s.Awaited p) : s'.Awaited p := by
  rcases hp with hp | ⟨request, hrequest, rfl⟩
  · exact .inl (h.settled p hp)
  · exact (h.pending request hrequest).elim (fun hold => .inr ⟨request, hold, rfl⟩) .inl

theorem LosesNone.trans {t u : WorkerClient} (h : LosesNone s t) (h' : LosesNone t u) :
    LosesNone s u where
  settled p hp := h'.settled p (h.settled p hp)
  pending r hr := (h.pending r hr).elim (h'.pending r) fun hp => .inr (h'.settled _ hp)
  tasks p hp := (h.tasks p hp).elim (h'.tasks p) fun hp => .inr (h'.settled p hp)
  made p hp hlt := (Nat.lt_or_ge p t.promises).elim (fun hlt' => h'.keeps (h.made p hp hlt'))
    fun hge => h'.made p hge hlt
  keys k hk := (h'.keys k hk).elim
    (fun hold => (h.keys k hold).imp_right fun hlt => hlt.trans_le h'.next) .inr
  next := h.next.trans h'.next
  awaits entry hentry := (h'.awaits entry hentry).elim
    (fun hold => (h.awaits entry hold).imp_right fun hnew => ⟨h'.awaited hnew.1, hnew.2⟩) .inr
  ids id hid := (h'.ids id hid).elim
    (fun hold => (h.ids id hold).imp_right fun hlt => hlt.trans_le h'.promises) .inr
  promises := h.promises.trans h'.promises

/-- **Every promise that was made is kept**, what a task waits for comes, and the numbers that are
in use have been taken, those of requests and those of promises. -/
structure Accounted (s : WorkerClient) : Prop where
  keeps : ∀ p < s.promises, s.Keeps p
  awaits : ∀ entry ∈ s.tasks.entries, s.Awaited entry.2.stage.promise ∧ entry.2.Sound
  keys : ∀ k ∈ s.pending.keys, k < s.nextRequest
  ids : ∀ id ∈ s.tasks.keys, id < s.promises

theorem Accounted.of_losesNone (h : s.Accounted) (hstep : LosesNone s s') : s'.Accounted where
  keeps p hp := (Nat.lt_or_ge p s.promises).elim (fun hlt => hstep.keeps (h.keeps p hlt))
    fun hge => hstep.made p hge hp
  awaits entry hentry := (hstep.awaits entry hentry).elim
    (fun hold => ⟨hstep.awaited (h.awaits entry hold).1, (h.awaits entry hold).2⟩) id
  keys k hk := (hstep.keys k hk).elim (fun hold => (h.keys k hold).trans_le hstep.next) id
  ids p hp := (hstep.ids p hp).elim (fun hold => (h.ids p hold).trans_le hstep.promises) id

theorem Accounted.nextRequest_notMem (h : s.Accounted) : s.nextRequest ∉ s.pending.keys :=
  fun hmem => Nat.lt_irrefl _ (h.keys _ hmem)

/-! ## Requests -/

/-- A request is noted down under the next number. -/
theorem losesNone_of_request (h : s.nextRequest ∉ s.pending.keys) {cleanup : Cleanup}
    (hpending : s'.pending = s.pending.set s.nextRequest ⟨s.promises, cleanup⟩)
    (hsettled : s'.settled = s.settled) (htasks : s'.tasks = s.tasks)
    (hpromises : s'.promises = s.promises + 1) (hnext : s'.nextRequest = s.nextRequest + 1) :
    LosesNone s s' where
  settled p hp := hsettled ▸ hp
  pending r hr := .inl (hpending ▸ InsertionMap.mem_values_set_of_notMem h hr)
  tasks p hp := .inl (htasks ▸ hp)
  made p hp hlt := by
    rw [hpromises] at hlt
    exact .pending (hpending ▸ InsertionMap.mem_values_set_self)
      (Nat.le_antisymm hp (Nat.le_of_lt_succ hlt))
  keys k hk := by
    rw [hpending] at hk
    rcases InsertionMap.mem_keys_set.mp hk with rfl | hold
    · exact .inr (hnext ▸ Nat.lt_succ_self _)
    · exact .inl hold
  next := hnext ▸ Nat.le_succ _
  awaits entry hentry := .inl (htasks ▸ hentry)
  ids id hid := .inl (htasks ▸ hid)
  promises := hpromises ▸ Nat.le_succ _

theorem losesNone_request (h : s.nextRequest ∉ s.pending.keys) (msg : ℕ → MainToWorker)
    (cleanup : Cleanup) : LosesNone s (s.request msg cleanup) :=
  losesNone_of_request h rfl rfl rfl rfl rfl

/-- The promise of a request is awaited. -/
theorem awaited_request (s : WorkerClient) (msg : ℕ → MainToWorker) (cleanup : Cleanup) :
    (s.request msg cleanup).Awaited s.promises :=
  .inr ⟨_, InsertionMap.mem_values_set_self, rfl⟩

/-- What is noted down of a channel before its request is posted leaves the requests, the tasks and
the promises alone. -/
structure Notes (s t : WorkerClient) : Prop where
  pending : t.pending = s.pending
  settled : t.settled = s.settled
  tasks : t.tasks = s.tasks
  promises : t.promises = s.promises
  nextRequest : t.nextRequest = s.nextRequest

theorem Notes.trans {t u : WorkerClient} (h : Notes s t) (h' : Notes t u) : Notes s u where
  pending := h'.pending.trans h.pending
  settled := h'.settled.trans h.settled
  tasks := h'.tasks.trans h.tasks
  promises := h'.promises.trans h.promises
  nextRequest := h'.nextRequest.trans h.nextRequest

theorem notes_track (record : ChannelRecord) : Notes s (s.track record) :=
  ⟨rfl, rfl, rfl, rfl, rfl⟩

theorem notes_allocate (reuse : Option ℕ) : Notes s (s.allocate reuse) :=
  ⟨rfl, rfl, rfl, rfl, rfl⟩

theorem notes_serviceHandlers (handlers : InsertionMap ℕ ℕ) :
    Notes s { s with serviceHandlers := handlers } := ⟨rfl, rfl, rfl, rfl, rfl⟩

theorem notes_actionServerHandlers (handlers : InsertionMap ℕ ActionServerHandlers) :
    Notes s { s with actionServerHandlers := handlers } := ⟨rfl, rfl, rfl, rfl, rfl⟩

theorem notes_trackInflight (channelId requestId : ℕ) :
    Notes s (s.trackInflight channelId requestId) := ⟨rfl, rfl, rfl, rfl, rfl⟩

theorem notes_channel (reuse : Option ℕ) (record : ChannelRecord) :
    Notes s ((s.allocate reuse).track record) :=
  (notes_allocate reuse).trans (notes_track record)

theorem notes_serviceServer (reuse : Option ℕ) (handlers : InsertionMap ℕ ℕ)
    (record : ChannelRecord) :
    Notes s ({ s.allocate reuse with serviceHandlers := handlers }.track record) :=
  ((notes_allocate reuse).trans (notes_serviceHandlers handlers)).trans (notes_track record)

theorem notes_actionServer (reuse : Option ℕ) (handlers : InsertionMap ℕ ActionServerHandlers)
    (record : ChannelRecord) :
    Notes s ({ s.allocate reuse with actionServerHandlers := handlers }.track record) :=
  ((notes_allocate reuse).trans (notes_actionServerHandlers handlers)).trans (notes_track record)

theorem notes_forget (kind : ChannelKind) (channelId : ℕ) : Notes s (s.forget kind channelId) := by
  cases kind <;> exact ⟨rfl, rfl, rfl, rfl, rfl⟩

variable {t : WorkerClient}

/-- A request is posted after the notes. -/
theorem Notes.losesNone_request (hnotes : Notes s t) (h : s.nextRequest ∉ s.pending.keys)
    (msg : ℕ → MainToWorker) (cleanup : Cleanup) : LosesNone s (t.request msg cleanup) := by
  have hpending : (t.request msg cleanup).pending =
      s.pending.set s.nextRequest ⟨s.promises, cleanup⟩ := by
    rw [← hnotes.pending, ← hnotes.nextRequest, ← hnotes.promises]
    rfl
  refine losesNone_of_request h hpending hnotes.settled hnotes.tasks ?_ ?_
  · rw [← hnotes.promises]
    rfl
  · rw [← hnotes.nextRequest]
    rfl

theorem Notes.awaited_request (hnotes : Notes s t) (msg : ℕ → MainToWorker) (cleanup : Cleanup) :
    (t.request msg cleanup).Awaited s.promises := by
  rw [← hnotes.promises]
  exact WorkerClient.awaited_request t msg cleanup

theorem losesNone_cleanUp (cleanup : Cleanup) : LosesNone s (s.cleanUp cleanup) := by
  cases cleanup <;> exact { LosesNone.refl _ with made := none_made le_rfl }

theorem losesNone_settle (promise : ℕ) (outcome : Settlement) :
    LosesNone s (s.settle promise outcome) where
  settled _ h := mem_keys_settleIn.mpr (.inr h)
  pending _ h := .inl h
  tasks _ h := .inl h
  made := none_made le_rfl
  keys _ h := .inl h
  next := le_rfl
  awaits _ h := .inl h
  ids _ h := .inl h
  promises := le_rfl

/-- A request is taken out when its promise is settled. -/
theorem losesNone_remove {requestId : ℕ} {request : PendingRequest}
    (hfind : s.pending.find? requestId = some request)
    (hsettled : request.promise ∈ s.settled.keys) :
    LosesNone s { s with pending := s.pending.remove requestId } where
  __ := LosesNone.refl s
  pending r hr := (InsertionMap.mem_values_remove_or hr requestId).imp_right fun hkey => by
    rw [hfind, Option.some_inj] at hkey
    exact hkey ▸ hsettled
  made := none_made le_rfl
  keys _ hk := .inl (InsertionMap.mem_keys_remove.mp hk).1
  awaits _ h := .inl h

theorem losesNone_answer (requestId : ℕ) (value : Value) :
    LosesNone s (s.answer requestId value) := by
  unfold answer
  split
  · exact .refl s
  · next request hfind =>
    refine (losesNone_settle request.promise (.resolved value)).trans (losesNone_remove hfind ?_)
    exact mem_keys_settleIn.mpr (.inl rfl)

theorem pending_cleanUp (s : WorkerClient) (cleanup : Cleanup) :
    (s.cleanUp cleanup).pending = s.pending := by
  cases cleanup <;> rfl

theorem losesNone_reject (request : PendingRequest) (message : String) :
    LosesNone s (s.reject request message) :=
  (losesNone_cleanUp request.cleanup).trans (losesNone_settle ..)

theorem losesNone_refuse (requestId : ℕ) (message : String) :
    LosesNone s (s.refuse requestId message) := by
  unfold refuse
  split
  · exact .refl s
  · next request hfind =>
    have hpending : (s.reject request message).pending = s.pending := pending_cleanUp ..
    have h := @losesNone_remove (s.reject request message) requestId request (hpending ▸ hfind)
      (mem_keys_settleIn.mpr (.inl rfl))
    rw [hpending] at h
    exact (losesNone_reject request message).trans h

/-! ## Opens -/

theorem losesNone_openRecord (h : s.nextRequest ∉ s.pending.keys) (record : ChannelRecord) :
    LosesNone s (s.openRecord record) ∧
      (s.openRecord record).Awaited s.promises ∧ (s.openRecord record).tasks = s.tasks := by
  have hrequest {t : WorkerClient} (hnotes : Notes s t) (msg : ℕ → MainToWorker)
      (cleanup : Cleanup) : LosesNone s (t.request msg cleanup) ∧
        (t.request msg cleanup).Awaited s.promises ∧ (t.request msg cleanup).tasks = s.tasks :=
    ⟨hnotes.losesNone_request h msg cleanup, hnotes.awaited_request msg cleanup, hnotes.tasks⟩
  unfold openRecord subscribe publish createServiceClient createServiceServer createActionClient
    createActionServer
  split
  · exact hrequest (notes_channel ..) _ _
  · exact hrequest (notes_channel ..) _ _
  · exact hrequest (notes_channel ..) _ _
  · exact hrequest (notes_serviceServer ..) _ _
  · exact hrequest (notes_channel ..) _ _
  · exact hrequest (notes_actionServer ..) _ _

/-! ## Tasks -/

/-- A task waits for another answer. -/
theorem losesNone_setTask {id : ℕ} {task : WorkerTask} (hid : id ∈ s.tasks.keys)
    (hawaited : s.Awaited task.stage.promise) (hsound : task.Sound) :
    LosesNone s { s with tasks := s.tasks.set id task } where
  __ := LosesNone.refl s
  tasks _ hp := .inl (InsertionMap.mem_keys_set.mpr (.inr hp))
  awaits _ hentry := (InsertionMap.mem_entries_set.mp hentry).elim
    (fun heq => .inr (heq ▸ ⟨hawaited, hsound⟩)) fun hold => .inl hold.1
  ids _ hp := .inl ((InsertionMap.mem_keys_set.mp hp).elim (fun heq => heq ▸ hid) fun hold => hold)
  made := none_made le_rfl

/-- A task ends with its promise. -/
theorem losesNone_endTask (id : ℕ) (outcome : Settlement) :
    LosesNone s ({ s with tasks := s.tasks.remove id }.settle id outcome) where
  __ := losesNone_settle (s := s) _ _
  tasks p hp := by
    by_cases hid : p = id
    · exact .inr (mem_keys_settleIn.mpr (.inl hid))
    · exact .inl (InsertionMap.mem_keys_remove.mpr ⟨hp, hid⟩)
  awaits entry hentry := .inl (InsertionMap.mem_entries_remove.mp hentry).1
  ids _ hp := .inl (InsertionMap.mem_keys_remove.mp hp).1
  made := none_made le_rfl

theorem losesNone_finish (id : ℕ) (kind : WorkerTaskKind) : LosesNone s (s.finish id kind) := by
  refine (losesNone_endTask id (.resolved .done)).trans ?_
  cases kind <;> exact { LosesNone.refl _ with made := none_made le_rfl }

theorem losesNone_fail (id : ℕ) (kind : WorkerTaskKind) (message : String) :
    LosesNone s (s.fail id kind message) := by
  refine (losesNone_endTask id (.rejected message)).trans ?_
  cases kind <;> exact { LosesNone.refl _ with made := none_made le_rfl }

theorem losesNone_reopen (h : s.nextRequest ∉ s.pending.keys) {id : ℕ} (hid : id ∈ s.tasks.keys)
    {kind : WorkerTaskKind} (hkind : kind.reconnects = true) (records : List ChannelRecord) :
    LosesNone s (s.reopen id kind records) := by
  cases records with
  | nil => exact losesNone_finish id kind
  | cons record rest =>
    obtain ⟨hopen, hawaited, htasks⟩ := losesNone_openRecord h record
    have hset := @losesNone_setTask (s.openRecord record) id
      ⟨kind, .reopening record s.promises rest⟩ (htasks ▸ hid) hawaited fun _ _ _ _ => hkind
    rw [htasks] at hset
    exact hopen.trans hset

/-- A method that waits for the answer to its request makes two promises: its own, and that of the
request. -/
theorem losesNone_beginTask (h : s.nextRequest ∉ s.pending.keys) (msg : ℕ → MainToWorker)
    (kind : WorkerTaskKind) :
    LosesNone s { s.newPromise.request msg .nothing with
      tasks := s.tasks.set s.promises ⟨kind, .requested (s.promises + 1)⟩ } where
  __ := LosesNone.refl s
  pending _ hr := .inl (InsertionMap.mem_values_set_of_notMem h hr)
  tasks _ hp := .inl (InsertionMap.mem_keys_set.mpr (.inr hp))
  made p hp hlt := by
    have hlt : p < s.promises + 2 := hlt
    rcases Nat.lt_succ_iff_lt_or_eq.mp hlt with hlt | rfl
    · exact .task (InsertionMap.mem_keys_set.mpr
        (.inl (Nat.le_antisymm (Nat.le_of_lt_succ hlt) hp)))
    · exact .pending InsertionMap.mem_values_set_self rfl
  keys k hk := (InsertionMap.mem_keys_set.mp hk).elim
    (fun heq => .inr (heq ▸ Nat.lt_succ_self _)) .inl
  next := Nat.le_succ _
  awaits entry hentry := by
    rcases InsertionMap.mem_entries_set.mp hentry with rfl | hold
    · exact .inr ⟨.inr ⟨_, InsertionMap.mem_values_set_self, rfl⟩,
        fun _ _ _ => WorkerStage.noConfusion⟩
    · exact .inl hold.1
  ids id hid := by
    rcases InsertionMap.mem_keys_set.mp hid with rfl | hold
    · exact .inr (show s.promises < s.promises + 2 from Nat.lt_add_of_pos_right Nat.two_pos)
    · exact .inl hold
  promises := Nat.le_add_right _ 2

/-! ## Reconnecting -/

/-- Rejecting requests settles their promises and leaves the requests and the tasks alone. -/
structure Rejects (s s' : WorkerClient) (requests : List PendingRequest) : Prop where
  losesNone : LosesNone s s'
  settled : ∀ request ∈ requests, request.promise ∈ s'.settled.keys
  pending : s'.pending = s.pending
  tasks : s'.tasks = s.tasks
  promises : s'.promises = s.promises
  nextRequest : s'.nextRequest = s.nextRequest

theorem rejects_rejectAll (s : WorkerClient) (message : String) (requests : List PendingRequest) :
    Rejects s (s.rejectAll message requests) requests := by
  induction requests generalizing s with
  | nil => exact ⟨.refl s, List.forall_mem_nil _, rfl, rfl, rfl, rfl⟩
  | cons request requests ih =>
    have hreject := ih (s.reject request message)
    have hsame : (s.reject request message).pending = s.pending ∧
        (s.reject request message).tasks = s.tasks ∧
        (s.reject request message).promises = s.promises ∧
        (s.reject request message).nextRequest = s.nextRequest := by
      unfold reject
      cases request.cleanup <;> exact ⟨rfl, rfl, rfl, rfl⟩
    obtain ⟨hpending, htasks, hpromises, hnext⟩ := hsame
    exact {
      losesNone := (losesNone_reject request message).trans hreject.losesNone
      settled := List.forall_mem_cons.mpr
        ⟨hreject.losesNone.settled _ (mem_keys_settleIn.mpr (.inl rfl)), hreject.settled⟩
      pending := hreject.pending.trans hpending
      tasks := hreject.tasks.trans htasks
      promises := hreject.promises.trans hpromises
      nextRequest := hreject.nextRequest.trans hnext }

theorem losesNone_rejectInflight (message : String) : LosesNone s (s.rejectInflight message) := by
  have h := rejects_rejectAll s message s.pending.values
  refine h.losesNone.trans ?_
  exact { LosesNone.refl (s.rejectAll message s.pending.values) with
    made := none_made le_rfl
    pending := fun r hr => .inr (h.settled r (h.pending ▸ hr))
    keys := fun k hk => absurd hk List.not_mem_nil
    awaits := fun _ hentry => .inl hentry }

theorem losesNone_reconnect (kind : WorkerTaskKind) : LosesNone s (s.reconnect kind) := by
  have hreject :
      LosesNone s ({ s with reconnecting := true }.rejectInflight "session reconnected") :=
    .trans (t := { s with reconnecting := true })
      { LosesNone.refl s with made := none_made le_rfl } (losesNone_rejectInflight _)
  have hpromises : ({ s with reconnecting := true }.rejectInflight
      "session reconnected").promises = s.promises :=
    (rejects_rejectAll ..).promises
  have hempty :
      ({ s with reconnecting := true }.rejectInflight "session reconnected").pending = ∅ := rfl
  unfold reconnect
  generalize { s with reconnecting := true }.rejectInflight "session reconnected" = r at *
  rw [← hpromises]
  exact hreject.trans (losesNone_beginTask (hempty ▸ List.not_mem_nil) (.reconnect ·) kind)

theorem losesNone_reopenChannels (h : s.nextRequest ∉ s.pending.keys) {id : ℕ}
    (hid : id ∈ s.tasks.keys) {kind : WorkerTaskKind} (hkind : kind.reconnects = true) :
    LosesNone s (s.reopenChannels id kind) :=
  (losesNone_channels ∅).trans
    (losesNone_reopen (s := { s with channels := ∅ }) h hid hkind s.channels.values)

theorem losesNone_resume (h : s.Accounted) (id : ℕ) : LosesNone s (s.resume id) := by
  have hnext := h.nextRequest_notMem
  unfold resume
  split
  · exact .refl s
  · next kind stage htask =>
    have hid := InsertionMap.mem_keys_of_find? htask
    have hsound := (h.awaits _ (InsertionMap.find?_eq_some_iff.mp htask)).2
    split
    · exact .refl s
    · exact losesNone_fail ..
    · split
      · exact (losesNone_request hnext _ _).trans
          (losesNone_setTask hid (awaited_request ..) fun _ _ _ => WorkerStage.noConfusion)
      · exact losesNone_finish ..
      · exact losesNone_finish ..
      · exact losesNone_reopenChannels hnext hid rfl
      · exact losesNone_reopenChannels hnext hid rfl
      · have hrehandle : ∀ record value, LosesNone s (s.rehandle record value) ∧
            (s.rehandle record value).nextRequest ∉ (s.rehandle record value).pending.keys ∧
            id ∈ (s.rehandle record value).tasks.keys := by
          intro record value
          unfold rehandle
          split <;> exact ⟨{ LosesNone.refl _ with made := none_made le_rfl }, hnext, hid⟩
        obtain ⟨hloses, hnext', hid'⟩ := hrehandle _ _
        exact hloses.trans (losesNone_reopen hnext' hid' (hsound _ _ _ rfl) _)

/-! ## Messages of the worker -/

theorem losesNone_deliver (handler : Option ℕ) (invocation : ℕ → Invocation) :
    LosesNone s (s.deliver handler invocation) := by
  cases handler <;> exact { LosesNone.refl _ with made := none_made le_rfl }

theorem losesNone_operationCancelled (channelId : ℕ) (message : String) :
    LosesNone s (s.operationCancelled channelId message) := by
  have hfold : ∀ (requests : List ℕ) (s : WorkerClient),
      LosesNone s (requests.foldl (fun s requestId => s.refuse requestId message) s) := by
    intro requests
    induction requests with
    | nil => exact .refl
    | cons requestId requests ih => exact fun s => (losesNone_refuse requestId message).trans (ih _)
  exact (hfold _ s).trans { LosesNone.refl _ with made := none_made le_rfl }

theorem losesNone_clearInflight (channelId requestId : ℕ) :
    LosesNone s (s.clearInflight channelId requestId) := by
  unfold clearInflight
  split <;> exact { LosesNone.refl _ with made := none_made le_rfl }

theorem losesNone_onClosed : LosesNone s s.onClosed := by
  unfold onClosed autoReconnect
  split_ifs
  all_goals
    first
    | exact .refl s
    | exact .trans (t := { s with reconnectAttempts := s.reconnectAttempts + 1 })
        { LosesNone.refl s with made := none_made le_rfl }
        (losesNone_reconnect .autoReconnect)

theorem losesNone_onWorker (decoded : Option SampleContent) (msg : WorkerToMain) :
    LosesNone s (s.onWorker decoded msg) := by
  cases msg with
  | ready =>
    simp only [onWorker, WorkerClient.ready]
    split
    · exact .refl s
    · exact losesNone_answer ..
  | connected | published | serviceReady | actionReady | ack => exact losesNone_answer ..
  | subscribed =>
    simp only [onWorker, WorkerClient.subscribed]
    split
    · exact .refl s
    · exact (losesNone_channels _).trans (losesNone_answer ..)
  | subscribeFailed | publishFailed | serviceFailed | actionFailed => exact losesNone_refuse ..
  | serviceResponse | actionResult =>
    exact (losesNone_clearInflight ..).trans (losesNone_answer ..)
  | operationCancelled => exact losesNone_operationCancelled ..
  | error requestId =>
    cases requestId with
    | none => exact .refl s
    | some requestId => exact losesNone_refuse ..
  | closed requestId =>
    cases requestId with
    | none => exact losesNone_onClosed
    | some requestId => exact losesNone_answer ..
  | sample channelId leaseId data =>
    simp only [onWorker]
    split <;> exact { LosesNone.refl _ with made := none_made le_rfl }
  | sampleHostCdr channelId kind view =>
    simp only [onWorker]
    split
    · exact .refl s
    · exact losesNone_deliver ..
  | samplePointCloud2 | sampleGenerated | actionGoal | actionFeedback | actionStatus =>
    exact losesNone_deliver ..
  | serviceRequest =>
    simp only [onWorker, WorkerClient.serviceRequest]
    split <;> exact { LosesNone.refl _ with made := none_made le_rfl }
  | _ => exact { LosesNone.refl _ with made := none_made le_rfl }

/-! ## Steps -/

theorem losesNone_app (h : s.nextRequest ∉ s.pending.keys) (call : AppCall) :
    LosesNone s (s.app call) := by
  cases call with
  | reconnect => exact losesNone_reconnect .reconnect
  | close =>
    exact .trans (t := { s with options := { s.options with reconnect := false } })
      { LosesNone.refl s with made := none_made le_rfl }
      (losesNone_beginTask (s := { s with options := { s.options with reconnect := false } }) h
        (.close ·) .close)
  | onGraph =>
    simp only [app, onGraph]
    split_ifs <;> exact { LosesNone.refl _ with made := none_made le_rfl }
  | send channelId typeName message =>
    simp only [app, send]
    split
    · exact losesNone_request h _ _
    · exact { losesNone_settle (s := s) _ _ with
        made := fun p hp hlt => .settled (mem_keys_settleIn.mpr
          (.inl (Nat.le_antisymm (Nat.le_of_lt_succ hlt) hp)))
        ids := fun _ h => .inl h
        promises := Nat.le_succ _ }
  | subscribe | publish | createServiceClient | createActionClient =>
    simp only [app, subscribe, publish, createServiceClient, createActionClient]
    exact (notes_channel ..).losesNone_request h _ _
  | createServiceServer =>
    unfold app createServiceServer
    exact (notes_serviceServer ..).losesNone_request h _ _
  | createActionServer =>
    unfold app createActionServer
    exact (notes_actionServer ..).losesNone_request h _ _
  | call =>
    unfold app callService
    exact (notes_trackInflight ..).losesNone_request h _ _
  | sendGoal =>
    unfold app sendActionGoal
    exact (notes_trackInflight ..).losesNone_request h _ _
  | closeChannel =>
    unfold app closeChannel
    exact (notes_forget ..).losesNone_request h _ _
  | cancel | sendFeedback | sendResult | sendStatus =>
    unfold app
    exact losesNone_request h _ _
  | onMessage | onFeedback | onStatus => exact { LosesNone.refl _ with made := none_made le_rfl }

/-- **A step loses no promise.** -/
theorem losesNone_step (h : s.Accounted) (act : WorkerAct) : LosesNone s (s.step act) := by
  cases act with
  | app call => exact losesNone_app h.nextRequest_notMem call
  | message msg decoded =>
    simp only [step]
    split_ifs
    · exact .refl s
    · exact losesNone_onWorker decoded msg
  | resume id => exact losesNone_resume h id
  | answered id answer =>
    simp only [step, answered]
    repeat' split
    all_goals
      first
      | exact .refl s
      | exact { LosesNone.refl _ with made := none_made le_rfl }
      | exact { LosesNone.refl s with
          made := none_made le_rfl
          keys := fun _ h => .inl h
          next := Nat.le_succ _ }

theorem Accounted.step (h : s.Accounted) (act : WorkerAct) : (s.step act).Accounted :=
  h.of_losesNone (losesNone_step h act)

theorem accounted_create (url wasmUrl : String) (options : ReconnectOptions)
    (connectOptions : ConnectOptions) :
    (create url wasmUrl options connectOptions).Accounted where
  keeps p hp := by
    have hp : p < 2 := hp
    rcases Nat.lt_succ_iff_lt_or_eq.mp hp with hzero | rfl
    · exact .task (List.mem_singleton.mpr (Nat.lt_one_iff.mp hzero))
    · exact .pending List.mem_cons_self rfl
  awaits entry hentry := by
    obtain rfl := List.mem_singleton.mp hentry
    exact ⟨.inr ⟨_, List.mem_cons_self, rfl⟩, fun _ _ _ => WorkerStage.noConfusion⟩
  keys k hk := List.mem_singleton.mp hk ▸ Nat.one_lt_two
  ids id hid := List.mem_singleton.mp hid ▸ Nat.two_pos

end WorkerClient
end Client
end Rclweb
