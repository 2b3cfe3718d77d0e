import Rclweb.Client.InlineClient

/-!
# The promises a client keeps

A promise that is not settled waits in one of the tables of the client, for the session, behind a
call of `flushSync`, or it is that of a task.  `Names` says what holds of every promise the client
names; every promise it names has been made (`numbered_run`).
-/

namespace Rclweb
namespace Client

open Engine Worker

/-- The promise that the rest of a method settles. -/
def Frame.promise? : Frame → Option ℕ
  | .done promise | .response _ promise _ | .result _ promise _ => some promise
  | .request _ _ _ _ | .goal _ _ _ | .feedback _ _ _ | .status _ _ _ => none

theorem mem_keys_settleIn {settled : InsertionMap ℕ Settlement} {promise p : ℕ}
    {outcome : Settlement} :
    p ∈ (settleIn settled promise outcome).keys ↔ p = promise ∨ p ∈ settled.keys := by
  unfold settleIn
  split_ifs with h
  · exact ⟨.inr, fun hp => hp.elim (fun heq => heq ▸ InsertionMap.find?_isSome_iff.mp h) id⟩
  · exact InsertionMap.mem_keys_set

theorem mem_keys_settleAll {settled : InsertionMap ℕ Settlement} {promises : List ℕ} {p : ℕ}
    {outcome : Settlement} :
    p ∈ (settleAll settled promises outcome).keys ↔ p ∈ promises ∨ p ∈ settled.keys := by
  unfold settleAll
  induction promises generalizing settled with
  | nil => simp
  | cons promise promises ih =>
    rw [List.foldl_cons, ih, mem_keys_settleIn, List.mem_cons, or_left_comm, or_assoc]

theorem forall_settleIn {P : ℕ → Prop} {settled : InsertionMap ℕ Settlement} {promise : ℕ}
    {outcome : Settlement} (h : ∀ p ∈ settled.keys, P p) (hp : P promise) :
    ∀ p ∈ (settleIn settled promise outcome).keys, P p := by
  intro p hmem
  rcases mem_keys_settleIn.mp hmem with rfl | hold
  · exact hp
  · exact h p hold

theorem forall_settleAll {P : ℕ → Prop} {settled : InsertionMap ℕ Settlement} {promises : List ℕ}
    {outcome : Settlement} (h : ∀ p ∈ settled.keys, P p) (hpromises : ∀ p ∈ promises, P p) :
    ∀ p ∈ (settleAll settled promises outcome).keys, P p :=
  fun p hmem => (mem_keys_settleAll.mp hmem).elim (hpromises p) (h p)

namespace InlineClient

/-- **What holds of the promises of the opens that are pending.** -/
structure Opens (P : ℕ → Prop) (s : InlineClient) : Prop where
  subs : ∀ pending ∈ s.pendingSubs.values, P pending.promise
  pubs : ∀ pending ∈ s.pendingPubs.values, P pending.promise
  services : ∀ pending ∈ s.pendingServices.values, P pending.promise
  actions : ∀ pending ∈ s.pendingActions.values, P pending.promise

/-- **What holds of every promise the client names.** -/
structure Names (P : ℕ → Prop) (s : InlineClient) : Prop where
  opens : Opens P s
  calls : ∀ p ∈ s.pendingCalls.values, P p
  results : ∀ p ∈ s.pendingActionResults.values, P p
  waiters : ∀ p ∈ s.connectWaiters, P p
  frames : ∀ frame ∈ s.frames, ∀ p ∈ frame.promise?, P p
  tasks : ∀ p ∈ s.tasks.keys, P p
  settled : ∀ p ∈ s.settled.keys, P p

variable {s : InlineClient} {P Q : ℕ → Prop}

theorem Opens.imp (hPQ : ∀ p, P p → Q p) (h : Opens P s) : Opens Q s where
  subs pending hp := hPQ _ (h.subs pending hp)
  pubs pending hp := hPQ _ (h.pubs pending hp)
  services pending hp := hPQ _ (h.services pending hp)
  actions pending hp := hPQ _ (h.actions pending hp)

theorem Names.imp (hPQ : ∀ p, P p → Q p) (h : Names P s) : Names Q s where
  opens := h.opens.imp hPQ
  calls p hp := hPQ p (h.calls p hp)
  results p hp := hPQ p (h.results p hp)
  waiters p hp := hPQ p (h.waiters p hp)
  frames frame hframe p hp := hPQ p (h.frames frame hframe p hp)
  tasks p hp := hPQ p (h.tasks p hp)
  settled p hp := hPQ p (h.settled p hp)

/-! ## Opens -/

theorem Opens.newPromise (h : Opens P s) : Opens P s.newPromise :=
  ⟨h.subs, h.pubs, h.services, h.actions⟩

theorem Opens.call (h : Opens P s) (c : HostCall) : Opens P (s.call c) :=
  ⟨h.subs, h.pubs, h.services, h.actions⟩

theorem Opens.flushSync (h : Opens P s) (frame : Frame) : Opens P (s.flushSync frame) :=
  ⟨h.subs, h.pubs, h.services, h.actions⟩

theorem Opens.forget (h : Opens P s) (kind : ChannelKind) (channelId : ℕ) :
    Opens P (s.forget kind channelId) := by
  cases kind <;> exact ⟨h.subs, h.pubs, h.services, h.actions⟩

theorem Opens.subscribe (h : Opens P s) (hnew : P s.promises) (topic typeName : String)
    (qos : QosOptions) (reuse : Option ℕ) : Opens P (s.subscribe topic typeName qos reuse) :=
  ⟨InsertionMap.forall_values_set h.subs hnew, h.pubs, h.services, h.actions⟩

theorem Opens.publish (h : Opens P s) (hnew : P s.promises) (topic typeName : String)
    (qos : QosOptions) (reuse : Option ℕ) : Opens P (s.publish topic typeName qos reuse) :=
  ⟨h.subs, InsertionMap.forall_values_set h.pubs hnew, h.services, h.actions⟩

theorem Opens.openService (h : Opens P s) (hnew : P s.promises) (base : ℕ)
    (name typeName : String) (client : Bool) (handler reuse : Option ℕ) :
    Opens P (s.openService base name typeName client handler reuse) :=
  ⟨h.subs, h.pubs, InsertionMap.forall_values_set h.services hnew, h.actions⟩

theorem Opens.openAction (h : Opens P s) (hnew : P s.promises) (base : ℕ)
    (name typeName : String) (client : Bool) (handlers : Option ActionServerHandlers)
    (reuse : Option ℕ) : Opens P (s.openAction base name typeName client handlers reuse) :=
  ⟨h.subs, h.pubs, h.services, InsertionMap.forall_values_set h.actions hnew⟩

theorem Opens.openRecord (h : Opens P s) (hnew : P s.promises) (record : ChannelRecord) :
    Opens P (s.openRecord record) := by
  unfold InlineClient.openRecord
  split
  · exact h.subscribe hnew ..
  · exact h.publish hnew ..
  · exact h.openService hnew ..
  · exact h.openService hnew ..
  · exact h.openAction hnew ..
  · exact h.openAction hnew ..

theorem promises_openRecord (s : InlineClient) (record : ChannelRecord) :
    (s.openRecord record).promises = s.promises + 1 := by
  unfold InlineClient.openRecord
  split <;> rfl

theorem opens_finish (h : Opens P s) (id : ℕ) (kind : TaskKind) : Opens P (s.finish id kind) := by
  cases kind <;> exact ⟨h.subs, h.pubs, h.services, h.actions⟩

theorem Opens.reopen (h : Opens P s) {id : ℕ} {kind : TaskKind} {records : List ChannelRecord}
    (hnew : s.promises < (s.reopen id kind records).promises → P s.promises) :
    Opens P (s.reopen id kind records) := by
  cases records with
  | nil => exact opens_finish h id kind
  | cons record rest =>
    have hopen := h.openRecord (hnew (promises_openRecord s record ▸ Nat.lt_succ_self _)) record
    exact ⟨hopen.subs, hopen.pubs, hopen.services, hopen.actions⟩

theorem opens_rejectInflight (message : String) : Opens P (s.rejectInflight message) :=
  ⟨List.forall_mem_nil _, List.forall_mem_nil _, List.forall_mem_nil _, List.forall_mem_nil _⟩

theorem opens_reconnect (h : Opens P s) (kind : TaskKind) (thrown : Option String) :
    Opens P (s.reconnect kind thrown) := by
  unfold InlineClient.reconnect
  split_ifs
  · exact ⟨h.subs, h.pubs, h.services, h.actions⟩
  · have hempty := opens_rejectInflight (P := P) (s := s) "session reconnected"
    exact ⟨hempty.subs, hempty.pubs, hempty.services, hempty.actions⟩

theorem opens_app (h : Opens P s) (thrown : Option String) (call : AppCall)
    (hnew : s.promises < (s.app thrown call).promises → P s.promises) :
    Opens P (s.app thrown call) := by
  cases call with
  | reconnect => exact opens_reconnect h ..
  | subscribe => exact h.subscribe (hnew (Nat.lt_succ_self _)) ..
  | publish => exact h.publish (hnew (Nat.lt_succ_self _)) ..
  | createServiceClient => exact h.openService (hnew (Nat.lt_succ_self _)) ..
  | createServiceServer => exact h.openService (hnew (Nat.lt_succ_self _)) ..
  | createActionClient => exact h.openAction (hnew (Nat.lt_succ_self _)) ..
  | createActionServer => exact h.openAction (hnew (Nat.lt_succ_self _)) ..
  | onGraph handler =>
    rw [app, onGraph]
    dsimp only
    split_ifs <;> exact ⟨h.subs, h.pubs, h.services, h.actions⟩
  | send channelId typeName message =>
    rw [app, send]
    split
    · exact (h.newPromise.call _).flushSync _
    · exact ⟨h.subs, h.pubs, h.services, h.actions⟩
  | closeChannel kind channelId => exact ((h.forget kind channelId).newPromise.call _).flushSync _
  | _ => exact ⟨h.subs, h.pubs, h.services, h.actions⟩

theorem promises_rehandle (s : InlineClient) (record : ChannelRecord) (value : Value) :
    (s.rehandle record value).promises = s.promises := by
  unfold rehandle
  split <;> rfl

theorem opens_resume (h : Opens P s) (id : ℕ)
    (hnew : s.promises < (s.resume id).promises → P s.promises) : Opens P (s.resume id) := by
  unfold resume at hnew ⊢
  split
  · exact h
  · exact ⟨h.subs, h.pubs, h.services, h.actions⟩
  · unfold connectWaiter
    split_ifs <;> exact ⟨h.subs, h.pubs, h.services, h.actions⟩
  · next htask =>
    rw [htask] at hnew
    dsimp only at hnew
    split
    · exact h
    · next hwaiter =>
      rw [hwaiter] at hnew
      dsimp only at hnew
      split_ifs with hcreate
      · exact opens_finish h ..
      · rw [if_neg hcreate] at hnew
        exact (show Opens P { s with channels := ∅ } from
          ⟨h.subs, h.pubs, h.services, h.actions⟩).reopen hnew
  · next htask =>
    rw [htask] at hnew
    dsimp only at hnew
    split
    · exact h
    · exact ⟨h.subs, h.pubs, h.services, h.actions⟩
    · next hsettled =>
      rw [hsettled] at hnew
      refine Opens.reopen (s := s.rehandle _ _) ?_ ?_
      · unfold rehandle
        split <;> exact ⟨h.subs, h.pubs, h.services, h.actions⟩
      · rw [promises_rehandle]
        exact hnew

theorem opens_onEvent (h : Opens P s) (payload : Payload) (event : AppEvent) :
    Opens P (s.onEvent payload event) := by
  cases event
  all_goals
    simp only [onEvent, deliverSample, released]
    repeat' split
  all_goals
    first
    | exact ⟨h.subs, h.pubs, h.services, h.actions⟩
    | exact ⟨InsertionMap.forall_values_filter h.subs, h.pubs, h.services, h.actions⟩
    | exact ⟨h.subs, InsertionMap.forall_values_filter h.pubs, h.services, h.actions⟩
    | exact ⟨h.subs, h.pubs, InsertionMap.forall_values_filter h.services, h.actions⟩
    | exact ⟨h.subs, h.pubs, h.services, InsertionMap.forall_values_filter h.actions⟩

/-- **A step opens nothing but under a new promise.** -/
theorem opens_step (h : Opens P s) (act : InlineAct)
    (hnew : s.promises < (s.step act).promises → P s.promises) : Opens P (s.step act) := by
  cases act with
  | app call thrown => exact opens_app h thrown call hnew
  | event event payload => exact opens_onEvent h payload event
  | sample channelId leaseId reading =>
    simp only [step, deliverSample]
    repeat' split
    all_goals exact ⟨h.subs, h.pubs, h.services, h.actions⟩
  | transportError message =>
    exact ⟨List.forall_mem_nil _, List.forall_mem_nil _, h.services, h.actions⟩
  | closed thrown =>
    simp only [step, onClosed, autoReconnect]
    split_ifs
    all_goals
      first
      | exact h
      | exact opens_reconnect (s := { s with reconnectAttempts := s.reconnectAttempts + 1 })
          ⟨h.subs, h.pubs, h.services, h.actions⟩ ..
  | returned =>
    simp only [step, returned]
    split <;> exact ⟨h.subs, h.pubs, h.services, h.actions⟩
  | resume id => exact opens_resume h id hnew
  | answered id answer =>
    simp only [step, answered]
    repeat' split
    all_goals exact ⟨h.subs, h.pubs, h.services, h.actions⟩

/-! ## All promises -/

theorem Names.inflight (h : Names P s) : ∀ p ∈ s.inflight, P p := by
  intro p hp
  simp only [InlineClient.inflight, List.mem_append, List.mem_map] at hp
  rcases hp with ((((hp | hp) | ⟨pending, hp, rfl⟩) | ⟨pending, hp, rfl⟩) | ⟨pending, hp, rfl⟩) |
    ⟨pending, hp, rfl⟩
  · exact h.calls p hp
  · exact h.results p hp
  · exact h.opens.subs pending hp
  · exact h.opens.pubs pending hp
  · exact h.opens.services pending hp
  · exact h.opens.actions pending hp

theorem Names.settle (h : Names P s) {promise : ℕ} (hp : P promise) (outcome : Settlement) :
    Names P { s with settled := settleIn s.settled promise outcome } :=
  { opens := ⟨h.opens.subs, h.opens.pubs, h.opens.services, h.opens.actions⟩
    calls := h.calls
    results := h.results
    waiters := h.waiters
    frames := h.frames
    tasks := h.tasks
    settled := forall_settleIn h.settled hp }

theorem names_rejectInflight (h : Names P s) (message : String) :
    Names P (s.rejectInflight message) :=
  { opens := opens_rejectInflight message
    calls := List.forall_mem_nil _
    results := List.forall_mem_nil _
    waiters := h.waiters
    frames := h.frames
    tasks := h.tasks
    settled := forall_settleAll h.settled h.inflight }

theorem names_newPromise (h : Names P s) : Names P s.newPromise :=
  ⟨h.opens.newPromise, h.calls, h.results, h.waiters, h.frames, h.tasks, h.settled⟩

theorem names_call (h : Names P s) (c : HostCall) : Names P (s.call c) :=
  ⟨h.opens.call c, h.calls, h.results, h.waiters, h.frames, h.tasks, h.settled⟩

theorem names_flushSync (h : Names P s) {frame : Frame} (hframe : ∀ p ∈ frame.promise?, P p) :
    Names P (s.flushSync frame) := by
  refine ⟨h.opens.flushSync frame, h.calls, h.results, h.waiters, ?_, h.tasks, h.settled⟩
  intro f hf
  rcases List.mem_cons.mp hf with rfl | hold
  · exact hframe
  · exact h.frames f hold

theorem names_forget (h : Names P s) (kind : ChannelKind) (channelId : ℕ) :
    Names P (s.forget kind channelId) := by
  have hopens := h.opens.forget kind channelId
  cases kind <;> exact ⟨hopens, h.calls, h.results, h.waiters, h.frames, h.tasks, h.settled⟩

/-- The id of a channel that is opened is counted. -/
theorem names_allocate (h : Names P s) (reuse : Option ℕ) : Names P (s.allocate reuse).newPromise :=
  names_newPromise ⟨⟨h.opens.subs, h.opens.pubs, h.opens.services, h.opens.actions⟩, h.calls,
    h.results, h.waiters, h.frames, h.tasks, h.settled⟩

theorem names_subscribe (h : Names P s) (hnew : P s.promises) (topic typeName : String)
    (qos : QosOptions) (reuse : Option ℕ) : Names P (s.subscribe topic typeName qos reuse) := by
  have ht := names_allocate h reuse
  refine names_call ?_ _
  exact ⟨⟨InsertionMap.forall_values_set h.opens.subs hnew,
      ht.opens.pubs, ht.opens.services, ht.opens.actions⟩,
    ht.calls, ht.results, ht.waiters, ht.frames, ht.tasks, ht.settled⟩

theorem names_publish (h : Names P s) (hnew : P s.promises) (topic typeName : String)
    (qos : QosOptions) (reuse : Option ℕ) : Names P (s.publish topic typeName qos reuse) := by
  have ht := names_allocate h reuse
  refine names_call ?_ _
  exact ⟨⟨ht.opens.subs, InsertionMap.forall_values_set h.opens.pubs hnew,
      ht.opens.services, ht.opens.actions⟩,
    ht.calls, ht.results, ht.waiters, ht.frames, ht.tasks, ht.settled⟩

theorem names_openService (h : Names P s) (hnew : P s.promises) (base : ℕ)
    (name typeName : String) (client : Bool) (handler reuse : Option ℕ) :
    Names P (s.openService base name typeName client handler reuse) := by
  have ht := names_allocate h reuse
  refine names_call ?_ _
  exact ⟨⟨ht.opens.subs, ht.opens.pubs, InsertionMap.forall_values_set h.opens.services hnew,
      ht.opens.actions⟩,
    ht.calls, ht.results, ht.waiters, ht.frames, ht.tasks, ht.settled⟩

theorem names_openAction (h : Names P s) (hnew : P s.promises) (base : ℕ)
    (name typeName : String) (client : Bool) (handlers : Option ActionServerHandlers)
    (reuse : Option ℕ) : Names P (s.openAction base name typeName client handlers reuse) := by
  have ht := names_allocate h reuse
  refine names_call ?_ _
  exact ⟨⟨ht.opens.subs, ht.opens.pubs, ht.opens.services,
      InsertionMap.forall_values_set h.opens.actions hnew⟩,
    ht.calls, ht.results, ht.waiters, ht.frames, ht.tasks, ht.settled⟩

theorem names_openRecord (h : Names P s) (hnew : P s.promises) (record : ChannelRecord) :
    Names P (s.openRecord record) := by
  unfold openRecord
  split
  · exact names_subscribe h hnew ..
  · exact names_publish h hnew ..
  · exact names_openService h hnew ..
  · exact names_openService h hnew ..
  · exact names_openAction h hnew ..
  · exact names_openAction h hnew ..

theorem promises_reconnect (s : InlineClient) (kind : TaskKind) (thrown : Option String) :
    (s.reconnect kind thrown).promises = s.promises + 1 := by
  unfold InlineClient.reconnect
  split_ifs <;> rfl

theorem names_reconnect (h : Names P s) (hnew : P s.promises) (kind : TaskKind)
    (thrown : Option String) : Names P (s.reconnect kind thrown) := by
  unfold InlineClient.reconnect
  split_ifs
  · exact (show Names P s.newPromise from
      ⟨⟨h.opens.subs, h.opens.pubs, h.opens.services, h.opens.actions⟩, h.calls, h.results,
        h.waiters, h.frames, h.tasks, h.settled⟩).settle hnew _
  · have hrejected := names_rejectInflight h "session reconnected"
    exact ⟨⟨hrejected.opens.subs, hrejected.opens.pubs, hrejected.opens.services,
      hrejected.opens.actions⟩, hrejected.calls, hrejected.results, h.waiters, h.frames,
      InsertionMap.forall_keys_set h.tasks hnew, hrejected.settled⟩

theorem names_finish (h : Names P s) {id : ℕ} (hid : P id) (kind : TaskKind) :
    Names P (s.finish id kind) := by
  have hopens := opens_finish h.opens id kind
  cases kind <;>
    exact ⟨hopens, h.calls, h.results, h.waiters, h.frames,
      InsertionMap.forall_keys_filter h.tasks, forall_settleIn h.settled hid⟩

theorem names_fail (h : Names P s) {id : ℕ} (hid : P id) (message : String) :
    Names P (s.fail id message) :=
  ⟨⟨h.opens.subs, h.opens.pubs, h.opens.services, h.opens.actions⟩, h.calls, h.results, h.waiters,
    h.frames, InsertionMap.forall_keys_filter h.tasks, forall_settleIn h.settled hid⟩

theorem names_reopen (h : Names P s) {id : ℕ} (hid : P id) {kind : TaskKind}
    {records : List ChannelRecord}
    (hnew : s.promises < (s.reopen id kind records).promises → P s.promises) :
    Names P (s.reopen id kind records) := by
  cases records with
  | nil => exact names_finish h hid kind
  | cons record rest =>
    have hopen :=
      names_openRecord h (hnew (promises_openRecord s record ▸ Nat.lt_succ_self _)) record
    exact ⟨h.opens.reopen hnew, hopen.calls, hopen.results,
      hopen.waiters, hopen.frames, InsertionMap.forall_keys_set h.tasks hid, hopen.settled⟩

theorem names_connectWaiter (h : Names P s) (hnew : P s.promises) : Names P s.connectWaiter := by
  have hopens : Opens P s.connectWaiter := by
    unfold connectWaiter
    split_ifs <;> exact ⟨h.opens.subs, h.opens.pubs, h.opens.services, h.opens.actions⟩
  unfold connectWaiter at hopens ⊢
  split_ifs with hready
  · rw [if_pos hready] at hopens
    exact ⟨hopens, h.calls, h.results, h.waiters, h.frames, h.tasks,
      forall_settleIn h.settled hnew⟩
  · rw [if_neg hready] at hopens
    refine ⟨hopens, h.calls, h.results, ?_, h.frames, h.tasks, h.settled⟩
    intro p hp
    rcases List.mem_append.mp hp with hold | hone
    · exact h.waiters p hold
    · rw [List.mem_singleton.mp hone]
      exact hnew

theorem promises_connectWaiter (s : InlineClient) : s.connectWaiter.promises = s.promises + 1 := by
  unfold connectWaiter
  split_ifs <;> rfl

theorem names_resume (h : Names P s) (id : ℕ)
    (hnew : s.promises < (s.resume id).promises → P s.promises) : Names P (s.resume id) := by
  have hopens := opens_resume h.opens id hnew
  unfold resume at hopens hnew ⊢
  split
  · exact h
  · next htask => exact names_fail h (h.tasks _ (InsertionMap.mem_keys_of_find? htask)) _
  · next htask =>
    rw [htask] at hopens hnew
    have hwaiter := names_connectWaiter h (hnew (promises_connectWaiter s ▸ Nat.lt_succ_self _))
    exact ⟨hopens, hwaiter.calls, hwaiter.results, hwaiter.waiters, hwaiter.frames,
      InsertionMap.forall_keys_set h.tasks (h.tasks _ (InsertionMap.mem_keys_of_find? htask)),
      hwaiter.settled⟩
  · next htask =>
    have hid := h.tasks _ (InsertionMap.mem_keys_of_find? htask)
    rw [htask] at hnew
    dsimp only at hnew
    split
    · exact h
    · next hwaiter =>
      rw [hwaiter] at hnew
      dsimp only at hnew
      split_ifs with hcreate
      · exact names_finish h hid _
      · rw [if_neg hcreate] at hnew
        exact names_reopen (s := { s with channels := ∅ })
          ⟨⟨h.opens.subs, h.opens.pubs, h.opens.services, h.opens.actions⟩, h.calls, h.results,
            h.waiters, h.frames, h.tasks, h.settled⟩ hid hnew
  · next htask =>
    have hid := h.tasks _ (InsertionMap.mem_keys_of_find? htask)
    rw [htask] at hnew
    dsimp only at hnew
    split
    · exact h
    · exact names_fail h hid _
    · next hsettled =>
      rw [hsettled] at hnew
      refine names_reopen (s := s.rehandle _ _) ?_ hid ?_
      · unfold rehandle
        split <;>
          exact ⟨⟨h.opens.subs, h.opens.pubs, h.opens.services, h.opens.actions⟩, h.calls,
            h.results, h.waiters, h.frames, h.tasks, h.settled⟩
      · rw [promises_rehandle]
        exact hnew

theorem names_app (h : Names P s) (thrown : Option String) (call : AppCall)
    (hnew : s.promises < (s.app thrown call).promises → P s.promises) :
    Names P (s.app thrown call) := by
  have hopens := opens_app h.opens thrown call hnew
  have hdone : P s.promises → ∀ p ∈ (Frame.done s.promises).promise?, P p := by
    intro hp p hmem
    exact Option.some.inj hmem ▸ hp
  cases call with
  | reconnect => exact names_reconnect h (hnew (promises_reconnect .. ▸ Nat.lt_succ_self _)) ..
  | close =>
    have hoptions : Names P { s with options := { s.options with reconnect := false } } :=
      ⟨⟨h.opens.subs, h.opens.pubs, h.opens.services, h.opens.actions⟩, h.calls, h.results,
        h.waiters, h.frames, h.tasks, h.settled⟩
    exact names_flushSync (names_call (names_newPromise hoptions) _)
      (hdone (hnew (Nat.lt_succ_self _)))
  | onGraph handler =>
    simp only [app, onGraph] at hopens ⊢
    split_ifs at hopens ⊢ <;>
      exact ⟨hopens, h.calls, h.results, h.waiters, h.frames, h.tasks, h.settled⟩
  | send channelId typeName message =>
    simp only [app, send] at hopens hnew ⊢
    split
    · next hdispatch =>
      rw [hdispatch] at hnew
      exact names_flushSync (names_call (names_newPromise h) _) (hdone (hnew (Nat.lt_succ_self _)))
    · next hdispatch =>
      rw [hdispatch] at hopens hnew
      exact ⟨hopens, h.calls, h.results, h.waiters, h.frames, h.tasks,
        forall_settleIn h.settled (hnew (Nat.lt_succ_self _))⟩
  | call channelId operationId request =>
    exact ⟨hopens, InsertionMap.forall_values_set h.calls (hnew (Nat.lt_succ_self _)), h.results,
      h.waiters, h.frames, h.tasks, h.settled⟩
  | sendGoal channelId operationId goal =>
    exact ⟨hopens, h.calls, InsertionMap.forall_values_set h.results (hnew (Nat.lt_succ_self _)),
      h.waiters, h.frames, h.tasks, h.settled⟩
  | subscribe => exact names_subscribe h (hnew (Nat.lt_succ_self _)) ..
  | publish => exact names_publish h (hnew (Nat.lt_succ_self _)) ..
  | createServiceClient | createServiceServer =>
    exact names_openService h (hnew (Nat.lt_succ_self _)) ..
  | createActionClient | createActionServer =>
    exact names_openAction h (hnew (Nat.lt_succ_self _)) ..
  | closeChannel kind channelId =>
    have hlt : s.promises < (s.closeChannel kind channelId).promises := by
      cases kind <;> exact Nat.lt_succ_self _
    exact names_flushSync (names_call (names_newPromise (names_forget h kind channelId)) _)
      (hdone (hnew hlt))
  | _ => exact ⟨hopens, h.calls, h.results, h.waiters, h.frames, h.tasks, h.settled⟩

theorem names_released (h : Names P s) (event : OperationEvent) {frame : Option Frame}
    (hframe : ∀ f ∈ frame, ∀ p ∈ f.promise?, P p) : Names P (s.released event frame) := by
  have hcall : Names P (s.call (.releaseLease event.leaseId)) :=
    ⟨⟨h.opens.subs, h.opens.pubs, h.opens.services, h.opens.actions⟩, h.calls, h.results,
      h.waiters, h.frames, h.tasks, h.settled⟩
  cases frame with
  | none => exact hcall
  | some frame => exact names_flushSync hcall (hframe frame rfl)

theorem names_onEvent (h : Names P s) (payload : Payload) (event : AppEvent) :
    Names P (s.onEvent payload event) := by
  have hopens := opens_onEvent h.opens payload event
  cases event with
  | sessionReady =>
    exact ⟨hopens, h.calls, h.results, List.forall_mem_nil _, h.frames, h.tasks,
      forall_settleAll h.settled h.waiters⟩
  | subscribed | subscribeFailed =>
    simp only [onEvent] at hopens ⊢
    split
    · exact h
    · next hfind =>
      rw [hfind] at hopens
      exact ⟨hopens, h.calls, h.results, h.waiters, h.frames, h.tasks,
        forall_settleIn h.settled (h.opens.subs _ (InsertionMap.mem_values_of_find? hfind))⟩
  | published | publishFailed =>
    simp only [onEvent] at hopens ⊢
    split
    · exact h
    · next hfind =>
      rw [hfind] at hopens
      exact ⟨hopens, h.calls, h.results, h.waiters, h.frames, h.tasks,
        forall_settleIn h.settled (h.opens.pubs _ (InsertionMap.mem_values_of_find? hfind))⟩
  | serviceReady | serviceFailed =>
    simp only [onEvent] at hopens ⊢
    split
    · exact h
    · next hfind =>
      rw [hfind] at hopens
      exact ⟨hopens, h.calls, h.results, h.waiters, h.frames, h.tasks,
        forall_settleIn h.settled (h.opens.services _ (InsertionMap.mem_values_of_find? hfind))⟩
  | actionReady | actionFailed =>
    simp only [onEvent] at hopens ⊢
    split
    · exact h
    · next hfind =>
      rw [hfind] at hopens
      exact ⟨hopens, h.calls, h.results, h.waiters, h.frames, h.tasks,
        forall_settleIn h.settled (h.opens.actions _ (InsertionMap.mem_values_of_find? hfind))⟩
  | sample channelId leaseId =>
    simp only [onEvent, deliverSample] at hopens ⊢
    repeat' split
    all_goals
      exact ⟨⟨h.opens.subs, h.opens.pubs, h.opens.services, h.opens.actions⟩, h.calls, h.results,
        h.waiters, h.frames, h.tasks, h.settled⟩
  | serviceResponse event =>
    refine names_released h event fun f hf p hp => ?_
    obtain ⟨promise, hfind, rfl⟩ := Option.map_eq_some_iff.mp hf
    exact Option.some.inj hp ▸ h.calls promise (InsertionMap.mem_values_of_find? hfind)
  | actionResult event =>
    refine names_released h event fun f hf p hp => ?_
    obtain ⟨promise, hfind, rfl⟩ := Option.map_eq_some_iff.mp hf
    exact Option.some.inj hp ▸ h.results promise (InsertionMap.mem_values_of_find? hfind)
  | serviceRequest event | actionGoal event | actionFeedback event | actionStatus event =>
    refine names_released h event fun f hf p hp => ?_
    obtain ⟨handler, -, rfl⟩ := Option.map_eq_some_iff.mp hf
    cases hp
  | operationCancelled channelId code message =>
    refine ⟨hopens, InsertionMap.forall_values_filter h.calls,
      InsertionMap.forall_values_filter h.results, h.waiters, h.frames, h.tasks,
      forall_settleAll h.settled fun p hp => ?_⟩
    rcases List.mem_append.mp hp with hcall | hresult
    · exact h.calls p (InsertionMap.mem_values_of_mem_filter hcall)
    · exact h.results p (InsertionMap.mem_values_of_mem_filter hresult)
  | _ => exact ⟨hopens, h.calls, h.results, h.waiters, h.frames, h.tasks, h.settled⟩

theorem names_returned (h : Names P s) : Names P s.returned := by
  unfold returned
  split
  · exact h
  all_goals
    next frames hframes =>
    have hrest : ∀ frame ∈ frames, ∀ p ∈ frame.promise?, P p := fun frame hframe =>
      h.frames frame (hframes ▸ List.mem_cons_of_mem _ hframe)
    have hfirst := h.frames _ (hframes ▸ List.mem_cons_self)
    have hopens : Opens P s := h.opens
    first
    | exact ⟨⟨hopens.subs, hopens.pubs, hopens.services, hopens.actions⟩, h.calls, h.results,
        h.waiters, hrest, h.tasks, forall_settleIn h.settled (hfirst _ rfl)⟩
    | exact ⟨⟨hopens.subs, hopens.pubs, hopens.services, hopens.actions⟩,
        InsertionMap.forall_values_filter h.calls, h.results, h.waiters, hrest, h.tasks,
        forall_settleIn h.settled (hfirst _ rfl)⟩
    | exact ⟨⟨hopens.subs, hopens.pubs, hopens.services, hopens.actions⟩, h.calls,
        InsertionMap.forall_values_filter h.results, h.waiters, hrest, h.tasks,
        forall_settleIn h.settled (hfirst _ rfl)⟩
    | exact ⟨⟨hopens.subs, hopens.pubs, hopens.services, hopens.actions⟩, h.calls, h.results,
        h.waiters, hrest, h.tasks, h.settled⟩

/-- **A step names no promise but a new one.** -/
theorem names_step (h : Names P s) (act : InlineAct)
    (hnew : s.promises < (s.step act).promises → P s.promises) : Names P (s.step act) := by
  have hopens := opens_step h.opens act hnew
  cases act with
  | app call thrown => exact names_app h thrown call hnew
  | event event payload => exact names_onEvent h payload event
  | sample channelId leaseId reading =>
    simp only [step, deliverSample] at hopens ⊢
    repeat' split
    all_goals
      exact ⟨⟨h.opens.subs, h.opens.pubs, h.opens.services, h.opens.actions⟩, h.calls, h.results,
        h.waiters, h.frames, h.tasks, h.settled⟩
  | transportError message =>
    refine ⟨hopens, h.calls, h.results, h.waiters, h.frames, h.tasks,
      forall_settleAll h.settled fun p hp => ?_⟩
    rcases List.mem_append.mp hp with hsub | hpub
    · obtain ⟨pending, hpending, rfl⟩ := List.mem_map.mp hsub
      exact h.opens.subs pending hpending
    · obtain ⟨pending, hpending, rfl⟩ := List.mem_map.mp hpub
      exact h.opens.pubs pending hpending
  | closed thrown =>
    simp only [step, onClosed, autoReconnect] at hnew ⊢
    split_ifs at hnew ⊢
    · exact h
    · exact h
    · exact names_reconnect (s := { s with reconnectAttempts := s.reconnectAttempts + 1 })
        ⟨⟨h.opens.subs, h.opens.pubs, h.opens.services, h.opens.actions⟩, h.calls, h.results,
          h.waiters, h.frames, h.tasks, h.settled⟩
        (hnew (promises_reconnect .. ▸ Nat.lt_succ_self _)) ..
    · exact h
  | returned => exact names_returned h
  | resume id => exact names_resume h id hnew
  | answered id answer =>
    simp only [step, answered] at hopens ⊢
    repeat' split
    all_goals
      exact ⟨⟨h.opens.subs, h.opens.pubs, h.opens.services, h.opens.actions⟩, h.calls, h.results,
        h.waiters, h.frames, h.tasks, h.settled⟩

/-! ## Runs -/

theorem promises_app (s : InlineClient) (thrown : Option String) (call : AppCall) :
    s.promises ≤ (s.app thrown call).promises := by
  cases call with
  | reconnect => exact promises_reconnect s .reconnect thrown ▸ Nat.le_succ _
  | onGraph handler =>
    simp only [app, onGraph]
    split_ifs <;> exact Nat.le_refl _
  | send channelId typeName message =>
    simp only [app, send]
    split <;> exact Nat.le_succ _
  | closeChannel kind channelId => cases kind <;> exact Nat.le_succ _
  | onMessage => exact Nat.le_refl _
  | _ => first | exact Nat.le_refl _ | exact Nat.le_succ _

theorem promises_reopen (s : InlineClient) (id : ℕ) (kind : TaskKind)
    (records : List ChannelRecord) : s.promises ≤ (s.reopen id kind records).promises := by
  cases records with
  | nil => cases kind <;> exact Nat.le_refl _
  | cons record rest => exact promises_openRecord s record ▸ Nat.le_succ _

theorem promises_resume (s : InlineClient) (id : ℕ) : s.promises ≤ (s.resume id).promises := by
  unfold resume
  split
  · exact Nat.le_refl _
  · exact Nat.le_refl _
  · exact promises_connectWaiter s ▸ Nat.le_succ _
  · split
    · exact Nat.le_refl _
    · split_ifs
      · exact promises_reopen s _ _ []
      · exact promises_reopen { s with channels := ∅ } ..
  · split
    · exact Nat.le_refl _
    · exact Nat.le_refl _
    · exact (promises_rehandle s ..).symm.le.trans (promises_reopen ..)

theorem promises_onEvent (s : InlineClient) (payload : Payload) (event : AppEvent) :
    (s.onEvent payload event).promises = s.promises := by
  cases event
  all_goals
    simp only [onEvent, deliverSample, released]
    repeat' split
  all_goals rfl

theorem promises_step (s : InlineClient) (act : InlineAct) :
    s.promises ≤ (s.step act).promises := by
  cases act with
  | app call thrown => exact promises_app ..
  | event event payload => exact (promises_onEvent ..).symm.le
  | sample channelId leaseId reading =>
    simp only [step, deliverSample]
    repeat' split
    all_goals exact Nat.le_refl _
  | transportError message => exact Nat.le_refl _
  | closed thrown =>
    simp only [step, onClosed, autoReconnect]
    split_ifs
    all_goals
      first
      | exact Nat.le_refl _
      | exact promises_reconnect { s with reconnectAttempts := s.reconnectAttempts + 1 } .. ▸
          Nat.le_succ _
  | returned =>
    simp only [step, returned]
    split <;> exact Nat.le_refl _
  | resume id => exact promises_resume ..
  | answered id answer =>
    simp only [step, answered]
    repeat' split
    all_goals exact Nat.le_refl _

/-- **Every promise the client names has been made.** -/
def Numbered (s : InlineClient) : Prop := Names (· < s.promises) s

theorem numbered_step (h : s.Numbered) (act : InlineAct) : (s.step act).Numbered :=
  names_step (h.imp fun _ hp => hp.trans_le (promises_step s act)) act id

/-- What acts lead to from `create`. -/
def Reachable (s : InlineClient) : Prop :=
  ∃ url options connect acts, s = Acts.run InlineClient.step (create url options connect) acts

theorem numbered_create (url : String) (options : ReconnectOptions) (connect : ConnectOptions) :
    (create url options connect).Numbered :=
  ⟨⟨List.forall_mem_nil _, List.forall_mem_nil _, List.forall_mem_nil _, List.forall_mem_nil _⟩,
    List.forall_mem_nil _, List.forall_mem_nil _, List.forall_mem_singleton.mpr Nat.one_lt_two,
    List.forall_mem_nil _, List.forall_mem_singleton.mpr Nat.zero_lt_two, List.forall_mem_nil _⟩

theorem Reachable.numbered (h : s.Reachable) : s.Numbered := by
  obtain ⟨url, options, connect, acts, rfl⟩ := h
  exact Acts.invariant_run_of_step Numbered (fun _ act hs => numbered_step hs act)
    (numbered_create url options connect) acts

end InlineClient
end Client
end Rclweb
