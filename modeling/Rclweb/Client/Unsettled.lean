import Rclweb.Client.Promises

/-!
# No promise is lost

A promise the client has made is settled, or it waits where something can still settle it: in a
table, for the session, behind a call of `flushSync`, or as that of a task.  Most steps keep every
promise there (`LosesNone`).  A step that puts an entry under a key that is in use would lose the
promise of the old one.
-/

namespace Rclweb
namespace Client

open Engine Worker

namespace InlineClient

/-- **Where a promise is kept** until it is settled. -/
inductive Keeps (s : InlineClient) (p : ℕ) : Prop
  | settled (h : p ∈ s.settled.keys)
  | sub {pending : PendingTopic} (h : pending ∈ s.pendingSubs.values) (hp : pending.promise = p)
  | pub {pending : PendingTopic} (h : pending ∈ s.pendingPubs.values) (hp : pending.promise = p)
  | service {pending : PendingService} (h : pending ∈ s.pendingServices.values)
    (hp : pending.promise = p)
  | action {pending : PendingAction} (h : pending ∈ s.pendingActions.values)
    (hp : pending.promise = p)
  | call (h : p ∈ s.pendingCalls.values)
  | result (h : p ∈ s.pendingActionResults.values)
  | waiter (h : p ∈ s.connectWaiters)
  | frame {f : Frame} (h : f ∈ s.frames) (hp : f.promise? = some p)
  | task (h : p ∈ s.tasks.keys)

/-- **A step from `s` to `s'` loses no promise.**  No task of `create` begins, and what is under the
key of an answer that is being handed out is the promise of the answer. -/
structure LosesNone (s s' : InlineClient) : Prop where
  settled : ∀ p ∈ s.settled.keys, p ∈ s'.settled.keys
  subs : ∀ pending ∈ s.pendingSubs.values,
      pending ∈ s'.pendingSubs.values ∨ pending.promise ∈ s'.settled.keys
  pubs : ∀ pending ∈ s.pendingPubs.values,
      pending ∈ s'.pendingPubs.values ∨ pending.promise ∈ s'.settled.keys
  services : ∀ pending ∈ s.pendingServices.values,
      pending ∈ s'.pendingServices.values ∨ pending.promise ∈ s'.settled.keys
  actions : ∀ pending ∈ s.pendingActions.values,
      pending ∈ s'.pendingActions.values ∨ pending.promise ∈ s'.settled.keys
  calls : ∀ p ∈ s.pendingCalls.values, p ∈ s'.pendingCalls.values ∨ p ∈ s'.settled.keys
  results : ∀ p ∈ s.pendingActionResults.values,
      p ∈ s'.pendingActionResults.values ∨ p ∈ s'.settled.keys
  waiters : ∀ p ∈ s.connectWaiters, p ∈ s'.connectWaiters ∨ p ∈ s'.settled.keys
  frames : ∀ f ∈ s.frames, f ∈ s'.frames ∨ ∀ p ∈ f.promise?, p ∈ s'.settled.keys
  tasks : ∀ p ∈ s.tasks.keys, p ∈ s'.tasks.keys ∨ p ∈ s'.settled.keys
  made : ∀ p, s.promises ≤ p → p < s'.promises → s'.Keeps p
  creates : ∀ entry ∈ s'.tasks.entries, entry.2.kind = .create → entry ∈ s.tasks.entries
  responses : ∀ key p payload, .response key p payload ∈ s'.frames →
      ∀ q ∈ s'.pendingCalls.find? key,
        (.response key p payload ∈ s.frames ∧ q ∈ s.pendingCalls.find? key) ∨ q = p
  goals : ∀ key p payload, .result key p payload ∈ s'.frames →
      ∀ q ∈ s'.pendingActionResults.find? key,
        (.result key p payload ∈ s.frames ∧ q ∈ s.pendingActionResults.find? key) ∨ q = p

variable {s s' : InlineClient}

/-- Where no promise is made, none is lost. -/
theorem none_made (h : s'.promises ≤ s.promises) :
    ∀ p, s.promises ≤ p → p < s'.promises → s'.Keeps p :=
  fun _ hp hlt => absurd (hlt.trans_le h) (Nat.not_lt.mpr hp)

/-- A step that settles promises, and does nothing else. -/
theorem LosesNone.of_settled {settled : InsertionMap ℕ Settlement}
    (h : ∀ p ∈ s.settled.keys, p ∈ settled.keys) :
    LosesNone s { s with settled := settled } where
  settled := h
  subs _ h := .inl h
  pubs _ h := .inl h
  services _ h := .inl h
  actions _ h := .inl h
  calls _ h := .inl h
  results _ h := .inl h
  waiters _ h := .inl h
  frames _ h := .inl h
  tasks _ h := .inl h
  made := none_made le_rfl
  creates _ h _ := h
  responses _ _ _ h _ hq := .inl ⟨h, hq⟩
  goals _ _ _ h _ hq := .inl ⟨h, hq⟩

theorem LosesNone.refl (s : InlineClient) : LosesNone s s :=
  .of_settled fun _ h => h

/-- What was kept is kept. -/
theorem LosesNone.keeps (h : LosesNone s s') {p : ℕ} (hp : s.Keeps p) : s'.Keeps p := by
  cases hp with
  | settled hp => exact .settled (h.settled p hp)
  | sub hp heq => exact heq ▸ (h.subs _ hp).elim (.sub · rfl) .settled
  | pub hp heq => exact heq ▸ (h.pubs _ hp).elim (.pub · rfl) .settled
  | service hp heq => exact heq ▸ (h.services _ hp).elim (.service · rfl) .settled
  | action hp heq => exact heq ▸ (h.actions _ hp).elim (.action · rfl) .settled
  | call hp => exact (h.calls p hp).elim .call .settled
  | result hp => exact (h.results p hp).elim .result .settled
  | waiter hp => exact (h.waiters p hp).elim .waiter .settled
  | frame hp heq =>
    exact (h.frames _ hp).elim (.frame · heq) fun hsettled => .settled (hsettled p heq)
  | task hp => exact (h.tasks p hp).elim .task .settled

theorem LosesNone.trans {t u : InlineClient} (h : LosesNone s t) (h' : LosesNone t u) :
    LosesNone s u where
  settled p hp := h'.settled p (h.settled p hp)
  subs p hp := (h.subs p hp).elim (h'.subs p) fun hp => .inr (h'.settled _ hp)
  pubs p hp := (h.pubs p hp).elim (h'.pubs p) fun hp => .inr (h'.settled _ hp)
  services p hp := (h.services p hp).elim (h'.services p) fun hp => .inr (h'.settled _ hp)
  actions p hp := (h.actions p hp).elim (h'.actions p) fun hp => .inr (h'.settled _ hp)
  calls p hp := (h.calls p hp).elim (h'.calls p) fun hp => .inr (h'.settled p hp)
  results p hp := (h.results p hp).elim (h'.results p) fun hp => .inr (h'.settled p hp)
  waiters p hp := (h.waiters p hp).elim (h'.waiters p) fun hp => .inr (h'.settled p hp)
  frames f hf := (h.frames f hf).elim (h'.frames f) fun hsettled =>
    .inr fun p hp => h'.settled p (hsettled p hp)
  tasks p hp := (h.tasks p hp).elim (h'.tasks p) fun hp => .inr (h'.settled p hp)
  made p hp hlt := (Nat.lt_or_ge p t.promises).elim (fun hlt' => h'.keeps (h.made p hp hlt'))
    fun hge => h'.made p hge hlt
  creates entry hentry hkind := h.creates entry (h'.creates entry hentry hkind) hkind
  responses key p payload hf q hq := (h'.responses key p payload hf q hq).elim
    (fun hold => h.responses key p payload hold.1 q hold.2) .inr
  goals key p payload hf q hq := (h'.goals key p payload hf q hq).elim
    (fun hold => h.goals key p payload hold.1 q hold.2) .inr

theorem losesNone_settle (promise : ℕ) (outcome : Settlement) :
    LosesNone s { s with settled := settleIn s.settled promise outcome } :=
  .of_settled fun _ h => mem_keys_settleIn.mpr (.inr h)

/-! ## Opens -/

/-- Whether no open of a kind is pending under a channel id. -/
def Unused (s : InlineClient) (kind : ChannelKind) (channelId : ℕ) : Prop :=
  match kind with
  | .subscribe => channelId ∉ s.pendingSubs.keys
  | .publish => channelId ∉ s.pendingPubs.keys
  | .serviceClient | .serviceServer => channelId ∉ s.pendingServices.keys
  | .actionClient | .actionServer => channelId ∉ s.pendingActions.keys

theorem losesNone_subscribe (topic typeName : String) (qos : QosOptions) {reuse : Option ℕ}
    (h : s.Unused .subscribe (s.channelIdFor reuse)) :
    LosesNone s (s.subscribe topic typeName qos reuse) where
  __ := LosesNone.refl s
  subs _ hp := .inl (InsertionMap.mem_values_set_of_notMem h hp)
  made _ hp hlt :=
    .sub InsertionMap.mem_values_set_self (Nat.le_antisymm hp (Nat.le_of_lt_succ hlt))

theorem losesNone_publish (topic typeName : String) (qos : QosOptions) {reuse : Option ℕ}
    (h : s.Unused .publish (s.channelIdFor reuse)) :
    LosesNone s (s.publish topic typeName qos reuse) where
  __ := LosesNone.refl s
  pubs _ hp := .inl (InsertionMap.mem_values_set_of_notMem h hp)
  made _ hp hlt :=
    .pub InsertionMap.mem_values_set_self (Nat.le_antisymm hp (Nat.le_of_lt_succ hlt))

theorem losesNone_openService (base : ℕ) (name typeName : String) (client : Bool)
    (handler : Option ℕ) {reuse : Option ℕ}
    (h : s.channelIdFor reuse ∉ s.pendingServices.keys) :
    LosesNone s (s.openService base name typeName client handler reuse) where
  __ := LosesNone.refl s
  services _ hp := .inl (InsertionMap.mem_values_set_of_notMem h hp)
  made _ hp hlt :=
    .service InsertionMap.mem_values_set_self (Nat.le_antisymm hp (Nat.le_of_lt_succ hlt))

theorem losesNone_openAction (base : ℕ) (name typeName : String) (client : Bool)
    (handlers : Option ActionServerHandlers) {reuse : Option ℕ}
    (h : s.channelIdFor reuse ∉ s.pendingActions.keys) :
    LosesNone s (s.openAction base name typeName client handlers reuse) where
  __ := LosesNone.refl s
  actions _ hp := .inl (InsertionMap.mem_values_set_of_notMem h hp)
  made _ hp hlt :=
    .action InsertionMap.mem_values_set_self (Nat.le_antisymm hp (Nat.le_of_lt_succ hlt))

theorem losesNone_openRecord {record : ChannelRecord}
    (h : s.Unused record.kind record.channelId) : LosesNone s (s.openRecord record) := by
  unfold openRecord
  cases hkind : record.kind
  all_goals
    rw [hkind] at h
    first
    | exact losesNone_subscribe _ _ _ h
    | exact losesNone_publish _ _ _ h
    | exact losesNone_openService _ _ _ _ _ h
    | exact losesNone_openAction _ _ _ _ _ h

/-! ## Reconnecting -/

theorem mem_inflight (s : InlineClient) (p : ℕ) : p ∈ s.inflight ↔
    p ∈ s.pendingCalls.values ∨ p ∈ s.pendingActionResults.values ∨
      (∃ pending ∈ s.pendingSubs.values, pending.promise = p) ∨
      (∃ pending ∈ s.pendingPubs.values, pending.promise = p) ∨
      (∃ pending ∈ s.pendingServices.values, pending.promise = p) ∨
      ∃ pending ∈ s.pendingActions.values, pending.promise = p := by
  simp only [inflight, List.mem_append, List.mem_map, or_assoc]

theorem losesNone_rejectInflight (message : String) :
    LosesNone s (s.rejectInflight message) := by
  have hmem : ∀ p ∈ s.inflight, p ∈ (s.rejectInflight message).settled.keys := fun p hp =>
    mem_keys_settleAll.mpr (.inl hp)
  have hcall : ∀ p, _ → p ∈ s.inflight := fun p => (s.mem_inflight p).mpr
  exact { LosesNone.of_settled (s := s) fun _ h => mem_keys_settleAll.mpr (.inr h) with
    made := none_made le_rfl
    subs := fun pending h => .inr (hmem _ (hcall _ (.inr (.inr (.inl ⟨pending, h, rfl⟩)))))
    pubs := fun pending h => .inr (hmem _ (hcall _ (.inr (.inr (.inr (.inl ⟨pending, h, rfl⟩))))))
    services := fun pending h =>
      .inr (hmem _ (hcall _ (.inr (.inr (.inr (.inr (.inl ⟨pending, h, rfl⟩)))))))
    actions := fun pending h =>
      .inr (hmem _ (hcall _ (.inr (.inr (.inr (.inr (.inr ⟨pending, h, rfl⟩)))))))
    calls := fun p h => .inr (hmem p (hcall p (.inl h)))
    results := fun p h => .inr (hmem p (hcall p (.inr (.inl h))))
    responses := fun _ _ _ _ _ hq => by cases hq
    goals := fun _ _ _ _ _ hq => by cases hq }

/-- A task that begins is none of `create`. -/
theorem creates_set {tasks : InsertionMap ℕ Task} {id : ℕ} {task : Task}
    (htask : task.kind ≠ .create) :
    ∀ entry ∈ (tasks.set id task).entries, entry.2.kind = .create → entry ∈ tasks.entries := by
  intro entry hentry hkind
  rcases InsertionMap.mem_entries_set.mp hentry with rfl | hold
  · exact absurd hkind htask
  · exact hold.1

theorem losesNone_reconnect {kind : TaskKind} (hkind : kind ≠ .create) (thrown : Option String) :
    LosesNone s (s.reconnect kind thrown) := by
  unfold InlineClient.reconnect
  split_ifs
  · exact { losesNone_settle (s := s) _ _ with
      made := fun p hp hlt => .settled (mem_keys_settleIn.mpr
        (.inl (Nat.le_antisymm (Nat.le_of_lt_succ hlt) hp))) }
  · have h := losesNone_rejectInflight (s := s) "session reconnected"
    exact { h with
      settled := h.settled
      subs := h.subs
      pubs := h.pubs
      services := h.services
      actions := h.actions
      calls := h.calls
      results := h.results
      tasks := fun p hp => .inl (InsertionMap.mem_keys_set.mpr (.inr hp))
      made := fun p hp hlt => .task (InsertionMap.mem_keys_set.mpr
        (.inl (Nat.le_antisymm (Nat.le_of_lt_succ hlt) hp)))
      creates := creates_set hkind
      responses := fun _ _ _ _ _ hq => by cases hq
      goals := fun _ _ _ _ _ hq => by cases hq }

/-- A task ends with its promise. -/
theorem losesNone_endTask (id : ℕ) (outcome : Settlement) :
    LosesNone s { s with
      tasks := s.tasks.remove id, settled := settleIn s.settled id outcome } where
  __ := losesNone_settle (s := s) _ _
  tasks p hp := by
    by_cases hid : p = id
    · exact .inr (mem_keys_settleIn.mpr (.inl hid))
    · exact .inl (InsertionMap.mem_keys_remove.mpr ⟨hp, hid⟩)
  creates entry hentry _ := (InsertionMap.mem_entries_remove.mp hentry).1
  made := none_made le_rfl

theorem losesNone_finish (id : ℕ) (kind : TaskKind) : LosesNone s (s.finish id kind) := by
  refine (losesNone_endTask id (.resolved .done)).trans ?_
  cases kind <;> exact { LosesNone.refl _ with made := none_made le_rfl }

theorem losesNone_fail (id : ℕ) (message : String) : LosesNone s (s.fail id message) :=
  (losesNone_endTask id (.rejected message)).trans
    { LosesNone.refl _ with made := none_made le_rfl }

theorem losesNone_reopen (id : ℕ) {kind : TaskKind} (hkind : kind ≠ .create)
    {records : List ChannelRecord}
    (hunused : ∀ record ∈ records.head?, s.Unused record.kind record.channelId) :
    LosesNone s (s.reopen id kind records) := by
  cases records with
  | nil => exact losesNone_finish id kind
  | cons record rest =>
    refine (losesNone_openRecord (hunused record rfl)).trans ?_
    have htasks : (s.openRecord record).tasks = s.tasks := by
      unfold openRecord
      split <;> rfl
    exact { LosesNone.refl (s.openRecord record) with
      made := none_made le_rfl
      tasks := fun p hp => .inl (InsertionMap.mem_keys_set.mpr (.inr (htasks ▸ hp)))
      creates := htasks ▸ creates_set hkind }

theorem losesNone_connectWaiter : LosesNone s s.connectWaiter := by
  unfold connectWaiter
  split_ifs
  · exact { losesNone_settle (s := s) _ _ with
      made := fun p hp hlt => .settled (mem_keys_settleIn.mpr
        (.inl (Nat.le_antisymm (Nat.le_of_lt_succ hlt) hp))) }
  · exact { LosesNone.refl s with
      waiters := fun p hp => .inl (List.mem_append_left _ hp)
      made := fun p hp hlt => .waiter (List.mem_append_right _
        (List.mem_singleton.mpr (Nat.le_antisymm (Nat.le_of_lt_succ hlt) hp))) }

/-- **A task of `create` waits for the session**, and for nothing else. -/
def Waits (s : InlineClient) : Prop :=
  ∀ entry ∈ s.tasks.entries, entry.2.kind = .create →
    ∃ waiter, entry.2.stage = .waiting waiter ∧
      (waiter ∈ s.settled.keys ∨ waiter ∈ s.connectWaiters)

/-- The record a task opens next, when it goes on. -/
def nextRecord (s : InlineClient) (id : ℕ) : Option ChannelRecord :=
  match s.tasks.find? id with
  | some ⟨kind, .waiting waiter⟩ =>
    if kind = .create ∨ s.settled.find? waiter = none then none else s.channels.values.head?
  | some ⟨_, .reopening _ promise rest⟩ =>
    match s.settled.find? promise with
    | some (.resolved _) => rest.head?
    | _ => none
  | _ => none

theorem kind_ne_create (h : s.Waits) {id : ℕ} {task : Task} (htask : s.tasks.find? id = some task)
    (hstage : ∀ waiter, task.stage ≠ .waiting waiter) : task.kind ≠ .create := by
  intro hkind
  obtain ⟨waiter, hwaiter, -⟩ := h (id, task) (InsertionMap.find?_eq_some_iff.mp htask) hkind
  exact hstage waiter hwaiter

theorem losesNone_resume (hwaits : s.Waits) {id : ℕ}
    (hunused : ∀ record ∈ s.nextRecord id, s.Unused record.kind record.channelId) :
    LosesNone s (s.resume id) := by
  unfold resume
  unfold nextRecord at hunused
  split
  · exact .refl s
  · exact losesNone_fail ..
  · next htask =>
    have hkind := kind_ne_create hwaits htask fun _ => Stage.noConfusion
    refine losesNone_connectWaiter.trans ?_
    have htasks : s.connectWaiter.tasks = s.tasks := by
      unfold connectWaiter
      split_ifs <;> rfl
    exact { LosesNone.refl s.connectWaiter with
      made := none_made le_rfl
      tasks := fun p hp => .inl (InsertionMap.mem_keys_set.mpr (.inr (htasks ▸ hp)))
      creates := htasks ▸ creates_set hkind }
  · next kind waiter htask =>
    rw [htask] at hunused
    split
    · exact .refl s
    · next hsettled =>
      split_ifs with hkind
      · exact losesNone_finish ..
      · dsimp only at hunused
        rw [hsettled, if_neg (not_or.mpr ⟨hkind, Option.some_ne_none _⟩)] at hunused
        exact (show LosesNone s { s with channels := ∅ } from
          { LosesNone.refl s with made := none_made le_rfl }).trans
          (losesNone_reopen id hkind hunused)
  · next htask =>
    have hkind := kind_ne_create hwaits htask fun _ => Stage.noConfusion
    rw [htask] at hunused
    split
    · exact .refl s
    · exact losesNone_fail ..
    · next hsettled =>
      dsimp only at hunused
      rw [hsettled] at hunused
      have hrehandle : ∀ record value, LosesNone s (s.rehandle record value) := by
        intro record value
        unfold rehandle
        split <;> exact { LosesNone.refl _ with made := none_made le_rfl }
      refine (hrehandle _ _).trans (losesNone_reopen id hkind fun record hrecord => ?_)
      have hopen := hunused record hrecord
      unfold rehandle
      split <;> exact hopen

/-! ## Callbacks of the host -/

theorem losesNone_onTransportError (message : String) :
    LosesNone s (s.onTransportError message) where
  __ := LosesNone.of_settled (s := s) fun _ h => mem_keys_settleAll.mpr (.inr h)
  subs _ h := .inr (mem_keys_settleAll.mpr
    (.inl (List.mem_append_left _ (List.mem_map_of_mem h))))
  pubs _ h := .inr (mem_keys_settleAll.mpr
    (.inl (List.mem_append_right _ (List.mem_map_of_mem h))))
  made := none_made le_rfl

theorem losesNone_onClosed (thrown : Option String) : LosesNone s (s.onClosed thrown) := by
  unfold onClosed autoReconnect
  split_ifs
  all_goals
    first
    | exact .refl s
    | exact (show LosesNone s { s with reconnectAttempts := s.reconnectAttempts + 1 } from
        { LosesNone.refl s with made := none_made le_rfl }).trans
        (losesNone_reconnect TaskKind.noConfusion thrown)

theorem losesNone_deliverSample (channelId : ℕ) (leaseId : UInt32) (reading : SampleReading) :
    LosesNone s (s.deliverSample channelId leaseId reading) := by
  unfold deliverSample
  repeat' split
  all_goals exact { LosesNone.refl _ with made := none_made le_rfl }

/-- An open is answered: its promise is settled. -/
theorem answered_of_find? {ν : Type} {pending : InsertionMap ℕ ν} {key : ℕ} {v : ν}
    {promise : ν → ℕ} {settled : InsertionMap ℕ Settlement} {outcome : Settlement}
    (hfind : pending.find? key = some v) :
    ∀ v' ∈ pending.values, v' ∈ (pending.remove key).values ∨
      promise v' ∈ (settleIn settled (promise v) outcome).keys := by
  intro v' hv'
  rcases InsertionMap.mem_values_remove_or hv' key with hrest | hkey
  · exact .inl hrest
  · rw [hfind, Option.some_inj] at hkey
    exact .inr (mem_keys_settleIn.mpr (.inl (congrArg promise hkey.symm)))

theorem losesNone_released (event : OperationEvent) {frame : Option Frame}
    (hresponse : ∀ key p payload, frame = some (.response key p payload) →
      s.pendingCalls.find? key = some p)
    (hresult : ∀ key p payload, frame = some (.result key p payload) →
      s.pendingActionResults.find? key = some p) : LosesNone s (s.released event frame) := by
  cases frame with
  | none => exact { LosesNone.refl _ with made := none_made le_rfl }
  | some frame =>
    exact { LosesNone.refl s with
      made := none_made le_rfl
      frames := fun f hf => .inl (List.mem_cons_of_mem frame hf)
      responses := by
        intro key p payload hf q hq
        rcases List.mem_cons.mp hf with hframe | hold
        · have hfind := hresponse key p payload (congrArg some hframe.symm)
          exact .inr (Option.some.inj (hq.symm.trans hfind))
        · exact .inl ⟨hold, hq⟩
      goals := by
        intro key p payload hf q hq
        rcases List.mem_cons.mp hf with hframe | hold
        · have hfind := hresult key p payload (congrArg some hframe.symm)
          exact .inr (Option.some.inj (hq.symm.trans hfind))
        · exact .inl ⟨hold, hq⟩ }

theorem find?_of_find?_filter {κ ν : Type} [DecidableEq κ] {m : InsertionMap κ ν}
    {p : κ × ν → Bool} {k : κ} {v : ν} (h : (m.filter p).find? k = some v) : m.find? k = some v :=
  InsertionMap.find?_eq_some_iff.mpr
    (List.mem_of_mem_filter (InsertionMap.find?_eq_some_iff.mp h))

theorem losesNone_operationCancelled (channelId : ℕ) (message : String) :
    LosesNone s (s.operationCancelled channelId message) where
  __ := LosesNone.of_settled (s := s) fun _ h => mem_keys_settleAll.mpr (.inr h)
  calls _ h := (InsertionMap.mem_values_filter_or h (ofChannel channelId)).elim
    (fun hchannel => .inr (mem_keys_settleAll.mpr (.inl (List.mem_append_left _ hchannel)))) .inl
  results _ h := (InsertionMap.mem_values_filter_or h (ofChannel channelId)).elim
    (fun hchannel => .inr (mem_keys_settleAll.mpr (.inl (List.mem_append_right _ hchannel)))) .inl
  responses _ _ _ hf _ hq := .inl ⟨hf, find?_of_find?_filter hq⟩
  goals _ _ _ hf _ hq := .inl ⟨hf, find?_of_find?_filter hq⟩
  made := none_made le_rfl

theorem losesNone_onEvent (payload : Payload) (event : AppEvent) :
    LosesNone s (s.onEvent payload event) := by
  cases event with
  | sessionReady =>
    exact { LosesNone.of_settled (s := s) fun _ h => mem_keys_settleAll.mpr (.inr h) with
      made := none_made le_rfl
      waiters := fun _ h => .inr (mem_keys_settleAll.mpr (.inl h)) }
  | subscribed | subscribeFailed =>
    simp only [onEvent]
    split
    · exact .refl s
    · next hfind =>
      exact { losesNone_settle (s := s) _ _ with
        made := none_made le_rfl
        subs := answered_of_find? hfind }
  | published | publishFailed =>
    simp only [onEvent]
    split
    · exact .refl s
    · next hfind =>
      exact { losesNone_settle (s := s) _ _ with
        made := none_made le_rfl
        pubs := answered_of_find? hfind }
  | serviceReady | serviceFailed =>
    simp only [onEvent]
    split
    · exact .refl s
    · next hfind =>
      exact { losesNone_settle (s := s) _ _ with
        made := none_made le_rfl
        services := answered_of_find? hfind }
  | actionReady | actionFailed =>
    simp only [onEvent]
    split
    · exact .refl s
    · next hfind =>
      exact { losesNone_settle (s := s) _ _ with
        made := none_made le_rfl
        actions := answered_of_find? hfind }
  | sample => exact losesNone_deliverSample ..
  | serviceResponse event =>
    refine losesNone_released event (fun key p payload hf => ?_) (fun key p payload hf => ?_)
    · obtain ⟨promise, hfind, hframe⟩ := Option.map_eq_some_iff.mp hf
      cases hframe
      exact hfind
    · obtain ⟨promise, -, hframe⟩ := Option.map_eq_some_iff.mp hf
      cases hframe
  | actionResult event =>
    refine losesNone_released event (fun key p payload hf => ?_) (fun key p payload hf => ?_)
    · obtain ⟨promise, -, hframe⟩ := Option.map_eq_some_iff.mp hf
      cases hframe
    · obtain ⟨promise, hfind, hframe⟩ := Option.map_eq_some_iff.mp hf
      cases hframe
      exact hfind
  | serviceRequest event | actionGoal event | actionFeedback event | actionStatus event =>
    refine losesNone_released event (fun key p payload hf => ?_) (fun key p payload hf => ?_)
    all_goals
      obtain ⟨handler, -, hframe⟩ := Option.map_eq_some_iff.mp hf
      cases hframe
  | operationCancelled => exact losesNone_operationCancelled ..
  | _ => exact { LosesNone.refl _ with made := none_made le_rfl }

/-- **An answer that is being handed out is that of the promise under its key**, if there is still
one. -/
structure Answers (s : InlineClient) : Prop where
  responses : ∀ key p payload, .response key p payload ∈ s.frames →
    ∀ q ∈ s.pendingCalls.find? key, q = p
  goals : ∀ key p payload, .result key p payload ∈ s.frames →
    ∀ q ∈ s.pendingActionResults.find? key, q = p

/-- What an answer takes out of a table is its own promise. -/
theorem taken_of_answer {κ : Type} [DecidableEq κ] {pending : InsertionMap κ ℕ} {key : κ}
    {promise : ℕ} {settled : InsertionMap ℕ Settlement} {outcome : Settlement}
    (h : ∀ q ∈ pending.find? key, q = promise) :
    ∀ p ∈ pending.values, p ∈ (pending.remove key).values ∨
      p ∈ (settleIn settled promise outcome).keys := by
  intro p hp
  rcases InsertionMap.mem_values_remove_or hp key with hrest | hkey
  · exact .inl hrest
  · exact .inr (mem_keys_settleIn.mpr (.inl (h p hkey)))

theorem losesNone_returned (hanswers : s.Answers) : LosesNone s s.returned := by
  unfold returned
  split
  · exact .refl s
  all_goals
    next frames hframes =>
    have hfirst : ∀ {first : Frame} {settled : InsertionMap ℕ Settlement},
        s.frames = first :: frames →
        (∀ p ∈ first.promise?, p ∈ settled.keys) →
        ∀ f ∈ s.frames, f ∈ frames ∨ ∀ p ∈ f.promise?, p ∈ settled.keys := by
      intro first settled heq hsettled f hf
      rw [heq] at hf
      rcases List.mem_cons.mp hf with rfl | hrest
      · exact .inr hsettled
      · exact .inl hrest
    have hrest : ∀ f ∈ frames, f ∈ s.frames := fun f hf => hframes ▸ List.mem_cons_of_mem _ hf
    first
    | exact { LosesNone.refl s with
        made := none_made le_rfl
        frames := hfirst hframes fun p hp => by cases hp
        responses := fun _ _ _ hf _ hq => .inl ⟨hrest _ hf, hq⟩
        goals := fun _ _ _ hf _ hq => .inl ⟨hrest _ hf, hq⟩ }
    | exact { losesNone_settle (s := s) _ _ with
        made := none_made le_rfl
        frames := hfirst hframes fun p hp => by
          cases hp
          exact mem_keys_settleIn.mpr (.inl rfl)
        responses := fun _ _ _ hf _ hq => .inl ⟨hrest _ hf, hq⟩
        goals := fun _ _ _ hf _ hq => .inl ⟨hrest _ hf, hq⟩ }
    | exact { losesNone_settle (s := s) _ _ with
        made := none_made le_rfl
        calls := taken_of_answer (hanswers.responses _ _ _ (hframes ▸ List.mem_cons_self))
        frames := hfirst hframes fun p hp => by
          cases hp
          exact mem_keys_settleIn.mpr (.inl rfl)
        responses := fun _ _ _ hf _ hq => .inl ⟨hrest _ hf, find?_of_find?_filter hq⟩
        goals := fun _ _ _ hf _ hq => .inl ⟨hrest _ hf, hq⟩ }
    | exact { losesNone_settle (s := s) _ _ with
        made := none_made le_rfl
        results := taken_of_answer (hanswers.goals _ _ _ (hframes ▸ List.mem_cons_self))
        frames := hfirst hframes fun p hp => by
          cases hp
          exact mem_keys_settleIn.mpr (.inl rfl)
        responses := fun _ _ _ hf _ hq => .inl ⟨hrest _ hf, hq⟩
        goals := fun _ _ _ hf _ hq => .inl ⟨hrest _ hf, find?_of_find?_filter hq⟩ }

/-! ## Steps -/

/-- **No request is made under a key that is in use**: a channel id under which an open is pending,
an operation id of the channel that is pending or being answered. -/
def FreshKeys (s : InlineClient) : InlineAct → Prop
  | .app (.subscribe _ _ _) _ => s.Unused .subscribe s.nextChannel
  | .app (.publish _ _ _) _ => s.Unused .publish s.nextChannel
  | .app (.createServiceClient _ _) _ => s.Unused .serviceClient s.nextChannel
  | .app (.createServiceServer _ _ _) _ => s.Unused .serviceServer s.nextChannel
  | .app (.createActionClient _ _) _ => s.Unused .actionClient s.nextChannel
  | .app (.createActionServer _ _ _) _ => s.Unused .actionServer s.nextChannel
  | .app (.call channelId operationId _) _ =>
    (channelId, operationId) ∉ s.pendingCalls.keys ∧
      ∀ p payload, .response (channelId, operationId) p payload ∉ s.frames
  | .app (.sendGoal channelId operationId _) _ =>
    (channelId, operationId) ∉ s.pendingActionResults.keys ∧
      ∀ p payload, .result (channelId, operationId) p payload ∉ s.frames
  | .resume id => ∀ record ∈ s.nextRecord id, s.Unused record.kind record.channelId
  | _ => True

theorem losesNone_call (c : HostCall) : LosesNone s (s.call c) :=
  { LosesNone.refl s with made := none_made le_rfl }

/-- A promise that is made is kept by the frame that comes behind it. -/
theorem losesNone_awaitDone : LosesNone s (s.newPromise.flushSync (.done s.promises)) where
  __ := LosesNone.refl s
  frames _ hf := .inl (List.mem_cons_of_mem _ hf)
  made _ hp hlt := .frame List.mem_cons_self
    (congrArg some (Nat.le_antisymm (Nat.le_of_lt_succ hlt) hp).symm)
  responses _ _ _ hf _ hq := .inl ⟨(List.mem_cons.mp hf).resolve_left Frame.noConfusion, hq⟩
  goals _ _ _ hf _ hq := .inl ⟨(List.mem_cons.mp hf).resolve_left Frame.noConfusion, hq⟩

theorem losesNone_flushDone (c : HostCall) :
    LosesNone s ((s.newPromise.call c).flushSync (.done s.promises)) :=
  (losesNone_call c).trans (losesNone_awaitDone (s := s.call c))

theorem losesNone_app {call : AppCall} {thrown : Option String}
    (hfresh : s.FreshKeys (.app call thrown)) : LosesNone s (s.app thrown call) := by
  cases call with
  | reconnect => exact losesNone_reconnect TaskKind.noConfusion thrown
  | close =>
    refine .trans (t := { s with options := { s.options with reconnect := false } })
      { LosesNone.refl s with made := none_made le_rfl } ?_
    exact losesNone_flushDone .dispose
  | subscribe => exact losesNone_subscribe _ _ _ hfresh
  | publish => exact losesNone_publish _ _ _ hfresh
  | createServiceClient => exact losesNone_openService _ _ _ _ _ hfresh
  | createServiceServer => exact losesNone_openService _ _ _ _ _ hfresh
  | createActionClient => exact losesNone_openAction _ _ _ _ _ hfresh
  | createActionServer => exact losesNone_openAction _ _ _ _ _ hfresh
  | onGraph =>
    simp only [app, onGraph]
    split_ifs <;> exact { LosesNone.refl _ with made := none_made le_rfl }
  | send channelId typeName message =>
    simp only [app, send]
    split
    · exact losesNone_flushDone _
    · exact { losesNone_settle (s := s) _ _ with
        made := fun p hp hlt => .settled (mem_keys_settleIn.mpr
          (.inl (Nat.le_antisymm (Nat.le_of_lt_succ hlt) hp))) }
  | call channelId operationId request =>
    exact { LosesNone.refl s with
      calls := fun _ hp => .inl (InsertionMap.mem_values_set_of_notMem hfresh.1 hp)
      made := fun p hp hlt => .call (by
        rw [Nat.le_antisymm (Nat.le_of_lt_succ hlt) hp]
        exact InsertionMap.mem_values_set_self)
      responses := by
        intro key p payload hf q hq
        have hkey : key ≠ (channelId, operationId) := by
          rintro rfl
          exact hfresh.2 p payload hf
        have hfind : (s.pendingCalls.set (channelId, operationId) s.promises).find? key = some q :=
          hq
        rw [InsertionMap.find?_set, if_neg hkey] at hfind
        exact .inl ⟨hf, hfind⟩ }
  | sendGoal channelId operationId goal =>
    exact { LosesNone.refl s with
      results := fun _ hp => .inl (InsertionMap.mem_values_set_of_notMem hfresh.1 hp)
      made := fun p hp hlt => .result (by
        rw [Nat.le_antisymm (Nat.le_of_lt_succ hlt) hp]
        exact InsertionMap.mem_values_set_self)
      goals := by
        intro key p payload hf q hq
        have hkey : key ≠ (channelId, operationId) := by
          rintro rfl
          exact hfresh.2 p payload hf
        have hfind : (s.pendingActionResults.set (channelId, operationId) s.promises).find? key =
            some q := hq
        rw [InsertionMap.find?_set, if_neg hkey] at hfind
        exact .inl ⟨hf, hfind⟩ }
  | closeChannel kind channelId =>
    have hforget : LosesNone s (s.forget kind channelId) := by
      cases kind <;> exact { LosesNone.refl s with made := none_made le_rfl }
    refine hforget.trans ?_
    have hpromises : (s.forget kind channelId).promises = s.promises := by cases kind <;> rfl
    have h := losesNone_flushDone (s := s.forget kind channelId)
      (.unsubscribe (closeTag kind) channelId)
    rw [hpromises] at h
    exact h
  | _ => exact { LosesNone.refl _ with made := none_made le_rfl }

/-- **A step loses no promise**, when no request is made under a key that is in use. -/
theorem losesNone_step (hwaits : s.Waits) (hanswers : s.Answers) {act : InlineAct}
    (hfresh : s.FreshKeys act) : LosesNone s (s.step act) := by
  cases act with
  | app call thrown => exact losesNone_app hfresh
  | event event payload => exact losesNone_onEvent payload event
  | sample channelId leaseId reading => exact losesNone_deliverSample ..
  | transportError message => exact losesNone_onTransportError message
  | closed thrown => exact losesNone_onClosed thrown
  | returned => exact losesNone_returned hanswers
  | resume id => exact losesNone_resume hwaits hfresh
  | answered id answer =>
    simp only [step, answered]
    repeat' split
    all_goals exact { LosesNone.refl _ with made := none_made le_rfl }

/-- **Every promise the client has made is kept**, the tasks of `create` wait for the session, and
answers are handed out to their promises. -/
structure Accounted (s : InlineClient) : Prop where
  keeps : ∀ p < s.promises, s.Keeps p
  waits : s.Waits
  answers : s.Answers

theorem Accounted.of_losesNone (h : s.Accounted) (hstep : LosesNone s s') : s'.Accounted where
  keeps p hp := (Nat.lt_or_ge p s.promises).elim (fun hlt => hstep.keeps (h.keeps p hlt))
    fun hge => hstep.made p hge hp
  waits entry hentry hkind := by
    obtain ⟨waiter, hstage, hwaiter⟩ := h.waits entry (hstep.creates entry hentry hkind) hkind
    refine ⟨waiter, hstage, ?_⟩
    rcases hwaiter with hsettled | hwaiting
    · exact .inl (hstep.settled waiter hsettled)
    · exact (hstep.waiters waiter hwaiting).symm
  answers :=
    { responses := fun key p payload hf q hq => (hstep.responses key p payload hf q hq).elim
        (fun hold => h.answers.responses key p payload hold.1 q hold.2) id
      goals := fun key p payload hf q hq => (hstep.goals key p payload hf q hq).elim
        (fun hold => h.answers.goals key p payload hold.1 q hold.2) id }

theorem Accounted.step (h : s.Accounted) {act : InlineAct} (hfresh : s.FreshKeys act) :
    (s.step act).Accounted :=
  h.of_losesNone (losesNone_step h.waits h.answers hfresh)

theorem accounted_create (url : String) (options : ReconnectOptions) (connect : ConnectOptions) :
    (create url options connect).Accounted where
  keeps p hp := by
    have hp : p < 2 := hp
    rcases Nat.lt_succ_iff_lt_or_eq.mp hp with hzero | rfl
    · exact .task (List.mem_singleton.mpr (Nat.lt_one_iff.mp hzero))
    · exact .waiter List.mem_cons_self
  waits entry hentry _ := by
    obtain rfl := List.mem_singleton.mp hentry
    exact ⟨1, rfl, .inr List.mem_cons_self⟩
  answers :=
    { responses := fun _ _ _ hf => absurd hf List.not_mem_nil
      goals := fun _ _ _ hf => absurd hf List.not_mem_nil }

end InlineClient
end Client
end Rclweb
