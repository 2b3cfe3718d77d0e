import Mathlib.Tactic.SplitIfs
import Rclweb.Worker.IoWorker

/-!
# What the worker does with an event and with a message

The two switches of the worker have some twenty cases each.  `onEvent_cases`, `handles_receive` and
`complete_cases` say once what a case can do to the maps and to the messages posted, and everything
else about the worker is derived from them.

`settled` counts the messages that settle a request.  A request is `Gone` when the worker remembers
it nowhere; then nothing the worker does settles it any more.
-/

namespace Rclweb
namespace Worker

open Engine

namespace IoWorker

variable {s : IoWorker} {r : ℕ}

/-- How many messages settle a request. -/
def settled (s : IoWorker) (r : ℕ) : ℕ := s.posted.countP fun m => m.settles = some r

/-- How often a request is remembered in the four maps of channels being opened. -/
def openingOf (pending : Opening → Table ℕ ℕ) (r : ℕ) : ℕ :=
  (pending .subscribe).count (· == r) + (pending .publish).count (· == r) +
    (pending .service).count (· == r) + (pending .action).count (· == r)

/-- In how many places the worker remembers a request it is yet to answer. -/
def owing (s : IoWorker) (r : ℕ) : ℕ :=
  openingOf s.pending r + (if s.creating = some r then 1 else 0) +
    if s.handling.bind MainToWorker.requestId? = some r then 1 else 0

theorem settled_post (s : IoWorker) (msg : WorkerToMain) (r : ℕ) :
    (s.post msg).settled r = s.settled r + if msg.settles = some r then 1 else 0 := by
  simp [settled, post, List.countP_append, List.countP_singleton]

theorem settled_closed (s : IoWorker) (q r : ℕ) :
    (s.closed q).settled r = s.settled r + if some q = some r then 1 else 0 :=
  settled_post { s with host := false, channelTypes := ∅ } (.closed (some q)) r

/-- Replacing one of the four maps. -/
theorem openingOf_update (pending : Opening → Table ℕ ℕ) (kind : Opening) (t : Table ℕ ℕ) (r : ℕ) :
    openingOf (Function.update pending kind t) r + (pending kind).count (· == r) =
      openingOf pending r + t.count (· == r) := by
  cases kind <;> simp [openingOf, Function.update] <;> omega

theorem openingOf_empty (r : ℕ) : openingOf (fun _ => ∅) r = 0 := rfl

/-- Nothing is remembered in maps without the request. -/
theorem openingOf_eq_zero {pending : Opening → Table ℕ ℕ}
    (h : ∀ kind channelId, (pending kind).find? channelId ≠ some r) : openingOf pending r = 0 := by
  have hcount : ∀ kind, (pending kind).count (· == r) = 0 := fun kind =>
    Table.count_eq_zero fun channelId q hq => by
      have hne : q ≠ r := fun heq => h kind channelId (heq ▸ hq)
      simpa using hne
  simp [openingOf, hcount]

/-- A request that is remembered is remembered under some channel. -/
theorem exists_of_openingOf {pending : Opening → Table ℕ ℕ} (h : openingOf pending r ≠ 0) :
    ∃ kind channelId, (pending kind).find? channelId = some r := by
  by_contra hnone
  push Not at hnone
  exact h (openingOf_eq_zero hnone)

/-! ## What an event can do -/

/-- Messages that settle nothing are posted, and the host is called. -/
def Quiet (s t : IoWorker) : Prop :=
  ∃ msgs calls, t = { s with posted := s.posted ++ msgs, calls := s.calls ++ calls } ∧
    ∀ m ∈ msgs, m.settles = none

theorem Quiet.refl (s : IoWorker) : Quiet s s := ⟨[], [], by simp, by simp⟩

theorem quiet_post (s : IoWorker) {msg : WorkerToMain} (h : msg.settles = none) :
    Quiet s (s.post msg) :=
  ⟨[msg], [], by simp [post], by simp [h]⟩

theorem quiet_call (s : IoWorker) (c : HostCall) : Quiet s (s.call c) :=
  ⟨[], [c], by simp [call], by simp⟩

theorem Quiet.trans {s t u : IoWorker} (h : Quiet s t) (h' : Quiet t u) : Quiet s u := by
  obtain ⟨msgs, calls, rfl, hm⟩ := h
  obtain ⟨msgs', calls', rfl, hm'⟩ := h'
  refine ⟨msgs ++ msgs', calls ++ calls', by simp, fun m hmem => ?_⟩
  rcases List.mem_append.mp hmem with hmem | hmem
  · exact hm m hmem
  · exact hm' m hmem

theorem Quiet.settled {s t : IoWorker} (h : Quiet s t) (r : ℕ) : t.settled r = s.settled r := by
  obtain ⟨msgs, calls, rfl, hm⟩ := h
  have hzero : msgs.countP (fun m => m.settles = some r) = 0 :=
    List.countP_eq_zero.mpr fun m hmem => by simp [hm m hmem]
  simp [IoWorker.settled, List.countP_append, hzero]

/-- A sample settles nothing, however it is read. -/
theorem quiet_deliverSample (s : IoWorker) (channelId : ℕ) (leaseId : UInt32)
    (reading : SampleReading) : Quiet s (s.deliverSample channelId leaseId reading) := by
  unfold deliverSample transferHostCdr
  have hcall := quiet_call s (.releaseLease leaseId)
  split
  · exact Quiet.refl s
  · dsimp only
    repeat' split
    all_goals first
      | exact hcall
      | exact hcall.trans (quiet_post _ rfl)
      | exact quiet_post _ rfl

/-- **What an event can do**: answer the request that opens a channel, the request for a session or
the request that started an operation, or none. -/
theorem onEvent_cases (s : IoWorker) (payload : Payload) (event : AppEvent) :
    (∃ kind channelId answer, s.onEvent payload event = s.opened kind channelId answer ∧
        ∀ q, (answer q).settles = some q) ∨
      (isSessionReady event = true ∧
        s.onEvent payload event = s.post (.connected s.connectRequestId)) ∨
      (∃ op e answer bytes, s.onEvent payload event = s.finished op e answer bytes ∧
        ∀ q c o p, (answer q c o p).settles = some q) ∨
      Quiet s (s.onEvent payload event) := by
  cases event with
  | sessionReady row domainId gatewayInstanceId => exact .inr (.inl ⟨rfl, rfl⟩)
  | subscribed | subscribeFailed | published | publishFailed | serviceReady | serviceFailed
  | actionReady | actionFailed =>
    rw [onEvent]
    exact .inl ⟨_, _, _, rfl, fun q => rfl⟩
  | serviceResponse event | actionResult event =>
    rw [onEvent]
    exact .inr (.inr (.inl ⟨_, _, _, _, rfl, fun q c o p => rfl⟩))
  | sample channelId leaseId sequence sourceTimeNs stringData =>
    exact .inr (.inr (.inr (quiet_deliverSample s _ _ _)))
  | serviceRequest event | actionGoal event | actionFeedback event | actionStatus event =>
    exact .inr (.inr (.inr ((quiet_call s _).trans (quiet_post _ rfl))))
  | graphSnapshot | graphDelta | operationCancelled | error | closed =>
    exact .inr (.inr (.inr (quiet_post s rfl)))
  | bootstrapComplete | heartbeat => exact .inr (.inr (.inr (Quiet.refl s)))

theorem settled_opened (kind : Opening) (channelId : UInt32) {answer : ℕ → WorkerToMain}
    (h : ∀ q, (answer q).settles = some q) (r : ℕ) :
    (s.opened kind channelId answer).settled r = s.settled r +
      if ((s.pending kind).find? channelId.toNat).getD 0 = r then 1 else 0 := by
  have hpost := settled_post s (answer (((s.pending kind).find? channelId.toNat).getD 0)) r
  rw [h] at hpost
  simp only [Option.some.injEq] at hpost
  exact hpost

/-- An answer to the request that opens a channel is taken out of the map. -/
theorem opened_balance (kind : Opening) (channelId : UInt32) {answer : ℕ → WorkerToMain}
    (h : ∀ q, (answer q).settles = some q) (hr : r ≠ 0) :
    (s.opened kind channelId answer).settled r +
        openingOf (s.opened kind channelId answer).pending r =
      s.settled r + openingOf s.pending r := by
  have hupdate := openingOf_update s.pending kind ((s.pending kind).remove channelId.toNat) r
  have hpending : (s.opened kind channelId answer).pending =
      Function.update s.pending kind ((s.pending kind).remove channelId.toNat) := rfl
  rw [settled_opened kind channelId h, hpending]
  cases hfind : (s.pending kind).find? channelId.toNat with
  | none =>
    rw [Table.count_remove_of_none hfind] at hupdate
    rw [Option.getD_none, if_neg (Ne.symm hr)]
    omega
  | some q =>
    rw [Table.count_remove hfind] at hupdate
    rw [Option.getD_some]
    simp only [beq_iff_eq] at hupdate
    omega

theorem settled_finished (op : Operation) (e : OperationEvent)
    {answer : (requestId channelId : ℕ) → (operationId payload : List UInt8) → WorkerToMain}
    (bytes : List UInt8) (h : ∀ q c o p, (answer q c o p).settles = some q) (r : ℕ) :
    (s.finished op e answer bytes).settled r = s.settled r +
      if ((s.operations op).find? (e.channelId.toNat, e.operationId)).getD 0 = r
        then 1 else 0 := by
  have hpost := settled_post (s.call (.releaseLease e.leaseId))
    (answer (((s.operations op).find? (e.channelId.toNat, e.operationId)).getD 0)
      e.channelId.toNat e.operationId bytes) r
  rw [h] at hpost
  simp only [Option.some.injEq] at hpost
  exact hpost

/-- An event leaves the host, the creation of one and the message being handled alone. -/
theorem onEvent_frame (s : IoWorker) (payload : Payload) (event : AppEvent) :
    (s.onEvent payload event).host = s.host ∧
      (s.onEvent payload event).creating = s.creating ∧
      (s.onEvent payload event).handling = s.handling ∧
      (s.onEvent payload event).connectRequestId = s.connectRequestId := by
  rcases onEvent_cases s payload event with
    ⟨kind, channelId, answer, heq, -⟩ | ⟨-, heq⟩ | ⟨op, e, answer, bytes, heq, -⟩ |
      ⟨msgs, calls, heq, -⟩
  all_goals
    rw [heq]
    exact ⟨rfl, rfl, rfl, rfl⟩

/-! ## Requests the worker does not know -/

/-- **The worker remembers nothing of a request.** -/
structure Gone (s : IoWorker) (r : ℕ) : Prop where
  pending : ∀ kind channelId, (s.pending kind).find? channelId ≠ some r
  operations : ∀ op key, (s.operations op).find? key ≠ some r
  connecting : s.connectRequestId ≠ r
  creating : s.creating ≠ some r
  handling : ∀ msg, s.handling = some msg → msg.requestId? ≠ some r

/-- What a map holds behind a removal it held before. -/
theorem find?_of_update_remove {ι κ : Type} [DecidableEq ι] [DecidableEq κ] {f : ι → Table κ ℕ}
    {i j : ι} {k k₀ : κ} (h : (Function.update f j ((f j).remove k₀) i).find? k = some r) :
    (f i).find? k = some r := by
  by_cases hij : i = j
  · subst hij
    rw [Function.update_self, Table.find?_remove] at h
    split_ifs at h
    exact h
  · rwa [Function.update_of_ne hij] at h

theorem find?_update_set {ι κ : Type} [DecidableEq ι] [DecidableEq κ] {f : ι → Table κ ℕ} {q : ℕ}
    (h : ∀ i k, (f i).find? k ≠ some r) (hq : q ≠ r) (j : ι) (k₀ : κ) :
    ∀ i k, (Function.update f j ((f j).set k₀ q) i).find? k ≠ some r := by
  intro i k
  by_cases hij : i = j
  · subst hij
    rw [Function.update_self, Table.find?_set]
    split_ifs
    · simpa using hq
    · exact h i k
  · rw [Function.update_of_ne hij]
    exact h i k

theorem getD_ne {o : Option ℕ} (h : o ≠ some r) (hr : r ≠ 0) : o.getD 0 ≠ r := by
  cases o with
  | none => exact Ne.symm hr
  | some q => simpa using h

theorem Gone.quiet {t : IoWorker} (h : Gone s r) (hq : Quiet s t) : Gone t r := by
  obtain ⟨msgs, calls, rfl, -⟩ := hq
  exact ⟨h.pending, h.operations, h.connecting, h.creating, h.handling⟩

/-- An event settles no request the worker does not know. -/
theorem Gone.onEvent (h : Gone s r) (hr : r ≠ 0) (payload : Payload) (event : AppEvent) :
    Gone (s.onEvent payload event) r ∧ (s.onEvent payload event).settled r = s.settled r := by
  rcases onEvent_cases s payload event with
    ⟨kind, channelId, answer, heq, hanswer⟩ | ⟨-, heq⟩ | ⟨op, e, answer, bytes, heq, hanswer⟩ | hq
  · rw [heq, settled_opened kind channelId hanswer, if_neg (getD_ne (h.pending _ _) hr)]
    exact ⟨⟨fun _ _ hfind => h.pending _ _ (find?_of_update_remove hfind), h.operations,
      h.connecting, h.creating, h.handling⟩, rfl⟩
  · have hne : (WorkerToMain.connected s.connectRequestId).settles ≠ some r := fun hs =>
      h.connecting (Option.some.inj hs)
    rw [heq, settled_post, if_neg hne]
    exact ⟨⟨h.pending, h.operations, h.connecting, h.creating, h.handling⟩, rfl⟩
  · rw [heq, settled_finished op e bytes hanswer, if_neg (getD_ne (h.operations _ _) hr)]
    exact ⟨⟨h.pending, fun _ _ hfind => h.operations _ _ (find?_of_update_remove hfind),
      h.connecting, h.creating, h.handling⟩, rfl⟩
  · exact ⟨h.quiet hq, hq.settled r⟩

end IoWorker

/-! ## What a message can do -/

/-- The messages whose call of the host polls the engine, connects or disposes: it may throw, and
the message is handled when it is over. -/
def MainToWorker.blocks : MainToWorker → Bool
  | .init _ _ | .subscribe _ _ | .publish _ _ | .openService _ _ | .openAction _ _
  | .unsubscribe _ _ _ => false
  | _ => true

/-- The channel a message opens, with the number of the request. -/
def MainToWorker.opens? : MainToWorker → Option (Opening × ℕ × ℕ)
  | .subscribe r request => some (.subscribe, r, request.channelId)
  | .publish r request => some (.publish, r, request.channelId)
  | .openService r request => some (.service, r, request.channelId)
  | .openAction r request => some (.action, r, request.channelId)
  | _ => none

theorem awaited_of_opens {msg : MainToWorker} {kind : Opening} {r channelId : ℕ}
    (h : msg.opens? = some (kind, r, channelId)) : msg.awaited = true := by
  cases msg <;> cases h <;> rfl

/-- An operation that is not awaited blocks, and connects nothing. -/
theorem blocks_of_not_awaited {msg : MainToWorker} (h : msg.awaited = false) :
    msg.blocks = true ∧ msg.connects? = none := by
  cases msg <;> cases h <;> exact ⟨rfl, rfl⟩

theorem requestId_of_opens {msg : MainToWorker} {kind : Opening} {r channelId : ℕ}
    (h : msg.opens? = some (kind, r, channelId)) : msg.requestId? = some r := by
  cases msg <;> cases h <;> rfl

namespace IoWorker

/-- **What a message can do.** -/
inductive Handles (s : IoWorker) : MainToWorker → IoWorker → Prop
  | refused (msg : MainToWorker) (message : String) :
      Handles s msg (s.post (.error msg.requestId? message))
  | init (r : ℕ) (wasmUrl : String) :
      Handles s (.init r wasmUrl) { s.call (.create wasmUrl) with creating := some r }
  | dropped (leaseId : UInt32) : Handles s (.releaseLease leaseId) s
  | closed (r : ℕ) : s.host = false → Handles s (.close r) (s.closed r)
  | calls (msg : MainToWorker) (c : HostCall) : s.host = true → msg.blocks = true →
      msg.connects? = none → Handles s msg (s.calling msg c)
  | connect (r : ℕ) (url : String) (options : ConnectOptions) : s.host = true →
      Handles s (.connect r url options)
        ({ s with connectRequestId := r, connectUrl := url }.calling (.connect r url options)
          (.connect url options))
  | reconnect (r : ℕ) : s.host = true → s.connectUrl ≠ "" →
      Handles s (.reconnect r)
        ({ s with
            connectRequestId := r
            pending := fun _ => ∅
            operations := fun _ => ∅ }.calling (.reconnect r) (.reconnect s.connectUrl))
  | opens (msg : MainToWorker) (kind : Opening) (r channelId : ℕ) (typeName : String)
      (c : HostCall) : s.host = true → msg.opens? = some (kind, r, channelId) →
      Handles s msg (s.opens kind r channelId typeName c)
  | starts (msg : MainToWorker) (op : Operation) (r : ℕ) (request : OperationRequest)
      (c : HostCall) : s.host = true → msg.requestId? = some r → msg.awaited = false →
      Handles s msg (s.starts op msg r request c)
  | unsubscribe (r channelId : ℕ) (correlation : List UInt8) : s.host = true →
      Handles s (.unsubscribe r channelId correlation)
        ({ s with channelTypes := s.channelTypes.remove channelId }.call
          (.unsubscribe correlation channelId))

/-- Without a host a message is refused, but for three kinds. -/
theorem receive_of_not_host {s : IoWorker} {msg : MainToWorker} (h : s.host = false) :
    Handles s msg (s.receive msg) := by
  cases msg with
  | init r wasmUrl => exact .init r wasmUrl
  | releaseLease leaseId =>
    have heq : s.receive (.releaseLease leaseId) = s := by simp [receive, h]
    rw [heq]
    exact .dropped leaseId
  | close r =>
    have heq : s.receive (.close r) = s.closed r := by simp [receive, h]
    rw [heq]
    exact .closed r h
  | _ =>
    simp only [receive, h, Bool.not_false, if_true]
    exact .refused _ _

theorem handles_receive (s : IoWorker) (msg : MainToWorker) : Handles s msg (s.receive msg) := by
  cases hhost : s.host with
  | false => exact receive_of_not_host hhost
  | true =>
    have hnot : (!s.host) = false := by rw [hhost, Bool.not_true]
    cases msg with
    | init r wasmUrl => exact .init r wasmUrl
    | connect r url options =>
      simp only [receive, hnot, Bool.false_eq_true, if_false]
      exact .connect r url options hhost
    | reconnect r =>
      simp only [receive, hnot, Bool.false_eq_true, if_false]
      split_ifs with hurl
      · exact .refused (.reconnect r) _
      · exact .reconnect r hhost hurl
    | subscribe r request | publish r request | openService r request | openAction r request =>
      simp only [receive, hnot, Bool.false_eq_true, if_false]
      exact .opens _ _ _ _ _ _ hhost rfl
    | callService r request | sendActionGoal r request =>
      simp only [receive, hnot, Bool.false_eq_true, if_false]
      exact .starts _ _ _ _ _ hhost rfl rfl
    | unsubscribe r channelId correlation =>
      simp only [receive, hnot, Bool.false_eq_true, if_false]
      exact .unsubscribe r channelId correlation hhost
    | releaseLease | close =>
      simp only [receive, hhost, if_true]
      exact .calls _ _ hhost rfl rfl
    | _ =>
      simp only [receive, hnot, Bool.false_eq_true, if_false]
      exact .calls _ _ hhost rfl rfl

variable {s : IoWorker} {r : ℕ}

/-- A message of another number says nothing about a request. -/
theorem Gone.receive (h : Gone s r) {msg : MainToWorker} (hmsg : msg.requestId? ≠ some r) :
    Gone (s.receive msg) r ∧ (s.receive msg).settled r = s.settled r := by
  have hhandling : ∀ m, some msg = some m → m.requestId? ≠ some r := fun m hm =>
    Option.some.inj hm ▸ hmsg
  generalize htarget : s.receive msg = t
  have hcases : Handles s msg t := htarget ▸ handles_receive s msg
  cases hcases with
  | refused msg message =>
    have hne : (WorkerToMain.error msg.requestId? message).settles ≠ some r := hmsg
    rw [settled_post, if_neg hne]
    exact ⟨⟨h.pending, h.operations, h.connecting, h.creating, h.handling⟩, rfl⟩
  | init q wasmUrl =>
    exact ⟨⟨h.pending, h.operations, h.connecting, hmsg, h.handling⟩, rfl⟩
  | dropped leaseId => exact ⟨h, rfl⟩
  | closed q hhost =>
    have hne : (WorkerToMain.closed (some q)).settles ≠ some r := hmsg
    rw [IoWorker.closed, settled_post, if_neg hne]
    exact ⟨⟨h.pending, h.operations, h.connecting, h.creating, h.handling⟩, rfl⟩
  | calls msg c hhost hblocks hconnects =>
    exact ⟨⟨h.pending, h.operations, h.connecting, h.creating, hhandling⟩, rfl⟩
  | connect q url options hhost =>
    have hq : q ≠ r := fun heq => hmsg (congrArg some heq)
    exact ⟨⟨h.pending, h.operations, hq, h.creating, hhandling⟩, rfl⟩
  | reconnect q hhost hurl =>
    have hq : q ≠ r := fun heq => hmsg (congrArg some heq)
    exact ⟨⟨nofun, nofun, hq, h.creating, hhandling⟩, rfl⟩
  | opens msg kind q channelId typeName c hhost hopens =>
    have hq : q ≠ r := fun heq => hmsg (heq ▸ requestId_of_opens hopens)
    exact ⟨⟨find?_update_set h.pending hq kind _, h.operations, h.connecting, h.creating,
      h.handling⟩, rfl⟩
  | starts msg op q request c hhost hid _ =>
    have hq : q ≠ r := fun heq => hmsg (heq ▸ hid)
    exact ⟨⟨h.pending, find?_update_set h.operations hq op _, h.connecting, h.creating,
      hhandling⟩, rfl⟩
  | unsubscribe q channelId correlation hhost =>
    exact ⟨⟨h.pending, h.operations, h.connecting, h.creating, h.handling⟩, rfl⟩

/-- **What a message can do behind the call of the host**: answer the request, take the host away
with it, or leave the answer to an event. -/
theorem complete_cases {s : IoWorker} {msg : MainToWorker} (h : s.handling = some msg)
    (thrown : Option String) :
    (∃ m, s.complete thrown = { s with handling := none }.post m ∧
        m.settles = msg.requestId? ∧ (thrown = none → msg.connects? = none)) ∨
      (∃ r, msg = .close r ∧ thrown = none ∧
        s.complete thrown = { s with handling := none }.closed r) ∨
      (thrown = none ∧ s.complete thrown = { s with handling := none } ∧
        (msg.awaited = true → msg.blocks = true → msg.connects? = msg.requestId?)) := by
  cases thrown with
  | some message => exact .inl ⟨_, by rw [complete, h], rfl, nofun⟩
  | none =>
    cases msg with
    | sendSample | sendPointCloud2 | sendGenerated | sendServiceResponse | cancelAction
    | sendActionFeedback | sendActionResult | sendActionStatus =>
      exact .inl ⟨_, by rw [complete, h], rfl, fun _ => rfl⟩
    | close r => exact .inr (.inl ⟨r, rfl, rfl, by rw [complete, h]⟩)
    | connect | reconnect =>
      exact .inr (.inr ⟨rfl, by rw [complete, h], fun _ _ => rfl⟩)
    | init | subscribe | publish | unsubscribe | openService | openAction =>
      exact .inr (.inr ⟨rfl, by rw [complete, h], fun _ hblocks => by cases hblocks⟩)
    | callService | sendActionGoal | releaseLease =>
      exact .inr (.inr ⟨rfl, by rw [complete, h], fun hawaited => by cases hawaited⟩)

/-- A call for another message that is over says nothing about a request. -/
theorem Gone.complete (h : Gone s r) (thrown : Option String) :
    Gone (s.complete thrown) r ∧ (s.complete thrown).settled r = s.settled r := by
  cases hhandling : s.handling with
  | none =>
    have heq : s.complete thrown = s := by rw [IoWorker.complete, hhandling]
    rw [heq]
    exact ⟨h, rfl⟩
  | some msg =>
    have hmsg := h.handling msg hhandling
    rcases complete_cases hhandling thrown with
      ⟨m, heq, hm, -⟩ | ⟨q, rfl, -, heq⟩ | ⟨-, heq, -⟩
    · rw [heq, settled_post, if_neg (hm ▸ hmsg)]
      exact ⟨⟨h.pending, h.operations, h.connecting, h.creating, fun _ h => nomatch h⟩, rfl⟩
    · have hne : (WorkerToMain.closed (some q)).settles ≠ some r := hmsg
      rw [heq, IoWorker.closed, settled_post, if_neg hne]
      exact ⟨⟨h.pending, h.operations, h.connecting, h.creating, fun _ h => nomatch h⟩, rfl⟩
    · rw [heq]
      exact ⟨⟨h.pending, h.operations, h.connecting, h.creating, fun _ h => nomatch h⟩, rfl⟩

/-- A host that has been created answers the first request, a failure the one that asked. -/
theorem Gone.created (h : Gone s r) (hr : r ≠ 1) (thrown : Option String) :
    Gone (s.created thrown) r ∧ (s.created thrown).settled r = s.settled r := by
  cases thrown with
  | none =>
    have hne : WorkerToMain.ready.settles ≠ some r := fun hs => hr (Option.some.inj hs).symm
    rw [IoWorker.created, settled_post, if_neg hne]
    exact ⟨⟨h.pending, h.operations, h.connecting, nofun, h.handling⟩, rfl⟩
  | some message =>
    have hne : (WorkerToMain.error s.creating message).settles ≠ some r := h.creating
    rw [IoWorker.created, settled_post, if_neg hne]
    exact ⟨⟨h.pending, h.operations, h.connecting, nofun, h.handling⟩, rfl⟩

end IoWorker
end Worker
end Rclweb
