import Rclweb.Worker.Answers

/-!
# Every awaited request is answered once

In a run whose steps meet `CanAnswer` the messages that settle an awaited request and the places
where it is still remembered make one together (`Balanced`).  Where it is remembered the
connection, or the host that is called, can bring the answer about (`Hosted`), which is
`Answered`.
-/

namespace Rclweb
namespace Worker

open Engine IoWorker

/-! ## Where a request is remembered, the answer can come -/

/-- **What is being opened has a host and a connection**, and at most one session is on its way. -/
structure Hosted (s : System) : Prop where
  opening : ∀ kind channelId r, (s.worker.pending kind).find? channelId = some r →
    s.worker.host = true ∧ s.up = true ∧ channelId < 2 ^ 32
  connecting : ∀ r, s.connecting = some r →
    s.worker.host = true ∧ s.up = true ∧ s.worker.connectRequestId = r
  handling : ∀ msg, s.worker.handling = some msg → s.worker.host = true ∧ msg.blocks = true ∧
    ∀ r, msg.connects? = some r → s.connecting = none ∧ s.worker.connectRequestId = r

theorem hosted_new : Hosted {} := ⟨nofun, nofun, nofun⟩

/-- A step that changes none of what is being opened. -/
theorem Hosted.of_frame {s t : System} (h : Hosted s) (hhost : t.worker.host = s.worker.host)
    (hup : t.up = s.up) (hid : t.worker.connectRequestId = s.worker.connectRequestId)
    (hhandling : t.worker.handling = s.worker.handling)
    (hpending : ∀ kind channelId r, (t.worker.pending kind).find? channelId = some r →
      (s.worker.pending kind).find? channelId = some r)
    (hconnecting : t.connecting = s.connecting ∨ t.connecting = none) : Hosted t where
  opening kind channelId r hr := by
    rw [hhost, hup]
    exact h.opening kind channelId r (hpending kind channelId r hr)
  connecting r hr := by
    rcases hconnecting with heq | hnone
    · rw [hhost, hup, hid]
      exact h.connecting r (heq ▸ hr)
    · cases hnone.symm.trans hr
  handling msg hmsg := by
    rw [hhost, hid]
    obtain ⟨hhost', hblocks, hnone⟩ := h.handling msg (hhandling ▸ hmsg)
    refine ⟨hhost', hblocks, fun r hr => ⟨?_, (hnone r hr).2⟩⟩
    rcases hconnecting with heq | heq
    · exact heq.trans (hnone r hr).1
    · exact heq

/-- A host is called for a message. -/
theorem Hosted.of_calling {s t : System} (h : Hosted s) (msg : MainToWorker)
    (hhost : t.worker.host = true) (hup : t.up = s.up) (hconnecting : t.connecting = s.connecting)
    (hhandling : t.worker.handling = some msg) (hblocks : msg.blocks = true)
    (hid : ∀ r, s.connecting = some r → t.worker.connectRequestId = r)
    (hpending : ∀ kind channelId r, (t.worker.pending kind).find? channelId = some r →
      (s.worker.pending kind).find? channelId = some r)
    (hnone : ∀ r, msg.connects? = some r →
      s.connecting = none ∧ t.worker.connectRequestId = r) : Hosted t where
  opening kind channelId r hr := by
    rw [hup]
    exact ⟨hhost, (h.opening kind channelId r (hpending kind channelId r hr)).2⟩
  connecting r hr := by
    rw [hconnecting] at hr
    rw [hup]
    exact ⟨hhost, (h.connecting r hr).2.1, hid r hr⟩
  handling m hm := by
    obtain rfl : msg = m := Option.some.inj (hhandling.symm.trans hm)
    rw [hconnecting]
    exact ⟨hhost, hblocks, hnone⟩

theorem Hosted.of_quiet {s : System} {w : IoWorker} (h : Hosted s) (hq : Quiet s.worker w) :
    Hosted { s with worker := w } := by
  obtain ⟨msgs, calls, rfl, -⟩ := hq
  exact h.of_frame rfl rfl rfl rfl (fun _ _ _ hr => hr) (.inl rfl)

/-- An answer only takes requests out of the maps. -/
theorem pending_of_onEvent {w : IoWorker} {payload : Payload} {event : AppEvent} {kind : Opening}
    {channelId r : ℕ} (h : ((w.onEvent payload event).pending kind).find? channelId = some r) :
    (w.pending kind).find? channelId = some r := by
  rcases onEvent_cases w payload event with
    ⟨kind', ch, answer, heq, -⟩ | ⟨-, heq⟩ | ⟨op, e, answer, bytes, heq, -⟩ | ⟨msgs, calls, heq, -⟩
  · rw [heq] at h
    exact find?_of_update_remove h
  all_goals
    rw [heq] at h
    exact h

/-- A message is handled only when no other is. -/
theorem Hosted.receive {s : System} (h : Hosted s) {msg : MainToWorker}
    (hcan : CanAnswer s (.message msg)) : Hosted (s.receive msg) := by
  have hcases := handles_receive s.worker msg
  generalize hw : s.worker.receive msg = w at hcases
  have hworker : (s.receive msg).worker = w := hw
  have hid : ∀ r, s.connecting = some r → s.worker.connectRequestId = r := fun r hr =>
    (h.connecting r hr).2.2
  cases hcases with
  | refused msg message | dropped leaseId | init r wasmUrl | unsubscribe r channelId correlation =>
    refine h.of_frame ?_ rfl ?_ ?_ ?_ (.inl rfl)
    all_goals rw [hworker]
    all_goals first | rfl | exact fun _ _ _ hr => hr
  | closed r hhost =>
    refine h.of_frame ?_ rfl ?_ ?_ ?_ (.inl rfl)
    all_goals rw [hworker]
    · exact hhost.symm
    · rfl
    · rfl
    · exact fun _ _ _ hr => hr
  | calls msg c hhost hblocks hconnects =>
    refine h.of_calling msg ?_ rfl rfl ?_ hblocks ?_ ?_ ?_
    all_goals rw [hworker]
    · exact hhost
    · rfl
    · exact hid
    · exact fun _ _ _ hr => hr
    · intro r hr
      cases hconnects.symm.trans hr
  | starts msg op r request c hhost hrequest hawaited =>
    obtain ⟨hblocks, hconnects⟩ := blocks_of_not_awaited hawaited
    refine h.of_calling msg ?_ rfl rfl ?_ hblocks ?_ ?_ ?_
    all_goals rw [hworker]
    · exact hhost
    · rfl
    · exact hid
    · exact fun _ _ _ hr => hr
    · intro r hr
      cases hconnects.symm.trans hr
  | connect r url options hhost =>
    have hnone := (hcan hhost).2.1 r url options rfl
    refine h.of_calling (.connect r url options) ?_ rfl rfl ?_ rfl ?_ ?_ ?_
    all_goals rw [hworker]
    · exact hhost
    · rfl
    · intro q hq
      cases hnone.symm.trans hq
    · exact fun _ _ _ hr => hr
    · exact fun q hq => ⟨hnone, Option.some.inj hq⟩
  | reconnect r hhost hurl =>
    have hnone := ((hcan hhost).2.2.1 r rfl hurl).1
    refine h.of_calling (.reconnect r) ?_ rfl rfl ?_ rfl ?_ ?_ ?_
    all_goals rw [hworker]
    · exact hhost
    · rfl
    · intro q hq
      cases hnone.symm.trans hq
    · exact fun _ _ _ hr => nomatch hr
    · exact fun q hq => ⟨hnone, Option.some.inj hq⟩
  | opens msg kind r channelId typeName c hhost hopens =>
    obtain ⟨hup, hlt, -⟩ := (hcan hhost).2.2.2 kind r channelId hopens
    refine ⟨fun kind' ch q hq => ?_, fun q hq => ?_, fun m hm => ?_⟩
    · rw [hworker] at hq ⊢
      by_cases hold : (s.worker.pending kind').find? ch = some q
      · exact h.opening kind' ch q hold
      · refine ⟨hhost, hup, ?_⟩
        obtain ⟨rfl, rfl⟩ : kind' = kind ∧ ch = channelId := by
          by_contra hne
          refine hold ?_
          have hq' : (Function.update s.worker.pending kind
            ((s.worker.pending kind).set channelId r) kind').find? ch = some q := hq
          by_cases hkind : kind' = kind
          · subst hkind
            rw [Function.update_self, Table.find?_set, if_neg fun hch => hne ⟨rfl, hch⟩] at hq'
            exact hq'
          · rwa [Function.update_of_ne hkind] at hq'
        exact hlt
    · rw [hworker]
      exact h.connecting q hq
    · rw [hworker] at hm ⊢
      exact h.handling m hm

/-- The worker when the message being handled is over, with its host. -/
theorem Hosted.of_handled {s t : System} (h : Hosted s) (hhost : t.worker.host = s.worker.host)
    (hup : t.up = s.up) (hid : t.worker.connectRequestId = s.worker.connectRequestId)
    (hhandling : t.worker.handling = none) (hpending : t.worker.pending = s.worker.pending)
    (hconnecting : t.connecting = s.connecting) : Hosted t where
  opening kind channelId r hr := by
    rw [hpending] at hr
    rw [hhost, hup]
    exact h.opening kind channelId r hr
  connecting r hr := by
    rw [hconnecting] at hr
    rw [hhost, hup, hid]
    exact h.connecting r hr
  handling msg hmsg := by cases hhandling.symm.trans hmsg

theorem Hosted.complete {s : System} (h : Hosted s) {thrown : Option String}
    (hcan : CanAnswer s (.complete thrown)) {msg : MainToWorker}
    (hmsg : s.worker.handling = some msg) : Hosted (s.complete thrown) := by
  obtain ⟨hhost, -, hconnects⟩ := h.handling msg hmsg
  rcases complete_cases hmsg thrown with ⟨m, heq, -, hnot⟩ | ⟨r, rfl, rfl, heq⟩ | ⟨rfl, heq, -⟩
  · rw [System.complete_of_not_connects hmsg hnot, heq]
    exact h.of_handled rfl rfl rfl rfl rfl rfl
  · obtain ⟨hnone, hpending⟩ := hcan rfl r hmsg
    rw [System.complete_of_not_connects hmsg fun _ => rfl, heq]
    refine ⟨fun kind channelId q hq => ?_, fun q hq => ?_, nofun⟩
    · have hq' : (s.worker.pending kind).find? channelId = some q := hq
      rw [hpending] at hq'
      cases hq'
    · cases hnone.symm.trans hq
  · cases hc : msg.connects? with
    | none =>
      rw [System.complete_of_not_connects hmsg fun _ => hc, heq]
      exact h.of_handled rfl rfl rfl rfl rfl rfl
    | some r =>
      rw [System.complete_of_connects hmsg hc, heq]
      refine ⟨fun kind channelId q hq => ⟨hhost, rfl, (h.opening kind channelId q hq).2.2⟩,
        fun q hq => ⟨hhost, rfl, ?_⟩, nofun⟩
      exact (hconnects r hc).2.trans (Option.some.inj hq)

theorem Hosted.created {s : System} (h : Hosted s) (thrown : Option String) :
    Hosted { s with worker := s.worker.created thrown } := by
  cases thrown with
  | some message => exact ⟨h.opening, h.connecting, h.handling⟩
  | none =>
    exact ⟨fun kind channelId r hr => ⟨rfl, (h.opening kind channelId r hr).2⟩,
      fun r hr => ⟨rfl, (h.connecting r hr).2⟩,
      fun msg hmsg => ⟨rfl, (h.handling msg hmsg).2⟩⟩

theorem Hosted.deliver {s : System} (h : Hosted s) (event : AppEvent) (payload : Payload) :
    Hosted (s.deliver event payload) := by
  obtain ⟨hhost, -, hhandling, hid⟩ := onEvent_frame s.worker payload event
  refine h.of_frame hhost rfl hid hhandling (fun _ _ _ hr => pending_of_onEvent hr) ?_
  cases hready : isSessionReady event with
  | false => exact .inl (by simp [System.deliver, hready])
  | true => exact .inr (by simp [System.deliver, hready])

/-- **Every step that meets the condition keeps what is being opened with its host.** -/
theorem Hosted.step {s t : System} {act : Act} (h : Hosted s) (hcan : CanAnswer s act)
    (hstep : Step s act t) : Hosted t := by
  cases hstep with
  | message msg hidle hposts => exact h.receive hcan
  | complete thrown hhandling =>
    obtain ⟨msg, hmsg⟩ := Option.isSome_iff_exists.mp hhandling
    exact h.complete hcan hmsg
  | created thrown hcreating => exact h.created thrown
  | event event payload hhost hup => exact h.deliver event payload
  | sample channelId leaseId reading hhost => exact h.of_quiet (quiet_deliverSample _ _ _ _)
  | transportError message => exact h.of_quiet (quiet_post _ rfl)
  | closed => exact h.of_quiet (quiet_post _ rfl)
  | pollEnd => exact h.of_quiet (quiet_post _ rfl)
  | lost =>
    obtain ⟨hnone, hpending⟩ := hcan
    refine ⟨fun kind channelId q hq => ?_, fun q hq => ?_, h.handling⟩
    · have hq' : (s.worker.pending kind).find? channelId = some q := hq
      rw [hpending] at hq'
      cases hq'
    · cases hnone.symm.trans hq

/-! ## The balance -/

section

variable (w w' : IoWorker) {msg : MainToWorker} (r : ℕ)

/-- The message being handled is owed its answer. -/
theorem balance_of_calling (hposted : w'.posted = w.posted)
    (hopening : openingOf w'.pending r = openingOf w.pending r)
    (hcreating : w'.creating = w.creating) (h : w.handling = none) (h' : w'.handling = some msg) :
    w'.settled r + w'.owing r =
      w.settled r + w.owing r + if msg.requestId? = some r then 1 else 0 := by
  have howing : w'.owing r = w.owing r + if msg.requestId? = some r then 1 else 0 := by
    simp [owing, hopening, hcreating, h, h']
  have hsettled : w'.settled r = w.settled r := by rw [settled, hposted, settled]
  rw [hsettled, howing, Nat.add_assoc]

/-- The message that has been handled is not. -/
theorem owing_of_handled (hpending : w'.pending = w.pending) (hcreating : w'.creating = w.creating)
    (h : w.handling = some msg) (h' : w'.handling = none) :
    w.owing r = w'.owing r + if msg.requestId? = some r then 1 else 0 := by
  simp [owing, hpending, hcreating, h, h']

end

/-- **A message is settled at once or owed an answer.** -/
theorem receive_balance {s : System} (hbounded : Bounded s) {msg : MainToWorker}
    (hidle : s.worker.handling = none) (hposts : s.Posts msg) (hcan : CanAnswer s (.message msg))
    (r : ℕ) :
    (s.worker.receive msg).settled r + (s.worker.receive msg).owing r =
      s.worker.settled r + s.worker.owing r + if msg.requestId? = some r then 1 else 0 := by
  have hcases := handles_receive s.worker msg
  generalize s.worker.receive msg = w at hcases
  cases hcases with
  | refused msg message =>
    rw [settled_post]
    exact Nat.add_right_comm _ _ _
  | init q wasmUrl =>
    have hnone : s.worker.creating = none := by
      by_contra hsome
      have hpos := hbounded.count_pos (Option.isSome_iff_ne_none.mpr hsome)
      have hzero := hposts.2 rfl
      omega
    have hold : s.worker.owing r = openingOf s.worker.pending r + 0 +
        if s.worker.handling.bind MainToWorker.requestId? = some r then 1 else 0 := by
      rw [owing, hnone]
      rfl
    have hnew : ({ s.worker.call (.create wasmUrl) with creating := some q } : IoWorker).owing r =
        openingOf s.worker.pending r + (if some q = some r then 1 else 0) +
          if s.worker.handling.bind MainToWorker.requestId? = some r then 1 else 0 := rfl
    have hid : (MainToWorker.init q wasmUrl).requestId? = some q := rfl
    have hsettled : ({ s.worker.call (.create wasmUrl) with
      creating := some q } : IoWorker).settled r = s.worker.settled r := rfl
    rw [hsettled, hnew, hold, hid]
    omega
  | dropped leaseId => rfl
  | closed q hhost =>
    rw [IoWorker.closed, settled_post]
    exact Nat.add_right_comm _ _ _
  | calls msg c hhost hblocks hconnects =>
    exact balance_of_calling s.worker _ r rfl rfl rfl hidle rfl
  | starts msg op q request c hhost hrequest hawaited =>
    exact balance_of_calling s.worker _ r rfl rfl rfl hidle rfl
  | connect q url options hhost =>
    exact balance_of_calling s.worker _ r rfl rfl rfl hidle rfl
  | reconnect q hhost hurl =>
    have hpending := ((hcan hhost).2.2.1 q rfl hurl).2
    have hopening : openingOf s.worker.pending r = 0 := by
      rw [hpending]
      rfl
    exact balance_of_calling s.worker _ r rfl hopening.symm rfl hidle rfl
  | opens msg kind q channelId typeName c hhost hopens =>
    obtain ⟨-, -, hfree⟩ := (hcan hhost).2.2.2 kind q channelId hopens
    have hupdate := openingOf_update s.worker.pending kind
      ((s.worker.pending kind).set channelId q) r
    rw [Table.count_set_of_none hfree] at hupdate
    simp only [beq_iff_eq] at hupdate
    have hsettled : (s.worker.opens kind q channelId typeName c).settled r =
        s.worker.settled r := rfl
    have howing : (s.worker.opens kind q channelId typeName c).owing r =
        openingOf (Function.update s.worker.pending kind
          ((s.worker.pending kind).set channelId q)) r +
        (if s.worker.creating = some r then 1 else 0) +
        if s.worker.handling.bind MainToWorker.requestId? = some r then 1 else 0 := rfl
    rw [hsettled, howing, requestId_of_opens hopens]
    simp only [owing, Option.some.injEq]
    omega
  | unsubscribe q channelId correlation hhost =>
    exact absurd rfl ((hcan hhost).1 q channelId correlation)

/-- **An awaited request, settled or owed**, once together. -/
structure Balanced (s : System) (r : ℕ) : Prop where
  pos : 0 < r
  le : r ≤ s.count
  operations : ∀ op key, (s.worker.operations op).find? key ≠ some r
  handling : ∀ msg, s.worker.handling = some msg → msg.requestId? = some r → msg.awaited = true
  sum : s.settled r + s.owed r = 1

/-- What the worker does with a message keeps operations and awaited requests apart. -/
theorem operations_of_receive {w : IoWorker} {msg : MainToWorker} {r : ℕ}
    (h : ∀ op key, (w.operations op).find? key ≠ some r)
    (hmsg : msg.requestId? = some r → msg.awaited = true) :
    ∀ op key, ((w.receive msg).operations op).find? key ≠ some r := by
  have hcases := handles_receive w msg
  generalize w.receive msg = w' at hcases
  cases hcases with
  | starts msg op q request c hhost hrequest hawaited =>
    have hq : q ≠ r := by
      rintro rfl
      cases hawaited.symm.trans (hmsg hrequest)
    exact find?_update_set h hq op _
  | reconnect q hhost hurl => exact fun _ _ => nofun
  | _ => exact h

theorem handling_of_receive {w : IoWorker} {msg m : MainToWorker}
    (h : (w.receive msg).handling = some m) : w.handling = some m ∨ m = msg := by
  have hcases := handles_receive w msg
  generalize w.receive msg = w' at hcases h
  cases hcases with
  | calls | starts | connect | reconnect => exact .inr (Option.some.inj h).symm
  | _ => exact .inl h

theorem Balanced.receive {s : System} {r : ℕ} (h : Balanced s r) (hbounded : Bounded s)
    {msg : MainToWorker} (hidle : s.worker.handling = none) (hposts : s.Posts msg)
    (hcan : CanAnswer s (.message msg)) : Balanced (s.receive msg) r := by
  have hother : msg.requestId? ≠ some r := fun hid => by
    have hnew := hposts.1 r hid
    have hle := h.le
    omega
  refine ⟨h.pos, ?_, operations_of_receive h.operations fun hid => absurd hid hother, ?_, ?_⟩
  · have hle := h.le
    have hcount : s.count ≤ (s.receive msg).count := by
      rcases count_of_step (Step.message s msg hidle hposts) with heq | ⟨-, -, -, heq⟩ <;> omega
    omega
  · intro m hm hid
    rcases handling_of_receive hm with hold | rfl
    · exact h.handling m hold hid
    · exact absurd hid hother
  · have hbalance := receive_balance hbounded hidle hposts hcan r
    rw [if_neg hother] at hbalance
    have hsum := h.sum
    have howed : (s.receive msg).owed r =
      (s.worker.receive msg).owing r + if s.connecting = some r then 1 else 0 := rfl
    have hsettled : (s.receive msg).settled r = (s.worker.receive msg).settled r := rfl
    have howed' : s.owed r = s.worker.owing r + if s.connecting = some r then 1 else 0 := rfl
    have hsettled' : s.settled r = s.worker.settled r := rfl
    omega

/-- A new request that is awaited. -/
theorem balanced_of_receive {s : System} (hbounded : Bounded s) (hhosted : Hosted s)
    {msg : MainToWorker} (hidle : s.worker.handling = none) (hposts : s.Posts msg)
    (hcan : CanAnswer s (.message msg)) (hawaited : msg.awaited = true) {r : ℕ}
    (hid : msg.requestId? = some r) : Balanced (s.receive msg) r := by
  have hr := hposts.1 r hid
  obtain ⟨hgone, hsettled⟩ := hbounded.gone r (by omega)
  refine ⟨by omega, ?_, operations_of_receive hgone.operations fun _ => hawaited, ?_, ?_⟩
  · simp [System.receive, hid, hr]
  · intro m hm hid'
    rcases handling_of_receive hm with hold | rfl
    · exact absurd hid' (hgone.handling m hold)
    · exact hawaited
  · have hbalance := receive_balance hbounded hidle hposts hcan r
    rw [if_pos hid] at hbalance
    have howing : s.worker.owing r = 0 := by
      rw [owing, openingOf_eq_zero hgone.pending, if_neg hgone.creating, hidle]
      rfl
    have hconnecting : s.connecting ≠ some r := fun heq =>
      hgone.connecting (hhosted.connecting r heq).2.2
    have howed : (s.receive msg).owed r =
      (s.worker.receive msg).owing r + if s.connecting = some r then 1 else 0 := rfl
    rw [if_neg hconnecting] at howed
    have hsettled' : (s.receive msg).settled r = (s.worker.receive msg).settled r := rfl
    have hzero : s.worker.settled r = 0 := hsettled
    omega

/-- The answer to the message being handled is posted, or its session is waited for. -/
theorem Balanced.complete {s : System} {r : ℕ} (h : Balanced s r) (hhosted : Hosted s)
    {thrown : Option String} {msg : MainToWorker} (hmsg : s.worker.handling = some msg) :
    Balanced (s.complete thrown) r := by
  obtain ⟨-, hblocks, hconnects⟩ := hhosted.handling msg hmsg
  have hsum := h.sum
  have hold : s.worker.owing r = ({ s.worker with handling := none } : IoWorker).owing r +
      if msg.requestId? = some r then 1 else 0 :=
    owing_of_handled s.worker { s.worker with handling := none } r rfl rfl hmsg rfl
  have howed : s.owed r = s.worker.owing r + if s.connecting = some r then 1 else 0 := rfl
  have hsettled : s.settled r = ({ s.worker with handling := none } : IoWorker).settled r := rfl
  rcases complete_cases hmsg thrown with ⟨m, heq, hm, hnot⟩ | ⟨q, rfl, rfl, heq⟩ | ⟨rfl, heq, haway⟩
  · rw [System.complete_of_not_connects hmsg hnot, heq]
    refine ⟨h.pos, h.le, h.operations, fun _ h => (nomatch h), ?_⟩
    have hpost := settled_post { s.worker with handling := none } m r
    rw [hm] at hpost
    show (({ s.worker with handling := none } : IoWorker).post m).settled r +
      (({ s.worker with handling := none } : IoWorker).owing r +
        if s.connecting = some r then 1 else 0) = 1
    omega
  · rw [System.complete_of_not_connects hmsg fun _ => rfl, heq]
    refine ⟨h.pos, h.le, h.operations, fun _ h => (nomatch h), ?_⟩
    have hclosed := settled_closed { s.worker with handling := none } q r
    show (({ s.worker with handling := none } : IoWorker).closed q).settled r +
      (({ s.worker with handling := none } : IoWorker).owing r +
        if s.connecting = some r then 1 else 0) = 1
    have hid : (MainToWorker.close q).requestId? = some q := rfl
    rw [hid] at hold
    omega
  · cases hc : msg.connects? with
    | none =>
      rw [System.complete_of_not_connects hmsg fun _ => hc, heq]
      have hother : msg.requestId? ≠ some r := fun hid => by
        have hsame := haway (h.handling msg hmsg hid) hblocks
        cases hc.symm.trans (hsame.trans hid)
      rw [if_neg hother] at hold
      refine ⟨h.pos, h.le, h.operations, fun _ h => (nomatch h), ?_⟩
      show s.settled r + (({ s.worker with handling := none } : IoWorker).owing r +
        if s.connecting = some r then 1 else 0) = 1
      omega
    | some q =>
      rw [System.complete_of_connects hmsg hc, heq]
      rw [(hconnects q hc).1] at howed
      have hid : msg.requestId? = some q := by
        cases msg <;> cases hc <;> rfl
      rw [hid] at hold
      refine ⟨h.pos, h.le, h.operations, fun _ h => (nomatch h), ?_⟩
      show s.settled r + (({ s.worker with handling := none } : IoWorker).owing r +
        if some q = some r then 1 else 0) = 1
      simp only [reduceCtorEq, if_false] at howed
      omega

/-- The host is created for the first request, and its creation answers it. -/
theorem Balanced.created {s : System} {r : ℕ} (h : Balanced s r) (hbounded : Bounded s)
    (hcreating : s.worker.creating.isSome = true) (thrown : Option String) :
    Balanced { s with worker := s.worker.created thrown } r := by
  obtain ⟨q, hq⟩ := Option.isSome_iff_exists.mp hcreating
  obtain rfl := hbounded.creating q hq
  have hsum := h.sum
  have howed : s.owed r = openingOf s.worker.pending r +
      (if s.worker.creating = some r then 1 else 0) +
      (if s.worker.handling.bind MainToWorker.requestId? = some r then 1 else 0) +
      if s.connecting = some r then 1 else 0 := rfl
  rw [hq] at howed
  have hsettled : s.settled r = s.worker.settled r := rfl
  cases thrown with
  | some message =>
    refine ⟨h.pos, h.le, h.operations, h.handling, ?_⟩
    have hpost : (s.worker.created (some message)).settled r = s.worker.settled r +
        if s.worker.creating = some r then 1 else 0 :=
      settled_post { s.worker with creating := none } (.error s.worker.creating message) r
    rw [hq] at hpost
    show (s.worker.created (some message)).settled r + (openingOf s.worker.pending r + 0 +
      (if s.worker.handling.bind MainToWorker.requestId? = some r then 1 else 0) +
      if s.connecting = some r then 1 else 0) = 1
    omega
  | none =>
    refine ⟨h.pos, h.le, h.operations, h.handling, ?_⟩
    have hpost : (s.worker.created none).settled r = s.worker.settled r +
        if (some 1 : Option ℕ) = some r then 1 else 0 :=
      settled_post { s.worker with creating := none, host := true } .ready r
    show (s.worker.created none).settled r + (openingOf s.worker.pending r + 0 +
      (if s.worker.handling.bind MainToWorker.requestId? = some r then 1 else 0) +
      if s.connecting = some r then 1 else 0) = 1
    omega

theorem Balanced.of_quiet {s : System} {w : IoWorker} {r : ℕ} (h : Balanced s r)
    (hq : Quiet s.worker w) : Balanced { s with worker := w } r := by
  have hsettled := hq.settled r
  obtain ⟨msgs, calls, rfl, -⟩ := hq
  refine ⟨h.pos, h.le, h.operations, h.handling, ?_⟩
  have hsum := h.sum
  rw [System.settled, hsettled]
  exact hsum

/-- **An event settles what it answers.** -/
theorem Balanced.deliver {s : System} {r : ℕ} (h : Balanced s r) (hhosted : Hosted s)
    {event : AppEvent} (payload : Payload) (hcan : CanAnswer s (.event event payload)) :
    Balanced (s.deliver event payload) r := by
  obtain ⟨-, hcreating, hhandling, -⟩ := onEvent_frame s.worker payload event
  have hne : r ≠ 0 := h.pos.ne'
  have hoperations : ∀ op key, ((s.worker.onEvent payload event).operations op).find? key ≠
      some r := by
    intro op key hfind
    rcases onEvent_cases s.worker payload event with
      ⟨kind, ch, answer, heq, -⟩ | ⟨-, heq⟩ | ⟨op', e, answer, bytes, heq, -⟩ |
        ⟨msgs, calls, heq, -⟩
    · rw [heq] at hfind
      exact h.operations op key hfind
    · rw [heq] at hfind
      exact h.operations op key hfind
    · rw [heq] at hfind
      exact h.operations op key (find?_of_update_remove hfind)
    · rw [heq] at hfind
      exact h.operations op key hfind
  refine ⟨h.pos, h.le, hoperations, fun msg hmsg => h.handling msg (hhandling ▸ hmsg), ?_⟩
  have hsum : s.worker.settled r + (openingOf s.worker.pending r +
      (if s.worker.creating = some r then 1 else 0) +
      (if s.worker.handling.bind MainToWorker.requestId? = some r then 1 else 0) +
      if s.connecting = some r then 1 else 0) = 1 := h.sum
  show (s.worker.onEvent payload event).settled r +
    ((s.worker.onEvent payload event).owing r +
      if (if isSessionReady event then none else s.connecting) = some r then 1 else 0) = 1
  rw [owing, hcreating, hhandling]
  cases hready : isSessionReady event with
  | true =>
    obtain ⟨row, domainId, gatewayInstanceId, rfl⟩ : ∃ row domainId gatewayInstanceId,
        event = .sessionReady row domainId gatewayInstanceId := by
      cases event <;> cases hready
      exact ⟨_, _, _, rfl⟩
    obtain ⟨q, hq⟩ := Option.isSome_iff_exists.mp (hcan rfl)
    have hid := (hhosted.connecting q hq).2.2
    have hpost := settled_post s.worker (.connected s.worker.connectRequestId) r
    rw [show (WorkerToMain.connected s.worker.connectRequestId).settles = some q from
      congrArg some hid] at hpost
    rw [hq] at hsum
    show (s.worker.post (.connected s.worker.connectRequestId)).settled r +
      (openingOf s.worker.pending r + _ + _ + 0) = 1
    omega
  | false =>
    show _ + (_ + if s.connecting = some r then 1 else 0) = 1
    rcases onEvent_cases s.worker payload event with
      ⟨kind, ch, answer, heq, hanswer⟩ | ⟨hyes, -⟩ | ⟨op, e, answer, bytes, heq, hanswer⟩ | hq
    · have hbalance := opened_balance (s := s.worker) kind ch hanswer hne
      rw [heq]
      omega
    · cases hready.symm.trans hyes
    · rw [heq, settled_finished op e bytes hanswer, if_neg (getD_ne (h.operations _ _) hne)]
      exact hsum
    · rw [hq.settled]
      obtain ⟨msgs, calls, heq, -⟩ := hq
      rw [heq]
      exact hsum

/-- **Every step that meets the condition keeps an awaited request balanced.** -/
theorem Balanced.step {s t : System} {act : Act} {r : ℕ} (h : Balanced s r) (hbounded : Bounded s)
    (hhosted : Hosted s) (hcan : CanAnswer s act) (hstep : Step s act t) : Balanced t r := by
  cases hstep with
  | message msg hidle hposts => exact h.receive hbounded hidle hposts hcan
  | complete thrown hhandling =>
    obtain ⟨msg, hmsg⟩ := Option.isSome_iff_exists.mp hhandling
    exact h.complete hhosted hmsg
  | created thrown hcreating => exact h.created hbounded hcreating thrown
  | event event payload hhost hup => exact h.deliver hhosted payload hcan
  | sample channelId leaseId reading hhost => exact h.of_quiet (quiet_deliverSample _ _ _ _)
  | transportError message => exact h.of_quiet (quiet_post _ rfl)
  | closed => exact h.of_quiet (quiet_post _ rfl)
  | pollEnd => exact h.of_quiet (quiet_post _ rfl)
  | lost => exact ⟨h.pos, h.le, h.operations, h.handling, h.sum⟩

/-- The requests a step makes the page await. -/
theorem awaited_of_step {s t : System} {act : Act} {r : ℕ} (h : Step s act t)
    (hr : r ∈ t.awaited) : r ∈ s.awaited ∨ ∃ msg, act = .message msg ∧ t = s.receive msg ∧
      s.worker.handling = none ∧ s.Posts msg ∧ msg.awaited = true ∧ msg.requestId? = some r := by
  cases h with
  | message msg hidle hposts =>
    cases hawaited : msg.awaited with
    | false => exact .inl (by simpa [System.receive, hawaited] using hr)
    | true =>
      simp only [System.receive, hawaited, if_true, List.mem_append, Option.mem_toList] at hr
      exact hr.imp_right fun hid => ⟨msg, rfl, rfl, hidle, hposts, hawaited, hid⟩
  | complete thrown hhandling =>
    have hsame : (s.complete thrown).awaited = s.awaited := by
      unfold System.complete
      dsimp only
      split <;> rfl
    exact .inl (hsame ▸ hr)
  | _ => exact .inl hr

/-- **The invariant of a run.** -/
structure Tidy (s : System) : Prop where
  bounded : Bounded s
  hosted : Hosted s
  balanced : ∀ r ∈ s.awaited, Balanced s r

theorem tidy_of_reaches {s : System} (h : Reaches CanAnswer {} s) : Tidy s := by
  induction h with
  | refl => exact ⟨bounded_new, hosted_new, nofun⟩
  | tail _ hlast ih =>
    obtain ⟨act, hcan, hstep⟩ := hlast
    refine ⟨ih.bounded.step hstep, ih.hosted.step hcan hstep, fun r hr => ?_⟩
    rcases awaited_of_step hstep hr with hold | ⟨msg, rfl, rfl, hidle, hposts, hawaited, hid⟩
    · exact (ih.balanced r hold).step ih.bounded ih.hosted hcan hstep
    · exact balanced_of_receive ih.bounded ih.hosted hidle hposts hcan hawaited hid

/-! ## The answer -/

/-- An event by which the peer answers the request that opens a channel. -/
def opener : Opening → UInt32 → AppEvent
  | .subscribe, channelId => .subscribed channelId "" ""
  | .publish, channelId => .published channelId "" "" 0
  | .service, channelId => .serviceReady channelId "" "" true
  | .action, channelId => .actionReady channelId "" "" true

theorem onEvent_opener (w : IoWorker) (payload : Payload) (kind : Opening) (channelId : UInt32) :
    ∃ answer, w.onEvent payload (opener kind channelId) = w.opened kind channelId answer ∧
      ∀ q, (answer q).settles = some q := by
  cases kind <;>
  · rw [opener, onEvent]
    exact ⟨_, rfl, fun q => rfl⟩

/-- A request that waits for its channel is answered by the next event about it. -/
theorem exists_of_opening {s : System} (hhosted : Hosted s) {kind : Opening} {channelId r : ℕ}
    (h : (s.worker.pending kind).find? channelId = some r) (hsettled : s.settled r = 0) :
    ∃ t, Relation.ReflTransGen HostStep s t ∧ t.settled r = 1 := by
  obtain ⟨hhost, hup, hlt⟩ := hhosted.opening kind channelId r h
  obtain ⟨answer, heq, hanswer⟩ := onEvent_opener s.worker {} kind (UInt32.ofNat channelId)
  have hstep := Step.event s (opener kind (UInt32.ofNat channelId)) {} hhost fun _ => hup
  refine ⟨_, .single ⟨_, by nofun, hstep⟩, ?_⟩
  have hid : (UInt32.ofNat channelId).toNat = channelId := UInt32.toNat_ofNat_of_lt' hlt
  show (s.worker.onEvent {} (opener kind (UInt32.ofNat channelId))).settled r = 1
  rw [heq, settled_opened kind _ hanswer, hid, h, Option.getD_some, if_pos rfl]
  exact congrArg (· + 1) hsettled

/-- The request for a session is answered when it begins. -/
theorem exists_of_connecting {s : System} (hhosted : Hosted s) {r : ℕ}
    (h : s.connecting = some r) (hsettled : s.settled r = 0) :
    ∃ t, Relation.ReflTransGen HostStep s t ∧ t.settled r = 1 := by
  obtain ⟨hhost, hup, hid⟩ := hhosted.connecting r h
  have hstep := Step.event s (.sessionReady "" 0 "") {} hhost fun _ => hup
  refine ⟨_, .single ⟨_, by nofun, hstep⟩, ?_⟩
  show (s.worker.post (.connected s.worker.connectRequestId)).settled r = 1
  have hsettles : (WorkerToMain.connected s.worker.connectRequestId).settles = some r :=
    congrArg some hid
  rw [settled_post, if_pos hsettles]
  exact congrArg (· + 1) hsettled

/-- The message being handled is answered when its call returns, or by the session it opens. -/
theorem exists_of_handling {s : System} (hhosted : Hosted s) {r : ℕ} (hr : Balanced s r)
    {msg : MainToWorker} (hmsg : s.worker.handling = some msg) (hid : msg.requestId? = some r)
    (hsettled : s.settled r = 0) :
    ∃ t, Relation.ReflTransGen HostStep s t ∧ t.settled r = 1 := by
  obtain ⟨-, hblocks, -⟩ := hhosted.handling msg hmsg
  have hstep := Step.complete s none (Option.isSome_iff_exists.mpr ⟨msg, hmsg⟩)
  have hhandled : ({ s.worker with handling := none } : IoWorker).settled r = 0 := hsettled
  rcases complete_cases hmsg none with ⟨m, heq, hm, hnot⟩ | ⟨q, rfl, -, heq⟩ | ⟨-, heq, haway⟩
  · refine ⟨_, .single ⟨_, by nofun, hstep⟩, ?_⟩
    rw [System.settled, System.worker_complete, heq, settled_post, hhandled, hm, if_pos hid]
  · refine ⟨_, .single ⟨_, by nofun, hstep⟩, ?_⟩
    obtain rfl : q = r := Option.some.inj hid
    rw [System.settled, System.worker_complete, heq, settled_closed, hhandled, if_pos rfl]
  · have hconnects := (haway (hr.handling msg hmsg hid) hblocks).trans hid
    have hnot : ∀ q, msg ≠ .close q := by
      rintro q rfl
      cases hconnects
    have hcan : CanAnswer s (.complete none) := fun _ q hq =>
      absurd (Option.some.inj (hmsg.symm.trans hq)) (hnot q)
    have hsettled' : (s.complete none).settled r = 0 := by
      rw [System.settled, System.worker_complete, heq]
      exact hhandled
    have hconnecting : (s.complete none).connecting = some r := by
      rw [System.complete_of_connects hmsg hconnects]
    obtain ⟨t, hreach, ht⟩ :=
      exists_of_connecting (hhosted.complete hcan hmsg) hconnecting hsettled'
    exact ⟨t, .head ⟨_, by nofun, hstep⟩ hreach, ht⟩

/-- The host that is being created answers the first request. -/
theorem exists_of_creating {s : System} (hbounded : Bounded s) {r : ℕ}
    (h : s.worker.creating = some r) (hsettled : s.settled r = 0) :
    ∃ t, Relation.ReflTransGen HostStep s t ∧ t.settled r = 1 := by
  obtain rfl := hbounded.creating r h
  have hstep := Step.created s none (by rw [h]; rfl)
  refine ⟨_, .single ⟨_, by nofun, hstep⟩, ?_⟩
  have hpost := settled_post { s.worker with creating := none, host := true } .ready 1
  rw [if_pos (show WorkerToMain.ready.settles = some 1 from rfl)] at hpost
  exact hpost.trans (congrArg (· + 1) hsettled)

theorem answered_of_balanced {s : System} (h : Tidy s) {r : ℕ} (hr : r ∈ s.awaited) :
    Answered s r := by
  have hbalanced := h.balanced r hr
  have hsum := hbalanced.sum
  rcases Nat.eq_zero_or_pos (s.settled r) with hsettled | hpos
  · refine .inr ⟨hsettled, ?_⟩
    by_cases hopening : openingOf s.worker.pending r = 0
    · by_cases hconnecting : s.connecting = some r
      · exact exists_of_connecting h.hosted hconnecting hsettled
      · by_cases hcreating : s.worker.creating = some r
        · exact exists_of_creating h.bounded hcreating hsettled
        · have hbind : s.worker.handling.bind MainToWorker.requestId? = some r := by
            by_contra hne
            rw [System.owed, owing, hopening, if_neg hconnecting, if_neg hcreating,
              if_neg hne] at hsum
            omega
          obtain ⟨msg, hmsg, hid⟩ := Option.bind_eq_some_iff.mp hbind
          exact exists_of_handling h.hosted hbalanced hmsg hid hsettled
    · obtain ⟨kind, channelId, hfind⟩ := exists_of_openingOf hopening
      exact exists_of_opening h.hosted hfind hsettled
  · exact .inl (by omega)

/-- **Every awaited request is answered once**, in every state of every run whose steps meet the
condition. -/
theorem answered_once {s : System} (h : Reaches CanAnswer {} s) (r : ℕ) (hr : r ∈ s.awaited) :
    Answered s r :=
  answered_of_balanced (tidy_of_reaches h) hr

/-! ## A session with one subscription -/

def chatter : TopicRequest where
  topic := "/chatter"
  typeName := "std_msgs/msg/String"
  channelId := 1
  correlation := List.replicate 16 177
  qosReliability := some 1
  qosDepth := some 5

/-- The host has been created. -/
def ready : System :=
  let s := ({} : System).receive (.init 1 "rclweb.wasm")
  { s with worker := s.worker.created none }

/-- The session has begun. -/
def connected : System :=
  ((ready.receive (.connect 2 "ws://localhost:9090/" {})).complete none).deliver
    (.sessionReady "" 0 "") {}

/-- The channel of the subscription is open. -/
def subscribed : System :=
  (connected.receive (.subscribe 3 chatter)).deliver
    (.subscribed 1 "/chatter" "std_msgs/msg/String") {}

theorem reaches_ready : Reaches CanAnswer {} ready := by
  have hinit : Step {} (.message (.init 1 "rclweb.wasm"))
      (({} : System).receive (.init 1 "rclweb.wasm")) :=
    .message _ _ rfl ⟨fun _ hr => (Option.some.inj hr).symm, fun _ => rfl⟩
  have hcan : CanAnswer {} (.message (.init 1 "rclweb.wasm")) := nofun
  have hcreated := Step.created (({} : System).receive (.init 1 "rclweb.wasm")) none rfl
  exact (Relation.ReflTransGen.single ⟨_, hcan, hinit⟩).tail ⟨_, by trivial, hcreated⟩

theorem reaches_connected : Reaches CanAnswer {} connected := by
  have hconnect : Step ready (.message (.connect 2 "ws://localhost:9090/" {}))
      (ready.receive (.connect 2 "ws://localhost:9090/" {})) :=
    .message _ _ rfl ⟨fun _ hr => (Option.some.inj hr).symm, nofun⟩
  have hcan : CanAnswer ready (.message (.connect 2 "ws://localhost:9090/" {})) := fun _ =>
    ⟨nofun, fun _ _ _ _ => rfl, nofun, nofun⟩
  have hcomplete := Step.complete (ready.receive (.connect 2 "ws://localhost:9090/" {})) none rfl
  have hsession := Step.event
    ((ready.receive (.connect 2 "ws://localhost:9090/" {})).complete none)
    (.sessionReady "" 0 "") {} rfl fun _ => rfl
  exact ((reaches_ready.tail ⟨_, hcan, hconnect⟩).tail ⟨_, by nofun, hcomplete⟩).tail
    ⟨_, by exact fun _ => rfl, hsession⟩

theorem reaches_subscribed : Reaches CanAnswer {} subscribed := by
  have hsubscribe : Step connected (.message (.subscribe 3 chatter))
      (connected.receive (.subscribe 3 chatter)) :=
    .message _ _ rfl ⟨fun _ hr => (Option.some.inj hr).symm, nofun⟩
  have hcan : CanAnswer connected (.message (.subscribe 3 chatter)) := by
    refine fun _ => ⟨nofun, nofun, nofun, ?_⟩
    rintro kind r channelId heq
    cases heq
    exact ⟨rfl, by decide, rfl⟩
  have hopened := Step.event (connected.receive (.subscribe 3 chatter))
    (.subscribed 1 "/chatter" "std_msgs/msg/String") {} rfl fun _ => rfl
  exact (reaches_connected.tail ⟨_, hcan, hsubscribe⟩).tail ⟨_, by nofun, hopened⟩

/-- The three requests of the session have been answered once. -/
theorem answered_once_of_subscribed :
    Answered subscribed 1 ∧ Answered subscribed 2 ∧ Answered subscribed 3 :=
  ⟨answered_once reaches_subscribed 1 (by decide), answered_once reaches_subscribed 2 (by decide),
    answered_once reaches_subscribed 3 (by decide)⟩

/-- **The request to end the subscription is never answered**: neither by the worker nor by
anything that happens later. -/
theorem not_answered_of_unsubscribe :
    ∃ s, Reaches (fun _ _ => True) {} s ∧ ∃ r ∈ s.awaited, ¬ Answered s r ∧
      ∀ t, Reaches (fun _ _ => True) s t → t.settled r = 0 := by
  have hreach : Reaches (fun _ _ => True) {} subscribed :=
    Relation.ReflTransGen.mono (fun _ _ ⟨act, _, hstep⟩ => ⟨act, trivial, hstep⟩) _ _
      reaches_subscribed
  have hstep : Step subscribed (.message (.unsubscribe 4 1 (List.replicate 16 195)))
      (subscribed.receive (.unsubscribe 4 1 (List.replicate 16 195))) :=
    .message _ _ rfl ⟨fun _ hr => (Option.some.inj hr).symm, nofun⟩
  have hnever := fun t (ht : Reaches (fun _ _ => True) _ t) =>
    unanswered_of_unsubscribe hreach rfl hstep ht
  refine ⟨_, hreach.tail ⟨_, trivial, hstep⟩, 4, (hnever _ .refl).1, ?_, fun t ht => (hnever t ht).2⟩
  rintro (hone | ⟨-, t, ht, hone⟩)
  · cases (hnever _ .refl).2.symm.trans hone
  · have ht' : Reaches (fun _ _ => True) _ t :=
      Relation.ReflTransGen.mono (fun _ _ ⟨act, _, hstep⟩ => ⟨act, trivial, hstep⟩) _ _ ht
    cases (hnever t ht').2.symm.trans hone

end Worker
end Rclweb
