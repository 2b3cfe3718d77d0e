import Rclweb.Worker.Handling

/-!
# Answers to the requests of the page

Every request the page awaits ought to be answered once.  A request is `Answered` when one message
has settled it, or none has and the host and the peer can still bring the answer about.  In runs
whose steps all meet `CanAnswer` every awaited request is answered in this sense
(`answered_once`): `settled` counts the messages that settle it and `owed` the places where it is
remembered, and a step moves a request from one to the other.

`unsubscribe` does not: the worker asks its host and neither answers nor remembers the request, so
no continuation of the run answers it (`unanswered_of_unsubscribe`).
-/

namespace Rclweb
namespace Worker

open Engine IoWorker

namespace System

variable (s : System) (r : ℕ)

def settled : ℕ := s.worker.settled r

/-- In how many places a request is remembered that is yet to be answered. -/
def owed : ℕ := s.worker.owing r + if s.connecting = some r then 1 else 0

omit r in
/-- No session and no channel is being opened. -/
def Idle : Prop := s.connecting = none ∧ s.worker.pending = fun _ => ∅

omit r in
theorem worker_complete (thrown : Option String) :
    (s.complete thrown).worker = s.worker.complete thrown := by
  unfold complete
  dsimp only
  split <;> rfl

variable {s}

omit r in
/-- A message that connects leaves the answer to the session. -/
theorem complete_of_connects {msg : MainToWorker} {q : ℕ} (hmsg : s.worker.handling = some msg)
    (hq : msg.connects? = some q) :
    s.complete none =
      { s with worker := s.worker.complete none, connecting := some q, up := true } := by
  simp [complete, hmsg, hq]

omit r in
theorem complete_of_not_connects {msg : MainToWorker} {thrown : Option String}
    (hmsg : s.worker.handling = some msg) (h : thrown = none → msg.connects? = none) :
    s.complete thrown = { s with worker := s.worker.complete thrown } := by
  cases thrown with
  | none => simp [complete, hmsg, h rfl]
  | some message => rfl

end System

/-- The steps of the host and of the peer, between the messages of the page. -/
def HostStep (s t : System) : Prop := ∃ act, (∀ msg, act ≠ .message msg) ∧ Step s act t

/-- **A request is answered once**: one message has settled it, or none has and the host and the
peer can have it settled. -/
def Answered (s : System) (r : ℕ) : Prop :=
  s.settled r = 1 ∨ s.settled r = 0 ∧ ∃ t, Relation.ReflTransGen HostStep s t ∧ t.settled r = 1

/-- **The steps that lose no answer.**  Nothing is unsubscribed from.  A channel is opened on a
connection that is up and under an id no earlier request waits for.  A session is asked for when no
other is on its way, and begins once for each time it is asked for.  The connection is lost, replaced
or closed when nothing is being opened. -/
def CanAnswer (s : System) : Act → Prop
  | .message msg =>
    s.worker.host = true →
      (∀ r channelId correlation, msg ≠ .unsubscribe r channelId correlation) ∧
      (∀ r url options, msg = .connect r url options → s.connecting = none) ∧
      (∀ r, msg = .reconnect r → s.worker.connectUrl ≠ "" → s.Idle) ∧
      ∀ kind r channelId, msg.opens? = some (kind, r, channelId) →
        s.up = true ∧ channelId < 2 ^ 32 ∧ (s.worker.pending kind).find? channelId = none
  | .complete thrown =>
    thrown = none → ∀ r, s.worker.handling = some (.close r) → s.Idle
  | .event event _ => isSessionReady event = true → s.connecting.isSome = true
  | .lost => s.Idle
  | _ => True

/-! ## Requests that are lost -/

/-- **No number beyond the last one is known**, and the host is created for the first one. -/
structure Bounded (s : System) : Prop where
  gone : ∀ r, s.count < r → Gone s.worker r ∧ s.settled r = 0
  creating : ∀ r, s.worker.creating = some r → r = 1
  host : s.worker.host = true → 1 ≤ s.count

theorem bounded_new : Bounded {} :=
  ⟨fun _ hr => ⟨⟨nofun, nofun, (Nat.ne_of_gt hr).symm, nofun, fun _ h => nomatch h⟩, rfl⟩, nofun,
    nofun⟩

/-- The host is created for a request that has been numbered. -/
theorem Bounded.count_pos {s : System} (h : Bounded s) (hcreating : s.worker.creating.isSome = true) :
    1 ≤ s.count := by
  obtain ⟨q, hq⟩ := Option.isSome_iff_exists.mp hcreating
  by_contra hlt
  exact (h.gone 1 (by omega)).1.creating (h.creating q hq ▸ hq)

/-- **No step settles a request the worker does not know**, unless it is the request itself. -/
theorem gone_of_step {s t : System} {act : Act} {r : ℕ} (h : Step s act t)
    (hgone : Gone s.worker r) (hr : r ≠ 0) (hready : s.worker.creating.isSome = true → r ≠ 1)
    (hmsg : ∀ msg, act = .message msg → msg.requestId? ≠ some r) :
    Gone t.worker r ∧ t.settled r = s.settled r := by
  cases h with
  | message msg hidle hposts => exact hgone.receive (hmsg msg rfl)
  | complete thrown hhandling =>
    have hcomplete := hgone.complete thrown
    rw [System.settled, System.worker_complete]
    exact hcomplete
  | created thrown hcreating => exact hgone.created (hready hcreating) thrown
  | event event payload hhost hup => exact hgone.onEvent hr payload event
  | sample channelId leaseId reading hhost =>
    have hq := quiet_deliverSample s.worker channelId leaseId reading
    exact ⟨hgone.quiet hq, hq.settled r⟩
  | transportError message =>
    have hq := quiet_post s.worker (show (WorkerToMain.error none message).settles = none from rfl)
    exact ⟨hgone.quiet hq, hq.settled r⟩
  | closed =>
    have hq := quiet_post s.worker (show (WorkerToMain.closed none).settles = none from rfl)
    exact ⟨hgone.quiet hq, hq.settled r⟩
  | pollEnd =>
    have hq := quiet_post s.worker (show WorkerToMain.telemetry.settles = none from rfl)
    exact ⟨hgone.quiet hq, hq.settled r⟩
  | lost => exact ⟨hgone, rfl⟩

theorem count_of_step {s t : System} {act : Act} (h : Step s act t) :
    t.count = s.count ∨
      ∃ msg, act = .message msg ∧ msg.requestId? = some (s.count + 1) ∧ t.count = s.count + 1 := by
  cases h with
  | message msg hidle hposts =>
    cases hid : msg.requestId? with
    | none => exact .inl (by simp [System.receive, hid])
    | some r =>
      exact .inr ⟨msg, rfl, congrArg some (hposts.1 r hid) ▸ hid, by simp [System.receive, hid]⟩
  | complete thrown hhandling =>
    refine .inl ?_
    unfold System.complete
    dsimp only
    split <;> rfl
  | _ => exact .inl rfl

theorem creating_of_step {s t : System} {act : Act} {r : ℕ} (h : Step s act t)
    (hr : t.worker.creating = some r) :
    s.worker.creating = some r ∨ ∃ wasmUrl, act = .message (.init r wasmUrl) := by
  cases h with
  | message msg hidle hposts =>
    have hcases := handles_receive s.worker msg
    have hr' : (s.worker.receive msg).creating = some r := hr
    generalize s.worker.receive msg = w at hcases hr'
    cases hcases with
    | init q wasmUrl =>
      cases hr'
      exact .inr ⟨wasmUrl, rfl⟩
    | _ => exact .inl hr'
  | complete thrown hhandling =>
    obtain ⟨msg, hmsg⟩ := Option.isSome_iff_exists.mp hhandling
    rw [System.worker_complete] at hr
    rcases complete_cases hmsg thrown with ⟨m, heq, -⟩ | ⟨q, -, -, heq⟩ | ⟨-, heq, -⟩
    all_goals
      rw [heq] at hr
      exact .inl hr
  | created thrown hcreating =>
    cases thrown <;> cases hr
  | event event payload hhost hup =>
    have hframe := (onEvent_frame s.worker payload event).2.1
    exact .inl (hframe.symm.trans hr)
  | sample channelId leaseId reading hhost =>
    obtain ⟨msgs, calls, heq, -⟩ := quiet_deliverSample s.worker channelId leaseId reading
    rw [heq] at hr
    exact .inl hr
  | _ => exact .inl hr

/-- Only its creation brings a host. -/
theorem host_of_step {s t : System} {act : Act} (h : Step s act t)
    (ht : t.worker.host = true) : s.worker.host = true ∨ s.worker.creating.isSome = true := by
  cases h with
  | message msg hidle hposts =>
    have hcases := handles_receive s.worker msg
    have ht' : (s.worker.receive msg).host = true := ht
    generalize s.worker.receive msg = w at hcases ht'
    cases hcases with
    | closed q hhost => cases ht'
    | _ => exact .inl ht'
  | complete thrown hhandling =>
    obtain ⟨msg, hmsg⟩ := Option.isSome_iff_exists.mp hhandling
    rw [System.worker_complete] at ht
    rcases complete_cases hmsg thrown with ⟨m, heq, -⟩ | ⟨q, -, -, heq⟩ | ⟨-, heq, -⟩
    · rw [heq] at ht
      exact .inl ht
    · rw [heq] at ht
      cases ht
    · rw [heq] at ht
      exact .inl ht
  | created thrown hcreating => exact .inr hcreating
  | event event payload hhost hup => exact .inl hhost
  | sample channelId leaseId reading hhost => exact .inl hhost
  | _ => exact .inl ht

theorem Bounded.step {s t : System} {act : Act} (hs : Bounded s) (h : Step s act t) :
    Bounded t where
  gone r hr := by
    have hlt : s.count < r := by
      rcases count_of_step h with hcount | ⟨msg, -, -, hcount⟩ <;> omega
    obtain ⟨hgone, hsettled⟩ := hs.gone r hlt
    have hready : s.worker.creating.isSome = true → r ≠ 1 := by
      intro hcreating
      have hpos := hs.count_pos hcreating
      omega
    have hmsg : ∀ msg, act = .message msg → msg.requestId? ≠ some r := by
      rintro msg rfl hid
      rcases count_of_step h with hcount | ⟨msg', hact, hid', hcount⟩
      · have hnew : t.count = s.count + 1 := by
          cases h
          simp [System.receive, hid]
        omega
      · cases hact
        have heq := Option.some.inj (hid.symm.trans hid')
        omega
    obtain ⟨hgone', hsettled'⟩ := gone_of_step h hgone (by omega) hready hmsg
    exact ⟨hgone', hsettled'.trans hsettled⟩
  creating r hr := by
    rcases creating_of_step h hr with hold | ⟨wasmUrl, rfl⟩
    · exact hs.creating r hold
    · cases h with
      | message msg hidle hposts =>
        rw [hposts.1 r rfl, hposts.2 rfl]
  host ht := by
    have hpos : 1 ≤ s.count := by
      rcases host_of_step h ht with hhost | hcreating
      · exact hs.host hhost
      · exact hs.count_pos hcreating
    rcases count_of_step h with hcount | ⟨-, -, -, hcount⟩ <;> omega

theorem bounded_of_reaches {P : System → Act → Prop} {s : System} (h : Reaches P {} s) :
    Bounded s := by
  induction h with
  | refl => exact bounded_new
  | tail _ hlast ih =>
    obtain ⟨act, -, hstep⟩ := hlast
    exact ih.step hstep

/-- A request that is gone stays unsettled and gone. -/
theorem unsettled_of_gone {s t : System} {r : ℕ} (hs : Bounded s) (hgone : Gone s.worker r)
    (hr : 1 < r) (hle : r ≤ s.count) (h : Reaches (fun _ _ => True) s t) :
    t.settled r = s.settled r := by
  suffices hkept : Bounded t ∧ Gone t.worker r ∧ r ≤ t.count ∧ t.settled r = s.settled r from
    hkept.2.2.2
  induction h with
  | refl => exact ⟨hs, hgone, hle, rfl⟩
  | tail _ hlast ih =>
    obtain ⟨hbounded, hgone, hle, hsettled⟩ := ih
    obtain ⟨act, -, hstep⟩ := hlast
    have hmsg : ∀ msg, act = .message msg → msg.requestId? ≠ some r := by
      rintro msg rfl hid
      cases hstep with
      | message msg hidle hposts =>
        have hnew := hposts.1 r hid
        omega
    obtain ⟨hgone', hsettled'⟩ := gone_of_step hstep hgone (by omega) (by omega) hmsg
    refine ⟨hbounded.step hstep, hgone', ?_, hsettled'.trans hsettled⟩
    rcases count_of_step hstep with hcount | ⟨-, -, -, hcount⟩ <;> omega

/-- **A request to unsubscribe is never answered**, by any continuation of any run, when the worker
has its host. -/
theorem unanswered_of_unsubscribe {s t u : System} {r channelId : ℕ} {correlation : List UInt8}
    (hs : Reaches (fun _ _ => True) {} s) (hhost : s.worker.host = true)
    (hstep : Step s (.message (.unsubscribe r channelId correlation)) t)
    (h : Reaches (fun _ _ => True) t u) : r ∈ t.awaited ∧ u.settled r = 0 := by
  have hbounded := bounded_of_reaches hs
  have hpos := hbounded.host hhost
  have hbounded' := hbounded.step hstep
  cases hstep with
  | message msg hidle hposts =>
    obtain rfl : r = s.count + 1 := hposts.1 r rfl
    obtain ⟨hgone, hsettled⟩ := hbounded.gone (s.count + 1) (Nat.lt_succ_self _)
    have hreceive : s.worker.receive (.unsubscribe (s.count + 1) channelId correlation) =
        { s.worker with channelTypes := s.worker.channelTypes.remove channelId }.call
          (.unsubscribe correlation channelId) := by
      have hnot : (!s.worker.host) = false := by rw [hhost, Bool.not_true]
      simp only [receive, hnot, Bool.false_eq_true, if_false]
    have hworker : (s.receive (.unsubscribe (s.count + 1) channelId correlation)).worker = _ :=
      hreceive
    have hgone' : Gone (s.receive (.unsubscribe (s.count + 1) channelId correlation)).worker
        (s.count + 1) := by
      rw [hworker]
      exact ⟨hgone.pending, hgone.operations, hgone.connecting, hgone.creating, hgone.handling⟩
    refine ⟨by simp [System.receive, MainToWorker.awaited, MainToWorker.requestId?], ?_⟩
    rw [unsettled_of_gone hbounded' hgone' (by omega) le_rfl h, System.settled, hworker]
    exact hsettled

end Worker
end Rclweb
