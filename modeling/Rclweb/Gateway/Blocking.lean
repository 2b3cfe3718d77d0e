import Rclweb.Gateway.RunConnection

/-!
# What a waiting handler holds back

A handler runs inside the branch that took its message, so while it waits for the backend the
loop takes nothing: not the frames that have arrived, nor the samples, requests and action
inbounds of the backend, nor a cancel of the very goal it waits for.  Arrivals and the answer
are the only steps there are (`Step.of_awaits`).
-/

namespace Rclweb
namespace Gateway

variable {jwt : JwtLibrary} {config : GatewayConfig jwt} {active : ActiveTransport}
  {l m : Loop} {label : Label} {labels : List Label}

namespace Loop

/-- The handler waits for the backend to answer an operation. -/
def Awaits (l : Loop) (op : BackendOp) : Prop := ∃ next, l.phase = .handling (.await op next)

/-- How many items wait for the branch of a label. -/
def waiting (l : Loop) : Label → ℕ
  | .recv => l.inbound.length
  | .sample => l.samples.length
  | .request => l.requests.length
  | .action => l.actions.length
  | _ => 0

end Loop

/-- Operations the backend completes only when a ROS peer answers. -/
def BackendOp.waitsForPeer : BackendOp → Bool
  | call _ _ _ | sendActionGoal _ _ _ => true
  | _ => false

/-- **Everything that waits can still be handled** before the pending operation completes: for
each item there is a run without an answer whose branches take that many items. -/
def CanHandle (config : GatewayConfig jwt) (active : ActiveTransport) (l : Loop) : Prop :=
  ∀ label, ∀ i < l.waiting label,
    ∃ labels m, Run config active l labels m ∧ .answer ∉ labels ∧ i < labels.count label

/-- While the handler waits, a step is an arrival or the answer, and an arrival leaves the
handler waiting. -/
theorem Step.of_awaits {op : BackendOp} (hop : l.Awaits op) (h : Step config active l label m) :
    label = .answer ∨ label = .arrive ∧ m.Awaits op := by
  obtain ⟨next, hnext⟩ := hop
  cases h with
  | arrive | offerSample | offerRequest | offerAction => exact .inr ⟨rfl, next, hnext⟩
  | answer => exact .inl rfl
  | recv _ _ _ hphase | recvEnd hphase | finish _ hphase | finishFailed _ _ hphase
  | sample _ _ _ _ hphase | sampleFailed _ _ _ _ _ hphase | request _ _ hphase
  | requestFailed _ _ _ hphase | action _ _ hphase | actionFailed _ _ _ hphase
  | destroyed _ _ _ hphase | tornDown hphase =>
    rw [hnext] at hphase
    simp at hphase

/-- Until the backend answers, only arrivals happen. -/
theorem Run.of_awaits {op : BackendOp} (hop : l.Awaits op) (h : Run config active l labels m)
    (hanswer : .answer ∉ labels) : ∀ label ∈ labels, label = .arrive := by
  induction h with
  | nil => simp
  | @cons l m n label labels hstep _ ih =>
    rw [List.mem_cons, not_or] at hanswer
    rcases hstep.of_awaits hop with rfl | ⟨rfl, hm⟩
    · exact absurd rfl hanswer.1
    · intro label' hmem
      rcases List.mem_cons.mp hmem with rfl | hmem
      · rfl
      · exact ih hm hanswer.2 label' hmem

/-- **While an operation is outstanding, nothing that waits can be handled**: the connection
can go on exactly when nothing waits. -/
theorem canHandle_iff_of_awaits (l : Loop) (op : BackendOp) (hop : l.Awaits op) :
    CanHandle config active l ↔ ∀ label, l.waiting label = 0 := by
  constructor
  · intro h label
    by_contra hne
    obtain ⟨labels, m, hrun, hanswer, hcount⟩ := h label 0 (Nat.pos_of_ne_zero hne)
    have harrive := hrun.of_awaits hop hanswer label (List.count_pos_iff.mp hcount)
    subst harrive
    exact hne rfl
  · intro h label i hi
    rw [h label] at hi
    exact absurd hi (Nat.not_lt_zero i)

/-- A service call with nothing behind it. -/
def calling : List Move :=
  opened 2 ++ [Move.arrive (clientOperation Frame.opcodeServiceRequest (sampleOpid 9) 0), Move.recv]

/-- Whether the loop waits for a service call while `n` frames wait for it. -/
def isCalling (n : ℕ) (l : Loop) : Bool :=
  match l.phase with
  | .handling (.await (.call _ _ _) _) => l.inbound.length == n && l.samples.isEmpty &&
      l.requests.isEmpty && l.actions.isEmpty
  | _ => false

theorem of_isCalling {n : ℕ} (h : isCalling n l = true) :
    (∃ op, op.waitsForPeer = true ∧ l.Awaits op) ∧ l.inbound.length = n ∧ l.samples = [] ∧
      l.requests = [] ∧ l.actions = [] := by
  unfold isCalling at h
  split at h
  · next entity opid payload next hphase =>
    simp only [Bool.and_eq_true, beq_iff_eq, List.isEmpty_iff] at h
    obtain ⟨⟨⟨hinbound, hsamples⟩, hrequests⟩, hactions⟩ := h
    exact ⟨⟨_, rfl, next, hphase⟩, hinbound, hsamples, hrequests, hactions⟩
  · contradiction

/-- A heartbeat that arrives during a service call waits until the call is over. -/
theorem not_canHandle_of_call :
    ¬ ∀ l, Reachable sampleConfig .binaryWebSocket l →
      ∀ op, op.waitsForPeer = true → l.Awaits op → CanHandle sampleConfig .binaryWebSocket l := by
  intro h
  obtain ⟨l, hreach, hcheck⟩ := reachable_of_scripted
    (calling ++ [Move.arrive (clientControl 2 (heartbeat 1))]) (isCalling 1)
    (by decide +kernel)
  obtain ⟨⟨op, hpeer, hop⟩, hinbound, -⟩ := of_isCalling hcheck
  obtain ⟨labels, m, hrun, hanswer, hcount⟩ := h l hreach op hpeer hop .recv 0
    (by simp [Loop.waiting, hinbound])
  have harrive := hrun.of_awaits hop hanswer .recv (List.count_pos_iff.mp hcount)
  contradiction

/-- During a service call with nothing behind it, nothing has to wait. -/
theorem canHandle_of_call_alone :
    ∃ l op, Reachable sampleConfig .binaryWebSocket l ∧ op.waitsForPeer = true ∧ l.Awaits op ∧
      (CanHandle sampleConfig .binaryWebSocket l ↔ ∀ label, l.waiting label = 0) := by
  obtain ⟨l, hreach, hcheck⟩ := reachable_of_scripted calling (isCalling 0) (by decide +kernel)
  obtain ⟨⟨op, hpeer, hop⟩, -⟩ := of_isCalling hcheck
  exact ⟨l, op, hreach, hpeer, hop, canHandle_iff_of_awaits l op hop⟩

end Gateway
end Rclweb
