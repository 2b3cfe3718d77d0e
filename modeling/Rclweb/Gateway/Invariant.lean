import Rclweb.Gateway.Contracts
import Rclweb.Gateway.RunConnection
import Rclweb.Gateway.Samples

/-!
# The invariant of the event loop

`Receives` is a run of the loop from a fresh connection together with the messages it has taken.
`Loop.Sound` is the invariant of such runs, phase by phase: between two messages the entities are
accounted for and the session and the gateway agree; in a handler the rest of the handler meets
its contract; at the end every entity that was created is destroyed.  Every step preserves it
(`Loop.Sound.step`), so it holds in every run (`sound_of_receives`).
-/

namespace Rclweb
namespace Gateway

variable {jwt : JwtLibrary} {config : GatewayConfig jwt} {active : ActiveTransport}

/-! ## The other branches of the loop -/

namespace ConnState

/-- A frame of the backend keeps the channels. -/
theorem keeps_pushInbound (conn : ConnState) (kind : OperationKind) (channelId : UInt32)
    {opcode : UInt8} (hopcode : opcode ∉ [Frame.opcodeControlCbor, Frame.opcodeRosSample])
    (opid : OperationId)
    (frameBuf : List UInt8) :
    (Turn.mk conn {}).Keeps (conn.pushInbound kind channelId opcode opid frameBuf) := by
  unfold pushInbound
  split
  · exact .refl _
  · next runtime hfind =>
    split_ifs
    · exact .refl _
    · exact Turn.keeps_pushOperation hfind hopcode opid _

theorem keeps_pushServiceRequest (conn : ConnState) (request : ServiceRequest) :
    (Turn.mk conn {}).Keeps (conn.pushServiceRequest request) :=
  conn.keeps_pushInbound _ _ (by decide) _ _

theorem keeps_pushActionInbound (conn : ConnState) (inbound : ActionInbound) :
    (Turn.mk conn {}).Keeps (conn.pushActionInbound inbound) :=
  conn.keeps_pushInbound _ _ (by split <;> decide) _ _

/-- A sample keeps the channels. -/
theorem keeps_admitSample (conn : ConnState) (queue : SampleWriteQueue)
    (sample : SubscriptionSample) :
    (Turn.mk conn {}).Keeps (Turn.mk (conn.admitSample queue sample).1 {}) := by
  rcases conn.admitSample_cases queue sample with h | ⟨runtime, hfind, -, -, -, h⟩
  · rw [h]
  · rw [h]
    have hset : (Turn.mk conn {}).Keeps
        (Turn.setRuntime ⟨conn, {}⟩ sample.channelId runtime.framed) :=
      Turn.keeps_setRuntime hfind rfl
    exact hset

/-! ## Teardown -/

end ConnState

/-- An entity that is live may be destroyed. -/
def MayDestroy (history : List BackendEvent) (op : BackendOp) : Prop :=
  ∃ entity, op = .destroy entity ∧ destroyed entity history < created entity history

/-- **A teardown destroys live entities**, until all that were created are destroyed. -/
abbrev TearsDown (history : List BackendEvent) (task : Task Unit) : Prop :=
  Program.Ensures (fun _ _ => True) MayDestroy
    (fun history _ => ∀ entity, created entity history = destroyed entity history) history task

namespace ConnState

/-- **Destroying what is held** destroys every entity as often as it was created. -/
theorem tearsDown_destroyAll {entities : List EntityId} {history : List BackendEvent}
    (h : ∀ entity, created entity history = destroyed entity history + entities.count entity) :
    TearsDown history (destroyAll entities) := by
  induction entities generalizing history with
  | nil =>
    intro entity
    simpa using h entity
  | cons entity entities ih =>
    refine ⟨⟨entity, rfl, ?_⟩, fun answer _ => ih fun e => ?_⟩
    · have := h entity
      rw [List.count_cons_self] at this
      omega
    · have hdestroyed : destroyedEntity ⟨.destroy entity, answer⟩ = some entity := rfl
      have hcreated : createdEntity ⟨.destroy entity, answer⟩ = none := rfl
      have hcount := h e
      rw [created_append, destroyed_append, hdestroyed, hcreated]
      rw [List.count_cons] at hcount
      simp only [Option.some.injEq, reduceCtorEq, if_false, beq_iff_eq] at hcount ⊢
      omega

theorem tearsDown_teardown {conn : ConnState} {history : List BackendEvent}
    (h : Held history conn) : TearsDown history conn.teardown := by
  refine tearsDown_destroyAll fun entity => ?_
  rw [h.accounted entity, held, Table.count_eq_countP_map, List.countP_map, List.count,
    List.countP_map]
  rfl

end ConnState

/-! ## Runs with the messages taken -/

/-- The operation the loop has handed to the backend. -/
def Loop.Asks (l : Loop) (op : BackendOp) : Prop :=
  (∃ next, l.phase = .handling (.await op next)) ∨ ∃ next, l.phase = .tearingDown (.await op next)

/-- **A run of the loop**, with the inbound messages it has taken, oldest first. -/
inductive Receives (config : GatewayConfig jwt) (active : ActiveTransport) :
    List (List UInt8) → Loop → Prop
  | initial : Receives config active [] (Loop.initial config)
  | recv {received : List (List UInt8)} {l m : Loop} {bytes : List UInt8}
      {rest : List (List UInt8)} :
      Receives config active received l → l.inbound = bytes :: rest →
        Step config active l .recv m → Receives config active (received ++ [bytes]) m
  | other {received : List (List UInt8)} {l m : Loop} {label : Label} :
      Receives config active received l → Step config active l label m → label ≠ .recv →
        Receives config active received m

/-- A reachable state is one of a run, whatever was taken. -/
theorem exists_receives {l : Loop} (h : Reachable config active l) :
    ∃ received, Receives config active received l := by
  induction h with
  | refl => exact ⟨[], .initial⟩
  | tail _ hstep ih =>
    obtain ⟨received, hreceived⟩ := ih
    obtain ⟨label, hstep⟩ := hstep
    cases label with
    | recv =>
      cases hstep with
      | recv bytes rest sessionId hphase hinbound =>
        exact ⟨_, hreceived.recv hinbound (.recv _ bytes rest sessionId hphase hinbound)⟩
    | arrive | sample | request | action | answer | finish | recvEnd | teardown =>
      exact ⟨received, hreceived.other hstep (by decide)⟩

/-- The subject a connection cannot change any more. -/
def ConnState.fixedSubject (conn : ConnState) : Option String :=
  if conn.session.phase = .ready then some conn.subject else none

theorem ConnState.mem_fixedSubject {conn : ConnState} {s : String} :
    s ∈ conn.fixedSubject ↔ conn.session.phase = .ready ∧ conn.subject = s := by
  unfold fixedSubject
  split_ifs with h <;> simp [h]

namespace Loop

/-- What holds of the phase the loop is in. -/
def PhaseSound (config : GatewayConfig jwt) (received : List (List UInt8)) (l : Loop) : Prop :=
  match l.phase with
  | .selecting => l.writeQueue.items = [] ∧ Held l.history l.conn ∧
      Steady config received l.sent none l.conn
  | .handling task => l.writeQueue.items = [] ∧ ∃ bytes, received.getLast? = some bytes ∧
      Meets config received l.sent bytes l.conn.fixedSubject l.history task
  | .tearingDown task => TearsDown l.history task
  | .done => ∀ entity, created entity l.history = destroyed entity l.history

/-- **The invariant of the event loop.** -/
structure Sound (config : GatewayConfig jwt) (received : List (List UInt8)) (l : Loop) : Prop where
  phase : l.PhaseSound config received
  used : ∀ before event after, l.history = before ++ event :: after →
    ∀ entity ∈ event.1.entity?, destroyed entity before < created entity before

variable {received : List (List UInt8)} {l m : Loop} {label : Label}

namespace Sound

theorem selecting (h : Sound config received l) (hphase : l.phase = .selecting) :
    l.writeQueue.items = [] ∧ Held l.history l.conn ∧
      Steady config received l.sent none l.conn := by
  have hsound := h.phase
  rwa [PhaseSound, hphase] at hsound

theorem handling (h : Sound config received l) {task : Task Turn}
    (hphase : l.phase = .handling task) :
    l.writeQueue.items = [] ∧ ∃ bytes, received.getLast? = some bytes ∧
      Meets config received l.sent bytes l.conn.fixedSubject l.history task := by
  have hsound := h.phase
  rwa [PhaseSound, hphase] at hsound

theorem tearingDown (h : Sound config received l) {task : Task Unit}
    (hphase : l.phase = .tearingDown task) : TearsDown l.history task := by
  have hsound := h.phase
  rwa [PhaseSound, hphase] at hsound

/-- The uses so far and one more. -/
theorem used_append (h : Sound config received l) {event : BackendEvent}
    (hlive : ∀ entity ∈ event.1.entity?,
      destroyed entity l.history < created entity l.history) :
    ∀ before event' after, l.history ++ [event] = before ++ event' :: after →
      ∀ entity ∈ event'.1.entity?, destroyed entity before < created entity before := by
  intro before event' after heq
  rcases List.eq_nil_or_concat after with rfl | ⟨after, last, rfl⟩
  · obtain ⟨rfl, hlast⟩ := List.append_inj' heq rfl
    obtain rfl := List.singleton_inj.mp hlast
    exact hlive
  · have hrest : l.history ++ [event] = (before ++ event' :: after) ++ [last] := by
      rw [heq, List.append_assoc, List.cons_append, List.concat_eq_append]
    exact h.used before event' after (List.append_inj' hrest rfl).1

/-- A turn that returns to the loop, or leaves it. -/
theorem finish (h : Sound config received l) (hqueue : l.writeQueue.items = []) {t : Turn}
    {fixed : Option String} (hgood : t.Good config received l.sent none fixed l.history) :
    Sound config received (l.finish t) := by
  unfold Loop.finish
  dsimp only
  split_ifs with hclose
  · exact ⟨ConnState.tearsDown_teardown hgood.held, h.used⟩
  · exact ⟨⟨hqueue, hgood.held, hgood.steady (by simpa using hclose)⟩, h.used⟩

/-- The transport fails, and the loop is left. -/
theorem sendFailed (h : Sound config received l) {conn : ConnState}
    (hheld : Held l.history conn) (messages : List (List UInt8)) (n : ℕ) :
    Sound config received (l.sendFailed conn messages n) :=
  ⟨ConnState.tearsDown_teardown hheld, h.used⟩

end Sound

/-- A fresh connection is sound. -/
theorem sound_initial (config : GatewayConfig jwt) : Sound config [] (Loop.initial config) where
  phase := by
    refine ⟨rfl, ⟨fun _ => rfl, fun id runtime hfind => ?_⟩, rfl, fun _ => rfl, fun id hp => ?_,
      fun hready => ?_, fun id runtime hfind => ?_⟩
    · cases hfind
    · obtain ⟨kind, hkind⟩ := hp
      cases hkind
    · cases hready
    · cases hfind
  used before event after heq := by
    have := congrArg List.length heq
    simp [Loop.initial] at this

/-- Between two messages the turn of a branch starts good. -/
theorem Sound.good (h : Sound config received l) (hphase : l.phase = .selecting) :
    (Turn.mk l.conn {}).Good config received l.sent none l.conn.fixedSubject l.history := by
  obtain ⟨-, hheld, hsteady⟩ := h.selecting hphase
  exact ⟨hheld, fun s hs => (ConnState.mem_fixedSubject.mp hs).2, fun b hb => (by cases hb),
    fun _ => by simpa using hsteady⟩

/-- Taking a message starts a handler that meets its contract. -/
theorem Sound.recv (h : Sound config received l) (bytes : List UInt8)
    (rest : List (List UInt8)) (hphase : l.phase = .selecting) (sessionId : ByteArrayOf 32) :
    Sound config (received ++ [bytes])
      { l with
        inbound := rest
        phase := .handling (l.conn.handleInbound config active sessionId bytes) } := by
  obtain ⟨hqueue, hheld, hsteady⟩ := h.selecting hphase
  refine ⟨⟨hqueue, bytes, List.getLast?_concat .., ?_⟩, h.used⟩
  refine ConnState.meets_handleInbound ⟨hheld, ?_, fun s hs => ?_, ?_⟩ active sessionId
  · exact hsteady.mono (List.subset_append_left _ _) fun _ hb => hb
  · exact (ConnState.mem_fixedSubject.mp hs).symm
  · exact List.mem_append_right _ (List.mem_singleton.mpr rfl)

/-- **Every other step preserves the invariant.** -/
theorem Sound.step (h : Sound config received l) (hstep : Step config active l label m)
    (hlabel : label ≠ .recv) : Sound config received m := by
  cases hstep with
  | arrive | offerSample | offerRequest | offerAction => exact ⟨h.phase, h.used⟩
  | recv => exact absurd rfl hlabel
  | recvEnd hphase => exact ⟨ConnState.tearsDown_teardown (h.selecting hphase).2.1, h.used⟩
  | answer op next answer hphase =>
    obtain ⟨hqueue, bytes, hlast, hmay, hnext⟩ := h.handling hphase
    exact ⟨⟨hqueue, bytes, hlast, hnext answer trivial⟩, h.used_append hmay.live⟩
  | finish t hphase =>
    obtain ⟨hqueue, bytes, -, hdone⟩ := h.handling hphase
    have hfinish := h.finish hqueue hdone
    unfold Loop.finishInbound
    split_ifs with hclose
    · exact hfinish
    · have hselecting : (l.finish t).phase = .selecting := by
        unfold Loop.finish
        rw [if_neg hclose]
      obtain ⟨-, hheld, hsteady⟩ := hfinish.selecting hselecting
      refine ⟨?_, hfinish.used⟩
      unfold PhaseSound Loop.flush
      rw [hselecting]
      exact ⟨rfl, hheld, hsteady.mono (fun _ hb => hb) (List.subset_append_left _ _)⟩
  | finishFailed t n hphase =>
    obtain ⟨-, bytes, -, hdone⟩ := h.handling hphase
    exact h.sendFailed hdone.held _ n
  | sample sample rest conn queue hphase _ hadmitted =>
    have hgood := (h.good hphase).keeps (l.conn.keeps_admitSample l.writeQueue sample)
    rw [hadmitted] at hgood
    have hsteady : Steady config received (l.sent ++ []) none conn := hgood.steady rfl
    refine ⟨?_, h.used⟩
    unfold PhaseSound Loop.flush
    dsimp only
    rw [hphase]
    exact ⟨rfl, hgood.held, hsteady.mono (fun _ hb => hb) (by simp)⟩
  | sampleFailed sample rest conn queue n hphase _ hadmitted =>
    have hgood := (h.good hphase).keeps (l.conn.keeps_admitSample l.writeQueue sample)
    rw [hadmitted] at hgood
    exact ⟨ConnState.tearsDown_teardown hgood.held, h.used⟩
  | request request rest hphase _ =>
    have hrest : Sound config received { l with requests := rest } := ⟨h.phase, h.used⟩
    exact hrest.finish (h.selecting hphase).1
      ((h.good hphase).keeps (l.conn.keeps_pushServiceRequest request))
  | requestFailed request rest n hphase _ =>
    have hrest : Sound config received { l with requests := rest } := ⟨h.phase, h.used⟩
    exact hrest.sendFailed
      ((h.good hphase).keeps (l.conn.keeps_pushServiceRequest request)).held _ n
  | action action rest hphase _ =>
    have hrest : Sound config received { l with actions := rest } := ⟨h.phase, h.used⟩
    exact hrest.finish (h.selecting hphase).1
      ((h.good hphase).keeps (l.conn.keeps_pushActionInbound action))
  | actionFailed action rest n hphase _ =>
    have hrest : Sound config received { l with actions := rest } := ⟨h.phase, h.used⟩
    exact hrest.sendFailed
      ((h.good hphase).keeps (l.conn.keeps_pushActionInbound action)).held _ n
  | destroyed op next answer hphase =>
    obtain ⟨⟨entity, rfl, hlive⟩, hnext⟩ := h.tearingDown hphase
    refine ⟨hnext answer trivial, h.used_append fun e he => ?_⟩
    obtain rfl := Option.some.inj he
    exact hlive
  | tornDown hphase => exact ⟨h.tearingDown hphase, h.used⟩

end Loop

/-- **The invariant holds in every run.** -/
theorem sound_of_receives {received : List (List UInt8)} {l : Loop}
    (h : Receives config active received l) : l.Sound config received := by
  induction h with
  | initial => exact Loop.sound_initial config
  | @recv received l m bytes rest _ hinbound hstep ih =>
    cases hstep with
    | recv bytes' rest' sessionId hphase hinbound' =>
      obtain ⟨rfl, rfl⟩ := List.cons.inj (hinbound.symm.trans hinbound')
      exact ih.recv bytes rest hphase sessionId
  | other _ hstep hlabel ih => exact ih.step hstep hlabel

/-- What has to be so of the operation the loop has handed to the backend. -/
theorem Loop.Sound.asks {received : List (List UInt8)} {l : Loop} (h : l.Sound config received)
    {op : BackendOp} (hop : l.Asks op) :
    (∃ bytes, received.getLast? = some bytes ∧ May config received l.sent bytes l.history op) ∨
      MayDestroy l.history op := by
  rcases hop with ⟨next, hphase⟩ | ⟨next, hphase⟩
  · obtain ⟨-, bytes, hlast, hmay, -⟩ := h.handling hphase
    exact .inl ⟨bytes, hlast, hmay⟩
  · exact .inr (h.tearingDown hphase).1

end Gateway
end Rclweb
