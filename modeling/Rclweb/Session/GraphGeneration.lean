import Rclweb.Session.Lifecycle
import Rclweb.Session.Precedence

/-!
# The graph generation of a session

A GraphSnapshot installs a generation, a GraphDelta moves it on, and no other message touches it.
The successor a delta has to name is computed with saturating arithmetic, so that a delta is a step
by one from every generation but the largest (`delta_steps`): from there a delta is accepted that
stays.
-/

namespace Rclweb

open Rclweb.Frame Control Transition OrderedCheck

/-- Acts that have no graph message in them. -/
def ReadyAct.KeepsGraph : ReadyAct → Prop
  | .graphSnapshot _ | .graphDelta _ _ => False
  | .refused | .idle | .channel _ _ => True

def Act.KeepsGraph : Act → Prop
  | .error act | .ready act => act.KeepsGraph
  | _ => True

namespace View

variable {v v' : View}

theorem graph_readyStep {act : ReadyAct} (hact : act.KeepsGraph)
    (h : v.readyStep act = some v') : v'.graph = v.graph := by
  cases act with
  | refused => cases h
  | idle => rw [← Option.some.inj h]
  | graphSnapshot generation => exact hact.elim
  | graphDelta base generation => exact hact.elim
  | channel id act =>
    obtain ⟨c, -, rfl⟩ := Option.map_eq_some_iff.mp h
    rfl

/-- **An act without a graph message keeps the generation.** -/
theorem graph_step {act : Act} (hact : act.KeepsGraph) (h : v.step act = some v') :
    v'.graph = v.graph := by
  cases act with
  | error act =>
    simp only [step] at h
    split_ifs at h
    · rw [← Option.some.inj h]
    · exact graph_readyStep hact h
  | ready act =>
    simp only [step] at h
    split_ifs at h
    exact graph_readyStep hact h
  | clientHello | serverHello | bootstrapError | authenticate | sessionReady =>
    simp only [step] at h
    split_ifs at h
    rw [← Option.some.inj h]

/-- A delta that is accepted goes from its base to the saturated successor. -/
theorem graph_step_delta {base generation : UInt64}
    (h : v.step (.ready (.graphDelta base generation)) = some v') :
    v.graph = some base ∧ v'.graph = some (saturatingSucc base) := by
  simp only [step, readyStep] at h
  split_ifs at h with _ hstep
  obtain ⟨hbase, rfl⟩ := hstep
  rw [← Option.some.inj h]
  exact ⟨hbase, rfl⟩

end View

/-! ## Classification -/

namespace Act

theorem keepsGraph_ite {c : Prop} [Decidable c] {a b : Act} (ha : c → a.KeepsGraph)
    (hb : ¬ c → b.KeepsGraph) : (if c then a else b).KeepsGraph := by
  by_cases h : c
  · rw [if_pos h]
    exact ha h
  · rw [if_neg h]
    exact hb h

theorem keepsGraph_ofError (msg : ControlMessage) : (ofError msg).KeepsGraph := by
  unfold ofError
  dsimp only
  cases (fieldUint msg fieldChannelId).map UInt64.toUInt32 <;> split_ifs <;> trivial

theorem keepsGraph_ofOpenChannel (msg : ControlMessage) : (ofOpenChannel msg).KeepsGraph := by
  unfold ofOpenChannel
  split
  · split_ifs
    · trivial
    · split <;> trivial
  · trivial

theorem keepsGraph_ofChannelReady (msg : ControlMessage) : (ofChannelReady msg).KeepsGraph := by
  unfold ofChannelReady
  split
  · split_ifs
    · trivial
    · split <;> trivial
  · trivial

theorem keepsGraph_ofCloseChannel (msg : ControlMessage) : (ofCloseChannel msg).KeepsGraph := by
  unfold ofCloseChannel
  split <;> trivial

/-- **Only the two graph messages touch the generation.** -/
theorem keepsGraph_ofControl {sender : Role} {msg : ControlMessage}
    (hsnapshot : msg.kind ≠ kindGraphSnapshot) (hdelta : msg.kind ≠ kindGraphDelta) :
    (ofControl sender msg).KeepsGraph := by
  unfold ofControl
  refine keepsGraph_ite (fun _ => trivial) fun _ => ?_
  refine keepsGraph_ite (fun _ => trivial) fun _ => ?_
  refine keepsGraph_ite (fun _ => trivial) fun _ => ?_
  refine keepsGraph_ite (fun _ => keepsGraph_ofError msg) fun _ => ?_
  refine keepsGraph_ite (fun _ => keepsGraph_ofOpenChannel msg) fun _ => ?_
  refine keepsGraph_ite (fun _ => keepsGraph_ofChannelReady msg) fun _ => ?_
  refine keepsGraph_ite (fun _ => keepsGraph_ofCloseChannel msg) fun _ => ?_
  refine keepsGraph_ite (fun _ => trivial) fun _ => ?_
  rw [if_neg hsnapshot, if_neg hdelta]
  exact keepsGraph_ite (fun _ => trivial) fun _ => trivial

theorem keepsGraph_ofFrame {sender : Role} {frame : DecodedFrame}
    (h : ∀ msg, controlOf frame = some msg →
      msg.kind ≠ kindGraphSnapshot ∧ msg.kind ≠ kindGraphDelta) :
    (ofFrame sender frame).KeepsGraph := by
  unfold ofFrame
  refine keepsGraph_ite (fun hopcode => ?_) fun _ => keepsGraph_ite (fun _ => trivial) fun _ =>
    keepsGraph_ite (fun _ => ?_) fun _ => trivial
  · split
    · rename_i msg hpayload
      have hcontrol : controlOf frame = some msg := by
        rw [controlOf, if_pos hopcode, hpayload]
      exact keepsGraph_ofControl (h msg hcontrol).1 (h msg hcontrol).2
    · trivial
  · unfold ofStream
    split <;> trivial

theorem keepsGraph_ofBootstrap (sender : Role) (record : BootstrapRecord) :
    (ofBootstrap sender record).KeepsGraph := by
  unfold ofBootstrap
  split <;> trivial

/-- What a GraphDelta does, from a peer that may send it. -/
theorem ofFrame_delta {sender : Role} {frame : DecodedFrame} {msg : ControlMessage}
    (hcontrol : controlOf frame = some msg) (hkind : msg.kind = kindGraphDelta) :
    ofFrame sender frame =
      if wrongSender msg.kind sender then .ready .refused else .ready (ofGraphDelta msg) := by
  have hopcode : frame.opcode = opcodeControlCbor := by
    unfold controlOf at hcontrol
    split_ifs at hcontrol with hopcode
    exact hopcode
  have hpayload : frame.payload = .control msg := by
    rw [controlOf, if_pos hopcode] at hcontrol
    split at hcontrol
    · rename_i msg' hpayload
      rw [hpayload, Option.some.inj hcontrol]
    · cases hcontrol
  rw [ofFrame, if_pos hopcode, hpayload]
  show ofControl sender msg = _
  rw [ofControl, hkind]
  rfl

end Act

/-! ## Calls -/

namespace Session

/-- The control message of a call, if it has one. -/
def Call.control : Call → Option ControlMessage
  | .ingest (.frame frame) | .recordSend (.frame frame) => controlOf frame
  | .ingest (.bootstrap _) | .recordSend (.bootstrap _) => none

/-- What a call answers. -/
def answer (s : Session) : Call → Except ProtocolError SessionEffects
  | .ingest m => (s.ingest m).1
  | .recordSend m => (s.recordSend m).1

/-- Message and sender of a call. -/
def Call.message : Call → Message
  | .ingest m | .recordSend m => m

def sender (s : Session) : Call → Role
  | .ingest _ => s.inner.role.peer
  | .recordSend _ => s.inner.role

theorem call_eq (s : Session) (c : Call) :
    (s.answer c, (s.call c).inner) = apply s.inner c.message (s.sender c) := by
  cases c with
  | ingest m =>
    rw [answer, call, ingest_eq]
    rfl
  | recordSend m =>
    rw [answer, call, recordSend_eq]
    rfl

/-- A call is a step of the view, or it leaves the session as it is. -/
theorem view_call (s : Session) (c : Call) :
    s.inner.view.step (Act.classify (s.sender c) c.message) = some (s.call c).inner.view ∨
      s.call c = s := by
  have h := apply_refines s.inner c.message (s.sender c)
  rw [← call_eq, Refines] at h
  cases hanswer : s.answer c with
  | ok effects =>
    simp only [hanswer] at h
    exact .inl h.1
  | error e =>
    simp only [hanswer] at h
    right
    cases hcall : s.call c with
    | mk inner =>
      rw [hcall] at h
      cases s
      exact congrArg Session.mk h.2

theorem view_call_of_ok {s : Session} {c : Call} {effects : SessionEffects}
    (h : s.answer c = .ok effects) :
    s.inner.view.step (Act.classify (s.sender c) c.message) = some (s.call c).inner.view := by
  have hrefines := apply_refines s.inner c.message (s.sender c)
  rw [← call_eq, Refines] at hrefines
  simp only [h] at hrefines
  exact hrefines.1

/-- **Only graph messages touch the generation of a session.** -/
theorem graphGeneration_call {s : Session} {c : Call}
    (h : ∀ msg, c.control = some msg →
      msg.kind ≠ kindGraphSnapshot ∧ msg.kind ≠ kindGraphDelta) :
    (s.call c).graphGeneration = s.graphGeneration := by
  rcases view_call s c with hstep | hsame
  · refine View.graph_step ?_ hstep
    cases c with
    | ingest m | recordSend m =>
      cases m with
      | bootstrap record => exact Act.keepsGraph_ofBootstrap _ record
      | frame frame => exact Act.keepsGraph_ofFrame h
  · rw [hsame]

theorem classify_delta {s : Session} {c : Call} {msg : ControlMessage}
    (hcontrol : c.control = some msg) (hkind : msg.kind = kindGraphDelta) :
    Act.classify (s.sender c) c.message =
      if wrongSender msg.kind (s.sender c) then .ready .refused
      else .ready (Act.ofGraphDelta msg) := by
  cases c with
  | ingest m | recordSend m =>
    cases m with
    | bootstrap record => cases hcontrol
    | frame frame => exact Act.ofFrame_delta hcontrol hkind

/-- An accepted GraphDelta names the stored generation and leaves its saturated successor. -/
theorem graphGeneration_delta {s : Session} {c : Call} {msg : ControlMessage}
    {effects : SessionEffects} (hcontrol : c.control = some msg)
    (hkind : msg.kind = kindGraphDelta) (hok : s.answer c = .ok effects) :
    ∃ base, fieldUint msg fieldBaseGeneration = some base ∧ s.graphGeneration = some base ∧
      (s.call c).graphGeneration = some (saturatingSucc base) := by
  have hstep := view_call_of_ok hok
  rw [classify_delta hcontrol hkind] at hstep
  split_ifs at hstep
  · rw [step_refused] at hstep
    cases hstep
  · unfold Act.ofGraphDelta at hstep
    split at hstep
    · rename_i base generation hbase _
      obtain ⟨hbefore, hafter⟩ := View.graph_step_delta hstep
      exact ⟨base, hbase, hbefore, hafter⟩
    · rw [step_refused] at hstep
      cases hstep

theorem toNat_saturatingSucc (n : UInt64) :
    (saturatingSucc n).toNat = n.toNat + 1 ↔ n.toNat ≠ uint64Max := by
  have hlt : n.toNat < 2 ^ 64 := n.toNat_lt
  have hmax : (UInt64.ofNat uint64Max).toNat = uint64Max := UInt64.toNat_ofNat_of_lt' (by decide)
  unfold saturatingSucc
  by_cases h : n = UInt64.ofNat uint64Max
  · rw [if_pos h]
    have hn : n.toNat = uint64Max := by rw [h, hmax]
    constructor
    · intro hsucc
      omega
    · intro hne
      exact absurd hn hne
  · rw [if_neg h]
    have hne : n.toNat ≠ uint64Max := by
      intro heq
      exact h (UInt64.toNat_inj.mp (heq.trans hmax.symm))
    refine ⟨fun _ => hne, fun _ => ?_⟩
    have hsmall : n.toNat + 1 < 2 ^ 64 := by
      unfold uint64Max at hne
      omega
    rw [UInt64.toNat_add]
    exact Nat.mod_eq_of_lt hsmall

/-- **What the graph messages do to the generation, in every state of every run**: an accepted
GraphDelta is based on the stored generation, it is a step by one exactly from a generation that is
not the largest, and no message but GraphSnapshot and GraphDelta changes what is stored. -/
theorem delta_steps (role : Role) (earlier : List Call) (c : Call) :
    let s := (new role).calls earlier
    (∀ msg effects, c.control = some msg → msg.kind = kindGraphDelta →
      s.answer c = .ok effects → ∃ base, fieldUint msg fieldBaseGeneration = some base ∧
        s.graphGeneration = some base ∧
        ((∃ g, (s.call c).graphGeneration = some g ∧ base < g ∧ g.toNat = base.toNat + 1) ↔
          base.toNat ≠ uint64Max)) ∧
    ((∀ msg, c.control = some msg →
        msg.kind ≠ kindGraphSnapshot ∧ msg.kind ≠ kindGraphDelta) →
      (s.call c).graphGeneration = s.graphGeneration) := by
  intro s
  refine ⟨?_, graphGeneration_call⟩
  intro msg effects hcontrol hkind hok
  obtain ⟨base, hbase, hbefore, hafter⟩ := graphGeneration_delta hcontrol hkind hok
  refine ⟨base, hbase, hbefore, ?_⟩
  rw [← toNat_saturatingSucc base]
  constructor
  · rintro ⟨g, hg, -, hsucc⟩
    rw [hafter] at hg
    rw [Option.some.inj hg]
    exact hsucc
  · intro hsucc
    refine ⟨_, hafter, ?_, hsucc⟩
    rw [UInt64.lt_iff_toNat_lt, hsucc]
    exact Nat.lt_succ_self _

/-! ## At the largest generation -/

/-- A snapshot of the empty graph, with the largest generation. -/
def largestSnapshot : Message :=
  .frame (TwoPeer.controlFrame kindGraphSnapshot [
    (7, .text "gateway"), (8, .text "J-FT"), (14, .unsigned 0xffffffffffffffff), (22, .array []),
    (23, .array [])])

/-- A delta that removes a node, based on the largest generation and with that generation again. -/
def largestDelta : Message :=
  .frame (TwoPeer.controlFrame kindGraphDelta [
    (7, .text "gateway"), (8, .text "J-FT"), (14, .unsigned 0xffffffffffffffff),
    (24, .unsigned 0xffffffffffffffff),
    (25, .array [.map [(1, .unsigned 1), (55, .bytes (List.replicate 16 0))]])])

/-- From the largest generation a delta is accepted that stays there. -/
theorem not_advanced_at_largest :
    ¬ ∀ (role : Role) (earlier : List Call) (c : Call) (msg : ControlMessage)
      (effects : SessionEffects), c.control = some msg → msg.kind = kindGraphDelta →
      ((new role).calls earlier).answer c = .ok effects →
      ∃ base g, fieldUint msg fieldBaseGeneration = some base ∧
        ((new role).calls earlier).graphGeneration = some base ∧
        (((new role).calls earlier).call c).graphGeneration = some g ∧ base < g ∧
          g.toNat = base.toNat + 1 := by
  intro h
  obtain ⟨base, g, -, hbefore, hafter, hlt, -⟩ :=
    h .client (clientHandshake ++ [Call.ingest largestSnapshot]) (.ingest largestDelta) _ _
      rfl rfl rfl
  have hbase : some base = some 0xffffffffffffffff := hbefore.symm.trans rfl
  have hg : some g = some 0xffffffffffffffff := hafter.symm.trans rfl
  rw [Option.some.inj hbase, Option.some.inj hg] at hlt
  exact absurd hlt (by decide)

end Session
end Rclweb
