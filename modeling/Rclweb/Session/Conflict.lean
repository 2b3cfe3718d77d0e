import Rclweb.Library.Replica
import Rclweb.Session.View

/-!
# Which acts may cross

Two peers that act at the same time each apply their own act first.  This file says, on the
abstract session, which pairs of acts by opposite peers lead both peers to the same view in
either order, and what becomes of the pairs that do not.

* `View.clash v a b`: at view `v` the acts `a` and `b` do not commute.  Before the ready
  phase an Error clashes with everything.  In it two acts on one channel clash when one
  closes it and the other needs it active, or when one is a channel Error and the other
  opens the channel or answers its opening.
* `View.Dead v a`: no continuation of `v` accepts `a`.

`commutes` and `laws` are the two hypotheses the library of replicas asks for: acts that do
not clash commute, and of two acts that clash one is dead at its receiver.  The one pair
that clashes without being fatal is a channel Error crossing the OpenChannel of the same id
(`Act.crossesOpening`): it is accepted everywhere and leaves the two peers with different
views, so `laws` excludes it.
-/

namespace Rclweb

open Rclweb.Frame Control Transition

/-! ## Who sends what -/

namespace ChannelAct

def sentBy (r : Role) : ChannelAct → Bool
  | opening _ => r == .client
  | ready _ => r == .server
  | data sender _ => sender == r
  | _ => true

/-- Whether an act opens a channel or answers its opening. -/
def opens : ChannelAct → Bool
  | opening _ | ready _ => true
  | _ => false

/-- Whether an act opens a channel. -/
def isOpening : ChannelAct → Bool
  | opening _ => true
  | _ => false

/-- Two acts on one channel that do not commute. -/
def clash (a b : ChannelAct) : Bool :=
  (a == close && b.needsActive) || (b == close && a.needsActive) ||
    (a == error && b.opens) || (b == error && a.opens)

/-- A channel Error and the opening of its channel. -/
def crossesOpening (a b : ChannelAct) : Bool :=
  (a == error && b.isOpening) || (b == error && a.isOpening)

/-- Whether a failed or closed channel refuses the act for good. -/
def dead : ChannelAct → Option ChannelView → Bool
  | close, some (.failed, _) | close, some (.closed, _) => true
  | operationError, some (.failed, _) | operationError, some (.closed, _) => true
  | data _ _, some (.failed, _) | data _ _, some (.closed, _) => true
  | ready _, some (.failed, _) | ready _, some (.closed, _) => true
  | _, _ => false

end ChannelAct

namespace ReadyAct

def sentBy (r : Role) : ReadyAct → Bool
  | graphSnapshot _ | graphDelta _ _ => r == .server
  | channel _ act => act.sentBy r
  | _ => true

def clash : ReadyAct → ReadyAct → Bool
  | channel i a, channel j b => i == j && a.clash b
  | _, _ => false

def crossesOpening : ReadyAct → ReadyAct → Bool
  | channel i a, channel j b => i == j && a.crossesOpening b
  | _, _ => false

end ReadyAct

namespace Act

def sentBy (r : Role) : Act → Bool
  | clientHello | authenticate => r == .client
  | serverHello _ | bootstrapError | sessionReady => r == .server
  | error act | ready act => act.sentBy r

def isError : Act → Bool
  | error _ => true
  | _ => false

/-- What an act does in the ready phase. -/
def inReady : Act → ReadyAct
  | error act | ready act => act
  | _ => .refused

/-- A channel Error and the opening of its channel. -/
def crossesOpening (a b : Act) : Bool := a.inReady.crossesOpening b.inReady

end Act

namespace View

/-- **Two acts of opposite peers that do not commute at a view.** -/
def clash (v : View) (a b : Act) : Bool :=
  if v.phase = .ready then a.inReady.clash b.inReady else a.isError || b.isError

/-- **No continuation of the view accepts the act.** -/
def Dead (v : View) (a : Act) : Prop :=
  v.phase.isTerminal = true ∨ v.phase = .ready ∧
    ∃ id act, a.inReady = .channel id act ∧ act.dead (v.channel id) = true

end View

/-! ## One channel -/

namespace ChannelAct

variable {a b : ChannelAct} {c ca cb : Option ChannelView}

/-- Only an opening is accepted on a channel id never seen, apart from an Error. -/
theorem step_none (h : a.step none = some ca) :
    (∃ k, a = opening k ∧ ca = some (.pending, k)) ∨ a = error ∧ ca = none := by
  cases a <;> simp_all [step]

/-- A pending channel is answered or fails. -/
theorem step_pending {k : OperationKind} (h : a.step (some (.pending, k)) = some ca) :
    (∃ ok, a = ready ok ∧ ca = some (if ok then .active else .failed, k)) ∨
      a = error ∧ ca = some (.failed, k) := by
  cases a <;> simp_all [step]

/-- An active channel is closed or stays as it is. -/
theorem step_active {k : OperationKind} (h : a.step (some (.active, k)) = some ca) :
    a = close ∧ ca = some (.closed, k) ∨
      a.opens = false ∧ a ≠ close ∧ ca = some (.active, k) ∧
        (a.needsActive = true ∨ a = error) := by
  cases a <;> simp_all [step, opens, needsActive]

/-- A channel at its end, or recorded as unused, takes Errors and nothing else. -/
theorem step_other {st : ChannelState} {k : OperationKind} (hp : st ≠ .pending) (ha : st ≠ .active)
    (h : a.step (some (st, k)) = some ca) : a = error ∧ ca = some (st, k) := by
  cases a <;> cases st <;> simp_all [step]

@[simp] theorem step_error_none : error.step none = some none := rfl

@[simp] theorem step_error_active (k : OperationKind) :
    error.step (some (.active, k)) = some (some (.active, k)) := rfl

@[simp] theorem step_error_failed (k : OperationKind) :
    error.step (some (.failed, k)) = some (some (.failed, k)) := rfl

@[simp] theorem step_error_closed (k : OperationKind) :
    error.step (some (.closed, k)) = some (some (.closed, k)) := rfl

/-- Acts of opposite peers on one channel that do not clash commute. -/
theorem tile {r r' : Role} (hr : r ≠ r') (ha : a.sentBy r = true) (hb : b.sentBy r' = true)
    (hclash : a.clash b = false) (hca : a.step c = some ca) (hcb : b.step c = some cb) :
    ∃ w, b.step ca = some w ∧ a.step cb = some w := by
  rcases c with _ | ⟨st, k⟩
  · rcases step_none hca with ⟨k, rfl, rfl⟩ | ⟨rfl, rfl⟩
    · rcases step_none hcb with ⟨k', rfl, rfl⟩ | ⟨rfl, rfl⟩
      · simp [sentBy] at ha hb
        exact absurd (ha.trans hb.symm) hr
      · simp [clash, opens] at hclash
    · exact ⟨cb, hcb, by rcases step_none hcb with ⟨k', rfl, rfl⟩ | ⟨rfl, rfl⟩ <;> simp_all [clash, opens]⟩
  · cases st with
    | pending =>
      rcases step_pending hca with ⟨ok, rfl, rfl⟩ | ⟨rfl, rfl⟩ <;>
        rcases step_pending hcb with ⟨ok', rfl, rfl⟩ | ⟨rfl, rfl⟩ <;>
        simp_all [clash, opens, sentBy]
    | active =>
      rcases step_active hca with ⟨rfl, rfl⟩ | ⟨_, hne, rfl, hneed⟩ <;>
        rcases step_active hcb with ⟨rfl, rfl⟩ | ⟨_, hne', rfl, hneed'⟩ <;>
        simp_all [clash, needsActive]
    | unused | failed | closed =>
      obtain ⟨rfl, rfl⟩ := step_other (by simp) (by simp) hca
      exact ⟨_, hcb, by
        obtain ⟨rfl, rfl⟩ := step_other (by simp) (by simp) hcb
        exact hca⟩

theorem step_of_dead (h : a.dead c = true) : a.step c = none := by
  rcases c with _ | ⟨st, k⟩
  · cases a <;> simp [dead] at h
  · cases st <;> cases a <;> simp [dead] at h <;> rfl

/-- A channel at its end stays there. -/
theorem dead_step (h : a.dead c = true) (hb : b.step c = some cb) : a.dead cb = true := by
  rcases c with _ | ⟨st, k⟩
  · cases a <;> simp [dead] at h
  · cases st with
    | failed | closed =>
      obtain ⟨-, rfl⟩ := step_other (by simp) (by simp) hb
      exact h
    | _ => cases a <;> simp [dead] at h

/-- Of two acts that clash one is dead at its receiver, unless an Error crosses an opening. -/
theorem dead_of_clash (hopen : a.crossesOpening b = false) (hclash : a.clash b = true)
    (hca : a.step c = some ca) (hcb : b.step c = some cb) :
    b.dead ca = true ∨ a.dead cb = true := by
  rcases c with _ | ⟨st, k⟩
  · rcases step_none hca with ⟨k, rfl, rfl⟩ | ⟨rfl, rfl⟩ <;>
      rcases step_none hcb with ⟨k', rfl, rfl⟩ | ⟨rfl, rfl⟩ <;>
      simp_all [clash, opens, crossesOpening, isOpening, needsActive]
  · cases st with
    | pending =>
      rcases step_pending hca with ⟨ok, rfl, rfl⟩ | ⟨rfl, rfl⟩ <;>
        rcases step_pending hcb with ⟨ok', rfl, rfl⟩ | ⟨rfl, rfl⟩ <;>
        simp_all [clash, opens, needsActive, dead]
    | active =>
      rcases step_active hca with ⟨rfl, rfl⟩ | ⟨ho, hne, rfl, hneed⟩ <;>
        rcases step_active hcb with ⟨rfl, rfl⟩ | ⟨ho', hne', rfl, hneed'⟩
      · exact .inl rfl
      · refine .inl ?_
        cases b <;> simp_all [clash, needsActive, opens, dead]
      · refine .inr ?_
        cases a <;> simp_all [clash, needsActive, opens, dead]
      · simp_all [clash]
    | unused | failed | closed =>
      obtain ⟨rfl, -⟩ := step_other (by simp) (by simp) hca
      obtain ⟨rfl, -⟩ := step_other (by simp) (by simp) hcb
      simp [clash, opens, needsActive] at hclash

/-- Only a failed or closed channel has dead acts. -/
theorem ended_of_dead (h : a.dead c = true) : ∃ k, c = some (.failed, k) ∨ c = some (.closed, k) := by
  rcases c with _ | ⟨st, k⟩
  · cases a <;> simp [dead] at h
  · cases st <;> cases a <;> simp [dead] at h <;> exact ⟨k, by simp⟩

/-- What ends a channel after `a` ends it without `a`, unless `a` ended it. -/
theorem dead_early {d : ChannelAct} {cab : Option ChannelView}
    (hopen : a.crossesOpening b = false) (hca : a.step c = some ca) (hcb : b.step c = some cb)
    (hcab : b.step ca = some cab) (hdead : d.dead cab = true) :
    d.dead cb = true ∨ d.dead ca = true := by
  rcases ca with _ | ⟨st, k⟩
  · rcases step_none hcab with ⟨k, rfl, rfl⟩ | ⟨rfl, rfl⟩ <;> cases d <;> simp [dead] at hdead
  cases st with
  | unused | failed | closed =>
    obtain ⟨-, rfl⟩ := step_other (by simp) (by simp) hcab
    exact .inr hdead
  | pending =>
    -- only an opening leads to a pending channel, and it crosses no Error
    have hopening : c = none ∧ a.isOpening = true := by
      rcases c with _ | ⟨st, k'⟩
      · rcases step_none hca with ⟨k', rfl, -⟩ | ⟨rfl, h⟩
        · exact ⟨rfl, rfl⟩
        · simp at h
      · cases st with
        | pending =>
          rcases step_pending hca with ⟨ok, rfl, h⟩ | ⟨rfl, h⟩
          · cases ok <;> simp at h
          · simp at h
        | active => rcases step_active hca with ⟨-, h⟩ | ⟨-, -, h, -⟩ <;> simp at h
        | _ =>
          obtain ⟨-, h⟩ := step_other (by simp) (by simp) hca
          simp at h
    obtain ⟨rfl, hisop⟩ := hopening
    rcases step_none hcb with ⟨k', rfl, -⟩ | ⟨rfl, -⟩
    · simp [step] at hcab
    · simp [crossesOpening, hisop] at hopen
  | active =>
    rcases step_active hcab with ⟨rfl, rfl⟩ | ⟨-, -, rfl, -⟩
    · -- the close is accepted at `c` too, and closes the channel there
      refine .inl ?_
      rcases c with _ | ⟨st, k'⟩
      · simp [step] at hcb
      · cases st <;> simp [step] at hcb
        subst hcb
        cases d <;> simp_all [dead]
    · exact .inr hdead

end ChannelAct

/-! ## The ready phase -/

namespace View

variable {v v' va vb : View} {a b : ReadyAct}

@[simp] theorem setChannel_phase (v : View) (id : UInt32) (c : Option ChannelView) :
    (v.setChannel id c).phase = v.phase := rfl

theorem channel_setChannel (v : View) (id id' : UInt32) (c : Option ChannelView) :
    (v.setChannel id c).channel id' = if id' = id then c else v.channel id' := by
  simp [setChannel, Function.update_apply]

theorem setChannel_comm {id id' : UInt32} (h : id ≠ id') (v : View) (c c' : Option ChannelView) :
    (v.setChannel id c).setChannel id' c' = (v.setChannel id' c').setChannel id c := by
  simp [setChannel, Function.update_comm h]

theorem setChannel_idem (v : View) (id : UInt32) (c c' : Option ChannelView) :
    (v.setChannel id c).setChannel id c' = v.setChannel id c' := by
  simp [setChannel]

theorem readyStep_channel {id : UInt32} {act : ChannelAct} :
    v.readyStep (.channel id act) = some v' ↔
      ∃ c, act.step (v.channel id) = some c ∧ v' = v.setChannel id c := by
  simp [readyStep, eq_comm]

/-- The ready phase is not left by an act of it, and only the channel it names changes. -/
theorem readyStep_phase (h : v.readyStep a = some v') : v'.phase = v.phase := by
  cases a with
  | channel id act =>
    obtain ⟨c, -, rfl⟩ := readyStep_channel.mp h
    rfl
  | graphDelta base generation =>
    simp only [readyStep] at h
    split_ifs at h
    simp only [Option.some.injEq] at h
    rw [← h]
  | _ => simp [readyStep] at h <;> simp [← h]

/-- A graph act reads and writes the generation only. -/
theorem readyStep_graph (generation : UInt64) (h : v.readyStep a = some va)
    (ha : a = .graphSnapshot generation ∨ ∃ base, a = .graphDelta base generation) :
    va = { v with graph := some generation } ∧
      ∀ u : View, u.graph = v.graph → u.readyStep a = some { u with graph := some generation } := by
  rcases ha with rfl | ⟨base, rfl⟩
  · exact ⟨by simpa [readyStep] using h.symm, fun u _ => rfl⟩
  · simp only [readyStep] at h
    split_ifs at h with hcond
    refine ⟨by simpa using h.symm, fun u hu => ?_⟩
    simp only [readyStep, hu]
    rw [if_pos hcond]

/-- A graph act and a channel act commute. -/
theorem readyStep_graph_channel (generation : UInt64) {id : UInt32} {act : ChannelAct}
    (ha : a = .graphSnapshot generation ∨ ∃ base, a = .graphDelta base generation)
    (hva : v.readyStep a = some va) (hvb : v.readyStep (.channel id act) = some vb) :
    ∃ w, va.readyStep (.channel id act) = some w ∧ vb.readyStep a = some w := by
  obtain ⟨rfl, hany⟩ := readyStep_graph generation hva ha
  obtain ⟨c, hc, rfl⟩ := readyStep_channel.mp hvb
  exact ⟨_, readyStep_channel.mpr ⟨c, hc, rfl⟩, hany _ rfl⟩

/-- **Acts of opposite peers that do not clash commute.** -/
theorem readyStep_tile {r r' : Role} (hr : r ≠ r') (ha : a.sentBy r = true)
    (hb : b.sentBy r' = true) (hclash : a.clash b = false) (hva : v.readyStep a = some va)
    (hvb : v.readyStep b = some vb) :
    ∃ w, va.readyStep b = some w ∧ vb.readyStep a = some w := by
  have hgraph : ∀ {x : ReadyAct} {s : Role} (g : UInt64),
      (x = .graphSnapshot g ∨ ∃ base, x = .graphDelta base g) → x.sentBy s = true → s = .server := by
    rintro x s g (rfl | ⟨base, rfl⟩) hs <;> simpa [ReadyAct.sentBy] using hs
  cases a with
  | refused => simp [readyStep] at hva
  | idle =>
    obtain rfl : v = va := by simpa [readyStep] using hva
    exact ⟨vb, hvb, rfl⟩
  | graphSnapshot g | graphDelta _ g =>
    cases b with
    | refused => simp [readyStep] at hvb
    | idle =>
      obtain rfl : v = vb := by simpa [readyStep] using hvb
      exact ⟨va, rfl, hva⟩
    | graphSnapshot g' | graphDelta _ g' =>
      exact absurd ((hgraph g (by simp) ha).trans (hgraph g' (by simp) hb).symm) hr
    | channel id act => exact readyStep_graph_channel g (by simp) hva hvb
  | channel i act =>
    cases b with
    | refused => simp [readyStep] at hvb
    | idle =>
      obtain rfl : v = vb := by simpa [readyStep] using hvb
      exact ⟨va, rfl, hva⟩
    | graphSnapshot g | graphDelta _ g =>
      obtain ⟨w, hw, hw'⟩ := readyStep_graph_channel g (by simp) hvb hva
      exact ⟨w, hw', hw⟩
    | channel j act' =>
      obtain ⟨c, hc, rfl⟩ := readyStep_channel.mp hva
      obtain ⟨c', hc', rfl⟩ := readyStep_channel.mp hvb
      by_cases hij : i = j
      · subst hij
        obtain ⟨w, hw, hw'⟩ :=
          ChannelAct.tile hr ha hb (by simpa [ReadyAct.clash] using hclash) hc hc'
        refine ⟨v.setChannel i w, readyStep_channel.mpr ⟨w, ?_, ?_⟩,
          readyStep_channel.mpr ⟨w, ?_, ?_⟩⟩
        · simpa [channel_setChannel] using hw
        · rw [setChannel_idem]
        · simpa [channel_setChannel] using hw'
        · rw [setChannel_idem]
      · refine ⟨_, readyStep_channel.mpr ⟨c', ?_, rfl⟩, readyStep_channel.mpr ⟨c, ?_, ?_⟩⟩
        · simpa [channel_setChannel, Ne.symm hij] using hc'
        · simpa [channel_setChannel, hij] using hc
        · exact setChannel_comm hij v c c'

/-- Of two acts that clash one is dead at its receiver. -/
theorem readyStep_dead_of_clash (hopen : a.crossesOpening b = false) (hclash : a.clash b = true)
    (hva : v.readyStep a = some va) (hvb : v.readyStep b = some vb) :
    ∃ id x y, a = .channel id x ∧ b = .channel id y ∧
      (y.dead (va.channel id) = true ∨ x.dead (vb.channel id) = true) := by
  obtain ⟨id, x, y, rfl, rfl, hxy⟩ :
      ∃ id x y, a = .channel id x ∧ b = .channel id y ∧ x.clash y = true := by
    cases a <;> cases b <;> simp [ReadyAct.clash] at hclash
    obtain ⟨rfl, h⟩ := hclash
    exact ⟨_, _, _, rfl, rfl, h⟩
  obtain ⟨c, hc, rfl⟩ := readyStep_channel.mp hva
  obtain ⟨c', hc', rfl⟩ := readyStep_channel.mp hvb
  have hopen' : x.crossesOpening y = false := by simpa [ReadyAct.crossesOpening] using hopen
  refine ⟨id, x, y, rfl, rfl, ?_⟩
  simpa [channel_setChannel] using ChannelAct.dead_of_clash hopen' hxy hc hc'

/-- A channel at its end stays there. -/
theorem readyStep_dead {id : UInt32} {d : ChannelAct} (h : d.dead (v.channel id) = true)
    (hstep : v.readyStep a = some va) : d.dead (va.channel id) = true := by
  cases a with
  | refused => simp [readyStep] at hstep
  | idle =>
    obtain rfl : v = va := by simpa [readyStep] using hstep
    exact h
  | graphSnapshot g | graphDelta _ g =>
    obtain ⟨rfl, -⟩ := readyStep_graph g hstep (by simp)
    exact h
  | channel i act =>
    obtain ⟨c, hc, rfl⟩ := readyStep_channel.mp hstep
    rw [channel_setChannel]
    split_ifs with hid
    · subst hid
      exact ChannelAct.dead_step h hc
    · exact h

/-- What ends a channel after `a` ends it without `a`, unless `a` ended it. -/
theorem readyStep_dead_early {id : UInt32} {d : ChannelAct} {vab : View}
    (hopen : a.crossesOpening b = false) (hva : v.readyStep a = some va)
    (hvb : v.readyStep b = some vb) (hvab : va.readyStep b = some vab)
    (h : d.dead (vab.channel id) = true) :
    d.dead (vb.channel id) = true ∨ d.dead (va.channel id) = true := by
  cases b with
  | refused => simp [readyStep] at hvb
  | idle =>
    obtain rfl : va = vab := by simpa [readyStep] using hvab
    exact .inr h
  | graphSnapshot g | graphDelta _ g =>
    obtain ⟨rfl, -⟩ := readyStep_graph g hvab (by simp)
    exact .inr h
  | channel j y =>
    obtain ⟨cab, hcab, rfl⟩ := readyStep_channel.mp hvab
    by_cases hid : id = j
    swap
    · exact .inr (by simpa [channel_setChannel, hid] using h)
    subst hid
    obtain ⟨cb, hcb, rfl⟩ := readyStep_channel.mp hvb
    simp only [channel_setChannel, if_true] at h ⊢
    by_cases hsame : va.channel id = v.channel id
    · -- `a` did not touch the channel
      rw [hsame, hcb] at hcab
      obtain rfl : cb = cab := by simpa using hcab
      exact .inl h
    · obtain ⟨x, rfl⟩ : ∃ x, a = .channel id x := by
        cases a with
        | channel i x =>
          obtain ⟨c, -, rfl⟩ := readyStep_channel.mp hva
          by_cases hi : i = id
          · exact ⟨x, by rw [hi]⟩
          · exact absurd (by simp [channel_setChannel, Ne.symm hi]) hsame
        | refused => simp [readyStep] at hva
        | idle => exact absurd (by simp [readyStep] at hva; rw [hva]) hsame
        | graphSnapshot g | graphDelta _ g =>
          obtain ⟨rfl, -⟩ := readyStep_graph g hva (by simp)
          exact absurd rfl hsame
      obtain ⟨ca, hca, rfl⟩ := readyStep_channel.mp hva
      simp only [channel_setChannel, if_true] at hcab ⊢
      exact ChannelAct.dead_early (by simpa [ReadyAct.crossesOpening] using hopen) hca hcb hcab h

/-! ## All phases -/

section Phases

variable {x y z : Act}

/-- In the ready phase every act is its ready part. -/
theorem step_of_ready (h : v.phase = .ready) : v.step x = v.readyStep x.inReady := by
  cases x <;> simp [step, h, Act.inReady, readyStep]

/-- Nothing is accepted at the end. -/
theorem step_of_terminal (h : v.phase.isTerminal = true) : v.step x = none := by
  cases hp : v.phase <;> simp [hp, SessionPhase.isTerminal] at h <;>
    cases x <;> simp [step, hp]

/-- An Error accepted before the ready phase ends the session. -/
theorem step_error_of_not_ready (h : v.phase ≠ .ready) (hx : x.isError = true)
    (hs : v.step x = some v') : v'.phase.isTerminal = true := by
  cases x <;> simp [Act.isError] at hx
  simp only [step, h, if_false] at hs
  split_ifs at hs
  simp only [Option.some.injEq] at hs
  rw [← hs]
  rfl

/-- Whose turn it is in the handshake. -/
def turn : SessionPhase → Role
  | .awaitClientHello | .selectedAwaitAuthenticate => .client
  | _ => .server

/-- Before the ready phase only the peer whose turn it is sends anything but Errors. -/
theorem sender_of_not_ready {r : Role} (h : v.phase ≠ .ready) (hx : x.isError = false)
    (hsent : x.sentBy r = true) (hs : v.step x = some v') : r = turn v.phase := by
  cases x <;> simp [step, h, Act.isError] at hs hx <;>
    simp_all [Act.sentBy, turn]

/-- The ready phase is not left. -/
theorem step_phase_of_ready (h : v.phase = .ready) (hs : v.step x = some v') :
    v'.phase = .ready := by
  rw [step_of_ready h] at hs
  rw [readyStep_phase hs, h]

/-- Before the ready phase two acts of opposite peers are not both accepted, unless one is an
Error. -/
theorem error_of_not_ready {r r' : Role} (hr : r ≠ r') (h : v.phase ≠ .ready)
    (hx : x.sentBy r = true) (hy : y.sentBy r' = true) (hvx : v.step x = some va)
    (hvy : v.step y = some vb) : x.isError = true ∨ y.isError = true := by
  by_contra hno
  simp only [not_or, Bool.not_eq_true] at hno
  have hturn := sender_of_not_ready h hno.1 hx hvx
  have hturn' := sender_of_not_ready h hno.2 hy hvy
  exact hr (hturn.trans hturn'.symm)

theorem Dead.step_eq_none (h : v.Dead x) : v.step x = none := by
  rcases h with h | ⟨hready, id, act, hin, hdead⟩
  · exact step_of_terminal h
  · rw [step_of_ready hready, hin]
    simp [readyStep, ChannelAct.step_of_dead hdead]

theorem Dead.stable (h : v.Dead x) (hs : v.step y = some v') : v'.Dead x := by
  rcases h with h | ⟨hready, id, act, hin, hdead⟩
  · simp [step_of_terminal h] at hs
  · rw [step_of_ready hready] at hs
    exact .inr ⟨by rw [readyStep_phase hs, hready], id, act, hin, readyStep_dead hdead hs⟩

end Phases

end View

/-! ## The hypotheses of the replica library -/

/-- An act together with the peer that sends it. -/
abbrev SentAct := Role × Act

namespace View

def sentStep (v : View) (a : SentAct) : Option View := v.step a.2

/-- Acts of opposite peers, each allowed to its sender. -/
def Opposite (a b : SentAct) : Prop :=
  a.1 ≠ b.1 ∧ a.2.sentBy a.1 = true ∧ b.2.sentBy b.1 = true

/-- Acts of opposite peers that do not clash at the view. -/
def Free (v : View) (a b : SentAct) : Prop := Opposite a b ∧ v.clash a.2 b.2 = false

/-- Acts of opposite peers none of which is a channel Error crossing the other's opening. -/
def MayCross (a b : SentAct) : Prop := Opposite a b ∧ a.2.crossesOpening b.2 = false

/-- The sender's condition on everything in flight towards it, for either relation. -/
def FreeOfAll (v : View) (a : SentAct) (bs : List SentAct) : Prop := ∀ b ∈ bs, Free v a b

def MayCrossAll (_ : View) (a : SentAct) (bs : List SentAct) : Prop := ∀ b ∈ bs, MayCross a b

def SentDead (v : View) (a : SentAct) : Prop := v.Dead a.2

theorem crossesOpening_symm (a b : Act) : a.crossesOpening b = b.crossesOpening a := by
  unfold Act.crossesOpening
  cases a.inReady <;> cases b.inReady <;> simp [ReadyAct.crossesOpening]
  rename_i i x j y
  simp only [ChannelAct.crossesOpening]
  rw [Bool.or_comm, BEq.comm]

/-- **Acts that do not clash commute.** -/
theorem commutes : Replica.Commutes sentStep Free where
  tile := by
    rintro v va vb ⟨r, a⟩ ⟨r', b⟩ ⟨⟨hr, ha, hb⟩, hclash⟩ hva hvb
    by_cases hready : v.phase = .ready
    · have hva' : v.readyStep a.inReady = some va := by rw [← step_of_ready hready]; exact hva
      have hvb' : v.readyStep b.inReady = some vb := by rw [← step_of_ready hready]; exact hvb
      have ha' : a.inReady.sentBy r = true := by
        cases a <;> first | exact ha | rfl
      have hb' : b.inReady.sentBy r' = true := by
        cases b <;> first | exact hb | rfl
      have hclash' : a.inReady.clash b.inReady = false := by simpa [clash, hready] using hclash
      obtain ⟨w, hw, hw'⟩ := readyStep_tile hr ha' hb' hclash' hva' hvb'
      refine ⟨w, ?_, ?_⟩
      · exact (step_of_ready (step_phase_of_ready hready hva)).trans hw
      · exact (step_of_ready (step_phase_of_ready hready hvb)).trans hw'
    · have herr := error_of_not_ready hr hready ha hb hva hvb
      simp [clash, hready] at hclash
      simp [hclash] at herr
  keep := by
    rintro v va vb ⟨r, a⟩ ⟨r', b⟩ c ⟨⟨hr, ha, hb⟩, hclash⟩ ⟨hopp, hclash'⟩ hva hvb
    refine ⟨hopp, ?_⟩
    by_cases hready : v.phase = .ready
    · have hready' := step_phase_of_ready hready hvb
      simpa [clash, hready, hready'] using hclash'
    · have herr := error_of_not_ready hr hready ha hb hva hvb
      simp [clash, hready] at hclash
      simp [hclash] at herr

/-- **Of two acts that clash one is dead at its receiver.** -/
theorem laws : Replica.Laws sentStep MayCross SentDead where
  symm := by
    rintro a b ⟨⟨hr, ha, hb⟩, hopen⟩
    exact ⟨⟨Ne.symm hr, hb, ha⟩, by rw [crossesOpening_symm]; exact hopen⟩
  refused := Dead.step_eq_none
  stable := Dead.stable
  tile := by
    rintro v va vb a b ⟨hopp, hopen⟩ hva hvb
    by_cases hclash : v.clash a.2 b.2 = true
    swap
    · exact .inl (commutes.tile ⟨hopp, by simpa using hclash⟩ hva hvb)
    refine .inr ?_
    by_cases hready : v.phase = .ready
    · have hva' : v.readyStep a.2.inReady = some va := by rw [← step_of_ready hready]; exact hva
      have hvb' : v.readyStep b.2.inReady = some vb := by rw [← step_of_ready hready]; exact hvb
      obtain ⟨id, x, y, hx, hy, hdead⟩ :=
        readyStep_dead_of_clash hopen (by simpa [clash, hready] using hclash) hva' hvb'
      rcases hdead with hd | hd
      · exact .inl (.inr ⟨step_phase_of_ready hready hva, id, y, hy, hd⟩)
      · exact .inr (.inr ⟨step_phase_of_ready hready hvb, id, x, hx, hd⟩)
    · simp only [clash, hready, if_false, Bool.or_eq_true] at hclash
      rcases hclash with herr | herr
      · exact .inl (.inl (step_error_of_not_ready hready herr hva))
      · exact .inr (.inl (step_error_of_not_ready hready herr hvb))
  early := by
    rintro v va vb vab ⟨r, a⟩ ⟨r', b⟩ c ⟨⟨hr, ha, hb⟩, hopen⟩ hva hvb hvab hdead
    by_cases hready : v.phase = .ready
    · have hreadya := step_phase_of_ready hready hva
      have hreadyb := step_phase_of_ready hready hvb
      have hreadyab := step_phase_of_ready hreadya hvab
      rcases hdead with hterm | ⟨-, id, d, hin, hd⟩
      · simp [hreadyab, SessionPhase.isTerminal] at hterm
      have hva' : v.readyStep a.inReady = some va := by rw [← step_of_ready hready]; exact hva
      have hvb' : v.readyStep b.inReady = some vb := by rw [← step_of_ready hready]; exact hvb
      have hvab' : va.readyStep b.inReady = some vab := by
        rw [← step_of_ready hreadya]
        exact hvab
      rcases readyStep_dead_early hopen hva' hvb' hvab' hd with h | h
      · exact .inl (.inr ⟨hreadyb, id, d, hin, h⟩)
      · exact .inr (.inr ⟨hreadya, id, d, hin, h⟩)
    · rcases error_of_not_ready hr hready ha hb hva hvb with herr | herr
      · have hterm := step_error_of_not_ready hready herr hva
        simp [sentStep, step_of_terminal hterm] at hvab
      · exact .inl (.inl (step_error_of_not_ready hready herr hvb))

end View
end Rclweb
