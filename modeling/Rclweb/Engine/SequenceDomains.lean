import Rclweb.Engine.Inbound
import Rclweb.Engine.Runs
import Rclweb.Library.SequenceDomain

/-!
# Sequence domains on the client

The samples of a channel are one sequence domain, and the frames of each operation of a channel
another.  The gateway follows these domains in what a client sends it: `admits_sample` and
`admits_operation` are its checks, as the receiver's rule of the library.

The client engine looks at no sequence of an application frame.  So it does what the rule says
exactly on runs in which the rule takes every frame, and in which no ACTION_CANCEL comes, which the
engine passes over (`sequence_domains`).
-/

namespace Rclweb

open Rclweb.Frame SequenceDomain

/-! ## The gateway's checks -/

namespace Gateway.Turn

/-- The check of a published sample is the receiver's rule. -/
theorem admits_sample (runtime : ChannelRuntime) (sequence : UInt64) :
    (admitSampleIn runtime sequence).map Option.isSome =
      match disposition (fun _ => runtime.seqIn.toNat)
        (⟨(), runtime.reliable, sequence.toNat⟩ : Arrival Unit) with
      | .deliver => some true
      | .drop => some false
      | .fail => none := by
  have heq : sequence = runtime.seqIn ↔ sequence.toNat = runtime.seqIn.toNat :=
    UInt64.toNat_inj.symm
  have hle : runtime.seqIn ≤ sequence ↔ runtime.seqIn.toNat ≤ sequence.toNat := UInt64.le_iff_toNat_le
  simp only [admitSampleIn, disposition, ne_eq, heq, hle]
  split_ifs <;> simp_all

/-- The check of an operation frame is the rule of a reliable domain. -/
theorem admits_operation (runtime : ChannelRuntime) (opid : OperationId) (sequence : UInt64)
    (hsmall : (runtime.opSeqIn.find? opid).getD 0 < 2 ^ 64) :
    (admitOpSeqIn runtime opid sequence).isSome = true ↔
      disposition (fun d => (runtime.opSeqIn.find? d).getD 0) ⟨opid, true, sequence.toNat⟩ =
        .deliver := by
  have heq : sequence = UInt64.ofNat ((runtime.opSeqIn.find? opid).getD 0) ↔
      sequence.toNat = (runtime.opSeqIn.find? opid).getD 0 := by
    rw [← UInt64.toNat_inj, UInt64.toNat_ofNat_of_lt' hsmall]
  simp only [admitOpSeqIn, disposition, ne_eq, heq, if_true]
  split_ifs <;> simp_all

end Gateway.Turn

namespace Engine

/-! ## What arrives at a client -/

/-- **The sequence domains of a client.** -/
inductive Domain where
  | samples (channelId : UInt32)
  | operation (channelId : UInt32) (operationId : List UInt8)
  deriving DecidableEq, Repr

def domainOfFrame (frame : DecodedFrame) : Domain :=
  if frame.opcode = opcodeRosSample then .samples frame.channelId
  else .operation frame.channelId ((operationOfFrame frame).getD [])

/-- The domain and the number an event tells. -/
def AppEvent.numbered? : AppEvent → Option (Domain × ℕ)
  | .sample channelId _ sequence _ _ => some (.samples channelId, sequence.toNat)
  | .serviceRequest event | .serviceResponse event | .actionGoal event | .actionFeedback event
  | .actionResult event | .actionStatus event =>
    some (.operation event.channelId event.operationId, event.sequence.toNat)
  | _ => none

/-- The event that tells of a frame has the frame's number. -/
theorem numbered?_of_tells {frame : DecodedFrame} {leaseId : UInt32} {event : AppEvent}
    (h : Tells frame leaseId event) :
    event.numbered? = some (domainOfFrame frame, frame.sequence.toNat) := by
  unfold Tells at h
  unfold domainOfFrame
  split_ifs at h ⊢
  · obtain ⟨text, rfl⟩ := h
    rfl
  · obtain ⟨operationId, hid, hevent⟩ := h
    rw [hid]
    rcases Turn.operationEvent_cases hevent with rfl | rfl | rfl | rfl | rfl | rfl <;> rfl

namespace Turn

/-- Whether the samples of a channel are reliable. -/
def samplesReliable (t : Turn) (channelId : UInt32) : Bool :=
  ((t.engine.activeSubscribes.find? channelId).map fun p => p.qosReliability != 2).getD true

/-- **What arrives with a host event**: the application frame in its bytes, unless the engine closes
on it. -/
def arrival? (t : Turn) (event : HostEvent) : Option (Arrival Domain) :=
  (t.application? event).bind fun frame =>
    match t.verdictOn event frame with
    | .fails _ _ => none
    | _ => some
        { domain := domainOfFrame frame
          reliable := frame.opcode != opcodeRosSample || t.samplesReliable frame.channelId
          sequence := frame.sequence.toNat }

/-- Whether the application frame of a host event is an ACTION_CANCEL. -/
def isCancel (t : Turn) (event : HostEvent) : Bool :=
  (t.application? event).any fun frame => frame.opcode == opcodeActionCancel

/-- **What the rule asks of the engine** when a frame arrives: one event that tells it, nothing at
all, or an end of the session. -/
def Enforces (lib : Library) (wasm32 : Bool) (next : Domain → ℕ) (t : Turn) (event : HostEvent) :
    Prop :=
  match t.arrival? event with
  | none => True
  | some a =>
    match disposition next a with
    | .deliver => ∃ told : AppEvent, told.numbered? = some (a.domain, a.sequence) ∧
        (handleEvent lib wasm32 t event).outcome.events = t.outcome.events ++ [told]
    | .drop => (handleEvent lib wasm32 t event).outcome.events = t.outcome.events ∧
        (handleEvent lib wasm32 t event).engine.closed = false
    | .fail => (handleEvent lib wasm32 t event).engine.closed = true

/-- **An open engine does what the rule asks exactly when the rule takes the frame** and it is no
ACTION_CANCEL. -/
theorem enforces_iff (lib : Library) (wasm32 : Bool) (next : Domain → ℕ) {t : Turn}
    (hopen : t.engine.closed = false) (event : HostEvent) :
    t.Enforces lib wasm32 next event ↔
      ∀ a, t.arrival? event = some a →
        disposition next a = .deliver ∧ t.isCancel event = false := by
  unfold Enforces arrival? isCancel
  cases happ : t.application? event with
  | none => simp
  | some frame =>
    have hhandle := handleEvent_application lib wasm32 happ
    rw [Option.bind_some, Option.any_some]
    cases hv : t.verdictOn event frame with
    | fails code message => simp
    | ignored =>
      rw [hv] at hhandle
      obtain ⟨hcancel, hevents, hclosed⟩ := hhandle
      have hsample : frame.opcode ≠ opcodeRosSample := by
        rw [hcancel]
        decide
      have hne : (frame.opcode != opcodeRosSample) = true := by simpa using hsample
      have hbeq : (frame.opcode == opcodeActionCancel) = true := by simpa using hcancel
      dsimp only
      rw [hne, hbeq, hevents, hclosed, hopen, Bool.true_or]
      refine iff_of_false ?_ fun hall => by simpa using (hall _ rfl).2
      unfold disposition
      rw [if_pos rfl]
      split_ifs
      · simp
      · simp
    | leased told =>
      rw [hv] at hhandle
      obtain ⟨hcancel, told, htells, hevents, hclosed⟩ := hhandle
      have hbeq : (frame.opcode == opcodeActionCancel) = false := by simpa using hcancel
      dsimp only
      rw [hbeq, hevents, hclosed, hopen]
      generalize hd : disposition next _ = disp
      cases disp with
      | deliver =>
        refine iff_of_true ⟨told, numbered?_of_tells htells, rfl⟩ ?_
        rintro a ha
        obtain rfl := Option.some.inj ha
        exact ⟨hd, rfl⟩
      | drop =>
        refine iff_of_false (by simp) fun hall => ?_
        exact absurd (hd.symm.trans (hall _ rfl).1) (by decide)
      | fail =>
        refine iff_of_false (by simp) fun hall => ?_
        exact absurd (hd.symm.trans (hall _ rfl).1) (by decide)

/-! ## Runs -/

/-- What arrives in the steps of a run. -/
def arrivals (steps : List (Turn × HostEvent)) : List (Arrival Domain) :=
  steps.filterMap fun p => p.1.arrival? p.2

/-- **The engine does what the rule asks at every step**, the rule following what has arrived. -/
def EnforcesAll (lib : Library) (wasm32 : Bool) : (Domain → ℕ) → List (Turn × HostEvent) → Prop
  | _, [] => True
  | next, p :: ps =>
    p.1.Enforces lib wasm32 next p.2 ∧
      EnforcesAll lib wasm32 ((p.1.arrival? p.2).elim next (advance next)) ps

/-- No step brings an ACTION_CANCEL the engine does not close on. -/
def NoCancel (steps : List (Turn × HostEvent)) : Prop :=
  ∀ p ∈ steps, (p.1.arrival? p.2).isSome = true → p.1.isCancel p.2 = false

theorem enforcesAll_iff (lib : Library) (wasm32 : Bool) {steps : List (Turn × HostEvent)}
    (next : Domain → ℕ) (hopen : ∀ p ∈ steps, p.1.engine.closed = false) :
    EnforcesAll lib wasm32 next steps ↔ InOrder next (arrivals steps) ∧ NoCancel steps := by
  induction steps generalizing next with
  | nil => simp [EnforcesAll, arrivals, InOrder, NoCancel]
  | cons p ps ih =>
    have hrest := fun n => ih n fun q hq => hopen q (List.mem_cons_of_mem p hq)
    have hstep := enforces_iff lib wasm32 next (hopen p List.mem_cons_self) p.2
    rw [EnforcesAll, hstep, hrest]
    cases ha : p.1.arrival? p.2 with
    | none =>
      simp [arrivals, NoCancel, ha]
    | some a =>
      simp only [arrivals, NoCancel, ha, List.filterMap_cons_some, InOrder, Option.elim_some,
        List.mem_cons, forall_eq_or_imp, Option.some.injEq, forall_eq', Option.isSome_some,
        forall_const]
      tauto

theorem open_of_mem_steps (lib : Library) (wasm32 : Bool) {t : Turn} {events : List HostEvent}
    {p : Turn × HostEvent} (hopen : t.engine.closed = false)
    (hp : p ∈ steps lib wasm32 t events) : p.1.engine.closed = false := by
  induction events generalizing t with
  | nil => exact absurd hp List.not_mem_nil
  | cons event events ih =>
    rw [steps] at hp
    rcases List.mem_cons.mp hp with rfl | hrest
    · exact hopen
    · split_ifs at hrest with hclosed
      · exact absurd hrest List.not_mem_nil
      · exact ih (Bool.eq_false_of_not_eq_true hclosed) hrest

end Turn
end Engine

namespace ClientEngine

open Engine Turn

/-- The steps of a run of poll turns. -/
def runSteps (lib : Library) (wasm32 : Bool) :
    ClientEngine → List (List HostEvent) → List (Turn × HostEvent)
  | _, [] => []
  | e, events :: polls =>
    e.steps lib wasm32 events ++ runSteps lib wasm32 (e.poll lib wasm32 events).1 polls

theorem open_of_mem_runSteps (lib : Library) (wasm32 : Bool) {polls : List (List HostEvent)}
    {e : ClientEngine} {p : Turn × HostEvent} (hp : p ∈ e.runSteps lib wasm32 polls) :
    p.1.engine.closed = false := by
  induction polls generalizing e with
  | nil => exact absurd hp List.not_mem_nil
  | cons events polls ih =>
    rcases List.mem_append.mp hp with hp | hp
    · unfold ClientEngine.steps at hp
      split_ifs at hp with hclosed
      · exact absurd hp List.not_mem_nil
      · exact open_of_mem_steps lib wasm32 (Bool.eq_false_of_not_eq_true hclosed) hp
    · exact ih hp

/-- **The client engine enforces the sequence domains of the gateway on exactly those runs in which
every frame that arrives is the next one of its domain**, and none is an ACTION_CANCEL. -/
theorem sequence_domains (lib : Library) (wasm32 : Bool) (polls : List (List HostEvent)) :
    EnforcesAll lib wasm32 (fun _ => 0) (runSteps lib wasm32 {} polls) ↔
      InOrder (fun _ => 0) (arrivals (runSteps lib wasm32 {} polls)) ∧
        NoCancel (runSteps lib wasm32 {} polls) :=
  enforcesAll_iff lib wasm32 _ fun _ hp => open_of_mem_runSteps lib wasm32 hp

theorem inOrder_of_enforcesAll (lib : Library) (wasm32 : Bool) (polls : List (List HostEvent))
    (h : EnforcesAll lib wasm32 (fun _ => 0) (runSteps lib wasm32 {} polls)) :
    InOrder (fun _ => 0) (arrivals (runSteps lib wasm32 {} polls)) :=
  ((enforcesAll_iff lib wasm32 _ fun _ hp => open_of_mem_runSteps lib wasm32 hp).mp h).1

/-- In such a run no number of a domain is told twice, and those of a reliable one count up. -/
theorem sequences_of_enforcesAll (lib : Library) (wasm32 : Bool) {polls : List (List HostEvent)}
    (h : EnforcesAll lib wasm32 (fun _ => 0) (runSteps lib wasm32 {} polls)) (d : Domain) :
    (sequences d (arrivals (runSteps lib wasm32 {} polls))).Pairwise (· < ·) ∧
      ((∀ a ∈ arrivals (runSteps lib wasm32 {} polls), a.domain = d → a.reliable = true) →
        sequences d (arrivals (runSteps lib wasm32 {} polls)) =
          List.range (sequences d (arrivals (runSteps lib wasm32 {} polls))).length) := by
  have horder := inOrder_of_enforcesAll lib wasm32 polls h
  refine ⟨horder.pairwise d, fun hreliable => ?_⟩
  rw [List.range_eq_range']
  exact horder.range hreliable

/-! ### A sample out of order -/

/-- A subscription whose first sample has the sequence 5. -/
def lateSample : List (List HostEvent) :=
  subscription ++
    [[HostEvent.wsBytes 0
      (Gateway.encoded (Encode.encodeFrame (appHeader opcodeRosSample true 1 5) [] [0, 1, 0, 0]))]]

theorem arrivals_lateSample :
    arrivals (runSteps Pair.noLibrary false {} lateSample) = [⟨.samples 1, true, 5⟩] := by
  decide +kernel

/-- A run whose first arrival the rule does not take is not enforced. -/
theorem not_enforcesAll_of_arrivals (lib : Library) (wasm32 : Bool) {polls : List (List HostEvent)}
    {steps : List (Turn × HostEvent)} {a : Arrival Domain}
    (hsteps : runSteps lib wasm32 {} polls = steps) (harrivals : arrivals steps = [a])
    (hrefused : disposition (fun _ => 0) a ≠ .deliver) :
    ¬ EnforcesAll lib wasm32 (fun _ => 0) steps := by
  subst hsteps
  intro h
  have horder := inOrder_of_enforcesAll lib wasm32 polls h
  rw [harrivals] at horder
  exact hrefused horder.1

/-- The engine tells the sample where the gateway would end the session. -/
theorem not_sequence_domains_of_lateSample :
    ¬ EnforcesAll Pair.noLibrary false (fun _ => 0)
      (runSteps Pair.noLibrary false {} lateSample) :=
  not_enforcesAll_of_arrivals Pair.noLibrary false rfl arrivals_lateSample (by decide)

end ClientEngine
end Rclweb
