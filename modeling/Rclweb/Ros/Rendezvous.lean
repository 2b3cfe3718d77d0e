import Rclweb.Library.Journal
import Rclweb.Ros.Taken

/-!
# Where results meet their requests

A client asks for the result of a goal with a GetResult request, the connection gives the result
with a command, and they come in any order.  The goal's slot keeps what came first: one request,
one result, and whether the goal is finished.

The machine below is the goals of one action server under what reaches them; `step_slots` says that
nothing else in the worker reaches them, and `slots_run` that its goals run as these do.  Its
journal says what was asked, given and answered.  A request is lost where the slot has no place for
it: a second one that comes before the result, one that is taken out and then not answered because
rcl fails.  Where neither happens, the slot's one request is all that waits (`SlotKept`).
-/

namespace Rclweb
namespace Ros

/-- What happens to a goal. -/
inductive GoalEvent where
  /-- A GetResult request is taken. -/
  | asked (header : RequestHeader)
  /-- The connection gives a result. -/
  | given (payload : List UInt8)
  | succeeded
  | answered (header : RequestHeader) (payload : List UInt8)
  /-- `succeed_goal` or `send_result` fails. -/
  | failed
  deriving DecidableEq

namespace GoalSlot

variable (slot : GoalSlot)

/-- The goal is finished once: its slot, what happens, and whether rcl let it. -/
def succeedGoal (result : Except RclError Unit) : GoalSlot × List GoalEvent × Bool :=
  match slot.succeeded, result with
  | true, _ => (slot, [], true)
  | false, .ok () => ({ slot with succeeded := true }, [.succeeded], true)
  | false, .error _ => (slot, [.failed], false)

/-- A response to one request. -/
def sendResult (header : RequestHeader) (cdr : List UInt8) : Except RclError Unit → List GoalEvent
  | .ok () => [.answered header cdr]
  | .error _ => [.failed]

/-- A turn of the result loop of `pump_one_action_server`, for a goal that is known. -/
def takeResultRequest (header : RequestHeader) (succeedGoal sendResult : Except RclError Unit) :
    GoalSlot × List GoalEvent :=
  match slot.resultCdr with
  | none => ({ slot with pendingResultHeader := some header }, [.asked header])
  | some cdr =>
    match { slot with pendingResultHeader := none }.succeedGoal succeedGoal with
    | (slot, events, false) => (slot, .asked header :: events)
    | (slot, events, true) =>
      (slot, GoalEvent.asked header :: events ++ GoalSlot.sendResult header cdr sendResult)

/-- `send_action_result`, for a goal that is known. -/
def sendActionResult (payload : List UInt8) (succeedGoal sendResult : Except RclError Unit) :
    GoalSlot × List GoalEvent :=
  match { slot with resultCdr := some payload, pendingResultHeader := none }.succeedGoal
    succeedGoal with
  | (slot, events, false) => (slot, .given payload :: events)
  | (slot', events, true) =>
    match slot.pendingResultHeader with
    | none => (slot', .given payload :: events)
    | some header =>
      (slot', GoalEvent.given payload :: events ++ GoalSlot.sendResult header payload sendResult)

end GoalSlot

/-- The goals of an action server, and their journal. -/
structure Goals where
  slots : Table OperationId GoalSlot
  journal : List (OperationId × GoalEvent)

/-- What reaches the goals, with what rcl says to it. -/
inductive GoalAct where
  | acceptGoal (uuid : OperationId) (handle : ℕ)
  | takeResultRequest (header : RequestHeader) (uuid : OperationId)
      (succeedGoal sendResult : Except RclError Unit)
  | sendActionResult (uuid : OperationId) (payload : List UInt8)
      (succeedGoal sendResult : Except RclError Unit)

namespace Goals

variable (g : Goals)

def initial : Goals := ⟨∅, []⟩

/-- Something is done to a goal that is known. -/
def update (uuid : OperationId) (f : GoalSlot → GoalSlot × List GoalEvent) : Goals :=
  match g.slots.find? uuid with
  | none => g
  | some slot =>
    { slots := g.slots.set uuid (f slot).1
      journal := g.journal ++ (f slot).2.map (uuid, ·) }

def step : GoalAct → Goals
  | .acceptGoal uuid handle => { g with slots := g.slots.set uuid ⟨handle, none, none, false⟩ }
  | .takeResultRequest header uuid succeedGoal sendResult =>
    g.update uuid fun slot => slot.takeResultRequest header succeedGoal sendResult
  | .sendActionResult uuid payload succeedGoal sendResult =>
    g.update uuid fun slot => slot.sendActionResult payload succeedGoal sendResult

/-- What happened to one goal. -/
def events (uuid : OperationId) : List GoalEvent := Journal.of uuid g.journal

end Goals

/-! ## What the journal of a goal must say -/

/-- The requests, in the order they were taken. -/
def asked (events : List GoalEvent) : List RequestHeader :=
  events.filterMap fun | .asked header => some header | _ => none

/-- The requests that were answered. -/
def answered (events : List GoalEvent) : List RequestHeader :=
  events.filterMap fun | .answered header _ => some header | _ => none

/-- The result in force: the one that was given last. -/
def inForce (events : List GoalEvent) : Option (List UInt8) :=
  (events.filterMap fun | .given payload => some payload | _ => none).getLast?

/-- Rcl failed since the result was given last. -/
def outstanding (events : List GoalEvent) : Bool :=
  events.foldl (fun failed => fun | .given _ => false | .failed => true | _ => failed) false

/-- An answer carries the result in force, and the goal was finished before it. -/
def Rightly (pre : List GoalEvent) : GoalEvent → List GoalEvent → Prop
  | .answered _ payload, _ => inForce pre = some payload ∧ .succeeded ∈ pre
  | _, _ => True

/-- A request that finds a result is answered next, or rcl fails. -/
def Directly (pre : List GoalEvent) : GoalEvent → List GoalEvent → Prop
  | .asked header, post => ∀ payload, inForce pre = some payload →
    post.find? (· ≠ .succeeded) = some (.answered header payload) ∨
      post.find? (· ≠ .succeeded) = some .failed
  | _, _ => True

/-- **A goal is served.**  No request is answered twice.  When there is a result and rcl has not
failed since it was given, every request has been answered; so a result that is given again answers
whatever waits.  The goal is finished once, before its first answer. -/
structure Served (events : List GoalEvent) : Prop where
  once : (answered events).Subperm (asked events)
  all : (inForce events).isSome → outstanding events = false →
    (asked events).Perm (answered events)
  directly : Journal.Each Directly [] events
  rightly : Journal.Each Rightly [] events
  succeeded : events.count .succeeded ≤ 1

/-! ## One more block -/

theorem asked_append (events block : List GoalEvent) :
    asked (events ++ block) = asked events ++ asked block := List.filterMap_append

theorem answered_append (events block : List GoalEvent) :
    answered (events ++ block) = answered events ++ answered block := List.filterMap_append

/-- A block in which no result is given leaves the one in force. -/
theorem inForce_append {events block : List GoalEvent} (h : ∀ payload, .given payload ∉ block) :
    inForce (events ++ block) = inForce events := by
  rw [inForce, List.filterMap_append]
  have hblock : (block.filterMap fun | .given payload => some payload | _ => none) = [] := by
    rw [List.filterMap_eq_nil_iff]
    intro e he
    cases e with
    | given payload => exact absurd he (h payload)
    | asked | succeeded | answered | failed => rfl
  rw [hblock, List.append_nil]
  rfl

/-- A block that begins with a result puts it in force. -/
theorem inForce_append_given {events block : List GoalEvent} {payload : List UInt8}
    (h : ∀ payload, .given payload ∉ block) :
    inForce (events ++ .given payload :: block) = some payload := by
  rw [← List.singleton_append, ← List.append_assoc, inForce_append h, inForce,
    List.filterMap_append]
  exact List.getLast?_concat

theorem rightly_mono (pre : List GoalEvent) (e : GoalEvent) (post more : List GoalEvent)
    (h : Rightly pre e post) : Rightly pre e (post ++ more) := by
  cases e with
  | answered => exact h
  | asked | given | succeeded | failed => trivial

theorem directly_mono (pre : List GoalEvent) (e : GoalEvent) (post more : List GoalEvent)
    (h : Directly pre e post) : Directly pre e (post ++ more) := by
  cases e with
  | asked header =>
    intro payload hpayload
    rw [List.find?_append]
    rcases h payload hpayload with hpost | hpost
    · exact .inl (by rw [hpost]; rfl)
    · exact .inr (by rw [hpost]; rfl)
  | answered | given | succeeded | failed => trivial

/-! ## What the slot keeps -/

/-- **The slot and the journal.**  The slot's request is the only one that waits, and it waits for a
result. -/
structure SlotKept (slot : GoalSlot) (events : List GoalEvent) : Prop where
  result : inForce events = slot.resultCdr
  waiting : (asked events).Perm (answered events ++ slot.pendingResultHeader.toList)
  early : slot.pendingResultHeader.isSome → slot.resultCdr = none
  succeeded : events.count .succeeded = slot.succeeded.toNat
  directly : Journal.Each Directly [] events
  rightly : Journal.Each Rightly [] events

theorem SlotKept.served {slot : GoalSlot} {events : List GoalEvent} (h : SlotKept slot events) :
    Served events where
  once := (List.sublist_append_left _ _).subperm.trans h.waiting.symm.subperm
  all hresult _ := by
    have hpending : slot.pendingResultHeader = none := by
      rw [← Option.not_isSome_iff_eq_none]
      intro hsome
      rw [h.result, h.early hsome] at hresult
      exact absurd hresult (by decide)
    have hwaiting := h.waiting
    rwa [hpending, Option.toList_none, List.append_nil] at hwaiting
  directly := h.directly
  rightly := h.rightly
  succeeded := h.succeeded.trans_le (Bool.toNat_le _)

/-- A new slot. -/
theorem slotKept_new (handle : ℕ) : SlotKept ⟨handle, none, none, false⟩ [] where
  result := rfl
  waiting := .refl _
  early := nofun
  succeeded := rfl
  directly := trivial
  rightly := trivial

/-- Rcl lets a request be answered: it finishes the goal, unless that is done, and sends. -/
def Lets (slot : GoalSlot) (succeedGoal sendResult : Except RclError Unit) : Prop :=
  (slot.succeeded = true ∨ succeedGoal = .ok ()) ∧ sendResult = .ok ()

/-- **A request that finds a place**: an empty slot, or a result and rcl in order. -/
def TakesRequest (slot : GoalSlot) (succeedGoal sendResult : Except RclError Unit) : Prop :=
  match slot.resultCdr with
  | none => slot.pendingResultHeader = none
  | some _ => Lets slot succeedGoal sendResult

/-- **A result that reaches the request that waits.** -/
def ReachesRequest (slot : GoalSlot) (succeedGoal sendResult : Except RclError Unit) : Prop :=
  slot.pendingResultHeader.isSome → Lets slot succeedGoal sendResult

section Slot

variable {slot : GoalSlot} {events : List GoalEvent} {succeedGoal sendResult : Except RclError Unit}

/-- One more block, and the slot behind it. -/
theorem SlotKept.append {slot' : GoalSlot} {block : List GoalEvent} (h : SlotKept slot events)
    (hresult : inForce (events ++ block) = slot'.resultCdr)
    (hwaiting : (slot.pendingResultHeader.toList ++ asked block).Perm
      (answered block ++ slot'.pendingResultHeader.toList))
    (hearly : slot'.pendingResultHeader.isSome → slot'.resultCdr = none)
    (hsucceeded : slot.succeeded.toNat + block.count .succeeded = slot'.succeeded.toNat)
    (hdirectly : Journal.Each Directly events block)
    (hrightly : Journal.Each Rightly events block) :
    SlotKept slot' (events ++ block) where
  result := hresult
  waiting := by
    rw [asked_append, answered_append, List.append_assoc]
    refine (h.waiting.append_right _).trans ?_
    rw [List.append_assoc]
    exact hwaiting.append_left _
  early := hearly
  succeeded := by rw [List.count_append, h.succeeded, hsucceeded]
  directly := h.directly.append directly_mono hdirectly
  rightly := h.rightly.append rightly_mono hrightly

theorem SlotKept.mem_succeeded (h : SlotKept slot events) (hsucceeded : slot.succeeded = true) :
    .succeeded ∈ events := by
  rw [← List.count_pos_iff, h.succeeded, hsucceeded]
  exact Nat.one_pos

/-- A request before the result is kept. -/
theorem SlotKept.wait (h : SlotKept slot events) (header : RequestHeader)
    (hresult : slot.resultCdr = none) (hpending : slot.pendingResultHeader = none) :
    SlotKept { slot with pendingResultHeader := some header }
      (events ++ [GoalEvent.asked header]) := by
  refine h.append ?_ ?_ (fun _ => hresult) rfl ⟨?_, trivial⟩ ⟨trivial, trivial⟩
  · rw [inForce_append (by simp), h.result]
  · rw [hpending]
    exact .refl _
  · intro payload hpayload
    rw [h.result, hresult] at hpayload
    cases hpayload

/-- A request that finds a result is answered. -/
theorem SlotKept.takeResultRequest (h : SlotKept slot events) (header : RequestHeader)
    (htakes : TakesRequest slot succeedGoal sendResult) :
    SlotKept (slot.takeResultRequest header succeedGoal sendResult).1
      (events ++ (slot.takeResultRequest header succeedGoal sendResult).2) := by
  obtain ⟨handle, pending, result, succeeded⟩ := slot
  cases result with
  | none => exact h.wait header rfl htakes
  | some cdr =>
    obtain ⟨hsucceed, rfl⟩ := htakes
    obtain rfl : pending = none := by
      rw [← Option.not_isSome_iff_eq_none]
      exact fun hsome => absurd (h.early hsome) (by simp)
    cases succeeded with
    | true =>
      show SlotKept ⟨handle, none, some cdr, true⟩
        (events ++ [GoalEvent.asked header, GoalEvent.answered header cdr])
      refine h.append ?_ (.refl _) nofun rfl ⟨?_, trivial, trivial⟩ ⟨trivial, ⟨?_, ?_⟩, trivial⟩
      · rw [inForce_append (by simp), h.result]
      · intro payload hpayload
        rw [h.result] at hpayload
        obtain rfl := Option.some.inj hpayload
        exact .inl rfl
      · rw [inForce_append (by simp), h.result]
      · exact List.mem_append_left _ (h.mem_succeeded rfl)
    | false =>
      obtain rfl := hsucceed.resolve_left (by simp)
      show SlotKept ⟨handle, none, some cdr, true⟩
        (events ++ [GoalEvent.asked header, GoalEvent.succeeded, GoalEvent.answered header cdr])
      refine h.append ?_ (.refl _) nofun rfl ⟨?_, trivial, trivial, trivial⟩
        ⟨trivial, trivial, ⟨?_, ?_⟩, trivial⟩
      · rw [inForce_append (by simp), h.result]
      · intro payload hpayload
        rw [h.result] at hpayload
        obtain rfl := Option.some.inj hpayload
        exact .inl rfl
      · rw [inForce_append (by simp), inForce_append (by simp), h.result]
      · exact List.mem_append_right _ (List.mem_singleton_self _)

/-- A result reaches the request that waits, or is kept for those to come. -/
theorem SlotKept.sendActionResult (h : SlotKept slot events) (payload : List UInt8)
    (hreaches : ReachesRequest slot succeedGoal sendResult) :
    SlotKept (slot.sendActionResult payload succeedGoal sendResult).1
      (events ++ (slot.sendActionResult payload succeedGoal sendResult).2) := by
  obtain ⟨handle, pending, result, succeeded⟩ := slot
  cases pending with
  | none =>
    cases succeeded with
    | true =>
      exact h.append (inForce_append_given (by simp)) (.refl _) nofun rfl ⟨trivial, trivial⟩
        ⟨trivial, trivial⟩
    | false =>
      cases succeedGoal with
      | ok =>
        exact h.append (inForce_append_given (by simp)) (.refl _) nofun rfl
          ⟨trivial, trivial, trivial⟩ ⟨trivial, trivial, trivial⟩
      | error =>
        exact h.append (inForce_append_given (by simp)) (.refl _) nofun rfl
          ⟨trivial, trivial, trivial⟩ ⟨trivial, trivial, trivial⟩
  | some header =>
    obtain ⟨hsucceed, rfl⟩ := hreaches rfl
    cases succeeded with
    | true =>
      show SlotKept ⟨handle, none, some payload, true⟩
        (events ++ [GoalEvent.given payload, GoalEvent.answered header payload])
      refine h.append (inForce_append_given (by simp)) (.refl _) nofun rfl
        ⟨trivial, trivial, trivial⟩ ⟨trivial, ⟨inForce_append_given (by simp), ?_⟩, trivial⟩
      exact List.mem_append_left _ (h.mem_succeeded rfl)
    | false =>
      obtain rfl := hsucceed.resolve_left (by simp)
      show SlotKept ⟨handle, none, some payload, true⟩
        (events ++
          [GoalEvent.given payload, GoalEvent.succeeded, GoalEvent.answered header payload])
      refine h.append (inForce_append_given (by simp)) (.refl _) nofun rfl
        ⟨trivial, trivial, trivial, trivial⟩ ⟨trivial, trivial, ⟨?_, ?_⟩, trivial⟩
      · rw [inForce_append (by simp), inForce_append_given (by simp)]
      · exact List.mem_append_right _ (List.mem_singleton_self _)

end Slot

/-! ## The goals of a server -/

namespace Goals

variable {g : Goals}

/-- Every slot is kept, and nothing happened to a goal that is not known. -/
def Kept (g : Goals) : Prop := ∀ uuid, match g.slots.find? uuid with
  | none => g.events uuid = []
  | some slot => SlotKept slot (g.events uuid)

/-- **Nothing waits where there is no place for it**: an accepted goal is a new one, a request finds
a place, and a result reaches the request that waits. -/
def KeepsWaiter (g : Goals) : GoalAct → Prop
  | .acceptGoal uuid _ => g.slots.find? uuid = none
  | .takeResultRequest _ uuid succeedGoal sendResult => ∀ slot, g.slots.find? uuid = some slot →
      TakesRequest slot succeedGoal sendResult
  | .sendActionResult uuid _ succeedGoal sendResult => ∀ slot, g.slots.find? uuid = some slot →
      ReachesRequest slot succeedGoal sendResult

theorem kept_initial : initial.Kept := fun _ => rfl

theorem Kept.acceptGoal (h : g.Kept) {uuid : OperationId} (hnew : g.slots.find? uuid = none)
    (handle : ℕ) : (g.step (.acceptGoal uuid handle)).Kept := by
  intro uuid'
  show match (g.slots.set uuid ⟨handle, none, none, false⟩).find? uuid' with
    | none => g.events uuid' = []
    | some slot => SlotKept slot (g.events uuid')
  have hkept := h uuid'
  rw [Table.find?_set]
  by_cases huuid : uuid' = uuid
  · subst huuid
    rw [hnew] at hkept
    rw [if_pos rfl, hkept]
    exact slotKept_new handle
  · rw [if_neg huuid]
    exact hkept

/-- What is done to one goal is kept when its slot is; the other goals see nothing of it. -/
theorem Kept.update (h : g.Kept) {uuid : OperationId} {f : GoalSlot → GoalSlot × List GoalEvent}
    (hf : ∀ slot, g.slots.find? uuid = some slot → SlotKept slot (g.events uuid) →
      SlotKept (f slot).1 (g.events uuid ++ (f slot).2)) : (g.update uuid f).Kept := by
  rw [Goals.update]
  split
  · exact h
  · next slot hslot =>
    intro uuid'
    show match (g.slots.set uuid (f slot).1).find? uuid' with
      | none => Journal.of uuid' (g.journal ++ (f slot).2.map (uuid, ·)) = []
      | some slot' => SlotKept slot' (Journal.of uuid' (g.journal ++ (f slot).2.map (uuid, ·)))
    have hkept := h uuid'
    rw [Table.find?_set, Journal.of_append]
    by_cases huuid : uuid' = uuid
    · subst huuid
      rw [hslot] at hkept
      rw [if_pos rfl, Journal.of_map_self]
      exact hf slot hslot hkept
    · rw [if_neg huuid, Journal.of_map_of_ne (Ne.symm huuid), List.append_nil]
      exact hkept

theorem Kept.step (h : g.Kept) {act : GoalAct} (hact : g.KeepsWaiter act) : (g.step act).Kept := by
  cases act with
  | acceptGoal uuid handle => exact h.acceptGoal hact handle
  | takeResultRequest header uuid succeedGoal sendResult =>
    exact h.update fun slot hslot hkept => hkept.takeResultRequest header (hact slot hslot)
  | sendActionResult uuid payload succeedGoal sendResult =>
    exact h.update fun slot hslot hkept => hkept.sendActionResult payload (hact slot hslot)

/-- What is kept is served. -/
theorem Kept.served (h : g.Kept) (uuid : OperationId) : Served (g.events uuid) := by
  have hkept := h uuid
  split at hkept
  · rw [hkept]
    exact ⟨.refl _, nofun, trivial, trivial, Nat.zero_le _⟩
  · exact hkept.served

end Goals

/-- **Results and requests meet**: in every run in which nothing waits where there is no place for
it, every goal is served. -/
theorem results_meet_requests (acts : List GoalAct)
    (h : Acts.Meets Goals.step Goals.KeepsWaiter Goals.initial acts) (uuid : OperationId) :
    Served ((Acts.run Goals.step Goals.initial acts).events uuid) :=
  (Acts.invariant_run Goals.Kept (fun _ _ hkept hact => hkept.step hact) Goals.kept_initial
    h).served uuid

/-- A goal, and two clients that ask for its result before there is one. -/
def askedTwice : List GoalAct :=
  [.acceptGoal (operationIdOf 1) 0,
    .takeResultRequest (sampleHeader 1) (operationIdOf 1) (.ok ()) (.ok ()),
    .takeResultRequest (sampleHeader 2) (operationIdOf 1) (.ok ()) (.ok ()),
    .sendActionResult (operationIdOf 1) [7] (.ok ()) (.ok ())]

/-- A response that rcl refuses, and the same result once more. -/
def givenTwice : List GoalAct :=
  [.acceptGoal (operationIdOf 1) 0,
    .takeResultRequest (sampleHeader 1) (operationIdOf 1) (.ok ()) (.ok ()),
    .sendActionResult (operationIdOf 1) [7] (.ok ()) (.error ⟨1, "send"⟩),
    .sendActionResult (operationIdOf 1) [7] (.ok ()) (.ok ())]

/-- **A request is never answered**: the first of two, and the one whose response was refused. -/
theorem not_results_meet_requests :
    ¬ Served ((Acts.run Goals.step Goals.initial askedTwice).events (operationIdOf 1)) ∧
      ¬ Served ((Acts.run Goals.step Goals.initial givenTwice).events (operationIdOf 1)) := by
  have htwice : (Acts.run Goals.step Goals.initial askedTwice).events (operationIdOf 1) =
      [.asked (sampleHeader 1), .asked (sampleHeader 2), .given [7], .succeeded,
        .answered (sampleHeader 2) [7]] := rfl
  have hrefused : (Acts.run Goals.step Goals.initial givenTwice).events (operationIdOf 1) =
      [.asked (sampleHeader 1), .given [7], .succeeded, .failed, .given [7]] := rfl
  rw [htwice, hrefused]
  constructor
  · intro h
    exact absurd (h.all rfl rfl).length_eq (by decide)
  · intro h
    exact absurd (h.all rfl rfl).length_eq (by decide)

/-- One client asks before the result and one after it. -/
theorem results_meet_requests_of_one :
    Served ((Acts.run Goals.step Goals.initial [.acceptGoal (operationIdOf 1) 0,
      .takeResultRequest (sampleHeader 1) (operationIdOf 1) (.ok ()) (.ok ()),
      .sendActionResult (operationIdOf 1) [7] (.ok ()) (.ok ()),
      .takeResultRequest (sampleHeader 2) (operationIdOf 1) (.ok ()) (.ok ())]).events
        (operationIdOf 1)) := by
  refine results_meet_requests [.acceptGoal (operationIdOf 1) 0,
      .takeResultRequest (sampleHeader 1) (operationIdOf 1) (.ok ()) (.ok ()),
      .sendActionResult (operationIdOf 1) [7] (.ok ()) (.ok ()),
      .takeResultRequest (sampleHeader 2) (operationIdOf 1) (.ok ()) (.ok ())]
    ⟨rfl, ?_, ?_, ?_, trivial⟩ _
  · intro slot hslot
    obtain rfl := Option.some.inj hslot
    rfl
  · intro slot hslot _
    exact ⟨.inr rfl, rfl⟩
  · intro slot hslot
    obtain rfl := Option.some.inj hslot
    exact ⟨.inr rfl, rfl⟩

/-! ## The goals in the worker -/

namespace Worker

variable {w : Worker} {entity : ℕ}

/-- The slots of an action server; one that does not exist has none. -/
def slots (w : Worker) (entity : ℕ) : Table OperationId GoalSlot :=
  match w.actionServers.find? entity with
  | none => ∅
  | some entry => entry.goals

theorem slots_of_find? {entry : ActionServerEntry} (h : w.actionServers.find? entity = some entry) :
    w.slots entity = entry.goals := by
  rw [slots, h]

theorem slots_of_set {w' : Worker} {entity' : ℕ} {entry : ActionServerEntry}
    (h : w'.actionServers = w.actionServers.set entity' entry) :
    w'.slots entity = if entity = entity' then entry.goals else w.slots entity := by
  rw [slots, h, Table.find?_set]
  split_ifs <;> rfl

/-- How an act of the worker may reach the goals of a server. -/
inductive Reaches (w w' : Worker) (entity : ℕ) : Prop where
  | frame (h : w'.slots entity = w.slots entity)
  /-- The server begins or ends. -/
  | clear (h : w'.slots entity = ∅)
  | act (a : GoalAct)
      (h : ∀ journal, w'.slots entity = (Goals.step ⟨w.slots entity, journal⟩ a).slots)

theorem Reaches.of_eq {w' : Worker} (h : w'.actionServers = w.actionServers) :
    Reaches w w' entity := by
  refine .frame ?_
  rw [slots, slots, h]

/-- A server whose goals were acted on. -/
theorem Reaches.of_set {w' : Worker} {entity' : ℕ} {entry entry' : ActionServerEntry} (a : GoalAct)
    (hentry : w.actionServers.find? entity' = some entry)
    (h : w'.actionServers = w.actionServers.set entity' entry')
    (hgoals : ∀ journal, entry'.goals = (Goals.step ⟨entry.goals, journal⟩ a).slots) :
    Reaches w w' entity := by
  have hslots : w'.slots entity = _ := slots_of_set h
  split_ifs at hslots with heq
  · subst heq
    refine .act a fun journal => ?_
    rw [hslots, slots_of_find? hentry, hgoals journal]
  · exact .frame hslots

theorem reaches_takeGoal {entity' : ℕ} (result : Take (RequestHeader × OperationId))
    (accepted : Except RclError ℕ) : Reaches w (w.takeGoal entity' result accepted) entity := by
  unfold takeGoal
  split
  · exact .of_eq rfl
  · next entry hentry =>
    split
    · exact .of_eq rfl
    · exact .of_eq rfl
    · exact .of_eq (by rw [take]; split_ifs <;> rfl)
    · next header uuid goalCdr =>
      dsimp only
      split
      · exact .of_eq (by rw [take]; split_ifs <;> rfl)
      · next handle =>
        have hset : ∀ closed, (w.take (.goal entity' uuid) closed).actionServers =
            w.actionServers := by
          intro closed
          rw [take]
          split_ifs <;> rfl
        have hset' := congrArg (·.set entity'
          { entry with goals := entry.goals.set uuid ⟨handle, none, none, false⟩ })
            (hset (w.actions entry.sink).closed)
        split
        · exact .of_set (.acceptGoal uuid handle) hentry hset' fun _ => rfl
        · exact .of_set (.acceptGoal uuid handle) hentry hset' fun _ => rfl

/-- What a known goal is acted on with. -/
theorem slots_update {g : Goals} {uuid : OperationId} {slot : GoalSlot}
    {f : GoalSlot → GoalSlot × List GoalEvent} (h : g.slots.find? uuid = some slot) :
    (g.update uuid f).slots = g.slots.set uuid (f slot).1 := by
  rw [Goals.update, h]

theorem reaches_takeResultRequest {entity' : ℕ}
    (result : Except RclError (Option (RequestHeader × OperationId)))
    (succeedGoal : Except RclError Unit) :
    Reaches w (w.takeResultRequest entity' result succeedGoal) entity := by
  unfold takeResultRequest
  split
  · next entry header uuid hentry =>
    split
    · exact .of_eq rfl
    · next slot hslot =>
      obtain ⟨handle, pending, result, succeeded⟩ := slot
      have hgoals : ∀ journal, (Goals.step ⟨entry.goals, journal⟩
          (.takeResultRequest header uuid succeedGoal (.ok ()))).slots = _ :=
        fun _ => slots_update hslot
      cases result with
      | none => exact .of_set _ hentry rfl fun journal => (hgoals journal).symm
      | some cdr =>
        cases succeeded with
        | true => exact .of_set _ hentry rfl fun journal => (hgoals journal).symm
        | false =>
          cases succeedGoal with
          | ok => exact .of_set _ hentry rfl fun journal => (hgoals journal).symm
          | error err => exact .of_set _ hentry rfl fun journal => (hgoals journal).symm
  · exact .of_eq rfl

theorem reaches_sendActionResult {entity' : ℕ} (uuid : OperationId) (payload : List UInt8)
    (succeedGoal sendResult : Except RclError Unit) :
    Reaches w (w.sendActionResult entity' uuid payload succeedGoal sendResult).1 entity := by
  unfold sendActionResult
  split
  · exact .of_eq rfl
  · next entry hentry =>
    split
    · exact .of_eq rfl
    · next slot hslot =>
      obtain ⟨handle, pending, result, succeeded⟩ := slot
      have hgoals : ∀ journal, (Goals.step ⟨entry.goals, journal⟩
          (.sendActionResult uuid payload succeedGoal sendResult)).slots = _ :=
        fun _ => slots_update hslot
      cases succeeded with
      | true =>
        cases pending with
        | none => exact .of_set _ hentry rfl fun journal => (hgoals journal).symm
        | some header => exact .of_set _ hentry rfl fun journal => (hgoals journal).symm
      | false =>
        cases succeedGoal with
        | error err => exact .of_set _ hentry rfl fun journal => (hgoals journal).symm
        | ok =>
          cases pending with
          | none => exact .of_set _ hentry rfl fun journal => (hgoals journal).symm
          | some header => exact .of_set _ hentry rfl fun journal => (hgoals journal).symm

theorem actionServers_takeRequest (entity' : ℕ) (result : Take RequestHeader) :
    (w.takeRequest entity' result).actionServers = w.actionServers := by
  unfold takeRequest take
  split
  · rfl
  · split
    · rfl
    · rfl
    · split_ifs <;> rfl
    · dsimp only
      split <;> split_ifs <;> rfl

theorem actionServers_takeCancel (entity' : ℕ) (result : Take (RequestHeader × OperationId)) :
    (w.takeCancel entity' result).actionServers = w.actionServers := by
  unfold takeCancel take
  split
  · rfl
  · split
    · rfl
    · rfl
    · split_ifs <;> rfl
    · dsimp only
      split <;> split_ifs <;> rfl

theorem actionServers_sendServiceResponse (entity' : ℕ) (uuid : OperationId)
    (sent : Except RclError Unit) :
    (w.sendServiceResponse entity' uuid sent).1.actionServers = w.actionServers := by
  unfold sendServiceResponse
  split
  · rfl
  · split
    · rfl
    · dsimp only
      split <;> rfl

/-- **Nothing else reaches the goals**: an act of the worker leaves those of a server alone, begins
or ends the server, or acts on them as above. -/
theorem step_slots (w : Worker) (act : Act) (entity : ℕ) : Reaches w (w.step act) entity := by
  cases act with
  | takeRequest entity' result => exact .of_eq (actionServers_takeRequest entity' result)
  | takeGoal entity' result accepted => exact reaches_takeGoal result accepted
  | takeResultRequest entity' result succeedGoal =>
    exact reaches_takeResultRequest result succeedGoal
  | takeCancel entity' result => exact .of_eq (actionServers_takeCancel entity' result)
  | createService channelId sink => exact .of_eq rfl
  | createActionServer channelId sink =>
    have hslots : (w.createActionServer channelId sink).slots entity = _ := slots_of_set rfl
    split_ifs at hslots
    · exact .clear hslots
    · exact .frame hslots
  | sendServiceResponse entity' uuid sent =>
    exact .of_eq (actionServers_sendServiceResponse entity' uuid sent)
  | sendActionResult entity' uuid payload succeedGoal sendResult =>
    exact reaches_sendActionResult uuid payload succeedGoal sendResult
  | destroy entity' =>
    have hfind := Table.find?_remove w.actionServers entity' entity
    split_ifs at hfind
    · refine .clear ?_
      show (w.destroyEntity entity').slots entity = ∅
      rw [slots, destroyEntity, hfind]
    · refine .frame ?_
      show (w.destroyEntity entity').slots entity = w.slots entity
      rw [slots, slots, destroyEntity, hfind]
  | consumeRequest connection => exact .of_eq rfl
  | consumeAction connection => exact .of_eq rfl
  | leave connection => exact .of_eq rfl

/-- **The goals of a server run as above** in every run of the worker. -/
theorem slots_run (capacity : ℕ → ℕ) (acts : List Act) (entity : ℕ) : ∃ goalActs,
    (Acts.run step (initial capacity) acts).slots entity =
      (Acts.run Goals.step Goals.initial goalActs).slots := by
  refine Acts.invariant_run_of_step (fun w : Worker => ∃ goalActs, w.slots entity =
    (Acts.run Goals.step Goals.initial goalActs).slots) ?_ ⟨[], rfl⟩ acts
  rintro w act ⟨goalActs, hslots⟩
  cases step_slots w act entity with
  | frame h => exact ⟨goalActs, h.trans hslots⟩
  | clear h => exact ⟨[], h⟩
  | act a h =>
    refine ⟨goalActs ++ [a], ?_⟩
    rw [Acts.run_append, h (Acts.run Goals.step Goals.initial goalActs).journal, hslots]
    rfl

end Worker

end Ros
end Rclweb
