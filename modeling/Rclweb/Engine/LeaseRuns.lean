import Rclweb.Engine.Leases
import Rclweb.Session.Lifecycle

/-!
# Leases over whole runs

The moments of a run are linked, each starting from the engine the one before it left.  Along them
a lease that was emitted denotes the payload of its frame until it is released, and a buffer that
was kept is returned at the first end of a poll turn that finds no lease on it, and not before
(`leases_hold`).

The ids of buffers and leases do not wrap around but stay at the last one, which is then in use
more than once: after as many samples as there are lease ids, the next two are leased under one id
(`not_leases_hold_of_last`).
-/

namespace Rclweb
namespace ClientEngine

open Engine Turn Rclweb.Frame

variable {lib : Library} {wasm32 : Bool}

/-! ## Linked moments -/

/-- **Moments that follow one another**, from one engine to another. -/
inductive Linked (lib : Library) (wasm32 : Bool) :
    ClientEngine → List Moment → ClientEngine → Prop
  | nil (e : ClientEngine) : Linked lib wasm32 e [] e
  | cons {m : Moment} {ms : List Moment} {e : ClientEngine} : m.Moves lib wasm32 →
      Linked lib wasm32 m.after.engine ms e → Linked lib wasm32 m.before.engine (m :: ms) e

theorem Linked.append {ms ns : List Moment} {e e' e'' : ClientEngine}
    (h : Linked lib wasm32 e ms e') (h' : Linked lib wasm32 e' ns e'') :
    Linked lib wasm32 e (ms ++ ns) e'' := by
  induction h with
  | nil => exact h'
  | cons hmoves _ ih => exact .cons hmoves (ih h')

/-- A run is cut in two anywhere. -/
theorem Linked.split {ms ns : List Moment} {e e'' : ClientEngine}
    (h : Linked lib wasm32 e (ms ++ ns) e'') :
    ∃ e', Linked lib wasm32 e ms e' ∧ Linked lib wasm32 e' ns e'' := by
  induction ms generalizing e with
  | nil => exact ⟨e, .nil e, h⟩
  | cons m ms ih =>
    cases h with
    | cons hmoves hrest =>
      obtain ⟨e', hms, hns⟩ := ih hrest
      exact ⟨e', .cons hmoves hms, hns⟩

/-- A run is cut at a moment. -/
theorem Linked.split_cons {ms ns : List Moment} {m : Moment} {e e'' : ClientEngine}
    (h : Linked lib wasm32 e (ms ++ m :: ns) e'') :
    Linked lib wasm32 e ms m.before.engine ∧ m.Moves lib wasm32 ∧
      Linked lib wasm32 m.after.engine ns e'' := by
  obtain ⟨e', hms, hns⟩ := h.split
  cases hns with
  | cons hmoves hrest => exact ⟨hms, hmoves, hrest⟩

theorem linked_steps (t : Turn) (events : List HostEvent) :
    Linked lib wasm32 t.engine
      ((Turn.steps lib wasm32 t events).map fun p =>
        ⟨p.1, some p.2, handleEvent lib wasm32 p.1 p.2⟩)
      (handleEvents lib wasm32 t events).engine := by
  induction events generalizing t with
  | nil => exact .nil _
  | cons event events ih =>
    rw [Turn.steps, List.map_cons, handleEvents]
    refine Linked.cons (m := ⟨t, some event, handleEvent lib wasm32 t event⟩) rfl ?_
    by_cases hclosed : (handleEvent lib wasm32 t event).engine.closed = true
    · rw [if_pos hclosed, if_pos hclosed]
      exact .nil _
    · rw [if_neg hclosed, if_neg hclosed]
      exact ih _

theorem linked_moments (e : ClientEngine) (events : List HostEvent) :
    Linked lib wasm32 e (e.moments lib wasm32 events) (e.poll lib wasm32 events).1 := by
  rw [moments, poll]
  by_cases hclosed : e.closed = true
  · rw [if_pos hclosed, if_pos hclosed]
    exact .nil e
  · rw [if_neg hclosed, if_neg hclosed]
    refine Linked.append ?_ (Linked.cons rfl (.nil _))
    rw [steps, if_neg hclosed]
    exact linked_steps ⟨e, {}⟩ _

/-- **The moments of a run are linked.** -/
theorem linked_trace (e : ClientEngine) (polls : List (List HostEvent)) :
    Linked lib wasm32 e (trace lib wasm32 e polls) (e.run lib wasm32 polls) := by
  induction polls generalizing e with
  | nil => exact .nil e
  | cons events rest ih => exact (linked_moments e events).append (ih _)

theorem trace_append (e : ClientEngine) (polls rest : List (List HostEvent)) :
    trace lib wasm32 e (polls ++ rest) =
      trace lib wasm32 e polls ++ trace lib wasm32 (e.run lib wasm32 polls) rest := by
  induction polls generalizing e with
  | nil => rfl
  | cons events polls ih =>
    rw [List.cons_append, trace, ih, trace, List.append_assoc]
    rfl

/-! ## What the host sees -/

/-- **Host events only add** to the outcome of a poll turn, and return no buffer. -/
theorem grows_handleEvent (lib : Library) (wasm32 : Bool) (t : Turn) (event : HostEvent) :
    t.outcome.events <+: (handleEvent lib wasm32 t event).outcome.events ∧
      (handleEvent lib wasm32 t event).outcome.releasedBuffers = t.outcome.releasedBuffers := by
  have hidle {t u : Turn} (h : t.Idles u) : t.outcome.events <+: u.outcome.events ∧
      u.outcome.releasedBuffers = t.outcome.releasedBuffers := by
    obtain ⟨fresh, hfresh, -⟩ := h.events
    exact ⟨⟨fresh, hfresh.symm⟩, congrArg Shelf.released h.shelf⟩
  cases event with
  | timer nowMs => exact hidle (idles_handleTimer nowMs)
  | command cmd => exact hidle (idles_handleCommand lib cmd)
  | releaseLease leaseId =>
    have houtcome := t.outbound_releaseLease leaseId
    show _ <+: (t.releaseLease leaseId).outcome.events ∧
      (t.releaseLease leaseId).outcome.releasedBuffers = _
    rw [houtcome]
    exact ⟨List.prefix_refl _, rfl⟩
  | wsBytes bufferId bytes =>
    have houtcome : (t.retain bufferId bytes).2.outcome = t.outcome := by
      unfold retain
      split_ifs <;> rfl
    have hsteps {u : Turn} (h : (t.retain bufferId bytes).2.outcome.events <+: u.outcome.events ∧
        u.outcome.releasedBuffers = (t.retain bufferId bytes).2.outcome.releasedBuffers) :
        t.outcome.events <+: u.outcome.events ∧
          u.outcome.releasedBuffers = t.outcome.releasedBuffers := by
      rwa [houtcome] at h
    unfold handleEvent handleWsBytes
    dsimp only
    split_ifs with hplane
    · refine hsteps (u := handleFrame lib wasm32 _ _ _) ?_
      rcases handleFrame_cases lib wasm32 (t.retain bufferId bytes).1 bytes hplane with
        h | ⟨frame, payload, h⟩
      · exact hidle h
      · obtain ⟨event, hevents, -⟩ := h.events
        exact ⟨⟨[event], hevents.symm⟩, congrArg Shelf.released h.shelf⟩
    · exact hsteps (u := handleBootstrap _ _) (hidle (idles_handleBootstrap bytes))

/-- What was added in two stretches. -/
theorem leasesSince_trans {t u v : Turn} (h : t.outcome.events <+: u.outcome.events)
    (h' : u.outcome.events <+: v.outcome.events) :
    leasesSince t v = leasesSince t u ++ leasesSince u v := by
  obtain ⟨xs, hxs⟩ := h
  obtain ⟨ys, hys⟩ := h'
  rw [leasesSince, leasesSince, leasesSince, ← hys, ← hxs, List.append_assoc, List.drop_left,
    List.drop_left, ← List.append_assoc, List.drop_left, List.filterMap_append]

theorem leases_steps (t : Turn) (events : List HostEvent) :
    t.outcome.events <+: (handleEvents lib wasm32 t events).outcome.events ∧
      (handleEvents lib wasm32 t events).outcome.releasedBuffers = t.outcome.releasedBuffers ∧
      (Turn.steps lib wasm32 t events).flatMap (fun p =>
        leasesSince p.1 (handleEvent lib wasm32 p.1 p.2)) =
          leasesSince t (handleEvents lib wasm32 t events) ∧
      (Turn.steps lib wasm32 t events).flatMap (fun p =>
        releasedSince p.1 (handleEvent lib wasm32 p.1 p.2)) = [] := by
  induction events generalizing t with
  | nil =>
    refine ⟨List.prefix_refl _, rfl, ?_, rfl⟩
    rw [Turn.steps, handleEvents, leasesSince, List.drop_length]
    rfl
  | cons event events ih =>
    obtain ⟨hgrows, hreleased⟩ := grows_handleEvent lib wasm32 t event
    rw [Turn.steps, handleEvents, List.flatMap_cons, List.flatMap_cons,
      releasedSince_of_eq hreleased, List.nil_append]
    by_cases hclosed : (handleEvent lib wasm32 t event).engine.closed = true
    · rw [if_pos hclosed, if_pos hclosed]
      exact ⟨hgrows, hreleased, List.append_nil _, rfl⟩
    · rw [if_neg hclosed, if_neg hclosed]
      obtain ⟨hrest, hreleased', hleases, hnil⟩ := ih (handleEvent lib wasm32 t event)
      refine ⟨hgrows.trans hrest, hreleased'.trans hreleased, ?_, hnil⟩
      rw [hleases, leasesSince_trans hgrows hrest]

/-- **The host sees the leases and returned buffers of the moments**, in their order. -/
theorem outcome_poll (lib : Library) (wasm32 : Bool) (e : ClientEngine)
    (events : List HostEvent) :
    (e.poll lib wasm32 events).2.events.filterMap AppEvent.lease? =
        (e.moments lib wasm32 events).flatMap Moment.leases ∧
      (e.poll lib wasm32 events).2.releasedBuffers.map (·.bufferId) =
        (e.moments lib wasm32 events).flatMap Moment.released := by
  rw [moments, poll]
  by_cases hclosed : e.closed = true
  · rw [if_pos hclosed, if_pos hclosed]
    exact ⟨rfl, rfl⟩
  · rw [if_neg hclosed, if_neg hclosed, steps, if_neg hclosed]
    obtain ⟨-, hreleased, hleases, hnil⟩ :=
      @leases_steps lib wasm32 ⟨e, {}⟩ (events.take maxHostEventsPerPoll)
    dsimp only
    rw [List.flatMap_append, List.flatMap_append, List.flatMap_map, List.flatMap_map]
    generalize handleEvents lib wasm32 ⟨e, {}⟩ (events.take maxHostEventsPerPoll) = t at *
    have hsweep : leasesSince t t.sweepReleased = [] := by
      show (t.outcome.events.drop t.outcome.events.length).filterMap _ = []
      rw [List.drop_length]
      rfl
    constructor
    · show t.outcome.events.filterMap _ = _ ++ (leasesSince t t.sweepReleased ++ [])
      rw [hsweep, List.append_nil]
      exact (List.append_nil _).symm.trans (congrArg (· ++ []) hleases.symm)
    · show (t.outcome.releasedBuffers ++ idleBuffers t.engine).map _ =
        _ ++ (releasedSince t t.sweepReleased ++ [])
      rw [releasedSince_sweepReleased, hreleased, List.append_nil]
      exact (congrArg (· ++ _) hnil).symm

/-! ## What holds along linked moments -/

variable {ms : List Moment} {e e' : ClientEngine}

/-- **Engines stay tidy** while there are ids. -/
theorem Tidy.linked (he : e.Tidy) (h : Linked lib wasm32 e ms e')
    (hids : ∀ m ∈ ms, m.hasIds = true) : e'.Tidy := by
  induction h with
  | nil => exact he
  | cons hmoves _ ih =>
    obtain ⟨acts, hdoes⟩ := does lib wasm32 he hmoves (hids _ List.mem_cons_self)
    exact ih hdoes.tidy fun m hm => hids m (List.mem_cons_of_mem _ hm)

/-- **A lease holds until it is released**: its id is not emitted again, and its buffer is not
returned. -/
theorem holds_linked {leaseId : UInt32} {lease : Lease} {bytes : List UInt8} (he : e.Tidy)
    (hholds : Lending.Holds Lease.bufferId e.store leaseId lease bytes)
    (h : Linked lib wasm32 e ms e') (hids : ∀ m ∈ ms, m.hasIds = true)
    (hkept : ∀ m ∈ ms, m.event ≠ some (.releaseLease leaseId)) :
    ∀ m ∈ ms, Lending.Holds Lease.bufferId m.after.engine.store leaseId lease bytes ∧
      leaseId ∉ m.leases ∧ lease.bufferId ∉ m.released := by
  induction h with
  | nil => exact fun m hm => absurd hm List.not_mem_nil
  | @cons m ms e' hmoves hrest ih =>
    obtain ⟨acts, hdoes⟩ := does lib wasm32 he hmoves (hids _ List.mem_cons_self)
    have hgiveBack : .giveBack leaseId ∉ acts := fun hmem =>
      hkept m List.mem_cons_self (hdoes.giveBack leaseId hmem)
    obtain ⟨hafter, hlend⟩ := hholds.steps he.consistent hdoes.steps hgiveBack
    have hreturns := hholds.not_returns he.consistent
    intro x hx
    rcases List.mem_cons.mp hx with rfl | hx
    · refine ⟨hafter, fun hleases => ?_, ?_⟩
      · obtain ⟨q, hq⟩ := hdoes.leases leaseId hleases
        exact hlend q hq
      · rw [← List.count_eq_zero, hdoes.released, if_neg]
        rintro ⟨-, hreturned⟩
        rw [hreturns] at hreturned
        contradiction
    · exact ih hdoes.tidy hafter (fun m hm => hids m (List.mem_cons_of_mem _ hm))
        (fun m hm => hkept m (List.mem_cons_of_mem _ hm)) x hx

/-- The end of a poll turn takes the buffers it returns. -/
theorem buffer_of_none {m : Moment} (hm : m.before.engine.Tidy) (hmoves : m.Moves lib wasm32)
    (hevent : m.event = none) (id : UInt32) :
    m.after.engine.store.buffer id =
      if m.before.engine.store.returns id then none else m.before.engine.store.buffer id := by
  have hafter : m.after = m.before.sweepReleased := by
    unfold Moment.Moves at hmoves
    rwa [hevent] at hmoves
  rw [hafter, store_sweepReleased hm]
  show (m.before.engine.store.buffer id).filter _ = _
  rw [Lending.Store.returns]
  cases m.before.engine.store.buffer id with
  | none => rfl
  | some p => by_cases hcount : p.2 = 0 <;> simp [Option.filter, hcount]

theorem mem_released_iff {m : Moment} (hm : m.before.engine.Tidy) (hmoves : m.Moves lib wasm32)
    (hids : m.hasIds = true) (id : UInt32) :
    id ∈ m.released ↔ m.event = none ∧ m.before.engine.store.returns id = true := by
  obtain ⟨acts, hdoes⟩ := does lib wasm32 hm hmoves hids
  rw [← List.count_pos_iff, hdoes.released]
  split_ifs with h
  · exact iff_of_true Nat.one_pos h
  · exact iff_of_false (Nat.lt_irrefl 0) h

/-- A buffer stays until it is returned. -/
theorem isSome_linked {id : UInt32} (he : e.Tidy) (hid : (e.store.buffer id).isSome = true)
    (h : Linked lib wasm32 e ms e') (hids : ∀ m ∈ ms, m.hasIds = true)
    (hkept : ∀ m ∈ ms, id ∉ m.released) : (e'.store.buffer id).isSome = true := by
  induction h with
  | nil => exact hid
  | @cons m ms e' hmoves hrest ih =>
    have hfirst := hids m List.mem_cons_self
    obtain ⟨acts, hdoes⟩ := does lib wasm32 he hmoves hfirst
    refine ih hdoes.tidy ?_ (fun m hm => hids m (List.mem_cons_of_mem _ hm))
      (fun m hm => hkept m (List.mem_cons_of_mem _ hm))
    by_cases hevent : m.event = none
    · have hnot := hkept m List.mem_cons_self
      rw [mem_released_iff he hmoves hfirst, not_and] at hnot
      rw [buffer_of_none he hmoves hevent, if_neg (hnot hevent)]
      exact hid
    · exact Lending.isSome_steps hdoes.steps hid fun hsweep => hevent (hdoes.sweep hsweep)

/-- A buffer that is not there comes only with new bytes. -/
theorem none_linked {id : UInt32} (he : e.Tidy) (hid : e.store.buffer id = none)
    (h : Linked lib wasm32 e ms e') (hids : ∀ m ∈ ms, m.hasIds = true)
    (hnew : ∀ m ∈ ms, ∀ bytes, m.event = some (.wsBytes 0 bytes) →
      m.before.engine.nextBufferId ≠ id) : e'.store.buffer id = none := by
  induction h with
  | nil => exact hid
  | @cons m ms e' hmoves hrest ih =>
    obtain ⟨acts, hdoes⟩ := does lib wasm32 he hmoves (hids m List.mem_cons_self)
    refine ih hdoes.tidy ?_ (fun m hm => hids m (List.mem_cons_of_mem _ hm))
      (fun m hm => hnew m (List.mem_cons_of_mem _ hm))
    refine Lending.none_steps hdoes.steps hid fun bytes hmem => ?_
    obtain ⟨hevent, rfl⟩ := hdoes.retain id bytes hmem
    exact hnew m List.mem_cons_self bytes hevent rfl

/-! ## What a lease denotes -/

/-- **A lease denotes the payload of a frame**: its bytes or, of a frame whose payload stayed with
the host, its length. -/
def Denotes (e : ClientEngine) (leaseId : UInt32) (frame : DecodedFrame) : Prop :=
  ∃ payload, frame.payload = .application payload ∧
    (payload.length = frame.payloadLen.toNat ∧ e.leasePayloadView leaseId = some payload ∧
        e.leasePayloadAbi leaseId = .view payload ∨
      payload = [] ∧ 0 < frame.payloadLen.toNat ∧ e.leasePayloadView leaseId = none ∧
        e.leasePayloadAbi leaseId = .host frame.payloadLen)

/-- The leases on a buffer. -/
def leasesOn (e : ClientEngine) (id : UInt32) : ℕ := e.leases.count fun lease => lease.bufferId == id

/-- **A lease that holds denotes its payload.** -/
theorem denotes_of_holds {leaseId id : UInt32} {frame : DecodedFrame} {bytes : List UInt8}
    (hparse : parseFrameDeclared bytes (retainDeclaredLen bytes) defaultOptions = .ok frame)
    (hopcode : frame.opcode ≠ opcodeControlCbor)
    (hholds : Lending.Holds Lease.bufferId e.store leaseId
      ⟨id, payloadStart frame, frame.payloadLen.toNat⟩ bytes) : e.Denotes leaseId frame := by
  have hlease : e.leases.find? leaseId = some ⟨id, payloadStart frame, frame.payloadLen.toNat⟩ :=
    hholds.loan
  obtain ⟨buf, hbuf, hbytes⟩ : ∃ buf, e.retained.find? id = some buf ∧ buf.bytes = bytes := by
    have hbuffer : ((e.retained.find? id).map fun buf =>
        (buf.bytes, buf.leaseRefs.toNat)).map Prod.fst = some bytes := hholds.buffer
    rw [Option.map_map] at hbuffer
    exact Option.map_eq_some_iff.mp hbuffer
  have hview : e.leasePayloadView leaseId =
      if payloadStart frame + frame.payloadLen.toNat ≤ bytes.length then
        some ((bytes.drop (payloadStart frame)).take frame.payloadLen.toNat)
      else none := by
    rw [leasePayloadView, hlease]
    dsimp only
    rw [hbuf, ← hbytes]
  have habi : e.leasePayloadAbi leaseId =
      (e.leasePayloadView leaseId).elim (.host frame.payloadLen) .view := by
    rw [leasePayloadAbi, hlease]
    cases e.leasePayloadView leaseId with
    | some view => rfl
    | none => exact congrArg PayloadAbi.host UInt32.ofNat_toNat
  rcases payload_of_parseDeclared hparse hopcode with ⟨hlength, hpayload⟩ | ⟨hlength, hpos, hpayload⟩
  · rw [if_pos hlength.ge] at hview
    rw [hview] at habi
    refine ⟨_, hpayload, .inl ⟨?_, hview, habi⟩⟩
    rw [List.length_take, List.length_drop, hlength, Nat.add_sub_cancel_left, Nat.min_self]
  · rw [if_neg (by omega)] at hview
    rw [hview] at habi
    exact ⟨[], hpayload, .inr ⟨rfl, hpos, hview, habi⟩⟩

/-! ## Whole runs -/

/-- **Where a lease comes from**, and that it holds right after. -/
theorem holds_of_mem_leases {m : Moment} (hm : m.before.engine.Tidy)
    (hmoves : m.Moves lib wasm32) (hids : m.hasIds = true) {leaseId : UInt32}
    (hleases : leaseId ∈ m.leases) :
    ∃ bytes frame, m.event = some (.wsBytes 0 bytes) ∧
      parseFrameDeclared bytes (retainDeclaredLen bytes) defaultOptions = .ok frame ∧
      frame.opcode ≠ opcodeControlCbor ∧ m.leases = [leaseId] ∧
      Lending.Holds Lease.bufferId m.after.engine.store leaseId
        ⟨m.before.engine.nextBufferId, payloadStart frame, frame.payloadLen.toNat⟩ bytes := by
  have hquiet {acts} (hdoes : Does m acts) (hacts : ∀ id lease, .lend id lease ∉ acts) : False := by
    obtain ⟨lease, hmem⟩ := hdoes.leases leaseId hleases
    exact hacts leaseId lease hmem
  unfold Moment.Moves at hmoves
  unfold Moment.hasIds at hids
  cases hevent : m.event with
  | none =>
    rw [hevent] at hmoves
    exact (hquiet (does_sweep hm hevent hmoves) (by simp)).elim
  | some event =>
    rw [hevent] at hmoves hids
    have hsome : m.event ≠ none := by simp [hevent]
    cases event with
    | wsBytes bufferId bytes =>
      rw [Bool.and_eq_true, beq_iff_eq] at hids
      obtain ⟨rfl, hids⟩ := hids
      rcases does_wsBytes lib wasm32 hm hevent hmoves hids with
        ⟨-, hnil⟩ | ⟨frame, _, hparse, -, hopcode, hdoes, hone⟩
      · rw [hnil] at hleases
        exact absurd hleases List.not_mem_nil
      · rw [hone, List.mem_singleton] at hleases
        subst hleases
        exact ⟨bytes, frame, rfl, hparse, hopcode, hone, Lending.holds_of_retain hdoes.steps⟩
    | timer nowMs =>
      exact (hquiet (does_of_idles hm (hmoves ▸ idles_handleTimer nowMs) hsome) (by simp)).elim
    | command cmd =>
      exact (hquiet (does_of_idles hm (hmoves ▸ idles_handleCommand lib cmd) hsome)
        (by simp)).elim
    | releaseLease id => exact (hquiet (does_releaseLease hm hevent hmoves) (by simp)).elim

/-- Bytes are in a buffer right after they came. -/
theorem isSome_of_wsBytes {m : Moment} (hm : m.before.engine.Tidy) (hmoves : m.Moves lib wasm32)
    (hids : m.hasIds = true) {bytes : List UInt8} (hevent : m.event = some (.wsBytes 0 bytes)) :
    (m.after.engine.store.buffer m.before.engine.nextBufferId).isSome = true := by
  unfold Moment.Moves at hmoves
  unfold Moment.hasIds at hids
  rw [hevent] at hmoves hids
  rw [Bool.and_eq_true] at hids
  have hstays {acts s} (h : Lending.Steps Lease.bufferId m.before.engine.store
      (keeping m.before bytes :: acts) s) (hacts : .sweep ∉ acts) :
      (s.buffer m.before.engine.nextBufferId).isSome = true := by
    cases h with
    | cons hretain hrest =>
      refine Lending.isSome_steps hrest ?_ hacts
      cases hretain
      show (Function.update m.before.engine.store.buffer m.before.engine.nextBufferId
        (some (bytes, 0)) m.before.engine.nextBufferId).isSome = true
      rw [Function.update_self]
      rfl
  rcases does_wsBytes lib wasm32 hm hevent hmoves hids.2 with
    ⟨hdoes, -⟩ | ⟨frame, _, -, -, -, hdoes, -⟩
  · exact hstays hdoes.steps (by simp)
  · exact hstays hdoes.steps (by simp)

/-- **In every run whose ids are not handed out twice, leases hold.**

A lease that inbound bytes are emitted with denotes their payload until it is released: its id is
not emitted again, and its buffer is not returned.  A buffer with inbound bytes that was not
returned yet is returned at the end of a poll turn at which there is no lease on it, once, and at
no other moment; and it is not returned again unless the id is used for other bytes. -/
theorem leases_hold (lib : Library) (wasm32 : Bool) (polls : List (List HostEvent))
    (hids : ∀ m ∈ trace lib wasm32 {} polls, m.hasIds = true) :
    (∀ (front : List Moment) (m : Moment) (mid back : List Moment) (leaseId : UInt32),
      trace lib wasm32 {} polls = front ++ m :: (mid ++ back) →
      leaseId ∈ m.leases → (∀ x ∈ mid, x.event ≠ some (.releaseLease leaseId)) →
      ∃ bytes frame, m.event = some (.wsBytes 0 bytes) ∧
        parseFrameDeclared bytes (retainDeclaredLen bytes) defaultOptions = .ok frame ∧
        m.leases = [leaseId] ∧ (∀ x ∈ mid, leaseId ∉ x.leases) ∧
        ∀ x ∈ m :: mid, x.after.engine.Denotes leaseId frame ∧
          x.after.engine.leaseBufferId leaseId = some m.before.engine.nextBufferId ∧
          m.before.engine.nextBufferId ∉ x.released) ∧
    (∀ (front : List Moment) (m : Moment) (mid : List Moment) (m' : Moment) (back : List Moment)
        (bytes : List UInt8),
      trace lib wasm32 {} polls = front ++ m :: (mid ++ m' :: back) →
      m.event = some (.wsBytes 0 bytes) →
      (∀ x ∈ mid, m.before.engine.nextBufferId ∉ x.released) →
      m'.released.count m.before.engine.nextBufferId =
        if m'.event = none ∧ m'.before.engine.leasesOn m.before.engine.nextBufferId = 0 then 1
        else 0) ∧
    ∀ (front : List Moment) (m : Moment) (mid : List Moment) (m' : Moment) (back : List Moment)
        (id : UInt32),
      trace lib wasm32 {} polls = front ++ m :: (mid ++ m' :: back) → id ∈ m.released →
      (∀ x ∈ mid, ∀ bytes, x.event = some (.wsBytes 0 bytes) →
        x.before.engine.nextBufferId ≠ id) → id ∉ m'.released := by
  have hlinked := @linked_trace lib wasm32 {} polls
  have hcut {front m rest} (htrace : trace lib wasm32 {} polls = front ++ m :: rest) :
      m.before.engine.Tidy ∧ m.after.engine.Tidy ∧ m.Moves lib wasm32 ∧ m.hasIds = true ∧
        (∀ x ∈ rest, x.hasIds = true) ∧
        Linked lib wasm32 m.after.engine rest (run lib wasm32 {} polls) := by
    rw [htrace] at hlinked hids
    obtain ⟨hfront, hmoves, hrest⟩ := hlinked.split_cons
    have hm := tidy_new.linked hfront fun x hx => hids x (List.mem_append_left _ hx)
    have hone := hids m (List.mem_append_right _ List.mem_cons_self)
    obtain ⟨acts, hdoes⟩ := does lib wasm32 hm hmoves hone
    exact ⟨hm, hdoes.tidy, hmoves, hone,
      fun x hx => hids x (List.mem_append_right _ (List.mem_cons_of_mem _ hx)), hrest⟩
  refine ⟨fun front m mid back leaseId htrace hleases hkept => ?_,
    fun front m mid m' back bytes htrace hevent hkept => ?_,
    fun front m mid m' back id htrace hreleased hnew => ?_⟩
  · obtain ⟨hm, hafter, hmoves, hone, hall, hrest⟩ := hcut htrace
    obtain ⟨e', hmid, -⟩ := hrest.split
    obtain ⟨bytes, frame, hevent, hparse, hopcode, hleases, hholds⟩ :=
      holds_of_mem_leases hm hmoves hone hleases
    have hlater := holds_linked hafter hholds hmid
      (fun x hx => hall x (List.mem_append_left _ hx)) hkept
    have hbuffer {e : ClientEngine} (h : Lending.Holds Lease.bufferId e.store leaseId
        ⟨m.before.engine.nextBufferId, payloadStart frame, frame.payloadLen.toNat⟩ bytes) :
        e.leaseBufferId leaseId = some m.before.engine.nextBufferId :=
      congrArg (Option.map Lease.bufferId) h.loan
    refine ⟨bytes, frame, hevent, hparse, hleases, fun x hx => (hlater x hx).2.1, fun x hx => ?_⟩
    rcases List.mem_cons.mp hx with rfl | hx
    · refine ⟨denotes_of_holds hparse hopcode hholds, hbuffer hholds, fun hmem => ?_⟩
      have hnone := ((mem_released_iff hm hmoves hone _).mp hmem).1
      rw [hevent] at hnone
      cases hnone
    · obtain ⟨hthere, -, hnot⟩ := hlater x hx
      exact ⟨denotes_of_holds hparse hopcode hthere, hbuffer hthere, hnot⟩
  · obtain ⟨hm, hafter, hmoves, hone, hall, hrest⟩ := hcut htrace
    obtain ⟨hmid, hmoves', -⟩ := hrest.split_cons
    have hmids : ∀ x ∈ mid, x.hasIds = true := fun x hx => hall x (List.mem_append_left _ hx)
    have hthere := isSome_linked hafter (isSome_of_wsBytes hm hmoves hone hevent) hmid hmids hkept
    have hm' := hafter.linked hmid hmids
    obtain ⟨acts, hdoes⟩ := does lib wasm32 hm' hmoves'
      (hall m' (List.mem_append_right _ List.mem_cons_self))
    have hreturns := Lending.returns_iff (b := m.before.engine.nextBufferId) hm'.consistent
    rw [hthere, eq_self, true_and] at hreturns
    rw [hdoes.released]
    exact if_congr (and_congr_right fun _ => hreturns) rfl rfl
  · obtain ⟨hm, hafter, hmoves, hone, hall, hrest⟩ := hcut htrace
    obtain ⟨hmid, hmoves', -⟩ := hrest.split_cons
    have hmids : ∀ x ∈ mid, x.hasIds = true := fun x hx => hall x (List.mem_append_left _ hx)
    obtain ⟨hnone, hreturns⟩ := (mem_released_iff hm hmoves hone id).mp hreleased
    have hgone : m.after.engine.store.buffer id = none := by
      rw [buffer_of_none hm hmoves hnone, if_pos hreturns]
    have hstill := none_linked hafter hgone hmid hmids hnew
    rw [mem_released_iff (hafter.linked hmid hmids) hmoves'
      (hall m' (List.mem_append_right _ List.mem_cons_self))]
    rintro ⟨-, hreturned⟩
    rw [Lending.Store.returns, hstill] at hreturned
    contradiction

/-! ## Samples -/

/-- Whether bytes are a whole sample frame. -/
def isSample (bytes : List UInt8) : Bool :=
  match parseFrameDeclared bytes (retainDeclaredLen bytes) defaultOptions with
  | .error _ => false
  | .ok frame =>
    frame.opcode == opcodeRosSample && !payloadOutOfBounds frame (retainDeclaredLen bytes)

/-- **An engine that takes a sample**, and has nothing leased. -/
structure Flowing (e : ClientEngine) (bytes : List UInt8) : Prop where
  closed : e.closed = false
  takes : leasesPayload e bytes = true
  leases : ∀ id, e.leases.find? id = none
  retained : ∀ id, e.retained.find? id = none

variable {bytes : List UInt8}

/-- A sample leaves the session as it is. -/
theorem session_ingestFrame_sample {s : Session} {frame : DecodedFrame}
    (h : frame.opcode = opcodeRosSample) : (s.ingestFrame frame).2 = s := by
  show Session.mk (Transition.applyFrame s.inner frame s.inner.role.peer).2 = s
  rw [Transition.applyFrame]
  split_ifs with h1 h2 h3
  · rfl
  · rfl
  · rw [h] at h3
    exact absurd h3 (by decide)
  · rw [Transition.state_applyRosSample]

/-- **What a sample does**: its payload is leased, and nothing else changes. -/
theorem handleWsBytes_sample (lib : Library) (wasm32 : Bool) {t : Turn}
    (hsample : isSample bytes = true) (htakes : leasesPayload t.engine bytes = true) :
    ∃ frame event, handleWsBytes lib wasm32 t 0 bytes =
        ((((t.retain 0 bytes).2.issueLease t.engine.nextBufferId frame).2).emit event).modify
          (noteDone t.engine.nextBufferId) ∧
      event.lease? = some t.engine.nextLeaseId := by
  rw [leasesPayload, Bool.and_eq_true] at htakes
  obtain ⟨hplane, htakes⟩ := htakes
  rw [isSample] at hsample
  split at hsample
  · contradiction
  next frame hparse =>
  rw [hparse] at htakes
  dsimp only at htakes
  rw [Bool.and_eq_true, beq_iff_eq, Bool.not_eq_true'] at hsample
  obtain ⟨hopcode, hin⟩ := hsample
  have hcontrol : frame.opcode ≠ opcodeControlCbor := by
    rw [hopcode]
    decide
  have hsession := session_ingestFrame_sample (s := t.engine.session) hopcode
  cases hingest : t.engine.session.ingestFrame frame with
  | mk result session =>
  rw [hingest] at htakes hsession
  cases result with
  | error err => exact absurd htakes Bool.noConfusion
  | ok effects =>
  obtain rfl : session = t.engine.session := hsession
  obtain ⟨payload, hpayload⟩ : ∃ payload, frame.payload = .application payload := by
    rcases payload_of_parseDeclared hparse hcontrol with ⟨-, h⟩ | ⟨-, -, h⟩
    · exact ⟨_, h⟩
    · exact ⟨_, h⟩
  refine ⟨frame, .sample frame.channelId t.engine.nextLeaseId frame.sequence frame.sourceTimeNs
    (sampleText lib wasm32 (t.retain 0 bytes).2 frame payload), ?_, rfl⟩
  have hplane' : (t.retain 0 bytes).2.engine.session.phase.inSelectedPlane = true := hplane
  have hingest' : (t.retain 0 bytes).2.engine.session.ingestFrame frame =
      (.ok effects, t.engine.session) := hingest
  unfold handleWsBytes
  dsimp only
  rw [if_pos hplane', handleFrame, hparse]
  dsimp only
  rw [hingest']
  dsimp only
  rw [if_neg hcontrol, if_pos hopcode, handleSample, hpayload]
  dsimp only
  rw [if_neg (by rw [hin]; exact Bool.false_ne_true)]
  rfl

/-- The engine after a sample, and the lease that shows. -/
theorem after_sample (lib : Library) (wasm32 : Bool) {t : Turn} (hsample : isSample bytes = true)
    (htakes : leasesPayload t.engine bytes = true) :
    (handleWsBytes lib wasm32 t 0 bytes).engine.session = t.engine.session ∧
      (handleWsBytes lib wasm32 t 0 bytes).engine.closed = t.engine.closed ∧
      (handleWsBytes lib wasm32 t 0 bytes).engine.nextLeaseId =
        saturatingSucc32 t.engine.nextLeaseId ∧
      (∃ lease, (handleWsBytes lib wasm32 t 0 bytes).engine.leases =
        t.engine.leases.set t.engine.nextLeaseId lease) ∧
      leasesSince t (handleWsBytes lib wasm32 t 0 bytes) = [t.engine.nextLeaseId] := by
  obtain ⟨frame, event, heq, hevent⟩ := handleWsBytes_sample lib wasm32 hsample htakes
  rw [heq]
  refine ⟨rfl, rfl, rfl, ⟨_, rfl⟩, ?_⟩
  show ((t.outcome.events ++ [event]).drop t.outcome.events.length).filterMap _ = _
  rw [List.drop_left, List.filterMap_cons, hevent]
  rfl

/-- A session takes a sample at any time of a run or never. -/
theorem leasesPayload_of_session {e e' : ClientEngine} (h : e'.session = e.session) :
    leasesPayload e' bytes = leasesPayload e bytes := by
  rw [leasesPayload, h]
  rfl

theorem Flowing.tidy (h : Flowing e bytes) : e.Tidy where
  consistent := by
    refine ⟨fun id x n hid => ?_, fun id lease hid => ?_⟩
    · have hnone : e.store.buffer id = none := by
        show (e.retained.find? id).map _ = none
        rw [h.retained id]
        rfl
      rw [hnone] at hid
      cases hid
    · have hnone : e.store.loans.find? id = none := h.leases id
      rw [hnone] at hid
      cases hid
  ingested id buf hid := by
    rw [h.retained id] at hid
    cases hid
  freshBuffer id hid := by
    rw [h.retained id] at hid
    cases hid
  freshLease id hid := by
    rw [h.leases id] at hid
    cases hid

theorem Flowing.hasIds (h : Flowing e bytes) : e.hasIds bytes = true := by
  rw [ClientEngine.hasIds, h.retained, h.leases]
  simp

/-- Nothing is left of the buffers when nothing is leased. -/
theorem find?_sweepReleased_of_none {t : Turn} (ht : t.engine.Tidy)
    (hnone : ∀ id, t.engine.leases.find? id = none) (id : UInt32) :
    t.sweepReleased.engine.retained.find? id = none := by
  rw [retained_sweepReleased]
  split_ifs with hid
  · rfl
  · rw [mem_idleBuffers ht, Lending.returns_iff ht.consistent, not_and] at hid
    by_contra hsome
    refine hid ?_ (Table.count_eq_zero fun leaseId lease hlease => ?_)
    · show ((t.engine.retained.find? id).map _).isSome = true
      rw [Option.isSome_map]
      exact Option.isSome_iff_ne_none.mpr hsome
    · have hlease' : t.engine.leases.find? leaseId = some lease := hlease
      rw [hnone leaseId] at hlease'
      cases hlease'

theorem poll_pair {a b : HostEvent} (hopen : e.closed = false)
    (hopen' : (handleEvent lib wasm32 ⟨e, {}⟩ a).engine.closed = false) :
    (e.poll lib wasm32 [a, b]).1 =
      (handleEvent lib wasm32 (handleEvent lib wasm32 ⟨e, {}⟩ a) b).sweepReleased.engine := by
  rw [ClientEngine.poll, hopen, if_neg Bool.false_ne_true]
  show (handleEvents lib wasm32 ⟨e, {}⟩ [a, b]).sweepReleased.engine = _
  rw [handleEvents, hopen', if_neg Bool.false_ne_true, handleEvents]
  split_ifs
  · rfl
  · rfl

/-- **A sample whose lease is released at once** leaves no trace but the next ids. -/
theorem Flowing.poll (lib : Library) (wasm32 : Bool) (h : Flowing e bytes)
    (hsample : isSample bytes = true) :
    Flowing (e.poll lib wasm32 [.wsBytes 0 bytes, .releaseLease e.nextLeaseId]).1 bytes ∧
      (e.poll lib wasm32 [.wsBytes 0 bytes, .releaseLease e.nextLeaseId]).1.nextLeaseId =
        saturatingSucc32 e.nextLeaseId := by
  obtain ⟨hsession, hclosed, hnext, ⟨lease, hleases⟩, -⟩ :=
    after_sample lib wasm32 (t := ⟨e, {}⟩) hsample h.takes
  obtain ⟨acts, hdoes⟩ := does lib wasm32
    (m := ⟨⟨e, {}⟩, some (.wsBytes 0 bytes), handleWsBytes lib wasm32 ⟨e, {}⟩ 0 bytes⟩)
    h.tidy rfl h.hasIds
  have htidy : (handleWsBytes lib wasm32 ⟨e, {}⟩ 0 bytes).engine.Tidy := hdoes.tidy
  have hpoll : (e.poll lib wasm32 [.wsBytes 0 bytes, .releaseLease e.nextLeaseId]).1 =
      ((handleWsBytes lib wasm32 ⟨e, {}⟩ 0 bytes).releaseLease e.nextLeaseId).sweepReleased.engine :=
    poll_pair h.closed (hclosed.trans h.closed)
  rw [hpoll]
  show Flowing ((handleWsBytes lib wasm32 ⟨e, {}⟩ 0 bytes).releaseLease
    e.nextLeaseId).sweepReleased.engine bytes ∧
    ((handleWsBytes lib wasm32 ⟨e, {}⟩ 0 bytes).releaseLease
      e.nextLeaseId).sweepReleased.engine.nextLeaseId = _
  generalize handleWsBytes lib wasm32 ⟨e, {}⟩ 0 bytes = u at *
  have hlease : u.engine.leases.find? e.nextLeaseId = some lease := by
    rw [hleases]
    exact Table.find?_set_self ..
  obtain ⟨hsession', hclosed', hnext', hleases'⟩ :
      (u.releaseLease e.nextLeaseId).engine.session = u.engine.session ∧
        (u.releaseLease e.nextLeaseId).engine.closed = u.engine.closed ∧
        (u.releaseLease e.nextLeaseId).engine.nextLeaseId = u.engine.nextLeaseId ∧
        (u.releaseLease e.nextLeaseId).engine.leases = u.engine.leases.remove e.nextLeaseId := by
    rw [releaseLease, hlease]
    exact ⟨rfl, rfl, rfl, rfl⟩
  have hlast := tidy_releaseLease htidy e.nextLeaseId
  generalize u.releaseLease e.nextLeaseId = v at *
  have hnone (id : UInt32) : v.engine.leases.find? id = none := by
    rw [hleases', hleases, Table.find?_remove]
    split_ifs with hid
    · rfl
    · rw [Table.find?_set, if_neg hid]
      exact h.leases id
  refine ⟨⟨hclosed'.trans (hclosed.trans h.closed), ?_, hnone,
    find?_sweepReleased_of_none hlast hnone⟩, hnext'.trans hnext⟩
  exact (leasesPayload_of_session (hsession'.trans hsession)).trans h.takes

/-- Whether the host leaves the ids of buffers to the engine. -/
def ownIds (events : List HostEvent) : Bool :=
  events.all fun event =>
    match event with
    | .wsBytes bufferId _ => bufferId == 0
    | _ => true

/-- **Any number of samples** can come and be released. -/
theorem Flowing.run (lib : Library) (wasm32 : Bool) (hsample : isSample bytes = true) (n : ℕ)
    {e : ClientEngine} (h : Flowing e bytes) (hn : e.nextLeaseId.toNat + n ≤ 0xffffffff) :
    ∃ polls, polls.all ownIds = true ∧ Flowing (e.run lib wasm32 polls) bytes ∧
      (e.run lib wasm32 polls).nextLeaseId.toNat = e.nextLeaseId.toNat + n := by
  induction n generalizing e with
  | zero => exact ⟨[], rfl, h, rfl⟩
  | succ n ih =>
    obtain ⟨hflowing, hnext⟩ := h.poll lib wasm32 hsample
    have hsucc : (saturatingSucc32 e.nextLeaseId).toNat = e.nextLeaseId.toNat + 1 := by
      rw [saturatingSucc32, if_neg fun hmax => ?_, UInt32.toNat_add]
      · show (e.nextLeaseId.toNat + 1) % 2 ^ 32 = _
        omega
      · have hnat : e.nextLeaseId.toNat = 0xffffffff := congrArg UInt32.toNat hmax
        omega
    obtain ⟨polls, hown, hrun, hlast⟩ := ih hflowing (by rw [hnext, hsucc]; omega)
    refine ⟨[.wsBytes 0 bytes, .releaseLease e.nextLeaseId] :: polls, ?_, hrun, ?_⟩
    · rw [List.all_cons, hown]
      rfl
    · show (ClientEngine.run lib wasm32 _ polls).nextLeaseId.toNat = _
      rw [hlast, hnext, hsucc]
      omega

/-- The moments of a poll turn with one event. -/
theorem trace_one {a : HostEvent} (hopen : e.closed = false) (rest : List (List HostEvent)) :
    trace lib wasm32 e ([a] :: rest) =
      ⟨⟨e, {}⟩, some a, handleEvent lib wasm32 ⟨e, {}⟩ a⟩ ::
        ⟨handleEvent lib wasm32 ⟨e, {}⟩ a, none,
          (handleEvent lib wasm32 ⟨e, {}⟩ a).sweepReleased⟩ ::
        trace lib wasm32 (handleEvent lib wasm32 ⟨e, {}⟩ a).sweepReleased.engine rest := by
  have hevents : handleEvents lib wasm32 ⟨e, {}⟩ [a] = handleEvent lib wasm32 ⟨e, {}⟩ a := by
    rw [handleEvents, handleEvents, ite_self]
  have hpoll : (e.poll lib wasm32 [a]).1 =
      (handleEvent lib wasm32 ⟨e, {}⟩ a).sweepReleased.engine := by
    rw [ClientEngine.poll, hopen, if_neg Bool.false_ne_true]
    exact congrArg (fun t : Turn => t.sweepReleased.engine) hevents
  have hsteps : e.steps lib wasm32 [a] = [(⟨e, {}⟩, a)] := by
    rw [steps, hopen, if_neg Bool.false_ne_true]
    show Turn.steps lib wasm32 ⟨e, {}⟩ [a] = _
    rw [Turn.steps, Turn.steps, ite_self]
  have hmoments : e.moments lib wasm32 [a] =
      [⟨⟨e, {}⟩, some a, handleEvent lib wasm32 ⟨e, {}⟩ a⟩,
        ⟨handleEvent lib wasm32 ⟨e, {}⟩ a, none,
          (handleEvent lib wasm32 ⟨e, {}⟩ a).sweepReleased⟩] := by
    rw [moments, hopen, if_neg Bool.false_ne_true, hsteps]
    dsimp only
    rw [show [a].take maxHostEventsPerPoll = [a] from rfl, hevents]
    rfl
  rw [trace, hmoments, hpoll]
  rfl

/-! ## Sample runs -/

/-- A sample of the subscription. -/
def sampleBytes : List UInt8 :=
  Gateway.encoded (Encode.encodeFrame (appHeader opcodeRosSample true 1 0) [] [1, 2, 3])

theorem isSample_sampleBytes : isSample sampleBytes = true := by decide +kernel

/-- Whether an engine takes the sample and has nothing leased. -/
def isFlowing (e : ClientEngine) : Bool :=
  !e.closed && leasesPayload e sampleBytes && e.leases.keys.isEmpty && e.retained.keys.isEmpty

theorem flowing_of_isFlowing (h : isFlowing e = true) : Flowing e sampleBytes := by
  have hempty {ν : Type} {table : Table UInt32 ν} (hkeys : table.keys.isEmpty = true)
      (id : UInt32) : table.find? id = none := by
    refine AList.lookup_eq_none.mpr fun hid => ?_
    have hmem : id ∈ table.keys := hid
    rw [List.isEmpty_iff.mp hkeys] at hmem
    exact absurd hmem List.not_mem_nil
  simp only [isFlowing, Bool.and_eq_true, Bool.not_eq_true'] at h
  exact ⟨h.1.1.1, h.1.1.2, hempty h.1.2, hempty h.2⟩

/-- The subscription flows. -/
theorem flowing_subscription : Flowing (run Pair.noLibrary false {} subscription) sampleBytes :=
  flowing_of_isFlowing (by decide +kernel)

theorem leases_hold_of_sample :
    ∃ m ∈ trace Pair.noLibrary false {} (subscription ++ [[HostEvent.wsBytes 0 sampleBytes]]),
      ∃ frame, m.leases = [1] ∧ m.after.engine.Denotes 1 frame := by
  have htrace : (trace Pair.noLibrary false {}
        (subscription ++ [[HostEvent.wsBytes 0 sampleBytes]])).any
          (fun m => m.leases.contains 1) = true ∧
      (trace Pair.noLibrary false {}
        (subscription ++ [[HostEvent.wsBytes 0 sampleBytes]])).all Moment.hasIds = true := by
    decide +kernel
  obtain ⟨m, hm, hone⟩ := List.any_eq_true.mp htrace.1
  obtain ⟨front, back, hsplit⟩ := List.append_of_mem hm
  obtain ⟨_, frame, -, -, hone, -, hholds⟩ :=
    (leases_hold Pair.noLibrary false (subscription ++ [[HostEvent.wsBytes 0 sampleBytes]])
      (List.all_eq_true.mp htrace.2)).1 front m [] back 1 hsplit (List.contains_iff_mem.mp hone)
        fun x hx => absurd hx List.not_mem_nil
  exact ⟨m, hm, frame, hone, (hholds m List.mem_cons_self).1⟩

/-- After samples have used up all lease ids but the last, the next two are leased under it. -/
theorem not_leases_hold_of_last :
    ¬ ∀ polls : List (List HostEvent), polls.all ownIds = true →
      ∀ (front : List Moment) (m : Moment) (mid : List Moment) (m' : Moment)
          (back : List Moment) (leaseId : UInt32),
        trace Pair.noLibrary false {} polls = front ++ m :: (mid ++ m' :: back) →
        leaseId ∈ m.leases → (∀ x ∈ mid, x.event ≠ some (.releaseLease leaseId)) →
        leaseId ∉ m'.leases := by
  intro h
  have hfirst : (run Pair.noLibrary false {} subscription).nextLeaseId.toNat = 1 := by
    decide +kernel
  obtain ⟨polls, hown, hflowing, hlast⟩ := flowing_subscription.run Pair.noLibrary false
    isSample_sampleBytes 0xfffffffe (by rw [hfirst])
  rw [hfirst] at hlast
  rw [← run_append] at hflowing hlast
  have htrace := @trace_append Pair.noLibrary false {} (subscription ++ polls)
    [[.wsBytes 0 sampleBytes], [.wsBytes 0 sampleBytes]]
  have hall : ((subscription ++ polls) ++
      [[HostEvent.wsBytes 0 sampleBytes], [.wsBytes 0 sampleBytes]]).all ownIds = true := by
    rw [List.all_append, List.all_append, hown]
    decide
  generalize run Pair.noLibrary false {} (subscription ++ polls) = e at *
  have hmax : e.nextLeaseId = 0xffffffff := UInt32.toNat_inj.mp hlast
  obtain ⟨hsession, hclosed, hnext, -, hone⟩ :=
    after_sample Pair.noLibrary false (t := ⟨e, {}⟩) isSample_sampleBytes hflowing.takes
  have hopen : (handleEvent Pair.noLibrary false ⟨e, {}⟩
      (.wsBytes 0 sampleBytes)).sweepReleased.engine.closed = false :=
    hclosed.trans hflowing.closed
  have hstays : (handleEvent Pair.noLibrary false ⟨e, {}⟩
      (.wsBytes 0 sampleBytes)).sweepReleased.engine.nextLeaseId = e.nextLeaseId := by
    refine hnext.trans ?_
    show saturatingSucc32 e.nextLeaseId = e.nextLeaseId
    rw [hmax]
    rfl
  have htakes : leasesPayload (handleEvent Pair.noLibrary false ⟨e, {}⟩
      (.wsBytes 0 sampleBytes)).sweepReleased.engine sampleBytes = true :=
    (leasesPayload_of_session hsession).trans hflowing.takes
  rw [trace_one hflowing.closed, trace_one hopen] at htrace
  obtain ⟨-, -, -, -, hagain⟩ := after_sample Pair.noLibrary false
    (t := ⟨(handleEvent Pair.noLibrary false ⟨e, {}⟩
      (.wsBytes 0 sampleBytes)).sweepReleased.engine, {}⟩) isSample_sampleBytes htakes
  have hmem {id : UInt32} {t u : Turn} (h : leasesSince t u = [id]) : id ∈ leasesSince t u := by
    rw [h]
    exact List.mem_singleton_self id
  refine h _ hall _ _ [_] _ [_] e.nextLeaseId htrace (hmem hone) ?_ ?_
  · intro x hx
    rw [List.mem_singleton.mp hx]
    exact nofun
  · exact hmem (hagain.trans (congrArg (fun id => [id]) hstays))

end ClientEngine
end Rclweb
