import Mathlib.Data.Nat.Bitwise
import Mathlib.Data.Nat.ModEq
import Mathlib.Logic.Relation
import Rclweb.Host.Leases

/-!
# Lease ids of a page

All hosts of a page cut the ids of their leases from one counter, by its low 31 bits, and mark
them with the bit above; the engines count their own leases from 1 and do not look at that bit.
The counter repeats itself every `2 ^ 31` pins, and stands still at `2 ^ 53`, so an id can come
back while it is out, and an engine that has issued `2 ^ 31` leases reaches the marked ids.

`Page` is the module state with the engines that share it, and a record of what is out.  As long
as no pin finds its counter value taken (`CanPin`), the code's table is this record
(`lease_ids_unique`).
-/

namespace Rclweb

open Engine Engine.Turn

/-! ## Lease ids of an engine -/

namespace ClientEngine

/-- Lease ids in use are behind the next one, until the ids are used up. -/
def IdsBehind (leases : Table UInt32 Lease) (next : UInt32) : Prop :=
  ∀ id, (leases.find? id).isSome = true → id.toNat < next.toNat ∨ next = 0xffffffff

theorem IdsBehind.set {leases : Table UInt32 Lease} {next : UInt32} (h : IdsBehind leases next)
    (lease : Lease) : IdsBehind (leases.set next lease) (saturatingSucc32 next) := by
  intro id hid
  rcases toNat_saturatingSucc32 next with hlt | hmax
  · left
    rw [Table.find?_set] at hid
    split_ifs at hid with heq
    · exact heq ▸ hlt
    · rcases h id hid with hid | hid
      · exact hid.trans hlt
      · rw [hid] at hlt
        exact absurd hlt (by decide)
  · exact .inr hmax

theorem IdsBehind.remove {leases : Table UInt32 Lease} {next : UInt32}
    (h : IdsBehind leases next) (id : UInt32) : IdsBehind (leases.remove id) next := by
  intro id' hid
  refine h id' ?_
  rw [Table.find?_remove] at hid
  split_ifs at hid
  · cases hid
  · exact hid

/-- The leases that are out are behind the next one. -/
def Behind (e : ClientEngine) : Prop := IdsBehind e.leases e.nextLeaseId

variable {lib : Library} {wasm32 : Bool} {e : ClientEngine} {t u : Turn}

theorem behind_new : ({} : ClientEngine).Behind := fun _ h => by cases h

theorem Behind.of_shelf (h : t.engine.Behind) (hshelf : u.shelf = t.shelf) : u.engine.Behind := by
  have hleases : u.engine.leases = t.engine.leases := congrArg Shelf.leases hshelf
  have hnext : u.engine.nextLeaseId = t.engine.nextLeaseId := congrArg Shelf.nextLeaseId hshelf
  unfold Behind
  rw [hleases, hnext]
  exact h

theorem Behind.issueLease (h : t.engine.Behind) (bufferId : UInt32) (frame : DecodedFrame) :
    (t.issueLease bufferId frame).2.engine.Behind :=
  IdsBehind.set h ⟨bufferId, Frame.payloadStart frame, frame.payloadLen.toNat⟩

theorem Behind.releaseLease (h : t.engine.Behind) (leaseId : UInt32) :
    (t.releaseLease leaseId).engine.Behind := by
  unfold Turn.releaseLease
  split
  · exact h
  · exact IdsBehind.remove h leaseId

theorem Behind.handleWsBytes (h : t.engine.Behind) (lib : Library) (wasm32 : Bool)
    (bufferId : UInt32) (bytes : List UInt8) :
    (handleWsBytes lib wasm32 t bufferId bytes).engine.Behind := by
  have hretain : (t.retain bufferId bytes).2.engine.Behind := by
    unfold Turn.retain
    dsimp only
    split_ifs
    · exact h
    · exact h
  unfold Turn.handleWsBytes
  dsimp only
  split_ifs with hplane
  · have hframe : (handleFrame lib wasm32 (t.retain bufferId bytes).2
        (t.retain bufferId bytes).1 bytes).engine.Behind := by
      rcases handleFrame_cases lib wasm32 (t.retain bufferId bytes).1 bytes hplane with
        hidle | ⟨frame, payload, hleasing⟩
      · exact hretain.of_shelf hidle.shelf
      · exact (hretain.issueLease _ frame).of_shelf hleasing.shelf
    exact hframe
  · have hbootstrap := hretain.of_shelf (idles_handleBootstrap bytes).shelf
    exact hbootstrap

theorem Behind.handleEvent (h : t.engine.Behind) (lib : Library) (wasm32 : Bool)
    (event : HostEvent) : (handleEvent lib wasm32 t event).engine.Behind := by
  cases event with
  | command cmd => exact h.of_shelf (idles_handleCommand lib cmd).shelf
  | wsBytes bufferId bytes => exact h.handleWsBytes lib wasm32 bufferId bytes
  | timer nowMs => exact h.of_shelf (idles_handleTimer nowMs).shelf
  | releaseLease leaseId => exact h.releaseLease leaseId

theorem Behind.handleEvents (h : t.engine.Behind) (lib : Library) (wasm32 : Bool)
    (events : List HostEvent) : (handleEvents lib wasm32 t events).engine.Behind := by
  induction events generalizing t with
  | nil => exact h
  | cons event events ih =>
    unfold Turn.handleEvents
    dsimp only
    split_ifs
    · exact h.handleEvent lib wasm32 event
    · exact ih (h.handleEvent lib wasm32 event)

/-- **Polling keeps the leases of an engine behind the next one.** -/
theorem Behind.poll (h : e.Behind) (lib : Library) (wasm32 : Bool) (events : List HostEvent) :
    (e.poll lib wasm32 events).1.Behind := by
  unfold ClientEngine.poll
  split_ifs
  · exact h
  · exact Behind.handleEvents (t := ⟨e, {}⟩) h lib wasm32 _

end ClientEngine

namespace Host

/-! ## The ids of the host -/

/-- **An id is the counter modulo `2 ^ 31`**, in the upper half. -/
theorem toNat_hostLeaseId (seq : ℕ) : (hostLeaseId seq).toNat = 2 ^ 31 + seq % 2 ^ 31 := by
  have hmask : (UInt32.ofNat seq &&& 0x7fffffff).toNat = seq % 2 ^ 31 := by
    rw [UInt32.toNat_and, UInt32.toNat_ofNat',
      show UInt32.toNat 0x7fffffff = 2 ^ 31 - 1 from rfl, Nat.and_two_pow_sub_one_eq_mod]
    exact Nat.mod_mod_of_dvd seq ⟨2, by norm_num⟩
  unfold hostLeaseId
  rw [UInt32.toNat_or, hmask, show hostLeaseFlag.toNat = 2 ^ 31 from rfl]
  have hor := Nat.two_pow_add_eq_or_of_lt (show seq % 2 ^ 31 < 2 ^ 31 from
    Nat.mod_lt _ (by norm_num)) 1
  rw [Nat.mul_one] at hor
  exact hor.symm

theorem hostLeaseId_eq_iff {n m : ℕ} : hostLeaseId n = hostLeaseId m ↔ n ≡ m [MOD 2 ^ 31] := by
  rw [← UInt32.toNat_inj, toNat_hostLeaseId, toNat_hostLeaseId, Nat.ModEq]
  omega

/-! ## The page -/

/-- A host lease that is out: its id, what is pinned under it, and the value of the counter the
id was cut from. -/
structure Outstanding where
  id : UInt32
  lease : HostLease
  birth : ℕ
  deriving DecidableEq, Repr

/-- **The module state and the engines that share it**, with a record of the host leases that are
out. -/
structure Page where
  host : HostState := {}
  engines : Table UInt32 ClientEngine := ∅
  out : List Outstanding := []

inductive PageAct where
  | new (handle : UInt32)
  | pin (handle : UInt32) (frame : List UInt8)
  | release (leaseId : UInt32)
  | poll (handle : UInt32) (events : List HostEvent)
  | free (handle : UInt32)

namespace Page

/-- What a pin does, and the record it leaves. -/
def pin (s : Page) (handle : UInt32) (frame : List UInt8) : Page :=
  let (leaseId, host) := s.host.allocHostLease handle frame
  { s with host := host, out := s.out ++ [⟨leaseId, ⟨frame, handle⟩, s.host.hostLeaseSeq⟩] }

/-- What a release does: the lease is out no longer. -/
def release (s : Page) (leaseId : UInt32) : Page :=
  { s with
    host := (s.host.tryReleaseHostLease leaseId).2
    out := s.out.filter fun o => o.id != leaseId }

/-- What freeing an engine does: its leases are out no longer. -/
def free (s : Page) (handle : UInt32) : Page where
  host := s.host.dropHostEngine handle
  engines := s.engines.remove handle
  out := s.out.filter fun o => o.lease.handle != handle

/-- **One step of a page.** -/
inductive Step (lib : Library) : Page → PageAct → Page → Prop
  | new (s : Page) (handle : UInt32) :
      s.engines.find? handle = none →
      Step lib s (.new handle) { s with engines := s.engines.set handle {} }
  | pin (s : Page) (handle : UInt32) (frame : List UInt8) :
      (s.engines.find? handle).isSome = true → Step lib s (.pin handle frame) (s.pin handle frame)
  | release (s : Page) (leaseId : UInt32) : Step lib s (.release leaseId) (s.release leaseId)
  | poll (s : Page) (handle : UInt32) (e : ClientEngine) (events : List HostEvent) :
      s.engines.find? handle = some e →
      Step lib s (.poll handle events)
        { s with engines := s.engines.set handle (e.poll lib true events).1 }
  | free (s : Page) (handle : UInt32) : Step lib s (.free handle) (s.free handle)

/-- No lease that is out was pinned a multiple of `2 ^ 31` counts ago, and no engine has issued
`2 ^ 31` leases. -/
def CanPin (s : Page) : Prop :=
  (∀ o ∈ s.out, ¬ o.birth ≡ s.host.hostLeaseSeq [MOD 2 ^ 31]) ∧
    ∀ handle e, s.engines.find? handle = some e → e.nextLeaseId.toNat ≤ 2 ^ 31

/-- Every pin of a run finds its counter value free. -/
def PinsFresh (s : Page) : PageAct → Prop
  | .pin _ _ => s.CanPin
  | _ => True

/-- **The states of the runs whose steps all satisfy a condition.** -/
def Reaches (lib : Library) (when : Page → PageAct → Prop) : Page → Page → Prop :=
  Relation.ReflTransGen fun s t => ∃ a, when s a ∧ Step lib s a t

/-! ## What the table holds -/

/-- **The table is the record**: the leases that are out have different ids, cut from the counter,
and the table holds them and nothing else. -/
structure Faithful (s : Page) : Prop where
  nodup : (s.out.map (·.id)).Nodup
  table : ∀ id lease, s.host.hostLeases.find? id = some lease ↔
    ∃ o ∈ s.out, o.id = id ∧ o.lease = lease
  ids : ∀ o ∈ s.out, o.id = hostLeaseId o.birth
  behind : ∀ handle e, s.engines.find? handle = some e → e.Behind

variable {lib : Library} {s t : Page} {a : PageAct}

theorem faithful_new : ({} : Page).Faithful where
  nodup := .nil
  table _ _ := ⟨nofun, nofun⟩
  ids _ h := nomatch h
  behind _ _ h := nomatch h

/-- **The id of a pin is new**: no host lease and no lease of an engine is out under it. -/
theorem Faithful.fresh (h : s.Faithful) (hcan : s.CanPin) :
    (∀ o ∈ s.out, o.id ≠ hostLeaseId s.host.hostLeaseSeq) ∧
      ∀ handle e, s.engines.find? handle = some e →
        e.leases.find? (hostLeaseId s.host.hostLeaseSeq) = none := by
  refine ⟨fun o ho heq => ?_, fun handle e he => ?_⟩
  · rw [h.ids o ho] at heq
    exact hcan.1 o ho (hostLeaseId_eq_iff.mp heq)
  · by_contra hsome
    have hnext := hcan.2 handle e he
    have hid := toNat_hostLeaseId s.host.hostLeaseSeq
    rcases h.behind handle e he _ (Option.isSome_iff_ne_none.mpr hsome) with hlt | hmax
    · omega
    · rw [hmax] at hnext
      exact absurd hnext (by decide)

theorem Faithful.pin (h : s.Faithful) (hcan : s.CanPin) (handle : UInt32) (frame : List UInt8) :
    (s.pin handle frame).Faithful := by
  have hfresh := (h.fresh hcan).1
  set o : Outstanding := ⟨hostLeaseId s.host.hostLeaseSeq, ⟨frame, handle⟩, s.host.hostLeaseSeq⟩
  have hout : (s.pin handle frame).out = s.out ++ [o] := rfl
  refine ⟨?_, fun id lease => ?_, fun o' ho' => ?_, h.behind⟩
  · rw [hout, List.map_append, List.nodup_append]
    refine ⟨h.nodup, List.nodup_singleton _, fun id hid id' hid' => ?_⟩
    obtain ⟨o', ho', rfl⟩ := List.mem_map.mp hid
    rw [List.mem_singleton.mp hid']
    exact hfresh o' ho'
  · show (s.host.hostLeases.set o.id o.lease).find? id = some lease ↔ _
    rw [Table.find?_set, hout]
    constructor
    · intro hfind
      split_ifs at hfind with hid
      · exact ⟨o, by simp, hid.symm, Option.some.inj hfind⟩
      · obtain ⟨o', ho', hmatch⟩ := (h.table id lease).mp hfind
        exact ⟨o', List.mem_append_left _ ho', hmatch⟩
    · rintro ⟨o', ho', rfl, rfl⟩
      rcases List.mem_append.mp ho' with ho' | ho'
      · rw [if_neg (hfresh o' ho')]
        exact (h.table _ _).mpr ⟨o', ho', rfl, rfl⟩
      · rw [List.mem_singleton.mp ho', if_pos rfl]
  · rcases List.mem_append.mp (hout ▸ ho') with ho' | ho'
    · exact h.ids o' ho'
    · rw [List.mem_singleton.mp ho']

/-- A page on which some leases are out no longer. -/
theorem Faithful.filter (h : s.Faithful) (keep : Outstanding → Bool) {host : HostState}
    {engines : Table UInt32 ClientEngine}
    (hfind : ∀ id lease, host.hostLeases.find? id = some lease ↔
      ∃ o ∈ s.out, keep o = true ∧ o.id = id ∧ o.lease = lease)
    (hbehind : ∀ handle e, engines.find? handle = some e → e.Behind) :
    (⟨host, engines, s.out.filter keep⟩ : Page).Faithful := by
  refine ⟨h.nodup.sublist (List.filter_sublist.map _), fun id lease => ?_, fun o ho => ?_,
    hbehind⟩
  · rw [hfind]
    refine exists_congr fun o => ?_
    rw [List.mem_filter, and_assoc]
  · exact h.ids o (List.mem_of_mem_filter ho)

theorem Faithful.release (h : s.Faithful) (leaseId : UInt32) : (s.release leaseId).Faithful := by
  refine h.filter (fun o => o.id != leaseId) (fun id lease => ?_) h.behind
  have hremoved : (s.host.tryReleaseHostLease leaseId).2.hostLeases.find? id =
      if id = leaseId then none else s.host.hostLeases.find? id := by
    unfold HostState.tryReleaseHostLease
    cases hfind : s.host.hostLeases.find? leaseId with
    | none =>
      split_ifs with hid
      · exact hid ▸ hfind
      · rfl
    | some lease => exact Table.find?_remove ..
  rw [hremoved]
  by_cases hid : id = leaseId
  · rw [if_pos hid]
    refine iff_of_false (by simp) ?_
    rintro ⟨o, -, hkeep, rfl, -⟩
    exact bne_iff_ne.mp hkeep hid
  · rw [if_neg hid, h.table]
    refine exists_congr fun o => and_congr_right fun _ => ⟨fun hmatch => ⟨?_, hmatch⟩, And.right⟩
    rw [bne_iff_ne, hmatch.1]
    exact hid

/-- Freeing an engine drops the leases of its handle. -/
theorem find?_dropHostEngine (host : HostState) (handle id : UInt32) :
    (host.dropHostEngine handle).hostLeases.find? id =
      (host.hostLeases.find? id).filter fun lease => lease.handle != handle := by
  show (List.foldl _ _ _ : Table UInt32 HostLease).find? id = _
  rw [Table.find?_foldl_remove (fun id : UInt32 => id), List.map_id']
  cases hfind : host.hostLeases.find? id with
  | none =>
    split_ifs <;> rfl
  | some lease =>
    have hkey : id ∈ host.hostLeases.keys :=
      AList.lookup_isSome.mp (by rw [show host.hostLeases.lookup id = _ from hfind]; rfl)
    by_cases hhandle : lease.handle = handle
    · rw [if_pos (List.mem_filter.mpr ⟨hkey, by simp [hfind, hhandle]⟩)]
      rw [Option.filter_some, if_neg (by simp [hhandle])]
    · rw [if_neg fun hmem => hhandle (by simpa [hfind] using (List.mem_filter.mp hmem).2)]
      rw [Option.filter_some, if_pos (by simp [hhandle])]

theorem Faithful.free (h : s.Faithful) (handle : UInt32) : (s.free handle).Faithful := by
  refine h.filter (fun o => o.lease.handle != handle) (fun id lease => ?_) fun handle' e he => ?_
  · rw [find?_dropHostEngine, Option.filter_eq_some_iff, h.table]
    constructor
    · rintro ⟨⟨o, ho, hid, rfl⟩, hkeep⟩
      exact ⟨o, ho, hkeep, hid, rfl⟩
    · rintro ⟨o, ho, hkeep, hid, rfl⟩
      exact ⟨⟨o, ho, hid, rfl⟩, hkeep⟩
  · rw [Table.find?_remove] at he
    split_ifs at he
    exact h.behind handle' e he

/-- **Every step whose pin is fresh keeps the table faithful.** -/
theorem Faithful.step (h : s.Faithful) (hfresh : PinsFresh s a) (hstep : Step lib s a t) :
    t.Faithful := by
  have hset (handle : UInt32) {e : ClientEngine} (he : e.Behind) (handle' : UInt32)
      (e' : ClientEngine) (hfind : (s.engines.set handle e).find? handle' = some e') :
      e'.Behind := by
    rw [Table.find?_set] at hfind
    split_ifs at hfind
    · exact Option.some.inj hfind ▸ he
    · exact h.behind handle' e' hfind
  cases hstep with
  | new handle _ => exact ⟨h.nodup, h.table, h.ids, hset handle ClientEngine.behind_new⟩
  | pin handle frame _ => exact h.pin hfresh handle frame
  | release leaseId => exact h.release leaseId
  | poll handle e events he =>
    exact ⟨h.nodup, h.table, h.ids, hset handle ((h.behind handle e he).poll lib true events)⟩
  | free handle => exact h.free handle

theorem faithful_of_reaches (hreach : Reaches lib PinsFresh {} s) : s.Faithful := by
  induction hreach with
  | refl => exact faithful_new
  | tail _ hlast ih =>
    obtain ⟨a, hfresh, hstep⟩ := hlast
    exact ih.step hfresh hstep

/-- **Lease ids are unique while they are out**, as long as every pin finds its counter value
free.  The table holds exactly what was pinned and neither released nor dropped, each lease under
an id of its own; releasing an id removes exactly the frame pinned under it, and freeing an engine
exactly its leases; and the id of the next such pin is neither a host lease's nor one an engine
has out. -/
theorem lease_ids_unique (lib : Library) (s : Page) (hreach : Reaches lib PinsFresh {} s) :
    (s.out.map (·.id)).Nodup ∧
      (∀ id lease, s.host.hostLeases.find? id = some lease ↔
        ∃ o ∈ s.out, o.id = id ∧ o.lease = lease) ∧
      (∀ leaseId id lease, (s.host.tryReleaseHostLease leaseId).2.hostLeases.find? id = some lease ↔
        ∃ o ∈ s.out, o.id ≠ leaseId ∧ o.id = id ∧ o.lease = lease) ∧
      (∀ handle id lease, (s.host.dropHostEngine handle).hostLeases.find? id = some lease ↔
        ∃ o ∈ s.out, o.lease.handle ≠ handle ∧ o.id = id ∧ o.lease = lease) ∧
      (s.CanPin → ∀ handle frame,
        s.host.hostLeases.find? (s.host.allocHostLease handle frame).1 = none ∧
          ∀ handle' e, s.engines.find? handle' = some e →
            e.leases.find? (s.host.allocHostLease handle frame).1 = none) := by
  have h := faithful_of_reaches hreach
  refine ⟨h.nodup, h.table, fun leaseId id lease => ?_, fun handle id lease => ?_,
    fun hcan handle frame => ⟨?_, (h.fresh hcan).2⟩⟩
  · rw [show (s.host.tryReleaseHostLease leaseId).2 = (s.release leaseId).host from rfl,
      (h.release leaseId).table]
    refine exists_congr fun o => ?_
    show o ∈ s.out.filter _ ∧ _ ↔ _
    rw [List.mem_filter, bne_iff_ne, and_assoc]
  · rw [show s.host.dropHostEngine handle = (s.free handle).host from rfl, (h.free handle).table]
    refine exists_congr fun o => ?_
    show o ∈ s.out.filter _ ∧ _ ↔ _
    rw [List.mem_filter, bne_iff_ne, and_assoc]
  · refine Option.eq_none_iff_forall_ne_some.mpr fun lease hfind => ?_
    obtain ⟨o, ho, hid, -⟩ := (h.table _ lease).mp hfind
    exact (h.fresh hcan).1 o ho hid

/-! ### A lease that is held -/

/-- The first lease of a page, on a sample. -/
def firstLease : Outstanding := ⟨hostLeaseId 1, ⟨ClientEngine.sampleBytes, 1⟩, 1⟩

/-- A page with one new engine that holds the first lease only, at a given count. -/
structure Holding (s : Page) (count : ℕ) : Prop where
  out : s.out = [firstLease]
  engines : s.engines = (∅ : Table UInt32 ClientEngine).set 1 {}
  seq : s.host.hostLeaseSeq = count

theorem isSome_of_single (s : Page) (h : s.engines = (∅ : Table UInt32 ClientEngine).set 1 {}) :
    (s.engines.find? 1).isSome = true := by
  rw [h, Table.find?_set_self]
  rfl

/-- A new engine has issued no lease. -/
theorem canPin_of_single {s : Page} (h : s.engines = (∅ : Table UInt32 ClientEngine).set 1 {})
    (hout : ∀ o ∈ s.out, ¬ o.birth ≡ s.host.hostLeaseSeq [MOD 2 ^ 31]) : s.CanPin := by
  refine ⟨hout, fun handle e he => ?_⟩
  rw [h, Table.find?_set] at he
  split_ifs at he
  · rw [← Option.some.inj he]
    decide
  · cases he

theorem hostLeaseSeq_release (s : Page) (leaseId : UInt32) :
    (s.release leaseId).host.hostLeaseSeq = s.host.hostLeaseSeq := by
  show (s.host.tryReleaseHostLease leaseId).2.hostLeaseSeq = _
  unfold HostState.tryReleaseHostLease
  split <;> rfl

/-- **The first lease can be held while others come and go**, for a whole cycle of the counter. -/
theorem exists_holding (lib : Library) (n : ℕ) (hn : n < 2 ^ 31) :
    ∃ s, Reaches lib PinsFresh {} s ∧ s.Holding (n + 2) := by
  induction n with
  | zero =>
    have hnew : Step lib ({} : Page) (.new 1)
        { engines := (∅ : Table UInt32 ClientEngine).set 1 {} } := .new {} 1 rfl
    have hpin := @Step.pin lib { engines := (∅ : Table UInt32 ClientEngine).set 1 {} } 1
      ClientEngine.sampleBytes (isSome_of_single _ rfl)
    have hcan : PinsFresh { engines := (∅ : Table UInt32 ClientEngine).set 1 {} }
        (.pin 1 ClientEngine.sampleBytes) := canPin_of_single rfl nofun
    exact ⟨_, (Relation.ReflTransGen.single ⟨.new 1, trivial, hnew⟩).tail ⟨_, hcan, hpin⟩,
      rfl, rfl, rfl⟩
  | succ n ih =>
    obtain ⟨s, hreach, hout, hengines, hseq⟩ := ih (by omega)
    have hapart : ¬ 1 ≡ n + 2 [MOD 2 ^ 31] := by
      rw [Nat.ModEq]
      omega
    have hid : hostLeaseId 1 ≠ hostLeaseId (n + 2) := fun heq => hapart (hostLeaseId_eq_iff.mp heq)
    have hcan : s.CanPin := canPin_of_single hengines fun o ho => by
      rw [hout] at ho
      rw [List.mem_singleton.mp ho, hseq]
      exact hapart
    have hpin := @Step.pin lib s 1 ClientEngine.sampleBytes (isSome_of_single s hengines)
    have hrelease := @Step.release lib (s.pin 1 ClientEngine.sampleBytes)
      (hostLeaseId (n + 2))
    refine ⟨_, (hreach.tail ⟨.pin 1 ClientEngine.sampleBytes, hcan, hpin⟩).tail
      ⟨.release (hostLeaseId (n + 2)), trivial, hrelease⟩, ?_, hengines, ?_⟩
    · show (s.out ++ [(⟨hostLeaseId s.host.hostLeaseSeq, _, _⟩ : Outstanding)]).filter _ = _
      rw [hout, hseq]
      simp [firstLease, hid]
    · rw [hostLeaseSeq_release]
      show increment s.host.hostLeaseSeq = _
      rw [hseq, increment, if_pos (by omega)]

/-- After some pins the next id is new. -/
theorem lease_ids_unique_of_held :
    ∃ s : Page, s.host.hostLeaseSeq = 7 ∧
      s.host.hostLeases.find? (s.host.allocHostLease 1 ClientEngine.sampleBytes).1 = none := by
  obtain ⟨s, hreach, hout, hengines, hseq⟩ := exists_holding Pair.noLibrary 5 (by norm_num)
  have hcan : s.CanPin := canPin_of_single hengines fun o ho => by
    rw [hout] at ho
    rw [List.mem_singleton.mp ho, hseq]
    decide
  exact ⟨s, hseq,
    ((lease_ids_unique Pair.noLibrary s hreach).2.2.2.2 hcan 1 ClientEngine.sampleBytes).1⟩

/-- **The counter repeats itself**: a lease is held while `2 ^ 31 - 1` others are pinned and
released, and the next pin gets its id. -/
theorem not_lease_ids_unique_of_cycle :
    ¬ ∀ s : Page, Reaches Pair.noLibrary (fun _ _ => True) {} s → ∀ handle frame,
      (s.engines.find? handle).isSome = true →
        s.host.hostLeases.find? (s.host.allocHostLease handle frame).1 = none := by
  intro h
  obtain ⟨s, hreach, hout, hengines, hseq⟩ :=
    exists_holding Pair.noLibrary (2 ^ 31 - 1) (by norm_num)
  have htable := (faithful_of_reaches hreach).table firstLease.id firstLease.lease
  have hfind := htable.mpr ⟨firstLease, by rw [hout]; exact List.mem_singleton_self _, rfl, rfl⟩
  have hid : (s.host.allocHostLease 1 ClientEngine.sampleBytes).1 = firstLease.id := by
    show hostLeaseId s.host.hostLeaseSeq = hostLeaseId 1
    rw [hseq, hostLeaseId_eq_iff]
    decide
  have hnone := h s (Relation.ReflTransGen.mono
    (fun _ _ ⟨a, _, hstep⟩ => ⟨a, trivial, hstep⟩) _ _ hreach) 1 ClientEngine.sampleBytes
    (isSome_of_single s hengines)
  rw [hid, hfind] at hnone
  cases hnone

end Page
end Host
end Rclweb
