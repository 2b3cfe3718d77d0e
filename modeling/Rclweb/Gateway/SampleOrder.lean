import Rclweb.Gateway.Samples

/-!
# The sequences of samples

Samples are admitted to the write queue and frames are taken from it, in any order.  A run is
followed by an outbox in which the best-effort channels are the lossy keys
(`Outflow.Follows.step`): framing a sample counts its channel, eviction drops messages, and a
best-effort frame that finds no room has used its number up in vain.

That the reliable channels are not lossy holds as long as every best-effort sample spares the
reliable frames that wait (`Outflow.SparesAll`).
-/

namespace Rclweb

open Rclweb.Frame Rclweb.Numbering

namespace Gateway

/-- **A connection with its write queue**, and the frames taken from the queue so far. -/
structure Outflow where
  conn : ConnState
  queue : SampleWriteQueue
  popped : List QueuedFrame := []

namespace Outflow

/-- What happens to the queue. -/
inductive Event where
  | offer (sample : SubscriptionSample)
  | pop

/-- A sample is admitted, or the oldest frame is taken. -/
def step (s : Outflow) : Event → Outflow
  | .offer sample =>
    let r := s.conn.admitSample s.queue sample
    { s with conn := r.1, queue := r.2 }
  | .pop =>
    match s.queue.popFrontRaw with
    | none => s
    | some (f, queue) => { s with queue := queue, popped := s.popped ++ [f] }

def run (s : Outflow) (events : List Event) : Outflow := events.foldl step s

/-- A best-effort sample that is framed spares the reliable frames that wait. -/
def Spares (s : Outflow) : Event → Prop
  | .offer sample =>
    ∀ runtime, s.conn.channels.find? sample.channelId = some runtime →
      runtime.kind = .topicSubscribe → runtime.reliable = false → Frameable sample.frameBuf →
      s.queue.Spares sample.frameBuf.length
  | .pop => True

/-- Every sample of a run does. -/
def SparesAll : Outflow → List Event → Prop
  | _, [] => True
  | s, e :: es => s.Spares e ∧ SparesAll (s.step e) es

/-- The sequences of the frames of a channel, as their headers have them. -/
def sequences (channelId : UInt32) (fs : List QueuedFrame) : List UInt64 :=
  (fs.filter fun f => f.channelId = channelId).map fun f => (readHeader f.bytes).sequence

/-! ## The outbox a run follows -/

/-- The channel and the sequence of a frame. -/
def mark (f : QueuedFrame) : UInt32 × UInt64 := (f.channelId, (readHeader f.bytes).sequence)

/-- A numbered message as it goes on the wire. -/
def wire (m : UInt32 × ℕ) : UInt32 × UInt64 := (m.1, UInt64.ofNat m.2)

/-- **What a run and its outbox have in common** after a number of events. -/
structure Follows (lossy : UInt32 → Prop) (count : ℕ) (s : Outflow) (o : Outbox UInt32) :
    Prop where
  next : ∀ id runtime, s.conn.channels.find? id = some runtime →
    runtime.kind = .topicSubscribe → o.next id = runtime.seqOut
  reliability : ∀ id runtime, s.conn.channels.find? id = some runtime →
    runtime.kind = .topicSubscribe → (lossy id ↔ runtime.reliable = false)
  queue : s.queue.items.map mark = o.queue.map wire
  taken : s.popped.map mark = o.taken.map wire
  waiting : ∀ f ∈ s.queue.items, f.reliable = false → lossy f.channelId
  bound : ∀ id, o.next id ≤ count

theorem sequences_eq {fs : List QueuedFrame} {ms : List (UInt32 × ℕ)} {id : UInt32}
    (h : fs.map mark = ms.map wire) : sequences id fs = (ofKey id ms).map UInt64.ofNat := by
  have hleft : sequences id fs =
      ((fs.map mark).filter fun m => m.1 = id).map Prod.snd := by
    rw [sequences, List.filter_map, List.map_map]
    rfl
  rw [hleft, h, List.filter_map, List.map_map, ofKey, List.map_map]
  rfl

namespace Follows

variable {lossy : UInt32 → Prop} {count : ℕ} {s : Outflow} {o : Outbox UInt32}

/-- The channels after a sample was framed. -/
theorem framed (h : Follows lossy count s o) {id : UInt32} {runtime : ChannelRuntime}
    (hfind : s.conn.channels.find? id = some runtime) (hkind : runtime.kind = .topicSubscribe) :
    (∀ id' rt, (s.conn.channels.set id runtime.framed).find? id' = some rt →
      rt.kind = .topicSubscribe → (o.count id).next id' = rt.seqOut) ∧
    (∀ id' rt, (s.conn.channels.set id runtime.framed).find? id' = some rt →
      rt.kind = .topicSubscribe → (lossy id' ↔ rt.reliable = false)) ∧
    ∀ id', (o.count id).next id' ≤ count + 1 := by
  refine ⟨fun id' rt hrt hk => ?_, fun id' rt hrt hk => ?_, fun id' => ?_⟩
  · by_cases hid : id' = id
    · subst hid
      rw [Table.find?_set_self] at hrt
      rw [← Option.some.inj hrt]
      exact (Function.update_self ..).trans (congrArg (· + 1) (h.next id' runtime hfind hkind))
    · rw [Table.find?_set, if_neg hid] at hrt
      exact (Function.update_of_ne hid ..).trans (h.next id' rt hrt hk)
  · by_cases hid : id' = id
    · subst hid
      rw [Table.find?_set_self] at hrt
      rw [← Option.some.inj hrt]
      exact h.reliability id' runtime hfind hkind
    · rw [Table.find?_set, if_neg hid] at hrt
      exact h.reliability id' rt hrt hk
  · show Function.update o.next id (o.next id + 1) id' ≤ count + 1
    by_cases hid : id' = id
    · subst hid
      rw [Function.update_self]
      exact Nat.succ_le_succ (h.bound id')
    · rw [Function.update_of_ne hid]
      exact (h.bound id').trans (Nat.le_succ _)

/-- A frame of a sample, next to the message it is. -/
theorem mark_frame (h : Follows lossy count s o) {sample : SubscriptionSample}
    {runtime : ChannelRuntime} (hfind : s.conn.channels.find? sample.channelId = some runtime)
    (hkind : runtime.kind = .topicSubscribe) (reliable : Bool) :
    mark ⟨sample.channelId, reliable, runtime.frameBytes sample⟩ =
      wire (sample.channelId, o.next sample.channelId) := by
  rw [mark, wire, sequence_frameBytes, h.next _ runtime hfind hkind]

theorem pop (h : Follows lossy count s o) :
    ∃ o', Relation.ReflTransGen (Outbox.Step lossy) o o' ∧
      Follows lossy (count + 1) (s.step .pop) o' := by
  have hbound (id : UInt32) : o.next id ≤ count + 1 := (h.bound id).trans (Nat.le_succ _)
  cases hitems : s.queue.items with
  | nil =>
    have hstep : s.step .pop = s := by simp only [step, SampleWriteQueue.popFrontRaw, hitems]
    rw [hstep]
    exact ⟨o, .refl, { h with bound := hbound }⟩
  | cons f rest =>
    have hqueue := h.queue
    rw [hitems, List.map_cons] at hqueue
    obtain ⟨m, ms, hms, hm, hrest⟩ := List.map_eq_cons_iff.mp hqueue.symm
    refine ⟨_, .single (.take o m ms hms), ?_⟩
    simp only [step, SampleWriteQueue.popFrontRaw_cons hitems]
    refine { h with queue := hrest.symm, taken := ?_, waiting := ?_, bound := hbound }
    · rw [List.map_append, List.map_append, h.taken, List.map_singleton, List.map_singleton, hm]
    · exact fun f' hf' => h.waiting f' (hitems ▸ List.mem_cons_of_mem _ hf')

/-- The frame of a reliable sample waits behind the others. -/
theorem push (h : Follows lossy count s o) {sample : SubscriptionSample}
    {runtime : ChannelRuntime} (hfind : s.conn.channels.find? sample.channelId = some runtime)
    (hkind : runtime.kind = .topicSubscribe) {reliable : Bool} (hreliable : runtime.reliable = reliable)
    {queue : SampleWriteQueue}
    (hqueue : queue.items =
      s.queue.items ++ [⟨sample.channelId, reliable, runtime.frameBytes sample⟩]) :
    Follows lossy (count + 1)
      ⟨{ s.conn with channels := s.conn.channels.set sample.channelId runtime.framed }, queue,
        s.popped⟩
      { o.count sample.channelId with
        queue := o.queue ++ [(sample.channelId, o.next sample.channelId)] } := by
  obtain ⟨hnext, hlossy, hbound⟩ := h.framed hfind hkind
  refine ⟨hnext, hlossy, ?_, h.taken, fun f hf hbest => ?_, hbound⟩
  · simp only [hqueue, List.map_append, h.queue, List.map_singleton, h.mark_frame hfind hkind]
  · rw [hqueue] at hf
    rcases List.mem_append.mp hf with hf | hf
    · exact h.waiting f hf hbest
    · rw [List.mem_singleton.mp hf] at hbest ⊢
      exact (h.reliability _ runtime hfind hkind).mpr (hreliable.trans hbest)

/-- Frames of lossy channels are dropped. -/
theorem drop (h : Follows lossy count s o) {n : ℕ}
    (hlost : ∀ f ∈ s.queue.items.take n, f.reliable = false) (queue : SampleWriteQueue)
    (hqueue : queue.items = s.queue.items.drop n) :
    Relation.ReflTransGen (Outbox.Step lossy) o { o with queue := o.queue.drop n } ∧
      Follows lossy count { s with queue := queue } { o with queue := o.queue.drop n } := by
  constructor
  · refine Outbox.reaches_drop o n fun m hm => ?_
    have hwire : wire m ∈ (s.queue.items.take n).map mark := by
      rw [List.map_take, h.queue, ← List.map_take]
      exact List.mem_map_of_mem hm
    obtain ⟨f, hf, hmark⟩ := List.mem_map.mp hwire
    have hid : f.channelId = m.1 := congrArg Prod.fst hmark
    exact hid ▸ h.waiting f (List.mem_of_mem_take hf) (hlost f hf)
  · refine { h with queue := ?_, waiting := fun f hf => h.waiting f ?_ }
    · simp only [hqueue, List.map_drop, h.queue]
    · exact List.mem_of_mem_drop (hqueue ▸ hf)

/-- **One event of a run** is some steps of its outbox. -/
theorem step (h : Follows lossy count s o) {e : Event} (hspares : s.Spares e) :
    ∃ o', Relation.ReflTransGen (Outbox.Step lossy) o o' ∧
      Follows lossy (count + 1) (s.step e) o' := by
  cases e with
  | pop => exact h.pop
  | offer sample =>
    rcases s.conn.admitSample_cases s.queue sample with hsame | hadmitted
    · have hstep : s.step (.offer sample) = s := by simp only [Outflow.step, hsame]
      rw [hstep]
      exact ⟨o, .refl, { h with bound := fun id => (h.bound id).trans (Nat.le_succ _) }⟩
    obtain ⟨runtime, hfind, hkind, hframe, -, hadmitted⟩ := hadmitted
    simp only [Outflow.step, hadmitted]
    cases hreliable : runtime.reliable with
    | true => exact ⟨_, .single (.push o sample.channelId), h.push hfind hkind hreliable rfl⟩
    | false =>
      have hroom := hspares runtime hfind hkind hreliable hframe
      rw [← length_frameBytes runtime hframe] at hroom
      obtain ⟨n, hlost, hitems⟩ :=
        SampleWriteQueue.admitBestEffort_items sample.channelId hroom
      have hlossy := (h.reliability _ runtime hfind hkind).mpr hreliable
      obtain ⟨hdrops, hdropped⟩ :=
        h.drop hlost { s.queue with items := s.queue.items.drop n } rfl
      rw [if_neg Bool.false_ne_true]
      generalize s.queue.admitBestEffort sample.channelId (runtime.frameBytes sample) = admitted
        at hitems ⊢
      rcases hitems with hitems | hitems
      · obtain ⟨hnext, hrel, hbound⟩ := hdropped.framed hfind hkind
        refine ⟨_, hdrops.tail (.skip _ sample.channelId hlossy), hnext, hrel, ?_, h.taken, ?_,
          hbound⟩
        · exact (congrArg (List.map mark) hitems).trans hdropped.queue
        · exact fun f hf => hdropped.waiting f (hitems ▸ hf)
      · exact ⟨_, hdrops.tail (.push _ sample.channelId),
          hdropped.push hfind hkind hreliable hitems⟩

/-- **A run that spares reliable frames** is a run of its outbox. -/
theorem run (h : Follows lossy count s o) {events : List Event} (hspares : SparesAll s events) :
    ∃ o', Relation.ReflTransGen (Outbox.Step lossy) o o' ∧
      Follows lossy (count + events.length) (s.run events) o' := by
  induction events generalizing s o count with
  | nil => exact ⟨o, .refl, h⟩
  | cons e es ih =>
    obtain ⟨o₁, hsteps, hfollows⟩ := h.step hspares.1
    obtain ⟨o₂, hsteps', hfollows'⟩ := ih hfollows hspares.2
    refine ⟨o₂, hsteps.trans hsteps', ?_⟩
    rw [List.length_cons, Nat.add_comm es.length 1, ← Nat.add_assoc]
    exact hfollows'

end Follows

/-- Numbers below the end of the 64-bit range increase on the wire too. -/
theorem pairwise_map_ofNat {ns : List ℕ} (h : ns.Pairwise (· < ·)) (hsmall : ∀ n ∈ ns, n < 2 ^ 64) :
    (ns.map UInt64.ofNat).Pairwise (· < ·) := by
  rw [List.pairwise_map]
  refine h.imp_of_mem fun {n m} hn hm hlt => ?_
  rw [UInt64.lt_iff_toNat_lt, UInt64.toNat_ofNat', UInt64.toNat_ofNat',
    Nat.mod_eq_of_lt (hsmall n hn), Nat.mod_eq_of_lt (hsmall m hm)]
  exact hlt

/-- **The sequences of a run that spares reliable frames.**  The frames taken of a reliable
channel have the sequences `0, 1, 2, …`, and with the ones that still wait they are all that
were framed.  The sequences taken of a best-effort channel increase. -/
theorem sequences_of_sparesAll (conn : ConnState) (maxSamples maxBytes : ℕ) (events : List Event)
    (hfresh : ∀ id runtime, conn.channels.find? id = some runtime →
      runtime.kind = .topicSubscribe → runtime.seqOut = 0)
    (hspares : SparesAll ⟨conn, .new maxSamples maxBytes, []⟩ events) (id : UInt32)
    (runtime : ChannelRuntime) (hfind : conn.channels.find? id = some runtime) :
    let s := Outflow.run ⟨conn, .new maxSamples maxBytes, []⟩ events
    (runtime.reliable = true →
      sequences id s.popped =
          (List.range (sequences id s.popped).length).map UInt64.ofNat ∧
        ∀ runtime', s.conn.channels.find? id = some runtime' →
          runtime'.kind = .topicSubscribe →
          sequences id (s.popped ++ s.queue.items) =
            (List.range runtime'.seqOut).map UInt64.ofNat) ∧
      (runtime.reliable = false → events.length ≤ 2 ^ 64 →
        (sequences id s.popped).Pairwise (· < ·)) := by
  intro s
  let lossy : UInt32 → Prop := fun id' =>
    ∃ rt, conn.channels.find? id' = some rt ∧ rt.reliable = false
  have hlossy (id' : UInt32) (rt : ChannelRuntime) (hrt : conn.channels.find? id' = some rt) :
      lossy id' ↔ rt.reliable = false := by
    refine ⟨?_, fun h => ⟨rt, hrt, h⟩⟩
    rintro ⟨rt', hrt', h⟩
    rwa [Option.some.inj (hrt.symm.trans hrt')]
  have hstart : Follows lossy 0 ⟨conn, .new maxSamples maxBytes, []⟩ Outbox.empty :=
    { next := fun id' rt hrt hk => (hfresh id' rt hrt hk).symm
      reliability := fun id' rt hrt _ => hlossy id' rt hrt
      queue := rfl
      taken := rfl
      waiting := nofun
      bound := fun _ => Nat.le_refl 0 }
  obtain ⟨o, hsteps, hfollows⟩ := hstart.run hspares
  have horder : o.InOrder lossy := Outbox.inOrder_empty.reaches hsteps
  have hpopped : sequences id s.popped = (ofKey id o.taken).map UInt64.ofNat :=
    sequences_eq hfollows.taken
  have hkept : sequences id (s.popped ++ s.queue.items) = (ofKey id o.kept).map UInt64.ofNat := by
    refine sequences_eq ?_
    rw [Outbox.kept, List.map_append, List.map_append]
    exact congrArg₂ _ hfollows.taken hfollows.queue
  refine ⟨fun hreliable => ?_, fun hbest hlen => ?_⟩
  · have hnot : ¬ lossy id := by rw [hlossy id runtime hfind, hreliable]; simp
    refine ⟨?_, fun runtime' hfind' hkind' => ?_⟩
    · rw [hpopped, List.length_map, ← horder.taken_eq hnot]
    · rw [hkept, horder.complete id hnot, hfollows.next id runtime' hfind' hkind']
  · rw [hpopped]
    refine pairwise_map_ofNat (horder.taken_increasing id) fun n hn => ?_
    have hmem : n ∈ ofKey id o.kept := by
      rw [Outbox.kept, ofKey_append]
      exact List.mem_append_left _ hn
    have hbelow := horder.below id n hmem
    have hbound := hfollows.bound id
    omega

/-! ### A reliable and a best-effort channel -/

/-- A subscription, reliable or not, of which no sample was framed. -/
def subscription (reliable : Bool) : ChannelRuntime :=
  ⟨.topicSubscribe, 7, reliable, false, 2, 0, 0, ∅, ∅⟩

/-- A reliable subscription on channel 1 and a best-effort one on channel 2. -/
def twoChannels : ConnState :=
  { channels := ((∅ : Table UInt32 ChannelRuntime).set 1 (subscription true)).set 2
      (subscription false) }

theorem find?_twoChannels : twoChannels.channels.find? 1 = some (subscription true) := by
  simp [twoChannels, Table.find?_set]

theorem fresh_twoChannels (id : UInt32) (runtime : ChannelRuntime)
    (h : twoChannels.channels.find? id = some runtime) :
    runtime.kind = .topicSubscribe → runtime.seqOut = 0 := by
  rintro -
  simp only [twoChannels, Table.find?_set] at h
  split_ifs at h
  · rw [← Option.some.inj h]
    rfl
  · rw [← Option.some.inj h]
    rfl
  · contradiction

/-- A sample of one byte. -/
def sampleOn (channelId : UInt32) : SubscriptionSample := ⟨channelId, List.replicate 33 0⟩

/-- In a queue for one frame a best-effort sample pushes a reliable one out: the first frame
taken of the reliable channel has the sequence 1. -/
theorem not_sequences_of_eviction :
    ¬ ∀ (conn : ConnState) (maxSamples maxBytes : ℕ) (events : List Event),
      (∀ id runtime, conn.channels.find? id = some runtime →
        runtime.kind = .topicSubscribe → runtime.seqOut = 0) →
      ∀ id runtime, conn.channels.find? id = some runtime →
        runtime.kind = .topicSubscribe → runtime.reliable = true →
        sequences id (Outflow.run ⟨conn, .new maxSamples maxBytes, []⟩ events).popped =
          (List.range (sequences id
            (Outflow.run ⟨conn, .new maxSamples maxBytes, []⟩ events).popped).length).map
            UInt64.ofNat := by
  intro h
  have hsequences := h twoChannels 1 1000
    [.offer (sampleOn 1), .offer (sampleOn 2), .pop, .offer (sampleOn 1), .pop]
    fresh_twoChannels 1 (subscription true) find?_twoChannels rfl rfl
  exact absurd hsequences (by decide +kernel)

/-- A best-effort sample that finds the queue empty spares the reliable frames. -/
theorem sequences_of_room :
    sequences 1 (Outflow.run ⟨twoChannels, .new 2 1000, []⟩
        [.offer (sampleOn 2), .offer (sampleOn 1), .pop, .pop]).popped =
      (List.range (sequences 1 (Outflow.run ⟨twoChannels, .new 2 1000, []⟩
        [.offer (sampleOn 2), .offer (sampleOn 1), .pop, .pop]).popped).length).map
        UInt64.ofNat := by
  have hspares : SparesAll ⟨twoChannels, .new 2 1000, []⟩
      [.offer (sampleOn 2), .offer (sampleOn 1), .pop, .pop] := by
    refine ⟨fun _ _ _ _ _ _ n f hf => ?_, fun runtime hfind _ hbest => ?_, trivial, trivial, trivial⟩
    · simp [SampleWriteQueue.new] at hf
    · have hreliable : ((step ⟨twoChannels, .new 2 1000, []⟩ (.offer (sampleOn 2))).conn.channels.find?
          1).any (·.reliable) = true := by decide +kernel
      rw [show (sampleOn 1).channelId = 1 from rfl] at hfind
      rw [hfind, Option.any_some, hbest] at hreliable
      contradiction
  exact ((sequences_of_sparesAll twoChannels 2 1000 _ fresh_twoChannels hspares 1
    (subscription true) find?_twoChannels).1 rfl).1

end Outflow
end Gateway
end Rclweb
