import Rclweb.Library.LengthPrefixed
import Rclweb.Library.TypedArray
import Mathlib.Logic.Relation

/-!
# The inbox of a WebTransport stream

Chunks of the stream are appended to one array, which grows by doubling and is compacted in place;
frames are copied out of it as soon as they are whole.  Arrays live in a heap, so that a frame and
the inbox are different arrays and a later chunk writes to one of them only.

However the stream is cut, the frames are the messages of the whole stream and what the inbox still
holds is what is left of it (`frames_of_stream`).
-/

namespace Rclweb
namespace Host

open TypedArray LengthPrefixed

/-- **An inbox**: the address of its array, and where the bytes start and end that wait in it. -/
structure LengthPrefixedInbox where
  buf : ℕ
  start : ℕ
  stop : ℕ
  deriving DecidableEq, Repr

/-- An inbox at work, with the arrays of the program and the frames emitted so far. -/
structure Intake where
  heap : Heap
  inbox : LengthPrefixedInbox
  emitted : List ℕ
  deriving DecidableEq, Repr

namespace Intake

def createLengthPrefixedInbox (capacity : ℕ) : Intake :=
  let (heap, buf) := Heap.empty.alloc (List.replicate capacity 0)
  { heap, inbox := ⟨buf, 0, 0⟩, emitted := [] }

/-- The array of the inbox. -/
def array (s : Intake) : List UInt8 := s.heap.read s.inbox.buf

/-- **The bytes that wait in the inbox.** -/
def live (s : Intake) : List UInt8 := subarray s.array s.inbox.start s.inbox.stop

/-- The capacity doubled until it is enough. -/
def doubled (need cap : ℕ) (hcap : 0 < cap) : ℕ :=
  if cap < need then doubled need (cap * 2) (Nat.mul_pos hcap Nat.two_pos) else cap
termination_by need - cap

/-- Makes room for `extra` bytes behind the ones that wait. -/
def ensureInboxCapacity (s : Intake) (extra : ℕ) : Option Intake := do
  let live := s.inbox.stop - s.inbox.start
  let need := live + extra
  if need ≤ s.array.length then
    if s.array.length < s.inbox.stop + extra then
      pure { s with
        heap := s.heap.write s.inbox.buf (copyWithin s.array 0 s.inbox.start s.inbox.stop)
        inbox := { s.inbox with start := 0, stop := live } }
    else pure s
  else
    let cap := doubled need (max s.array.length 1) (Nat.lt_of_lt_of_le Nat.one_pos (Nat.le_max_right _ _))
    let next ← set (List.replicate cap 0) (subarray s.array s.inbox.start s.inbox.stop) 0
    let (heap, buf) := s.heap.alloc next
    pure { s with heap, inbox := ⟨buf, 0, live⟩ }

/-- `inbox.buf.set(chunk, inbox.end)`; an offset over the end of the array throws. -/
def appendChunk (s : Intake) (chunk : List UInt8) : Option Intake := do
  let bytes ← set s.array chunk s.inbox.stop
  pure { s with
    heap := s.heap.write s.inbox.buf bytes
    inbox := { s.inbox with stop := s.inbox.stop + chunk.length } }

/-- One round of the loop, unless the loop ends there. -/
def round (s : Intake) : Option (Option Intake) := do
  if s.inbox.stop - s.inbox.start < 4 then pure none
  -- a `DataView` that goes over the end of the array throws
  else if s.array.length < s.inbox.start + 4 then none
  else
    let len := BigEndian.ofBytes (subarray s.array s.inbox.start (s.inbox.start + 4))
    if s.inbox.stop - s.inbox.start < 4 + len then pure none
    else
      let (heap, frame) :=
        s.heap.alloc (subarray s.array (s.inbox.start + 4) (s.inbox.start + 4 + len))
      pure (some
        { heap
          inbox := { s.inbox with start := s.inbox.start + (4 + len) }
          emitted := s.emitted ++ [frame] })

/-- A round takes the length and the body of a frame. -/
theorem stop_sub_start_of_round {s s' : Intake} (h : s.round = some (some s')) :
    s'.inbox.stop - s'.inbox.start < s.inbox.stop - s.inbox.start := by
  unfold round at h
  split_ifs at h
  · cases h
  · dsimp only at h
    split_ifs at h with hwait
    · cases h
    · obtain rfl := Option.some.inj (Option.some.inj h)
      show s.inbox.stop - (s.inbox.start + _) < _
      omega

/-- The loop. -/
def drain (s : Intake) : Option Intake :=
  match _h : s.round with
  | none => none
  | some none => some s
  | some (some s') => drain s'
termination_by s.inbox.stop - s.inbox.start
decreasing_by exact stop_sub_start_of_round _h

/-- An inbox that holds nothing starts over. -/
def reset (s : Intake) : Intake :=
  if s.inbox.start = s.inbox.stop then { s with inbox := { s.inbox with start := 0, stop := 0 } }
  else s

/-- **Append a chunk and emit what is whole.**  `none` is a thrown `RangeError`. -/
def pushLengthPrefixedChunk (s : Intake) (chunk : List UInt8) : Option Intake := do
  let s ← s.ensureInboxCapacity chunk.length
  let s ← s.appendChunk chunk
  let s ← s.drain
  pure s.reset

/-- Chunk after chunk. -/
def pushChunks (s : Intake) (chunks : List (List UInt8)) : Option Intake :=
  chunks.foldlM pushLengthPrefixedChunk s

/-! ## What the operations do -/

/-- **The ends of the inbox are in order and in its array.** -/
structure Ordered (s : Intake) : Prop where
  start_le : s.inbox.start ≤ s.inbox.stop
  stop_le : s.inbox.stop ≤ s.array.length

/-- **The inbox and the frames emitted are different arrays.** -/
structure Apart (s : Intake) : Prop where
  buf_lt : s.inbox.buf < s.heap.size
  emitted_lt : ∀ a ∈ s.emitted, a < s.heap.size
  ne_buf : ∀ a ∈ s.emitted, a ≠ s.inbox.buf

/-- **A step that emits the given frames**: it writes to the array of the inbox only, or moves the
inbox to an array of its own. -/
structure Advances (s s' : Intake) (ms : List (List UInt8)) : Prop where
  ordered : s'.Ordered
  apart : s'.Apart
  size_le : s.heap.size ≤ s'.heap.size
  read_eq : ∀ a < s.heap.size, a ≠ s.inbox.buf → s'.heap.read a = s.heap.read a
  buf_eq : s'.inbox.buf = s.inbox.buf ∨ s.heap.size ≤ s'.inbox.buf
  emits : ∃ frames, s'.emitted = s.emitted ++ frames ∧ frames.map s'.heap.read = ms

variable {s s' s'' : Intake} {ms ms' : List (List UInt8)}

/-- What has been emitted keeps its bytes. -/
theorem Advances.read_emitted (h : Advances s s' ms) (hs : s.Apart) {frames : List ℕ}
    (hframes : ∀ a ∈ frames, a ∈ s.emitted) :
    frames.map s'.heap.read = frames.map s.heap.read := by
  refine List.map_congr_left fun a ha => ?_
  have hmem := hframes a ha
  exact h.read_eq a (hs.emitted_lt a hmem) (hs.ne_buf a hmem)

theorem Advances.trans (h : Advances s s' ms) (h' : Advances s' s'' ms') :
    Advances s s'' (ms ++ ms') where
  ordered := h'.ordered
  apart := h'.apart
  size_le := h.size_le.trans h'.size_le
  read_eq := by
    intro a hlt hne
    have hne' : a ≠ s'.inbox.buf := by
      rcases h.buf_eq with hbuf | hbuf
      · rw [hbuf]
        exact hne
      · exact (hlt.trans_le hbuf).ne
    rw [h'.read_eq a (hlt.trans_le h.size_le) hne', h.read_eq a hlt hne]
  buf_eq := by
    rcases h'.buf_eq with hbuf | hbuf
    · rw [hbuf]
      exact h.buf_eq
    · exact .inr (h.size_le.trans hbuf)
  emits := by
    obtain ⟨frames, hemitted, hread⟩ := h.emits
    obtain ⟨frames', hemitted', hread'⟩ := h'.emits
    refine ⟨frames ++ frames', by rw [hemitted', hemitted, List.append_assoc], ?_⟩
    have hkept : frames.map s''.heap.read = frames.map s'.heap.read :=
      h'.read_emitted h.apart fun a ha => by
        rw [hemitted]
        exact List.mem_append_right _ ha
    rw [List.map_append, hkept, hread, hread']

theorem Ordered.length_live (hs : s.Ordered) : s.live.length = s.inbox.stop - s.inbox.start :=
  length_subarray hs.stop_le

/-! ### Room for a chunk -/

theorem le_doubled (need cap : ℕ) (hcap : 0 < cap) : need ≤ doubled need cap hcap := by
  unfold doubled
  split_ifs with hlt
  · exact le_doubled need (cap * 2) _
  · exact not_lt.mp hlt
termination_by need - cap

/-- An intake whose inbox was written to in place. -/
theorem advances_write {bytes : List UInt8} {start stop : ℕ} (hs : s.Apart) (hstart : start ≤ stop)
    (hstop : stop ≤ bytes.length) :
    Advances s { s with
      heap := s.heap.write s.inbox.buf bytes
      inbox := { s.inbox with start, stop } } [] where
  ordered := by
    refine ⟨hstart, ?_⟩
    show stop ≤ ((s.heap.write s.inbox.buf bytes).read s.inbox.buf).length
    rw [Heap.read_write_self hs.buf_lt]
    exact hstop
  apart := by
    refine ⟨?_, ?_, hs.ne_buf⟩
    · show s.inbox.buf < (s.heap.write s.inbox.buf bytes).size
      rw [Heap.size_write]
      exact hs.buf_lt
    · intro a ha
      show a < (s.heap.write s.inbox.buf bytes).size
      rw [Heap.size_write]
      exact hs.emitted_lt a ha
  size_le := Heap.size_write.ge
  read_eq a _ hne := Heap.read_write_of_ne (Ne.symm hne)
  buf_eq := .inl rfl
  emits := ⟨[], (List.append_nil _).symm, rfl⟩

/-- **Room is made for the chunk**, and what waits is the same. -/
theorem ensureInboxCapacity_spec (hs : s.Ordered) (hapart : s.Apart) (extra : ℕ) :
    ∃ s', s.ensureInboxCapacity extra = some s' ∧ Advances s s' [] ∧ s'.live = s.live ∧
      s'.inbox.stop + extra ≤ s'.array.length := by
  have hlive := hs.length_live
  unfold ensureInboxCapacity
  dsimp only
  split_ifs with hfits hmove
  · refine ⟨_, rfl, advances_write hapart (Nat.zero_le _) ?_, ?_, ?_⟩
    · rw [length_copyWithin hs.stop_le]
      omega
    · show subarray ((s.heap.write s.inbox.buf _).read s.inbox.buf) 0 _ = _
      rw [Heap.read_write_self hapart.buf_lt]
      exact subarray_copyWithin hs.stop_le
    · show s.inbox.stop - s.inbox.start + extra ≤
        ((s.heap.write s.inbox.buf _).read s.inbox.buf).length
      rw [Heap.read_write_self hapart.buf_lt, length_copyWithin hs.stop_le]
      exact hfits
  · refine ⟨s, rfl, ⟨hs, hapart, le_refl _, fun _ _ _ => rfl, .inl rfl,
      ⟨[], (List.append_nil _).symm, rfl⟩⟩, rfl, not_lt.mp hmove⟩
  · have hneed := le_doubled (s.inbox.stop - s.inbox.start + extra) (max s.array.length 1)
      (Nat.lt_of_lt_of_le Nat.one_pos (Nat.le_max_right _ _))
    set cap := doubled (s.inbox.stop - s.inbox.start + extra) (max s.array.length 1) _
    obtain ⟨next, hset⟩ : ∃ next, set (List.replicate cap 0) s.live 0 = some next :=
      ⟨_, set_eq_some_iff.mpr ⟨by rw [List.length_replicate]; omega, rfl⟩⟩
    have hlength : next.length = cap := by rw [length_of_set hset, List.length_replicate]
    have hnext : subarray next 0 (s.inbox.stop - s.inbox.start) = s.live := by
      have hsub := subarray_of_set hset (le_refl 0)
      rw [Nat.zero_add, hlive] at hsub
      rw [hsub]
      exact List.nil_append _
    have hread : (s.heap.alloc next).1.read (s.heap.alloc next).2 = next := Heap.read_alloc_self
    refine ⟨{ s with heap := (s.heap.alloc next).1,
                     inbox := ⟨(s.heap.alloc next).2, 0, s.inbox.stop - s.inbox.start⟩ }, ?_, ?_, ?_, ?_⟩
    · show (set (List.replicate cap 0) s.live 0).bind _ = _
      rw [hset]
      rfl
    · refine ⟨⟨Nat.zero_le _, ?_⟩, ⟨?_, ?_, ?_⟩, ?_, ?_, .inr (le_refl _),
        [], (List.append_nil _).symm, rfl⟩
      · show s.inbox.stop - s.inbox.start ≤
          ((s.heap.alloc next).1.read (s.heap.alloc next).2).length
        rw [hread]
        omega
      · show s.heap.size < (s.heap.alloc next).1.size
        rw [Heap.size_alloc]
        exact Nat.lt_succ_self _
      · intro a ha
        show a < (s.heap.alloc next).1.size
        rw [Heap.size_alloc]
        exact (hapart.emitted_lt a ha).trans (Nat.lt_succ_self _)
      · intro a ha
        exact (hapart.emitted_lt a ha).ne
      · show s.heap.size ≤ (s.heap.alloc next).1.size
        rw [Heap.size_alloc]
        exact Nat.le_succ _
      · intro a hlt _
        exact Heap.read_alloc_of_lt hlt
    · show subarray ((s.heap.alloc next).1.read (s.heap.alloc next).2) 0 _ = _
      rw [hread]
      exact hnext
    · show s.inbox.stop - s.inbox.start + extra ≤
        ((s.heap.alloc next).1.read (s.heap.alloc next).2).length
      rw [hread]
      omega

/-- **A chunk that there is room for goes behind what waits.** -/
theorem appendChunk_spec (hs : s.Ordered) (hapart : s.Apart) {chunk : List UInt8}
    (hroom : s.inbox.stop + chunk.length ≤ s.array.length) :
    ∃ s', s.appendChunk chunk = some s' ∧ Advances s s' [] ∧ s'.live = s.live ++ chunk := by
  obtain ⟨bytes, hset⟩ : ∃ bytes, set s.array chunk s.inbox.stop = some bytes :=
    ⟨_, set_eq_some_iff.mpr ⟨hroom, rfl⟩⟩
  have hlength := length_of_set hset
  refine ⟨_, by rw [appendChunk, hset]; rfl,
    advances_write hapart (hs.start_le.trans (Nat.le_add_right _ _)) (hlength ▸ hroom), ?_⟩
  show subarray ((s.heap.write s.inbox.buf bytes).read s.inbox.buf) s.inbox.start _ = _
  rw [Heap.read_write_self hapart.buf_lt]
  exact subarray_of_set hset hs.start_le

/-! ### The loop -/

/-- **What a round does**: it ends the loop when no whole message waits, and emits the first one
otherwise. -/
theorem round_spec (hs : s.Ordered) (hapart : s.Apart) :
    (s.round = some none ∧ front (2 ^ 32 - 1) s.live = .short) ∨
      ∃ s' m, s.round = some (some s') ∧ Advances s s' [m] ∧
        front (2 ^ 32 - 1) s.live = .message m s'.live := by
  have hlive := hs.length_live
  have hstop := hs.stop_le
  have hstart := hs.start_le
  unfold round
  by_cases hshort : s.inbox.stop - s.inbox.start < 4
  · left
    refine ⟨if_pos hshort, if_pos ?_⟩
    rw [hlive]
    exact hshort
  rw [if_neg hshort, if_neg (show ¬ s.array.length < s.inbox.start + 4 by omega)]
  have hfour : subarray s.array s.inbox.start (s.inbox.start + 4) = s.live.take 4 := by
    rw [live, subarray, subarray, List.take_take]
    congr 1
    omega
  dsimp only
  rw [hfour]
  set len := BigEndian.ofBytes (s.live.take 4) with hlen
  have hlimit : ¬ 2 ^ 32 - 1 < len := by
    have hlt := BigEndian.ofBytes_lt (s.live.take 4)
    have htake : (s.live.take 4).length = 4 := by
      rw [List.length_take]
      omega
    rw [htake] at hlt
    omega
  have hdrop : (s.live.drop 4).length = s.inbox.stop - s.inbox.start - 4 := by
    rw [List.length_drop, hlive]
  have hfront : front (2 ^ 32 - 1) s.live =
      if (s.live.drop 4).length < len then .short
      else .message ((s.live.drop 4).take len) ((s.live.drop 4).drop len) := by
    unfold front
    dsimp only
    rw [if_neg (by rw [hlive]; exact hshort), ← hlen, if_neg hlimit]
  by_cases hwait : s.inbox.stop - s.inbox.start < 4 + len
  · left
    refine ⟨if_pos hwait, ?_⟩
    rw [hfront, if_pos (by omega)]
  · right
    have hbody : subarray s.array (s.inbox.start + 4) (s.inbox.start + 4 + len) =
        (s.live.drop 4).take len := by
      rw [live, subarray, subarray, List.drop_take, List.drop_drop, List.take_take]
      congr 1
      omega
    have hrest : subarray s.array (s.inbox.start + (4 + len)) s.inbox.stop =
        (s.live.drop 4).drop len := by
      rw [live, subarray, subarray, List.drop_drop, List.drop_take, List.drop_drop]
      congr 1
      omega
    rw [if_neg hwait, hbody, hfront, if_neg (by omega)]
    have hkept : ((s.heap.alloc ((s.live.drop 4).take len)).1.read s.inbox.buf) = s.array :=
      Heap.read_alloc_of_lt hapart.buf_lt
    refine ⟨_, (s.live.drop 4).take len, rfl, ⟨⟨?_, ?_⟩, ⟨?_, ?_, ?_⟩, ?_, ?_, .inl rfl, ?_⟩, ?_⟩
    · show s.inbox.start + (4 + len) ≤ s.inbox.stop
      omega
    · show s.inbox.stop ≤ ((s.heap.alloc _).1.read s.inbox.buf).length
      rw [hkept]
      exact hstop
    · show s.inbox.buf < (s.heap.alloc _).1.size
      rw [Heap.size_alloc]
      exact hapart.buf_lt.trans (Nat.lt_succ_self _)
    · intro a ha
      show a < (s.heap.alloc _).1.size
      rw [Heap.size_alloc]
      rcases List.mem_append.mp ha with ha | ha
      · exact (hapart.emitted_lt a ha).trans (Nat.lt_succ_self _)
      · rw [List.mem_singleton.mp ha]
        exact Nat.lt_succ_self _
    · intro a ha
      rcases List.mem_append.mp ha with ha | ha
      · exact hapart.ne_buf a ha
      · rw [List.mem_singleton.mp ha]
        exact hapart.buf_lt.ne'
    · show s.heap.size ≤ (s.heap.alloc _).1.size
      rw [Heap.size_alloc]
      exact Nat.le_succ _
    · intro a hlt _
      exact Heap.read_alloc_of_lt hlt
    · refine ⟨[_], rfl, ?_⟩
      rw [List.map_singleton]
      exact congrArg (fun m => [m]) Heap.read_alloc_self
    · congr 1
      show _ = subarray ((s.heap.alloc _).1.read s.inbox.buf) _ _
      rw [hkept]
      exact hrest.symm

/-- **The loop emits the messages that wait**, and ends where no whole one is left. -/
theorem drain_spec (hs : s.Ordered) (hapart : s.Apart) :
    ∃ s' ms, s.drain = some s' ∧ Advances s s' ms ∧ Reads (2 ^ 32 - 1) s.live ms s'.live := by
  induction hn : s.inbox.stop - s.inbox.start using Nat.strong_induction_on generalizing s with
  | _ n ih =>
    rcases round_spec hs hapart with ⟨hround, hshort⟩ | ⟨s', m, hround, hadvances, hmessage⟩
    · refine ⟨s, [], ?_, ⟨hs, hapart, le_refl _, fun _ _ _ => rfl, .inl rfl,
        [], (List.append_nil _).symm, rfl⟩, .nil hshort⟩
      unfold drain
      split
      · simp_all
      · rfl
      · simp_all
    · have hless := stop_sub_start_of_round hround
      obtain ⟨s'', ms, hdrain, hadvances', hreads⟩ :=
        ih _ (hn ▸ hless) hadvances.ordered hadvances.apart rfl
      refine ⟨s'', m :: ms, ?_, hadvances.trans hadvances', .cons hmessage hreads⟩
      unfold drain
      split
      · simp_all
      · simp_all
      · simp_all

/-! ### A chunk, and all of them -/

theorem reset_spec (hs : s.Ordered) (hapart : s.Apart) :
    Advances s s.reset [] ∧ s.reset.live = s.live := by
  unfold reset
  split_ifs with hempty
  · refine ⟨⟨⟨le_refl _, Nat.zero_le _⟩, ⟨hapart.buf_lt, hapart.emitted_lt, hapart.ne_buf⟩, le_refl _,
      fun _ _ _ => rfl, .inl rfl, [], (List.append_nil _).symm, rfl⟩, ?_⟩
    show subarray s.array 0 0 = subarray s.array s.inbox.start s.inbox.stop
    rw [hempty, subarray, subarray, Nat.sub_self, Nat.sub_self, List.take_zero, List.take_zero]
  · exact ⟨⟨hs, hapart, le_refl _, fun _ _ _ => rfl, .inl rfl, [], (List.append_nil _).symm, rfl⟩,
      rfl⟩

/-- **A chunk is read behind what waits.** -/
theorem pushLengthPrefixedChunk_spec (hs : s.Ordered) (hapart : s.Apart) (chunk : List UInt8) :
    ∃ s' ms, s.pushLengthPrefixedChunk chunk = some s' ∧ Advances s s' ms ∧
      Reads (2 ^ 32 - 1) (s.live ++ chunk) ms s'.live := by
  obtain ⟨s₁, hensure, hfirst, hlive₁, hroom⟩ := ensureInboxCapacity_spec hs hapart chunk.length
  obtain ⟨s₂, happend, hsecond, hlive₂⟩ := appendChunk_spec hfirst.ordered hfirst.apart hroom
  obtain ⟨s₃, ms, hdrain, hthird, hreads⟩ := drain_spec hsecond.ordered hsecond.apart
  obtain ⟨hlast, hlive⟩ := reset_spec hthird.ordered hthird.apart
  refine ⟨s₃.reset, ms, ?_, ?_, ?_⟩
  · rw [pushLengthPrefixedChunk, hensure]
    show (s₁.appendChunk chunk).bind _ = _
    rw [happend]
    show (s₂.drain).bind _ = _
    rw [hdrain]
    rfl
  · have h := (hfirst.trans hsecond).trans (hthird.trans hlast)
    simpa using h
  · rw [hlive, ← hlive₁, ← hlive₂]
    exact hreads

theorem pushChunks_spec (chunks : List (List UInt8)) (hs : s.Ordered) (hapart : s.Apart)
    (hshort : front (2 ^ 32 - 1) s.live = .short) :
    ∃ s' ms, s.pushChunks chunks = some s' ∧ Advances s s' ms ∧
      Reads (2 ^ 32 - 1) (s.live ++ chunks.flatten) ms s'.live := by
  induction chunks generalizing s with
  | nil =>
    refine ⟨s, [], rfl, ⟨hs, hapart, le_refl _, fun _ _ _ => rfl, .inl rfl,
      [], (List.append_nil _).symm, rfl⟩, ?_⟩
    rw [List.flatten_nil, List.append_nil]
    exact .nil hshort
  | cons chunk chunks ih =>
    obtain ⟨s₁, ms, hpush, hfirst, hreads⟩ := pushLengthPrefixedChunk_spec hs hapart chunk
    obtain ⟨s₂, ms', hrest, hsecond, hreads'⟩ := ih hfirst.ordered hfirst.apart hreads.front_left
    refine ⟨s₂, ms ++ ms', ?_, hfirst.trans hsecond, ?_⟩
    · rw [pushChunks, List.foldlM_cons, hpush]
      exact hrest
    · rw [List.flatten_cons, ← List.append_assoc]
      exact hreads.append hreads'

/-! ## Every run -/

theorem ordered_create (capacity : ℕ) : (createLengthPrefixedInbox capacity).Ordered :=
  ⟨le_refl _, Nat.zero_le _⟩

theorem apart_create (capacity : ℕ) : (createLengthPrefixedInbox capacity).Apart :=
  ⟨Nat.one_pos, fun _ h => (List.not_mem_nil h).elim, fun _ h => (List.not_mem_nil h).elim⟩

/-- One round of the loop, as a relation. -/
def Rounds (s s' : Intake) : Prop := s.round = some (some s')

theorem ordered_of_rounds (h : Relation.ReflTransGen Rounds s s') (hs : s.Ordered)
    (hapart : s.Apart) : s'.Ordered ∧ s'.Apart := by
  induction h with
  | refl => exact ⟨hs, hapart⟩
  | tail _ hround ih =>
    rcases round_spec ih.1 ih.2 with ⟨hnone, -⟩ | ⟨s'', m, hsome, hadvances, -⟩
    · rw [Rounds, hnone] at hround
      cases hround
    · rw [Rounds, hsome] at hround
      obtain rfl := Option.some.inj (Option.some.inj hround)
      exact ⟨hadvances.ordered, hadvances.apart⟩

/-- **A property of every state that pushing a chunk goes through**: with room made, with the chunk
appended, behind every round of the loop, and at the end. -/
def Throughout (P : Intake → Prop) (s : Intake) (chunk : List UInt8) : Prop :=
  P s ∧ ∀ s₁, s.ensureInboxCapacity chunk.length = some s₁ →
    P s₁ ∧ ∀ s₂, s₁.appendChunk chunk = some s₂ →
      ∀ s₃, Relation.ReflTransGen Rounds s₂ s₃ → P s₃ ∧ P s₃.reset

theorem throughout_ordered (hs : s.Ordered) (hapart : s.Apart) (chunk : List UInt8) :
    Throughout Ordered s chunk := by
  refine ⟨hs, fun s₁ hensure => ?_⟩
  obtain ⟨_, heq, hfirst, -, hroom⟩ := ensureInboxCapacity_spec hs hapart chunk.length
  obtain rfl := Option.some.inj (heq.symm.trans hensure)
  refine ⟨hfirst.ordered, fun s₂ happend s₃ hrounds => ?_⟩
  obtain ⟨_, heq', hsecond, -⟩ := appendChunk_spec hfirst.ordered hfirst.apart hroom
  obtain rfl := Option.some.inj (heq'.symm.trans happend)
  obtain ⟨hordered, hapart'⟩ := ordered_of_rounds hrounds hsecond.ordered hsecond.apart
  exact ⟨hordered, (reset_spec hordered hapart').1.ordered⟩

/-- **Reassembly does not depend on the chunks.**  For every capacity and all chunks, nothing throws,
the frames emitted hold the whole messages of the stream, in order and each once, and the inbox holds
what is left of the stream.  Later chunks leave the frames as they are, and the ends of the inbox are
in order and in its array at every moment. -/
theorem frames_of_stream (capacity : ℕ) (chunks : List (List UInt8)) :
    ∃ s frames, (createLengthPrefixedInbox capacity).pushChunks chunks = some s ∧
      s.emitted.map s.heap.read = frames ∧ Reads (2 ^ 32 - 1) chunks.flatten frames s.live ∧
      (∀ later, ∃ s', s.pushChunks later = some s' ∧ s.emitted <+: s'.emitted ∧
        s.emitted.map s'.heap.read = frames) ∧
      ∀ chunk, Throughout Ordered s chunk := by
  obtain ⟨s, ms, hpush, hadvances, hreads⟩ := pushChunks_spec chunks (ordered_create capacity)
    (apart_create capacity) (s := createLengthPrefixedInbox capacity) (by
      have hempty : (createLengthPrefixedInbox capacity).live = [] := rfl
      rw [hempty]
      exact front_nil)
  obtain ⟨frames, hemitted, hread⟩ := hadvances.emits
  have hframes : s.emitted.map s.heap.read = ms := by
    rw [hemitted]
    exact hread
  refine ⟨s, ms, hpush, hframes, hreads, fun later => ?_, fun chunk =>
    throughout_ordered hadvances.ordered hadvances.apart chunk⟩
  obtain ⟨s', ms', hlater, hadvances', -⟩ := pushChunks_spec later hadvances.ordered
    hadvances.apart hreads.front_left
  obtain ⟨frames', hemitted', -⟩ := hadvances'.emits
  refine ⟨s', hlater, ?_, ?_⟩
  · rw [hemitted']
    exact List.prefix_append _ _
  · rw [hadvances'.read_emitted hadvances.apart fun _ h => h]
    exact hframes

end Intake
end Host
end Rclweb
