import Rclweb.Ros.Backend

/-!
# What is taken from ROS

Everything that is removed from ROS for a channel reaches the connection, and the pending requests
of a service are the requests that the browser saw and did not answer (`Worker.Kept`), in every run
in which each turn finds room for what it takes and rcl accepts every response
(`taken_requests_kept`).  Without that condition a request is lost for both sides
(`not_taken_requests_kept`).
-/

namespace Rclweb
namespace Ros
namespace Worker

open Gateway (BackendError ServiceRequest ActionInbound)

variable {w : Worker}

/-! ## Operation ids -/

theorem operationIdOf_inj {m n : ℕ} (hm : m < 2 ^ 64) (hn : n < 2 ^ 64)
    (h : operationIdOf m = operationIdOf n) : m = n := by
  have hbytes : BigEndian.toBytes 8 m = BigEndian.toBytes 8 n :=
    List.append_cancel_left (congrArg Subtype.val h)
  rw [← BigEndian.ofBytes_toBytes_of_lt (k := 8) hm, hbytes,
    BigEndian.ofBytes_toBytes_of_lt (k := 8) hn]

/-! ## The invariant -/

/-- The pending requests of a service are those that were seen and not answered. -/
def PendingExact (entity : ℕ) (entry : ServiceEntry) (seen : List (ℕ × OperationId × RequestHeader))
    (answered : List (ℕ × OperationId)) : Prop :=
  ∀ operationId header, entry.pending.find? operationId = some header ↔
    (entity, operationId, header) ∈ seen ∧ (entity, operationId) ∉ answered

/-- **Nothing that was taken is lost**: everything that was removed from ROS for a connection that
listened was put into its queue, and the pending requests of each service are those that were
delivered and not answered. -/
structure Kept (w : Worker) : Prop where
  delivered : w.delivered = w.taken
  pending : ∀ entity entry, w.services.find? entity = some entry →
    PendingExact entity entry w.seen w.answered

namespace PendingExact

variable {entity : ℕ} {entry : ServiceEntry} {seen : List (ℕ × OperationId × RequestHeader)}
  {answered : List (ℕ × OperationId)} {operationId : OperationId} {header : RequestHeader}

/-- A request under a fresh id is delivered. -/
theorem insert (h : PendingExact entity entry seen answered)
    (hseen : ∀ header', (entity, operationId, header') ∉ seen)
    (hanswered : (entity, operationId) ∉ answered) (count : ℕ) :
    PendingExact entity
      { entry with pending := entry.pending.set operationId header, nextOpid := count }
      (seen ++ [(entity, operationId, header)]) answered := by
  intro operationId' header'
  rw [Table.find?_set, List.mem_append, List.mem_singleton]
  by_cases hid : operationId' = operationId
  · subst hid
    rw [if_pos rfl]
    constructor
    · rintro ⟨⟩
      exact ⟨.inr rfl, hanswered⟩
    · rintro ⟨hmem | heq, -⟩
      · exact absurd hmem (hseen header')
      · cases heq
        rfl
  · rw [if_neg hid, h operationId' header']
    refine and_congr_left fun _ => (or_iff_left fun heq => hid ?_).symm
    cases heq
    rfl

/-- A request of another service is delivered. -/
theorem of_ne {entity' : ℕ} (h : PendingExact entity' entry seen answered)
    (hne : entity' ≠ entity) :
    PendingExact entity' entry (seen ++ [(entity, operationId, header)]) answered := by
  intro operationId' header'
  rw [h operationId' header', List.mem_append, List.mem_singleton]
  refine and_congr_left fun _ => (or_iff_left fun heq => hne ?_).symm
  cases heq
  rfl

/-- A request is answered. -/
theorem remove (h : PendingExact entity entry seen answered) :
    PendingExact entity { entry with pending := entry.pending.remove operationId } seen
      (answered ++ [(entity, operationId)]) := by
  intro operationId' header'
  rw [Table.find?_remove, List.mem_append, List.mem_singleton]
  by_cases hid : operationId' = operationId
  · subst hid
    rw [if_pos rfl]
    exact ⟨fun h => (by cases h), fun h => absurd (.inr rfl) h.2⟩
  · rw [if_neg hid, h operationId' header']
    refine and_congr_right fun _ => not_congr (or_iff_left fun heq => hid ?_).symm
    cases heq
    rfl

/-- A request of another service is answered. -/
theorem answered_of_ne {entity' : ℕ} (h : PendingExact entity' entry seen answered)
    (hne : entity' ≠ entity) :
    PendingExact entity' entry seen (answered ++ [(entity, operationId)]) := by
  intro operationId' header'
  rw [h operationId' header', List.mem_append, List.mem_singleton]
  refine and_congr_right fun _ => not_congr (or_iff_left fun heq => hne ?_).symm
  cases heq
  rfl

end PendingExact

/-- The operation ids of a service are counted, and its number was given out. -/
structure Counted (w : Worker) : Prop where
  entities : ∀ entity entry, w.services.find? entity = some entry → entity ≤ w.nextEntity
  seen : ∀ entity operationId header, (entity, operationId, header) ∈ w.seen →
    entity ≤ w.nextEntity
  counts : ∀ entity entry, w.services.find? entity = some entry → entry.nextOpid < 2 ^ 64 ∧
    ∀ operationId header, (entity, operationId, header) ∈ w.seen →
      ∃ n ≤ entry.nextOpid, operationId = operationIdOf n
  answered : ∀ entity operationId, (entity, operationId) ∈ w.answered →
    ∃ header, (entity, operationId, header) ∈ w.seen

theorem kept_initial (capacity : ℕ → ℕ) : (initial capacity).Kept :=
  ⟨rfl, fun _ _ h => by cases h⟩

theorem counted_initial (capacity : ℕ → ℕ) : (initial capacity).Counted where
  entities _ _ h := by cases h
  seen _ _ _ h := absurd h List.not_mem_nil
  counts _ _ h := by cases h
  answered _ _ h := absurd h List.not_mem_nil

/-! ## The condition -/

/-- **An act that loses nothing**: what a turn removes from ROS can be serialized, a goal is
accepted, and the connection has room for it; rcl sends the response to every pending request. -/
def Delivers (w : Worker) : Act → Prop
  | .takeRequest entity (.removed _ cdr) => ∀ entry, w.services.find? entity = some entry →
      cdr.isOk ∧ (w.requests entry.sink).HasRoom ∧ entry.nextOpid + 1 < 2 ^ 64
  | .takeGoal entity (.removed _ cdr) accepted =>
      ∀ entry, w.actionServers.find? entity = some entry →
        (w.actions entry.sink).closed = true ∨
          cdr.isOk ∧ accepted.isOk ∧ (w.actions entry.sink).HasRoom
  | .takeCancel entity (.removed _ cdr) =>
      ∀ entry, w.actionServers.find? entity = some entry →
        (w.actions entry.sink).closed = true ∨ cdr.isOk ∧ (w.actions entry.sink).HasRoom
  | .sendServiceResponse entity operationId sent =>
      ∀ entry, w.services.find? entity = some entry →
        (entry.pending.find? operationId).isSome → sent.isOk
  | _ => True

/-- A response that is refused leaves its request answerable. -/
def StaysAnswerable (w : Worker) : Act → Prop
  | .sendServiceResponse entity operationId sent => ∀ err entry header,
      (w.sendServiceResponse entity operationId sent).2 = .error err →
        w.services.find? entity = some entry → entry.pending.find? operationId = some header →
          ∃ entry', (w.sendServiceResponse entity operationId sent).1.services.find? entity =
            some entry' ∧ entry'.pending.find? operationId = some header
  | _ => True

/-! ## The acts -/

/-- **What leaves the services alone** keeps the invariant when it delivers what it takes. -/
theorem keeps_of_services {w' : Worker} (h : w.Kept ∧ w.Counted)
    (hservices : w'.services = w.services) (hentity : w.nextEntity ≤ w'.nextEntity)
    (hseen : w'.seen = w.seen) (hanswered : w'.answered = w.answered)
    (hdelivered : w'.delivered = w'.taken) : w'.Kept ∧ w'.Counted := by
  refine ⟨⟨hdelivered, ?_⟩, ⟨?_, ?_, ?_, ?_⟩⟩
  · rw [hservices, hseen, hanswered]
    exact h.1.pending
  · rw [hservices]
    exact fun entity entry hentry => (h.2.entities entity entry hentry).trans hentity
  · rw [hseen]
    exact fun entity operationId header hmem =>
      (h.2.seen entity operationId header hmem).trans hentity
  · rw [hservices, hseen]
    exact h.2.counts
  · rw [hseen, hanswered]
    exact h.2.answered

/-- A message that finds room goes in. -/
theorem trySend_of_hasRoom {α : Type} {s : Sink α} (h : s.HasRoom) (a : α) :
    s.trySend a = ({ s with queue := s.queue ++ [a] }, true) := if_pos h

theorem trySend_of_closed {α : Type} {s : Sink α} (h : s.closed = true) (a : α) :
    s.trySend a = (s, false) := by
  refine if_neg fun hroom => ?_
  rw [hroom.1] at h
  exact Bool.false_ne_true h

theorem take_of_closed {item : Item} : w.take item true = w := rfl

theorem isOk_elim {ε α : Type} {x : Except ε α} (h : x.isOk = true) : ∃ a, x = .ok a := by
  cases x with
  | ok a => exact ⟨a, rfl⟩
  | error e => cases h

theorem keeps_takeGoal (h : w.Kept ∧ w.Counted) {entity : ℕ}
    {result : Take (RequestHeader × OperationId)} {accepted : Except RclError ℕ}
    (hdelivers : w.Delivers (.takeGoal entity result accepted)) :
    (w.takeGoal entity result accepted).Kept ∧ (w.takeGoal entity result accepted).Counted := by
  unfold takeGoal
  split
  · exact h
  · next entry hentry =>
    split
    · exact h
    · exact h
    · next header uuid err =>
      rcases hdelivers entry hentry with hclosed | ⟨hcdr, -⟩
      · rw [hclosed, take_of_closed]
        exact h
      · cases hcdr
    · next header uuid goalCdr =>
      rcases hdelivers entry hentry with hclosed | ⟨-, haccepted, hroom⟩
      · rw [hclosed, take_of_closed]
        dsimp only
        split
        · exact h
        · rw [trySend_of_closed hclosed]
          exact keeps_of_services h rfl le_rfl rfl rfl h.1.delivered
      · obtain ⟨handle, rfl⟩ := isOk_elim haccepted
        rw [hroom.1]
        dsimp only [take]
        rw [if_neg Bool.false_ne_true, trySend_of_hasRoom hroom]
        refine keeps_of_services h rfl le_rfl rfl rfl ?_
        exact congrArg (· ++ [Item.goal entity uuid]) h.1.delivered

theorem keeps_takeCancel (h : w.Kept ∧ w.Counted) {entity : ℕ}
    {result : Take (RequestHeader × OperationId)}
    (hdelivers : w.Delivers (.takeCancel entity result)) :
    (w.takeCancel entity result).Kept ∧ (w.takeCancel entity result).Counted := by
  unfold takeCancel
  split
  · exact h
  · next entry hentry =>
    split
    · exact h
    · exact h
    · next header uuid err =>
      rcases hdelivers entry hentry with hclosed | ⟨hcdr, -⟩
      · rw [hclosed, take_of_closed]
        exact h
      · cases hcdr
    · next header uuid cdr =>
      rcases hdelivers entry hentry with hclosed | ⟨-, hroom⟩
      · rw [hclosed, take_of_closed]
        dsimp only
        rw [trySend_of_closed hclosed]
        exact h
      · rw [hroom.1]
        dsimp only [take]
        rw [if_neg Bool.false_ne_true, trySend_of_hasRoom hroom]
        refine keeps_of_services h rfl le_rfl rfl rfl ?_
        exact congrArg (· ++ [Item.cancel entity uuid]) h.1.delivered

theorem keeps_takeResultRequest (h : w.Kept ∧ w.Counted) {entity : ℕ}
    {result : Except RclError (Option (RequestHeader × OperationId))}
    {succeedGoal : Except RclError Unit} :
    (w.takeResultRequest entity result succeedGoal).Kept ∧
      (w.takeResultRequest entity result succeedGoal).Counted := by
  unfold takeResultRequest
  split
  · split
    · exact h
    · dsimp only
      split
      · exact keeps_of_services h rfl le_rfl rfl rfl h.1.delivered
      · split <;> exact keeps_of_services h rfl le_rfl rfl rfl h.1.delivered
  · exact h

theorem keeps_sendActionResult (h : w.Kept ∧ w.Counted) {entity : ℕ} {operationId : OperationId}
    {payload : List UInt8} {succeedGoal sendResult : Except RclError Unit} :
    (w.sendActionResult entity operationId payload succeedGoal sendResult).1.Kept ∧
      (w.sendActionResult entity operationId payload succeedGoal sendResult).1.Counted := by
  unfold sendActionResult
  split
  · exact h
  · split
    · exact h
    · dsimp only
      split <;> exact keeps_of_services h rfl le_rfl rfl rfl h.1.delivered

/-- **A request that is taken** is pending under an id that was not used before. -/
theorem keeps_takeRequest (h : w.Kept ∧ w.Counted) {entity : ℕ} {result : Take RequestHeader}
    (hdelivers : w.Delivers (.takeRequest entity result)) :
    (w.takeRequest entity result).Kept ∧ (w.takeRequest entity result).Counted := by
  unfold takeRequest
  split
  · exact h
  · next entry hentry =>
    split
    · exact h
    · exact h
    · cases (hdelivers entry hentry).1
    · next header cdr =>
      obtain ⟨-, hroom, hcount⟩ := hdelivers entry hentry
      rw [hroom.1]
      dsimp only [take]
      rw [if_neg Bool.false_ne_true, trySend_of_hasRoom hroom]
      dsimp only
      have hfresh : ∀ header', (entity, operationIdOf (entry.nextOpid + 1), header') ∉ w.seen := by
        intro header' hmem
        obtain ⟨hlt, hcounted⟩ := h.2.counts entity entry hentry
        obtain ⟨n, hn, heq⟩ := hcounted _ _ hmem
        have := operationIdOf_inj hcount (lt_of_le_of_lt hn hlt) heq
        omega
      refine ⟨⟨congrArg (· ++ [Item.request entity header]) h.1.delivered, ?_⟩, ⟨?_, ?_, ?_, ?_⟩⟩
      · intro entity' entry' hentry'
        dsimp only at hentry' ⊢
        rw [Table.find?_set] at hentry'
        split_ifs at hentry' with heq
        · cases heq
          cases hentry'
          refine (h.1.pending entity entry hentry).insert hfresh (fun hmem => ?_) _
          obtain ⟨header', hseen⟩ := h.2.answered _ _ hmem
          exact hfresh header' hseen
        · exact (h.1.pending entity' entry' hentry').of_ne heq
      · intro entity' entry' hentry'
        dsimp only at hentry' ⊢
        rw [Table.find?_set] at hentry'
        split_ifs at hentry' with heq
        · exact heq ▸ h.2.entities entity entry hentry
        · exact h.2.entities entity' entry' hentry'
      · intro entity' operationId' header' hmem
        rcases List.mem_append.mp hmem with hmem | hmem
        · exact h.2.seen entity' operationId' header' hmem
        · cases List.mem_singleton.mp hmem
          exact h.2.entities entity entry hentry
      · intro entity' entry' hentry'
        dsimp only at hentry' ⊢
        rw [Table.find?_set] at hentry'
        split_ifs at hentry' with heq
        · cases heq
          cases hentry'
          refine ⟨hcount, fun operationId' header' hmem => ?_⟩
          rcases List.mem_append.mp hmem with hmem | hmem
          · obtain ⟨n, hn, hid⟩ := (h.2.counts entity entry hentry).2 _ _ hmem
            exact ⟨n, hn.trans (Nat.le_succ _), hid⟩
          · cases List.mem_singleton.mp hmem
            exact ⟨_, le_rfl, rfl⟩
        · obtain ⟨hlt, hcounted⟩ := h.2.counts entity' entry' hentry'
          refine ⟨hlt, fun operationId' header' hmem => ?_⟩
          rcases List.mem_append.mp hmem with hmem | hmem
          · exact hcounted _ _ hmem
          · cases List.mem_singleton.mp hmem
            exact absurd rfl heq
      · intro entity' operationId' hmem
        obtain ⟨header', hseen⟩ := h.2.answered entity' operationId' hmem
        exact ⟨header', List.mem_append_left _ hseen⟩

/-- A new service is empty, and its number is not in the records. -/
theorem keeps_createService (h : w.Kept ∧ w.Counted) {channelId : UInt32} {sink : ℕ} :
    (w.createService channelId sink).Kept ∧ (w.createService channelId sink).Counted := by
  have hfresh : ∀ operationId header, (w.nextEntity + 1, operationId, header) ∉ w.seen :=
    fun operationId header hmem => absurd (h.2.seen _ _ _ hmem) (Nat.not_succ_le_self _)
  have hold : ∀ entity entry, (w.createService channelId sink).services.find? entity = some entry →
      entity = w.nextEntity + 1 ∧ entry = ⟨channelId, sink, ∅, 0⟩ ∨
        w.services.find? entity = some entry := by
    intro entity entry hentry
    rw [createService, Table.find?_set] at hentry
    split_ifs at hentry with heq
    · exact .inl ⟨heq, (Option.some.inj hentry).symm⟩
    · exact .inr hentry
  refine ⟨⟨h.1.delivered, fun entity entry hentry => ?_⟩, ⟨fun entity entry hentry => ?_,
    fun entity operationId header hmem => (h.2.seen _ _ _ hmem).trans (Nat.le_succ _),
    fun entity entry hentry => ?_, h.2.answered⟩⟩
  · rcases hold entity entry hentry with ⟨rfl, rfl⟩ | hentry
    · exact fun operationId header =>
        ⟨fun hfind => (by cases hfind), fun hmem => absurd hmem.1 (hfresh _ _)⟩
    · exact h.1.pending entity entry hentry
  · rcases hold entity entry hentry with ⟨rfl, rfl⟩ | hentry
    · exact le_rfl
    · exact (h.2.entities entity entry hentry).trans (Nat.le_succ _)
  · rcases hold entity entry hentry with ⟨rfl, rfl⟩ | hentry
    · exact ⟨Nat.two_pow_pos _, fun operationId header hmem => absurd hmem (hfresh _ _)⟩
    · exact h.2.counts entity entry hentry

theorem keeps_destroyEntity (h : w.Kept ∧ w.Counted) {entity : ℕ} :
    (w.destroyEntity entity).Kept ∧ (w.destroyEntity entity).Counted := by
  have hold : ∀ entity' entry, (w.destroyEntity entity).services.find? entity' = some entry →
      w.services.find? entity' = some entry := by
    intro entity' entry hentry
    rw [destroyEntity, Table.find?_remove] at hentry
    split_ifs at hentry
    exact hentry
  exact ⟨⟨h.1.delivered, fun entity' entry hentry => h.1.pending _ _ (hold _ _ hentry)⟩,
    ⟨fun entity' entry hentry => h.2.entities _ _ (hold _ _ hentry), h.2.seen,
      fun entity' entry hentry => h.2.counts _ _ (hold _ _ hentry), h.2.answered⟩⟩

/-- **A response of a pending request** takes it out of the pending ones. -/
theorem keeps_sendServiceResponse (h : w.Kept ∧ w.Counted) {entity : ℕ}
    {operationId : OperationId} {sent : Except RclError Unit}
    (hdelivers : w.Delivers (.sendServiceResponse entity operationId sent)) :
    (w.sendServiceResponse entity operationId sent).1.Kept ∧
      (w.sendServiceResponse entity operationId sent).1.Counted := by
  unfold sendServiceResponse
  split
  · exact h
  · next entry hentry =>
    split
    · exact h
    · next header hpending =>
      obtain ⟨_, rfl⟩ := isOk_elim (hdelivers entry hentry (hpending ▸ rfl))
      dsimp only
      have hseen := ((h.1.pending entity entry hentry) operationId header).mp hpending
      refine ⟨⟨h.1.delivered, fun entity' entry' hentry' => ?_⟩,
        ⟨fun entity' entry' hentry' => ?_, h.2.seen, fun entity' entry' hentry' => ?_,
          fun entity' operationId' hmem => ?_⟩⟩
      · dsimp only at hentry' ⊢
        rw [Table.find?_set] at hentry'
        split_ifs at hentry' with heq
        · cases heq
          cases hentry'
          exact (h.1.pending entity entry hentry).remove
        · exact (h.1.pending entity' entry' hentry').answered_of_ne heq
      · dsimp only at hentry' ⊢
        rw [Table.find?_set] at hentry'
        split_ifs at hentry' with heq
        · exact heq ▸ h.2.entities entity entry hentry
        · exact h.2.entities entity' entry' hentry'
      · dsimp only at hentry' ⊢
        rw [Table.find?_set] at hentry'
        split_ifs at hentry' with heq
        · cases heq
          cases hentry'
          exact h.2.counts entity entry hentry
        · exact h.2.counts entity' entry' hentry'
      · rcases List.mem_append.mp hmem with hmem | hmem
        · exact h.2.answered _ _ hmem
        · cases List.mem_singleton.mp hmem
          exact ⟨header, hseen.1⟩

/-- **Every act that loses nothing keeps the invariant.** -/
theorem keeps_step (h : w.Kept ∧ w.Counted) {act : Act} (hdelivers : w.Delivers act) :
    (w.step act).Kept ∧ (w.step act).Counted := by
  cases act with
  | takeRequest entity result => exact keeps_takeRequest h hdelivers
  | takeGoal entity result accepted => exact keeps_takeGoal h hdelivers
  | takeResultRequest entity result succeedGoal => exact keeps_takeResultRequest h
  | takeCancel entity result => exact keeps_takeCancel h hdelivers
  | createService channelId sink => exact keeps_createService h
  | createActionServer channelId sink =>
    exact keeps_of_services h rfl (Nat.le_succ _) rfl rfl h.1.delivered
  | sendServiceResponse entity operationId sent => exact keeps_sendServiceResponse h hdelivers
  | sendActionResult entity operationId payload succeedGoal sendResult =>
    exact keeps_sendActionResult h
  | destroy entity => exact keeps_destroyEntity h
  | consumeRequest connection => exact keeps_of_services h rfl le_rfl rfl rfl h.1.delivered
  | consumeAction connection => exact keeps_of_services h rfl le_rfl rfl rfl h.1.delivered
  | leave connection => exact keeps_of_services h rfl le_rfl rfl rfl h.1.delivered

/-- A pending request whose response rcl takes is not answered with an error. -/
theorem staysAnswerable_of_delivers {act : Act} (hdelivers : w.Delivers act) :
    w.StaysAnswerable act := by
  cases act with
  | sendServiceResponse entity operationId sent =>
    intro err entry header herr hentry hpending
    obtain ⟨_, rfl⟩ := isOk_elim (hdelivers entry hentry (hpending ▸ rfl))
    unfold sendServiceResponse at herr
    rw [hentry] at herr
    dsimp only at herr
    rw [hpending] at herr
    cases herr
  | _ => trivial

end Worker

/-! ## Runs -/

/-- **What is taken from ROS is kept as long as there is room for it**: in every run in which each
act loses nothing, everything that was removed from ROS for a connection that listened was put into
its queue, the pending requests of every service are those that were delivered and not answered, and
a response that is refused leaves its request answerable. -/
theorem taken_requests_kept (capacity : ℕ → ℕ) (acts : List Act)
    (h : Acts.Meets Worker.step Worker.Delivers (.initial capacity) acts) :
    (Acts.run Worker.step (.initial capacity) acts).Kept ∧
      Acts.Meets Worker.step Worker.StaysAnswerable (.initial capacity) acts :=
  ⟨(Acts.invariant_run (fun w : Worker => w.Kept ∧ w.Counted)
      (fun _ _ hw hact => Worker.keeps_step hw hact)
      ⟨Worker.kept_initial capacity, Worker.counted_initial capacity⟩ h).1,
    Acts.Meets.of_invariant (fun _ => True) (fun _ _ _ _ => trivial)
      (fun _ _ _ => Worker.staysAnswerable_of_delivers) trivial h⟩

/-- A header of a ROS request. -/
def sampleHeader (n : ℤ) : RequestHeader := ⟨[], n⟩

/-- A service of a connection with one free place, and two requests before the connection looks. -/
def crowded : List Act :=
  [.createService 1 0, .takeRequest 1 (.removed (sampleHeader 1) (.ok [])),
    .takeRequest 1 (.removed (sampleHeader 2) (.ok []))]

/-- **The second request is gone from ROS and never reaches the connection.** -/
theorem not_taken_requests_kept :
    ¬ (Acts.run Worker.step (.initial fun _ => 1) crowded).Kept := by
  intro h
  have hlength := congrArg List.length h.delivered
  exact absurd hlength (by decide)

/-- The connection looks in between, and answers the first request. -/
theorem taken_requests_kept_of_room :
    (Acts.run Worker.step (.initial fun _ => 1) [.createService 1 0,
      .takeRequest 1 (.removed (sampleHeader 1) (.ok [])), .consumeRequest 0,
      .takeRequest 1 (.removed (sampleHeader 2) (.ok [])),
      .sendServiceResponse 1 (operationIdOf 1) (.ok ())]).Kept := by
  refine (taken_requests_kept (fun _ => 1) [.createService 1 0,
      .takeRequest 1 (.removed (sampleHeader 1) (.ok [])), .consumeRequest 0,
      .takeRequest 1 (.removed (sampleHeader 2) (.ok [])),
      .sendServiceResponse 1 (operationIdOf 1) (.ok ())] ⟨trivial, ?_, trivial, ?_, ?_, trivial⟩).1
  · rintro entry ⟨⟩
    exact ⟨rfl, by decide, by decide⟩
  · rintro entry ⟨⟩
    exact ⟨rfl, by decide, by decide⟩
  · rintro entry ⟨⟩ -
    rfl

end Ros
end Rclweb
