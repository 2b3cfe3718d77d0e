import Mathlib.Data.Finset.Basic
import Mathlib.Data.Multiset.Count
import Rclweb.Library.Acts
import Rclweb.Ros.Backend

/-!
# Who owns an entity

The ROS thread keeps the entities it creates in six tables.  A Call and a SendActionGoal take their
entry out of its table, execute whatever commands arrive while they wait, which may be more Calls
and goals, and put the entry back when they return.  So the operations that run form a stack, and an
act is a command that the innermost of them drains, or its return.

What is known of an entry is its entity: what rcl does with it decides only whether a `create_*`
succeeds.  `created` and `destroyed` record what the commands did and are read by no function.
-/

namespace Rclweb
namespace Ros

open Gateway (BackendError)

/-- The tables of the worker. -/
inductive EntityKind where
  | subscription | publisher | client | service | actionClient | actionServer
  deriving DecidableEq

/-- The tables in the order in which `destroy_entity` and `teardown` visit them. -/
def EntityKind.all : List EntityKind :=
  [.subscription, .publisher, .client, .service, .actionClient, .actionServer]

/-- The commands that look an entity up. -/
inductive Lookup where
  | publish | sendServiceResponse | cancelAction | sendActionFeedback | sendActionResult
  | sendActionStatus

def Lookup.table : Lookup → EntityKind
  | publish => .publisher
  | sendServiceResponse => .service
  | cancelAction => .actionClient
  | sendActionFeedback | sendActionResult | sendActionStatus => .actionServer

def Lookup.unknown : Lookup → String
  | publish => "unknown publisher entity"
  | sendServiceResponse => "unknown service server entity"
  | cancelAction => "unknown action client entity"
  | sendActionFeedback | sendActionResult | sendActionStatus => "unknown action server entity"

/-- The commands that pump while they wait: `call_client` and `send_action_goal`. -/
inductive Operation where
  | call | sendActionGoal

def Operation.table : Operation → EntityKind
  | call => .client
  | sendActionGoal => .actionClient

def Operation.unknown : Operation → String
  | call => "unknown service client entity"
  | sendActionGoal => "unknown action client entity"

inductive Command where
  /-- A `create_*`, and whether rcl makes the entity. -/
  | create (kind : EntityKind) (made : Except BackendError Unit)
  | lookup (command : Lookup) (entity : ℕ)
  | operate (operation : Operation) (entity : ℕ)
  | destroy (entity : ℕ)
  /-- `GraphTopics` and `GraphView`. -/
  | graph

/-- **The entities of the ROS thread.** -/
structure Entities where
  nextEntity : ℕ
  tables : EntityKind → Finset ℕ
  /-- The operations that wait, the innermost first, each with the entry it holds. -/
  running : List (EntityKind × ℕ)
  /-- The entries for which `fini` was called. -/
  finalised : Multiset ℕ
  /-- The entities that a `create_*` returned. -/
  created : List (EntityKind × ℕ)
  /-- Those of them whose Destroy was handled. -/
  destroyed : List ℕ

namespace Entities

variable (w : Entities)

def initial : Entities := ⟨0, fun _ => ∅, [], 0, [], []⟩

/-- The end of each `create_*`. -/
def create (kind : EntityKind) : Entities :=
  let entity := w.nextEntity + 1
  { w with
    nextEntity := entity
    tables := Function.update w.tables kind (insert entity (w.tables kind))
    created := (kind, entity) :: w.created }

/-- The beginning of an operation, whose entry leaves its table. -/
def start (kind : EntityKind) (entity : ℕ) : Entities :=
  { w with
    tables := Function.update w.tables kind ((w.tables kind).erase entity)
    running := (kind, entity) :: w.running }

/-- The innermost operation returns, and puts its entry back. -/
def finish : Entities :=
  match w.running with
  | [] => w
  | (kind, entity) :: rest =>
    { w with
      tables := Function.update w.tables kind (insert entity (w.tables kind))
      running := rest }

/-- One table of `destroy_entity`. -/
def destroyIn (entity : ℕ) (w : Entities) (kind : EntityKind) : Entities :=
  if entity ∈ w.tables kind then
    { w with
      tables := Function.update w.tables kind ((w.tables kind).erase entity)
      finalised := entity ::ₘ w.finalised }
  else w

def destroyEntity (entity : ℕ) : Entities :=
  let w := EntityKind.all.foldl (destroyIn entity) w
  if entity ∈ w.created.map Prod.snd then { w with destroyed := entity :: w.destroyed } else w

/-- `handle`, as far as the tables are concerned: an operation goes on until it returns. -/
def handle : Command → Entities × Except BackendError Unit
  | .create _ (.error err) => (w, .error err)
  | .create kind (.ok ()) => (w.create kind, .ok ())
  | .lookup command entity =>
    if entity ∈ w.tables command.table then (w, .ok ()) else (w, .error ⟨13, command.unknown⟩)
  | .operate operation entity =>
    if entity ∈ w.tables operation.table then (w.start operation.table entity, .ok ())
    else (w, .error ⟨13, operation.unknown⟩)
  | .destroy entity => (w.destroyEntity entity, .ok ())
  | .graph => (w, .ok ())

/-- What `fini` was called for when `teardown` has emptied the tables. -/
def teardown : Multiset ℕ :=
  EntityKind.all.foldl (fun finalised kind => finalised + (w.tables kind).val) w.finalised

end Entities

/-- What the ROS thread does next. -/
inductive EntityAct where
  | command (command : Command)
  | finish

namespace Entities

def step (w : Entities) : EntityAct → Entities
  | .command command => (w.handle command).1
  | .finish => w.finish

/-! ## What must hold -/

variable (w : Entities)

/-- A `create_*` returned the entity and its Destroy was not handled yet. -/
def Live (kind : EntityKind) (entity : ℕ) : Prop :=
  (kind, entity) ∈ w.created ∧ entity ∉ w.destroyed

/-- How many tables own an entity. -/
def held (entity : ℕ) : ℕ := EntityKind.all.countP fun kind => entity ∈ w.tables kind

/-- How many operations own an entity. -/
def busy (entity : ℕ) : ℕ := (w.running.map Prod.snd).count entity

/-- **Every entity has one owner.**  A live entity is in the table of its kind or with an operation,
and in nothing else.  One that was destroyed is in no table; it was finalised, or will be by the
operation that holds it. -/
structure Owned : Prop where
  live : ∀ kind entity, w.Live kind entity →
    w.held entity + w.busy entity = 1 ∧
      (entity ∈ w.tables kind ∨ (kind, entity) ∈ w.running) ∧ w.finalised.count entity = 0
  gone : ∀ kind entity, (kind, entity) ∈ w.created → entity ∈ w.destroyed →
    w.held entity = 0 ∧ w.finalised.count entity + w.busy entity = 1

/-- A command that names a live entity of the right kind is not told that there is none. -/
def Answers : EntityAct → Prop
  | .command (.lookup command entity) => w.Live command.table entity →
      (w.handle (.lookup command entity)).2 ≠ .error ⟨13, command.unknown⟩
  | .command (.operate operation entity) => w.Live operation.table entity →
      (w.handle (.operate operation entity)).2 ≠ .error ⟨13, operation.unknown⟩
  | _ => True

/-- After `teardown` every entity has been finalised once. -/
def FinalisedOnce : Prop :=
  w.running = [] → ∀ kind entity, (kind, entity) ∈ w.created → w.teardown.count entity = 1

/-- **A command that names no entity with which an operation is busy.** -/
def Clear : EntityAct → Prop
  | .command (.lookup command entity) => (command.table, entity) ∉ w.running
  | .command (.operate operation entity) => (operation.table, entity) ∉ w.running
  | .command (.destroy entity) => entity ∉ w.running.map Prod.snd
  | _ => True

/-! ## The invariant -/

/-- **Every live entity has its place**, and the tables and operations have live entities only. -/
structure Kept : Prop where
  ids : ∀ {kind entity}, (kind, entity) ∈ w.created → entity ≤ w.nextEntity
  unique : ∀ {kind kind' entity}, (kind, entity) ∈ w.created → (kind', entity) ∈ w.created →
    kind = kind'
  table : ∀ {kind entity}, entity ∈ w.tables kind → w.Live kind entity
  running : ∀ {kind entity}, (kind, entity) ∈ w.running → w.Live kind entity
  place : ∀ {kind entity}, w.Live kind entity →
    w.busy entity = if entity ∈ w.tables kind then 0 else 1
  finalised : ∀ entity, w.finalised.count entity = if entity ∈ w.destroyed then 1 else 0
  known : ∀ entity ∈ w.destroyed, entity ∈ w.created.map Prod.snd

variable {w}

theorem mem_running_of_busy {entity : ℕ} (h : 0 < w.busy entity) :
    ∃ kind, (kind, entity) ∈ w.running := by
  obtain ⟨⟨kind, e⟩, hmem, rfl⟩ := List.mem_map.mp (List.count_pos_iff.mp h)
  exact ⟨kind, hmem⟩

theorem kept_initial : initial.Kept where
  ids h := absurd h List.not_mem_nil
  unique h := absurd h List.not_mem_nil
  table h := absurd h (Finset.notMem_empty _)
  running h := absurd h List.not_mem_nil
  place h := absurd h.1 List.not_mem_nil
  finalised _ := rfl
  known _ h := absurd h List.not_mem_nil

/-- The tables that own an entity which one table owns. -/
theorem held_of_mem (h : w.Kept) {kind : EntityKind} {entity : ℕ} (hmem : entity ∈ w.tables kind) :
    w.held entity = 1 := by
  have honly : ∀ kind', entity ∈ w.tables kind' ↔ kind' = kind := by
    intro kind'
    constructor
    · exact fun hmem' => h.unique (h.table hmem').1 (h.table hmem).1
    · rintro rfl
      exact hmem
  have hcount : w.held entity = EntityKind.all.countP fun kind' => kind' = kind := by
    refine List.countP_congr fun kind' _ => ?_
    rw [decide_eq_true_iff, decide_eq_true_iff]
    exact honly kind'
  rw [hcount]
  cases kind <;> rfl

theorem held_eq_zero {entity : ℕ} (h : ∀ kind, entity ∉ w.tables kind) : w.held entity = 0 := by
  rw [held, List.countP_eq_zero]
  intro kind _ hmem
  exact h kind (of_decide_eq_true hmem)

/-- An entity that is not live is in no table and with no operation. -/
theorem Kept.absent (h : w.Kept) {entity : ℕ} (hlive : ∀ kind, ¬ w.Live kind entity) :
    (∀ kind, entity ∉ w.tables kind) ∧ w.busy entity = 0 := by
  refine ⟨fun kind hmem => hlive kind (h.table hmem), ?_⟩
  by_contra hbusy
  obtain ⟨kind, hmem⟩ := mem_running_of_busy (Nat.pos_of_ne_zero hbusy)
  exact hlive kind (h.running hmem)

theorem Kept.owned (h : w.Kept) : w.Owned where
  live kind entity hlive := by
    have hcount : w.finalised.count entity = 0 := by rw [h.finalised, if_neg hlive.2]
    have hbusy := h.place hlive
    split_ifs at hbusy with hmem
    · exact ⟨by rw [held_of_mem h hmem, hbusy], .inl hmem, hcount⟩
    · have hheld : w.held entity = 0 := by
        refine held_eq_zero fun kind' hmem' => hmem ?_
        rwa [h.unique hlive.1 (h.table hmem').1]
      obtain ⟨kind', hrunning⟩ := mem_running_of_busy (hbusy ▸ Nat.one_pos)
      refine ⟨by rw [hheld, hbusy], .inr ?_, hcount⟩
      rwa [h.unique hlive.1 (h.running hrunning).1]
  gone kind entity _ hdestroyed := by
    obtain ⟨htables, hbusy⟩ := h.absent fun kind' (hlive : w.Live kind' entity) =>
      hlive.2 hdestroyed
    refine ⟨held_eq_zero htables, ?_⟩
    rw [h.finalised, hbusy, if_pos hdestroyed]

/-! ## The steps -/

theorem mem_update_insert {tables : EntityKind → Finset ℕ} {kind kind' : EntityKind} {e e' : ℕ} :
    e' ∈ Function.update tables kind (insert e (tables kind)) kind' ↔
      (kind', e') = (kind, e) ∨ e' ∈ tables kind' := by
  rw [Function.update_apply, Prod.mk.injEq]
  split_ifs with heq
  · rw [heq, Finset.mem_insert, eq_self_iff_true, true_and]
  · rw [eq_false heq, false_and, false_or]

theorem mem_update_erase {tables : EntityKind → Finset ℕ} {kind kind' : EntityKind} {e e' : ℕ} :
    e' ∈ Function.update tables kind ((tables kind).erase e) kind' ↔
      (kind', e') ≠ (kind, e) ∧ e' ∈ tables kind' := by
  rw [Function.update_apply, Ne, Prod.mk.injEq]
  split_ifs with heq
  · rw [heq, Finset.mem_erase, eq_self_iff_true, true_and]
  · rw [eq_false heq, false_and, not_false_eq_true, true_and]

theorem busy_start (kind : EntityKind) (entity entity' : ℕ) :
    (w.start kind entity).busy entity' = w.busy entity' + if entity = entity' then 1 else 0 := by
  show (entity :: w.running.map Prod.snd).count entity' = _
  rw [List.count_cons]
  simp only [beq_iff_eq]
  rfl

theorem Kept.create (h : w.Kept) (kind : EntityKind) : (w.create kind).Kept := by
  have hnew : ∀ kind', (kind', w.nextEntity + 1) ∉ w.created := fun kind' hmem => by
    have hle := h.ids hmem
    omega
  have hlive : ∀ {kind' entity}, (w.create kind).Live kind' entity ↔
      (kind', entity) = (kind, w.nextEntity + 1) ∨ w.Live kind' entity := by
    intro kind' entity
    constructor
    · rintro ⟨hcreated, hdestroyed⟩
      exact (List.mem_cons.mp hcreated).imp id fun hcreated => ⟨hcreated, hdestroyed⟩
    · rintro (heq | ⟨hcreated, hdestroyed⟩)
      · refine ⟨List.mem_cons.mpr (.inl heq), fun hmem => ?_⟩
        obtain ⟨⟨kind'', e⟩, hcreated, hentity⟩ := List.mem_map.mp (h.known entity hmem)
        obtain rfl : e = entity := hentity
        rw [(Prod.mk.inj heq).2] at hcreated
        exact hnew _ hcreated
      · exact ⟨List.mem_cons_of_mem _ hcreated, hdestroyed⟩
  refine ⟨?_, ?_, ?_, ?_, ?_, h.finalised, ?_⟩
  · intro kind' entity hmem
    rcases List.mem_cons.mp hmem with heq | hmem
    · exact (Prod.mk.inj heq).2.le
    · exact (h.ids hmem).trans (Nat.le_succ _)
  · intro kind₁ kind₂ entity h₁ h₂
    rcases List.mem_cons.mp h₁ with heq₁ | h₁ <;> rcases List.mem_cons.mp h₂ with heq₂ | h₂
    · rw [(Prod.mk.inj heq₁).1, (Prod.mk.inj heq₂).1]
    · rw [(Prod.mk.inj heq₁).2] at h₂
      exact absurd h₂ (hnew _)
    · rw [(Prod.mk.inj heq₂).2] at h₁
      exact absurd h₁ (hnew _)
    · exact h.unique h₁ h₂
  · intro kind' entity hmem
    exact hlive.mpr ((mem_update_insert.mp hmem).imp id h.table)
  · exact fun hmem => hlive.mpr (.inr (h.running hmem))
  · intro kind' entity hmem
    show w.busy entity = if entity ∈ Function.update w.tables kind
      (insert (w.nextEntity + 1) (w.tables kind)) kind' then 0 else 1
    simp only [mem_update_insert]
    rcases hlive.mp hmem with heq | hold
    · rw [if_pos (.inl heq), (Prod.mk.inj heq).2]
      exact (h.absent fun kind'' hold => hnew kind'' hold.1).2
    · have hne : (kind', entity) ≠ (kind, w.nextEntity + 1) := by
        intro heq
        rw [(Prod.mk.inj heq).2] at hold
        exact hnew _ hold.1
      simp only [h.place hold, or_iff_right hne]
  · exact fun entity hmem => List.mem_cons_of_mem _ (h.known entity hmem)

/-- An operation begins with a live entity of its table. -/
theorem Kept.start (h : w.Kept) {kind : EntityKind} {entity : ℕ} (hmem : entity ∈ w.tables kind) :
    (w.start kind entity).Kept := by
  refine ⟨h.ids, h.unique, fun hmem => h.table (mem_update_erase.mp hmem).2, ?_, ?_, h.finalised,
    h.known⟩
  · intro kind' entity' hrunning
    rcases List.mem_cons.mp hrunning with heq | hrunning
    · obtain ⟨rfl, rfl⟩ := Prod.mk.inj heq
      exact h.table hmem
    · exact h.running hrunning
  · intro kind' entity' (hlive : w.Live kind' entity')
    have hbusy := h.place hlive
    show (w.start kind entity).busy entity' = if entity' ∈ Function.update w.tables kind
      ((w.tables kind).erase entity) kind' then 0 else 1
    simp only [busy_start, mem_update_erase]
    by_cases heq : entity = entity'
    · subst heq
      obtain rfl : kind' = kind := h.unique hlive.1 (h.table hmem).1
      rw [if_pos hmem] at hbusy
      rw [hbusy, if_pos rfl, if_neg (by simp)]
    · have hne : (kind', entity') ≠ (kind, entity) := fun hpair => heq (Prod.mk.inj hpair).2.symm
      simp only [if_neg heq, and_iff_right hne]
      exact hbusy

/-- An operation that returns puts its entry back. -/
theorem Kept.finish (h : w.Kept) : w.finish.Kept := by
  obtain ⟨next, tables, running, finalised, created, destroyed⟩ := w
  cases running with
  | nil => exact h
  | cons top rest =>
    obtain ⟨kind, entity⟩ := top
    have hlive := h.running List.mem_cons_self
    refine ⟨h.ids, h.unique, ?_, fun hmem => h.running (List.mem_cons_of_mem _ hmem), ?_,
      h.finalised, h.known⟩
    · intro kind' entity' hmem
      rcases mem_update_insert.mp hmem with heq | hmem
      · obtain ⟨rfl, rfl⟩ := Prod.mk.inj heq
        exact hlive
      · exact h.table hmem
    · intro kind' entity' hlive'
      have hbusy : (entity :: rest.map Prod.snd).count entity' =
        if entity' ∈ tables kind' then 0 else 1 := h.place hlive'
      show (rest.map Prod.snd).count entity' = if entity' ∈ Function.update tables kind
        (insert entity (tables kind)) kind' then 0 else 1
      rw [List.count_cons] at hbusy
      simp only [mem_update_insert, beq_iff_eq] at hbusy ⊢
      by_cases heq : entity = entity'
      · subst heq
        obtain rfl : kind' = kind := h.unique hlive'.1 hlive.1
        rw [if_pos rfl] at hbusy
        rw [if_pos (.inl rfl)]
        split_ifs at hbusy
        omega
      · have hne : (kind', entity') ≠ (kind, entity) := fun hpair => heq (Prod.mk.inj hpair).2.symm
        simp only [if_neg heq, Nat.add_zero] at hbusy
        simp only [hbusy, or_iff_right hne]

/-! ## Destroy and teardown -/

theorem destroyIn_eq (entity : ℕ) (w : Entities) (kind : EntityKind) :
    destroyIn entity w kind =
      { w with
        tables := Function.update w.tables kind ((w.tables kind).erase entity)
        finalised := w.finalised +
          Multiset.replicate (if entity ∈ w.tables kind then 1 else 0) entity } := by
  rw [destroyIn]
  split_ifs with hmem
  · rw [Multiset.replicate_one, Multiset.add_comm, Multiset.singleton_add]
  · rw [Finset.erase_eq_of_notMem hmem, Function.update_eq_self, Multiset.replicate_zero,
      Multiset.add_zero]

/-- What the visit of some tables does. -/
theorem foldl_destroyIn (entity : ℕ) {kinds : List EntityKind} (hkinds : kinds.Nodup)
    (w : Entities) :
    kinds.foldl (destroyIn entity) w =
      { w with
        tables := fun kind =>
          if kind ∈ kinds then (w.tables kind).erase entity else w.tables kind
        finalised := w.finalised +
          Multiset.replicate (kinds.countP fun kind => entity ∈ w.tables kind) entity } := by
  induction kinds generalizing w with
  | nil => rw [List.foldl_nil, List.countP_nil, Multiset.replicate_zero, Multiset.add_zero]; rfl
  | cons kind kinds ih =>
    obtain ⟨hnot, hnodup⟩ := List.nodup_cons.mp hkinds
    have hother : ∀ kind' ∈ kinds, Function.update w.tables kind ((w.tables kind).erase entity)
        kind' = w.tables kind' := fun kind' hmem =>
      Function.update_of_ne (ne_of_mem_of_not_mem hmem hnot) _ _
    have hcount : (kinds.countP fun kind' => entity ∈ Function.update w.tables kind
        ((w.tables kind).erase entity) kind') = kinds.countP fun kind' => entity ∈ w.tables kind' :=
      List.countP_congr fun kind' hmem => by rw [hother kind' hmem]
    rw [List.foldl_cons, ih hnodup, destroyIn_eq]
    simp only [hcount, List.countP_cons, decide_eq_true_eq]
    rw [Multiset.add_assoc, ← Multiset.replicate_add, Nat.add_comm (ite _ _ _)]
    congr 1
    funext kind'
    by_cases heq : kind' = kind
    · subst heq
      rw [if_neg hnot, Function.update_self, if_pos List.mem_cons_self]
    · simp only [List.mem_cons, heq, false_or, Function.update_of_ne heq]

theorem destroyEntity_eq (w : Entities) (entity : ℕ) :
    w.destroyEntity entity =
      { w with
        tables := fun kind => (w.tables kind).erase entity
        finalised := w.finalised + Multiset.replicate (w.held entity) entity
        destroyed := if entity ∈ w.created.map Prod.snd then entity :: w.destroyed
          else w.destroyed } := by
  have hall : ∀ kind, kind ∈ EntityKind.all := fun kind => by cases kind <;> decide
  rw [destroyEntity, foldl_destroyIn entity (by decide)]
  simp only [hall, if_true]
  split_ifs <;> rfl

/-- **A Destroy takes effect** when no operation is busy with the entity. -/
theorem Kept.destroyEntity (h : w.Kept) {entity : ℕ} (hclear : entity ∉ w.running.map Prod.snd) :
    (w.destroyEntity entity).Kept := by
  rw [destroyEntity_eq]
  have hdestroyed : ∀ entity', (entity' ∈ if entity ∈ w.created.map Prod.snd then
      entity :: w.destroyed else w.destroyed) ↔
      entity' = entity ∧ entity ∈ w.created.map Prod.snd ∨ entity' ∈ w.destroyed := by
    intro entity'
    split_ifs with hcreated
    · rw [List.mem_cons, and_iff_left hcreated]
    · rw [eq_false hcreated, and_false, false_or]
  have hlive : ∀ {kind entity'}, w.Live kind entity' → entity' ≠ entity →
      Live { w with
        tables := fun kind => (w.tables kind).erase entity
        finalised := w.finalised + Multiset.replicate (w.held entity) entity
        destroyed := if entity ∈ w.created.map Prod.snd then entity :: w.destroyed
          else w.destroyed } kind entity' := by
    intro kind entity' hlive hne
    refine ⟨hlive.1, fun hmem => ?_⟩
    rcases (hdestroyed entity').mp hmem with ⟨heq, -⟩ | hmem
    · exact hne heq
    · exact hlive.2 hmem
  refine ⟨h.ids, h.unique, ?_, ?_, ?_, ?_, ?_⟩
  · intro kind entity' hmem
    obtain ⟨hne, hmem⟩ := Finset.mem_erase.mp hmem
    exact hlive (h.table hmem) hne
  · intro kind entity' hrunning
    refine hlive (h.running hrunning) ?_
    rintro rfl
    exact hclear (List.mem_map.mpr ⟨_, hrunning, rfl⟩)
  · intro kind entity' hnew
    have hne : entity' ≠ entity := by
      rintro rfl
      exact hnew.2 ((hdestroyed _).mpr (.inl ⟨rfl, List.mem_map.mpr ⟨_, hnew.1, rfl⟩⟩))
    have hold : w.Live kind entity' :=
      ⟨hnew.1, fun hmem => hnew.2 ((hdestroyed _).mpr (.inr hmem))⟩
    show w.busy entity' = if entity' ∈ (w.tables kind).erase entity then 0 else 1
    simp only [Finset.mem_erase, and_iff_right hne]
    exact h.place hold
  · intro entity'
    show (w.finalised + Multiset.replicate (w.held entity) entity).count entity' = _
    simp only [Multiset.count_add, Multiset.count_replicate, hdestroyed, h.finalised entity']
    by_cases heq : entity = entity'
    · subst heq
      rw [if_pos rfl]
      by_cases hcreated : entity ∈ w.created.map Prod.snd
      · by_cases hmem : entity ∈ w.destroyed
        · rw [if_pos hmem, if_pos (.inr hmem),
            held_eq_zero (h.absent fun kind (hlive : w.Live kind entity) => hlive.2 hmem).1]
        · obtain ⟨⟨kind, e⟩, hpair, hentity⟩ := List.mem_map.mp hcreated
          obtain rfl : e = entity := hentity
          have hplace := h.place ⟨hpair, hmem⟩
          rw [busy, List.count_eq_zero_of_not_mem hclear] at hplace
          have htable : e ∈ w.tables kind := by
            by_contra hnot
            rw [if_neg hnot] at hplace
            exact absurd hplace (by decide)
          rw [if_neg hmem, if_pos (.inl ⟨rfl, hcreated⟩), held_of_mem h htable]
      · have habsent := h.absent fun kind (hlive : w.Live kind entity) =>
          hcreated (List.mem_map.mpr ⟨_, hlive.1, rfl⟩)
        simp only [held_eq_zero habsent.1, hcreated, and_false, false_or, Nat.add_zero]
    · simp only [if_neg heq, Ne.symm heq, false_and, false_or, Nat.add_zero]
  · intro entity' hmem
    rcases (hdestroyed entity').mp hmem with ⟨rfl, hcreated⟩ | hmem
    · exact hcreated
    · exact h.known entity' hmem

theorem count_foldl_tables (tables : EntityKind → Finset ℕ) (entity : ℕ) (kinds : List EntityKind)
    (finalised : Multiset ℕ) :
    (kinds.foldl (fun finalised kind => finalised + (tables kind).val) finalised).count entity =
      finalised.count entity + kinds.countP fun kind => entity ∈ tables kind := by
  induction kinds generalizing finalised with
  | nil => rfl
  | cons kind kinds ih =>
    rw [List.foldl_cons, ih, Multiset.count_add, Multiset.count_eq_of_nodup (tables kind).nodup,
      List.countP_cons]
    simp only [Finset.mem_val, decide_eq_true_eq]
    omega

/-- When no operation runs, `teardown` finalises what is left. -/
theorem Owned.finalisedOnce (h : w.Owned) : w.FinalisedOnce := by
  intro hrunning kind entity hcreated
  have hbusy : w.busy entity = 0 := by rw [busy, hrunning]; rfl
  rw [teardown, count_foldl_tables, ← held]
  by_cases hmem : entity ∈ w.destroyed
  · obtain ⟨hheld, hcount⟩ := h.gone kind entity hcreated hmem
    omega
  · obtain ⟨hheld, -, hcount⟩ := h.live kind entity ⟨hcreated, hmem⟩
    omega

/-! ## Runs -/

theorem Kept.handle (h : w.Kept) {command : Command} (hclear : w.Clear (.command command)) :
    (w.handle command).1.Kept := by
  cases command with
  | create kind made =>
    cases made with
    | error => exact h
    | ok => exact h.create kind
  | lookup command entity =>
    rw [Entities.handle]
    split_ifs <;> exact h
  | operate operation entity =>
    rw [Entities.handle]
    split_ifs with hmem
    · exact h.start hmem
    · exact h
  | destroy entity =>
    simpa only [Entities.handle] using h.destroyEntity hclear
  | graph => exact h

theorem Kept.step (h : w.Kept) {act : EntityAct} (hclear : w.Clear act) : (w.step act).Kept := by
  cases act with
  | command command => exact h.handle hclear
  | finish => exact h.finish

/-- A live entity with which no operation is busy is in its table. -/
theorem Kept.mem_table (h : w.Kept) {kind : EntityKind} {entity : ℕ} (hlive : w.Live kind entity)
    (hclear : (kind, entity) ∉ w.running) : entity ∈ w.tables kind := by
  have hplace := h.place hlive
  by_contra hmem
  rw [if_neg hmem] at hplace
  obtain ⟨kind', hrunning⟩ := mem_running_of_busy (hplace ▸ Nat.one_pos)
  rw [h.unique (h.running hrunning).1 hlive.1] at hrunning
  exact hclear hrunning

theorem Kept.answers (h : w.Kept) {act : EntityAct} (hclear : w.Clear act) : w.Answers act := by
  cases act with
  | finish => trivial
  | command command =>
    cases command with
    | create | destroy | graph => trivial
    | lookup command entity =>
      intro hlive
      rw [Entities.handle, if_pos (h.mem_table hlive hclear)]
      exact nofun
    | operate operation entity =>
      intro hlive
      rw [Entities.handle, if_pos (h.mem_table hlive hclear)]
      exact nofun

end Entities

/-- **Every entity has one owner, and is finalised once**: in every run in which no command names an
entity while an operation is busy with it. -/
theorem entities_owned (acts : List EntityAct)
    (h : Acts.Meets Entities.step Entities.Clear Entities.initial acts) :
    (Acts.run Entities.step Entities.initial acts).Owned ∧
      Acts.Meets Entities.step Entities.Answers Entities.initial acts ∧
      (Acts.run Entities.step Entities.initial acts).FinalisedOnce := by
  have hkept := Acts.invariant_run Entities.Kept (fun _ _ hkept hclear => hkept.step hclear)
    Entities.kept_initial h
  exact ⟨hkept.owned, Acts.Meets.of_invariant Entities.Kept
    (fun _ _ hkept hclear => hkept.step hclear) (fun _ _ hkept hclear => hkept.answers hclear)
    Entities.kept_initial h, hkept.owned.finalisedOnce⟩

/-- A service client is destroyed while its call waits, and the call returns. -/
def destroyedWhileBusy : List EntityAct :=
  [.command (.create .client (.ok ())), .command (.operate .call 1), .command (.destroy 1), .finish]

/-- A goal is cancelled while it is waited for. -/
def cancelledWhileBusy : List EntityAct :=
  [.command (.create .actionClient (.ok ())), .command (.operate .sendActionGoal 1),
    .command (.lookup .cancelAction 1)]

/-- **The destroyed client is back in its table, and the goal cannot be cancelled.** -/
theorem not_entities_owned :
    ¬ (Acts.run Entities.step Entities.initial destroyedWhileBusy).Owned ∧
      ¬ Acts.Meets Entities.step Entities.Answers Entities.initial cancelledWhileBusy := by
  constructor
  · intro h
    have hgone := (h.gone .client 1 (by decide) (by decide)).1
    exact absurd hgone (by decide)
  · intro h
    exact h.2.2.1 ⟨by decide, by decide⟩ rfl

/-- A publisher is destroyed while a call waits, and the client after it. -/
def destroyedInTurn : List EntityAct :=
  [.command (.create .client (.ok ())), .command (.create .publisher (.ok ())),
    .command (.operate .call 1), .command (.lookup .publish 2), .command (.destroy 2), .finish,
    .command (.destroy 1)]

theorem entities_owned_of_destroyedInTurn :
    (Acts.run Entities.step Entities.initial destroyedInTurn).Owned := by
  refine (entities_owned destroyedInTurn ⟨trivial, trivial, ?_, ?_, ?_, trivial, ?_, trivial⟩).1
  · show (EntityKind.client, 1) ∉ []
    decide
  · show (EntityKind.publisher, 2) ∉ [(EntityKind.client, 1)]
    decide
  · show 2 ∉ [1]
    decide
  · show 1 ∉ []
    decide

end Ros
end Rclweb
