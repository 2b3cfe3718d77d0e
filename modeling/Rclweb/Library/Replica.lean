import Mathlib.Data.List.Basic
import Mathlib.Logic.Relation
import Mathlib.Data.Nat.Find
import Mathlib.Tactic.Common

/-!
# Two replicas joined by two queues

Two peers run copies of one partial deterministic machine `step : S → A → Option S`.  A
peer that emits an action applies it to its own copy at once and enqueues it; the other
peer applies it when it takes it from the queue.  The two copies see the actions in
different orders, and the question is when they still agree.

## The grid

With `as` in flight from left to right and `bs` from right to left, the history since the
last common point is a rectangle: `g i j` is the state after the first `i` of `as` and the
first `j` of `bs`.  The left peer stands at the corner `(as.length, 0)`, the right peer at
`(0, bs.length)`.  `Grid` says every tile of the rectangle commutes.  Receiving an action
drops a row or a column; emitting one adds a row or a column, which needs one commuting
tile for each action in flight towards the sender.

## When a tile does not commute

`Laws` is the weaker situation of machines with terminal states: a tile commutes, or one of
its two actions is dead for good at the peer that has yet to receive it.  Then a run either
keeps the grid or carries a dead action in a queue, and a queue with a dead action in it
can never be emptied (`Pair.sound_or_doomed`).
-/

namespace Rclweb
namespace Replica

variable {S A : Type*}

/-- **The rectangle of histories**: every tile commutes. -/
structure Grid (step : S → A → Option S) (as bs : List A) (g : ℕ → ℕ → S) : Prop where
  across : ∀ {i j a}, as[i]? = some a → j ≤ bs.length → step (g i j) a = some (g (i + 1) j)
  up : ∀ {i j b}, i ≤ as.length → bs[j]? = some b → step (g i j) b = some (g i (j + 1))

namespace Grid

variable {step : S → A → Option S} {as bs : List A} {g : ℕ → ℕ → S} {a : A}

theorem single (s : S) : Grid step [] [] fun _ _ => s where
  across h := by simp at h
  up _ h := by simp at h

/-- The two peers may be exchanged. -/
theorem swap (h : Grid step as bs g) : Grid step bs as fun i j => g j i where
  across hb hj := h.up hj hb
  up hi ha := h.across ha hi

/-- The right peer can take the next action, and the first row is dropped. -/
theorem pop (h : Grid step (a :: as) bs g) :
    step (g 0 bs.length) a = some (g 1 bs.length) ∧ Grid step as bs fun i j => g (i + 1) j := by
  refine ⟨h.across rfl le_rfl, ?_, ?_⟩
  · intro i j b hb hj
    exact h.across (by simpa using hb) hj
  · intro i j b hi hb
    exact h.up (by simpa using hi) hb

/-- The row a new action starts, one tile after the other. -/
def row (step : S → A → Option S) (bs : List A) (s : S) : ℕ → S
  | 0 => s
  | j + 1 =>
    match bs[j]? with
    | some b => (step (row step bs s j) b).getD (row step bs s j)
    | none => row step bs s j

theorem row_succ {s w : S} {j : ℕ} {b : A} (hb : bs[j]? = some b)
    (h : step (row step bs s j) b = some w) : row step bs s (j + 1) = w := by
  simp [row, hb, h]

/-- The first `k` tiles above the last row commute. -/
def RowUpTo (step : S → A → Option S) (as bs : List A) (g : ℕ → ℕ → S) (a : A) (s : S)
    (k : ℕ) : Prop :=
  (∀ j ≤ k, step (g as.length j) a = some (row step bs s j)) ∧
    ∀ j < k, ∀ b, bs[j]? = some b → step (row step bs s j) b = some (row step bs s (j + 1))

theorem rowUpTo_zero {s : S} (hs : step (g as.length 0) a = some s) :
    RowUpTo step as bs g a s 0 := by
  refine ⟨?_, fun j hj => absurd hj (Nat.not_lt_zero j)⟩
  intro j hj
  rw [Nat.le_zero.mp hj]
  exact hs

/-- One more commuting tile. -/
theorem RowUpTo.succ {s w : S} {k : ℕ} {b : A} (h : RowUpTo step as bs g a s k)
    (hb : bs[k]? = some b) (hw : step (row step bs s k) b = some w)
    (ha : step (g as.length (k + 1)) a = some w) : RowUpTo step as bs g a s (k + 1) := by
  have hrow := row_succ hb hw
  refine ⟨?_, ?_⟩
  · intro j hj
    rcases Nat.le_succ_iff.mp hj with hj | rfl
    · exact h.1 j hj
    · rw [hrow, ha]
  · intro j hj c hc
    rcases Nat.lt_succ_iff_lt_or_eq.mp hj with hj | rfl
    · exact h.2 j hj c hc
    · obtain rfl : b = c := by simpa [hb] using hc
      rw [hrow, hw]

/-- Emitting an action adds a row, when all tiles above the last row commute. -/
theorem push (h : Grid step as bs g) {s : S} (hrow : RowUpTo step as bs g a s bs.length) :
    ∃ g', Grid step (as ++ [a]) bs g' ∧ g' (as.length + 1) 0 = s ∧ ∀ j, g' 0 j = g 0 j := by
  have hbelow : ∀ i, i < as.length → i ≤ as.length ∧ i + 1 ≤ as.length := fun i hi => by omega
  have habove : ¬ as.length + 1 ≤ as.length := by omega
  refine ⟨fun i j => if i ≤ as.length then g i j else row step bs s j, ⟨?_, ?_⟩, ?_, ?_⟩
  · intro i j c hc hj
    rcases lt_trichotomy i as.length with hi | hi | hi
    · rw [List.getElem?_append_left hi] at hc
      simpa [hbelow i hi] using h.across hc hj
    · subst hi
      obtain rfl : a = c := by simpa using hc
      simpa [habove] using hrow.1 j hj
    · rw [List.getElem?_append_right (by omega)] at hc
      have hne : i - as.length ≠ 0 := by omega
      simp [hne] at hc
  · intro i j b hi hb
    have hj : j < bs.length := (List.getElem?_eq_some_iff.mp hb).1
    by_cases hle : i ≤ as.length
    · simpa [hle] using h.up hle hb
    · simpa [hle] using hrow.2 j hj b hb
  · simp [row, habove]
  · simp

end Grid

/-! ## Machines whose emissions commute -/

/-- **A condition under which tiles commute**, and which is kept while the actions in flight
are taken one after the other. -/
structure Commutes (step : S → A → Option S) (free : S → A → A → Prop) : Prop where
  tile : ∀ {s sa sb a b}, free s a b → step s a = some sa → step s b = some sb →
    ∃ w, step sa b = some w ∧ step sb a = some w
  keep : ∀ {s sa sb a b c}, free s a b → free s a c → step s a = some sa → step s b = some sb →
    free sb a c

/-- Emitting an action that commutes with everything in flight completes a row. -/
theorem rowUpTo_of_free {step : S → A → Option S} {free : S → A → A → Prop}
    (comm : Commutes step free) {as bs : List A} {g : ℕ → ℕ → S} (h : Grid step as bs g) {a : A}
    {s : S} (hs : step (g as.length 0) a = some s) (hfree : ∀ b ∈ bs, free (g as.length 0) a b) :
    Grid.RowUpTo step as bs g a s bs.length := by
  have hrows : ∀ k ≤ bs.length,
      Grid.RowUpTo step as bs g a s k ∧ ∀ b ∈ bs, free (g as.length k) a b := by
    intro k
    induction k with
    | zero => exact fun _ => ⟨Grid.rowUpTo_zero hs, hfree⟩
    | succ k ih =>
      intro hk
      obtain ⟨hrow, hfree⟩ := ih (by omega)
      have hb : bs[k]? = some bs[k] := List.getElem?_eq_getElem (by omega)
      have hmem : bs[k] ∈ bs := List.getElem_mem _
      have hup := h.up le_rfl hb
      have ha := hrow.1 k le_rfl
      obtain ⟨w, hw, hw'⟩ := comm.tile (hfree _ hmem) ha hup
      exact ⟨hrow.succ hb hw hw', fun b hb => comm.keep (hfree _ hmem) (hfree b hb) ha hup⟩
  exact (hrows bs.length le_rfl).1

/-! ## Machines whose conflicts are fatal -/

/-- **Laws of a machine with terminal states.**  `cross a b` holds of actions of opposite
peers that may be in flight at the same time; `Dead s a` says that no continuation of `s`
will accept `a`. -/
structure Laws (step : S → A → Option S) (cross : A → A → Prop) (Dead : S → A → Prop) : Prop where
  symm : ∀ {a b}, cross a b → cross b a
  refused : ∀ {s a}, Dead s a → step s a = none
  stable : ∀ {s s' a b}, Dead s a → step s b = some s' → Dead s' a
  /-- A tile commutes, or kills one of its two actions. -/
  tile : ∀ {s sa sb a b}, cross a b → step s a = some sa → step s b = some sb →
    (∃ w, step sa b = some w ∧ step sb a = some w) ∨ Dead sa b ∨ Dead sb a
  /-- What kills an action on one side of a commuting tile kills it on the other. -/
  early : ∀ {s sa sb sab a b c}, cross a b → step s a = some sa → step s b = some sb →
    step sa b = some sab → Dead sab c → Dead sb c ∨ Dead sa c

section Fatal

variable {step : S → A → Option S} {cross : A → A → Prop} {Dead : S → A → Prop}
  {as bs : List A} {g : ℕ → ℕ → S} {a : A}

/-- Along a row of the grid, an action that died while the row ran was dead at its start. -/
theorem dead_back (laws : Laws step cross Dead) (h : Grid step as bs g)
    (hcross : ∀ b ∈ bs, cross a b) {s : S} {c : A} {k : ℕ} (hk : k ≤ bs.length)
    (hrow : Grid.RowUpTo step as bs g a s k) (hlive : ¬ Dead (g as.length k) c)
    (hdead : Dead (Grid.row step bs s k) c) : Dead s c := by
  induction k with
  | zero => exact hdead
  | succ k ih =>
    have hb : bs[k]? = some bs[k] := List.getElem?_eq_getElem (by omega)
    have hup := h.up le_rfl hb
    have hprev : Dead (Grid.row step bs s k) c := by
      rcases laws.early (hcross _ (List.getElem_mem _)) (hrow.1 k (by omega)) hup
        (hrow.2 k (by omega) _ hb) hdead with hd | hd
      · exact absurd hd hlive
      · exact hd
    exact ih (by omega) ⟨fun j hj => hrow.1 j (by omega), fun j hj => hrow.2 j (by omega)⟩
      (fun hd => hlive (laws.stable hd hup)) hprev

/-- Down a column of the grid, likewise. -/
theorem dead_down (laws : Laws step cross Dead) (h : Grid step as bs g)
    (hcross : ∀ a ∈ as, ∀ b ∈ bs, cross a b) {c : A} {j : ℕ} {b : A} (hb : bs[j]? = some b)
    {i : ℕ} (hi : i ≤ as.length) (hlive : ¬ Dead (g i j) c) (hdead : Dead (g i (j + 1)) c) :
    Dead (g 0 (j + 1)) c := by
  have hj : j < bs.length := (List.getElem?_eq_some_iff.mp hb).1
  induction i with
  | zero => exact hdead
  | succ i ih =>
    have ha : as[i]? = some as[i] := List.getElem?_eq_getElem (by omega)
    have hacross := h.across ha (le_of_lt hj)
    have hcross' : cross b as[i] :=
      laws.symm (hcross _ (List.getElem_mem _) b (List.mem_of_getElem? hb))
    rcases laws.early hcross' (h.up (by omega) hb) hacross (h.across ha hj) hdead with hd | hd
    · exact absurd hd hlive
    · exact ih (by omega) (fun hd => hlive (laws.stable hd hacross)) hd

/-- What is dead at some point of the first row stays dead to its end. -/
theorem dead_right (laws : Laws step cross Dead) (h : Grid step as bs g) {c : A} {j k : ℕ}
    (hjk : j ≤ k) (hk : k ≤ bs.length) (hdead : Dead (g 0 j) c) : Dead (g 0 k) c := by
  induction k, hjk using Nat.le_induction with
  | base => exact hdead
  | succ k hjk ih =>
    have hb : bs[k]? = some bs[k] := List.getElem?_eq_getElem (by omega)
    exact laws.stable (ih (by omega)) (h.up (Nat.zero_le _) hb)

/-- **Emitting an action** adds a row to the grid, or leaves a dead action in one of the two
queues. -/
theorem push_or_dead (laws : Laws step cross Dead) (h : Grid step as bs g)
    (hcross : ∀ a' ∈ as ++ [a], ∀ b ∈ bs, cross a' b) {s : S}
    (hs : step (g as.length 0) a = some s) :
    Grid.RowUpTo step as bs g a s bs.length ∨ (∃ b ∈ bs, Dead s b) ∨ Dead (g 0 bs.length) a := by
  have hlast : ∀ b ∈ bs, cross a b := fun b hb => hcross a (by simp) b hb
  have hinit : ∀ a' ∈ as, ∀ b ∈ bs, cross a' b := fun a' ha' => hcross a' (by simp [ha'])
  have hrows : ∀ k ≤ bs.length, Grid.RowUpTo step as bs g a s k ∨
      (∃ b ∈ bs, Dead s b) ∨ Dead (g 0 bs.length) a := by
    intro k
    induction k with
    | zero => exact fun _ => .inl (Grid.rowUpTo_zero hs)
    | succ k ih =>
      intro hk
      rcases ih (by omega) with hrow | hdead
      swap
      · exact .inr hdead
      have hb : bs[k]? = some bs[k] := List.getElem?_eq_getElem (by omega)
      have hmem : bs[k] ∈ bs := List.getElem_mem _
      have hup := h.up le_rfl hb
      rcases laws.tile (hlast _ hmem) (hrow.1 k le_rfl) hup with ⟨w, hw, hw'⟩ | hd | hd
      · exact .inl (hrow.succ hb hw hw')
      · have hlive : ¬ Dead (g as.length k) bs[k] := fun hd' => by
          simp [laws.refused hd'] at hup
        exact .inr (.inl ⟨bs[k], hmem, dead_back laws h hlast (by omega) hrow hlive hd⟩)
      · have hlive : ¬ Dead (g as.length k) a := fun hd' => by
          simpa [laws.refused hd'] using hrow.1 k le_rfl
        have hfirst := dead_down laws h hinit hb le_rfl hlive hd
        exact .inr (.inr (dead_right laws h (by omega) le_rfl hfirst))
  exact hrows bs.length le_rfl

end Fatal

/-! ## The pair of peers -/

/-- Two replicas, and the actions in flight between them. -/
structure Pair (S A : Type*) where
  left : S
  right : S
  toRight : List A
  toLeft : List A

namespace Pair

/-- The pair seen from the other side. -/
def swap (p : Pair S A) : Pair S A := ⟨p.right, p.left, p.toLeft, p.toRight⟩

/-- **What a peer may do**: emit an action its own copy accepts, or accept the next one of
its queue.  Emitting is subject to a condition on the sender's state, the action and the
actions in flight towards the sender. -/
inductive Move (step : S → A → Option S) (may : S → A → List A → Prop) :
    Pair S A → Pair S A → Prop
  | sendLeft {l l' r : S} {as bs : List A} {a : A} : may l a bs → step l a = some l' →
      Move step may ⟨l, r, as, bs⟩ ⟨l', r, as ++ [a], bs⟩
  | sendRight {l r r' : S} {as bs : List A} {b : A} : may r b as → step r b = some r' →
      Move step may ⟨l, r, as, bs⟩ ⟨l, r', as, bs ++ [b]⟩
  | recvRight {l r r' : S} {as bs : List A} {a : A} : step r a = some r' →
      Move step may ⟨l, r, a :: as, bs⟩ ⟨l, r', as, bs⟩
  | recvLeft {l l' r : S} {as bs : List A} {b : A} : step l b = some l' →
      Move step may ⟨l, r, as, b :: bs⟩ ⟨l', r, as, bs⟩

variable {step : S → A → Option S} {may : S → A → List A → Prop} {p q : Pair S A}

/-- The two peers are opposite corners of a grid of the actions in flight. -/
def Sound (step : S → A → Option S) (p : Pair S A) : Prop :=
  ∃ g, Grid step p.toRight p.toLeft g ∧ g p.toRight.length 0 = p.left ∧
    g 0 p.toLeft.length = p.right

theorem Sound.grid {l r : S} {as bs : List A} (h : Sound step ⟨l, r, as, bs⟩) :
    ∃ g, Grid step as bs g ∧ g as.length 0 = l ∧ g 0 bs.length = r := h

theorem Sound.swap (h : Sound step p) : Sound step p.swap := by
  obtain ⟨g, hg, hl, hr⟩ := h
  exact ⟨fun i j => g j i, hg.swap, hr, hl⟩

theorem sound_refl (s : S) : Sound step ⟨s, s, [], []⟩ := ⟨_, Grid.single s, rfl, rfl⟩

/-- At quiescence the peers are in the same state. -/
theorem Sound.eq (h : Sound step p) (hr : p.toRight = []) (hl : p.toLeft = []) :
    p.left = p.right := by
  obtain ⟨g, -, hleft, hright⟩ := h
  rw [← hleft, ← hright, hr, hl]
  rfl

/-- The right peer accepts the next action of its queue. -/
theorem Sound.recv {l r : S} {a : A} {as bs : List A} (h : Sound step ⟨l, r, a :: as, bs⟩) :
    ∃ r', step r a = some r' ∧ Sound step ⟨l, r', as, bs⟩ := by
  obtain ⟨g, hg, hl, hr⟩ := h.grid
  have hpop := hg.pop
  refine ⟨g 1 bs.length, ?_, fun i j => g (i + 1) j, hpop.2, ?_, rfl⟩
  · rw [← hpop.1, hr]
  · simpa using hl

/-- Emitting an action whose tiles commute keeps the grid. -/
theorem Sound.send {l' r : S} {a : A} {as bs : List A} {g : ℕ → ℕ → S}
    (hg : Grid step as bs g) (hr : g 0 bs.length = r)
    (hrow : Grid.RowUpTo step as bs g a l' bs.length) :
    Sound step ⟨l', r, as ++ [a], bs⟩ := by
  obtain ⟨g', hg', hl', hr'⟩ := hg.push hrow
  exact ⟨g', hg', by simpa using hl', by rw [hr', hr]⟩

/-! ### Runs whose emissions commute with what is in flight -/

theorem Sound.send_of_free {free : S → A → A → Prop} (comm : Commutes step free) {l l' r : S}
    {as bs : List A} {a : A} (h : Sound step ⟨l, r, as, bs⟩) (hfree : ∀ b ∈ bs, free l a b)
    (hs : step l a = some l') : Sound step ⟨l', r, as ++ [a], bs⟩ := by
  obtain ⟨g, hg, rfl, hr⟩ := h.grid
  exact Sound.send hg hr (rowUpTo_of_free comm hg hs hfree)

/-- One move keeps the grid, when emissions commute with what is in flight. -/
theorem Sound.move {free : S → A → A → Prop} (comm : Commutes step free)
    (hmay : ∀ {s a bs}, may s a bs → ∀ b ∈ bs, free s a b) (h : Sound step p)
    (hmove : Move step may p q) : Sound step q := by
  cases hmove with
  | sendLeft hm hs => exact h.send_of_free comm (hmay hm) hs
  | sendRight hm hs => exact (h.swap.send_of_free comm (hmay hm) hs).swap
  | recvRight hs =>
    obtain ⟨r', hr', h'⟩ := h.recv
    obtain rfl : _ = r' := by simpa [hs] using hr'
    exact h'
  | recvLeft hs =>
    obtain ⟨l', hl', h'⟩ := h.swap.recv
    obtain rfl : _ = l' := by simpa [hs] using hl'
    exact h'.swap

/-- Every run keeps the grid. -/
theorem Sound.reach {free : S → A → A → Prop} (comm : Commutes step free)
    (hmay : ∀ {s a bs}, may s a bs → ∀ b ∈ bs, free s a b) (h : Sound step p)
    (hreach : Relation.ReflTransGen (Move step may) p q) : Sound step q := by
  induction hreach with
  | refl => exact h
  | tail _ hmove ih => exact ih.move comm hmay hmove

/-! ### Runs of a machine with terminal states -/

/-- Some action in flight is dead at the peer it is bound for. -/
def Doomed (Dead : S → A → Prop) (p : Pair S A) : Prop :=
  (∃ b ∈ p.toLeft, Dead p.left b) ∨ ∃ a ∈ p.toRight, Dead p.right a

/-- Actions of opposite peers in flight satisfy `cross`. -/
def Crossing (cross : A → A → Prop) (p : Pair S A) : Prop :=
  ∀ a ∈ p.toRight, ∀ b ∈ p.toLeft, cross a b

variable {cross : A → A → Prop} {Dead : S → A → Prop}

theorem Crossing.swap (laws : Laws step cross Dead) (h : Crossing cross p) :
    Crossing cross p.swap := fun b hb a ha => laws.symm (h a ha b hb)

theorem Doomed.swap (h : Doomed Dead p) : Doomed Dead p.swap := Or.symm h

/-- The queues hold what they held, and the new action. -/
theorem Crossing.move (laws : Laws step cross Dead)
    (hmay : ∀ {s a bs}, may s a bs → ∀ b ∈ bs, cross a b) (h : Crossing cross p)
    (hmove : Move step may p q) : Crossing cross q := by
  cases hmove with
  | sendLeft hm _ =>
    intro a ha b hb
    rcases List.mem_append.mp ha with ha | ha
    · exact h a ha b hb
    · rw [List.mem_singleton.mp ha]
      exact hmay hm b hb
  | sendRight hm _ =>
    intro a ha b hb
    rcases List.mem_append.mp hb with hb | hb
    · exact h a ha b hb
    · rw [List.mem_singleton.mp hb]
      exact laws.symm (hmay hm a ha)
  | recvRight _ => exact fun a ha b hb => h a (List.mem_cons_of_mem _ ha) b hb
  | recvLeft _ => exact fun a ha b hb => h a ha b (List.mem_cons_of_mem _ hb)

/-- A dead action stays in its queue. -/
theorem Doomed.move (laws : Laws step cross Dead) (h : Doomed Dead p)
    (hmove : Move step may p q) : Doomed Dead q := by
  cases hmove with
  | sendLeft _ hs =>
    rcases h with ⟨b, hb, hd⟩ | ⟨a, ha, hd⟩
    · exact .inl ⟨b, hb, laws.stable hd hs⟩
    · exact .inr ⟨a, List.mem_append_left _ ha, hd⟩
  | sendRight _ hs =>
    rcases h with ⟨b, hb, hd⟩ | ⟨a, ha, hd⟩
    · exact .inl ⟨b, List.mem_append_left _ hb, hd⟩
    · exact .inr ⟨a, ha, laws.stable hd hs⟩
  | recvRight hs =>
    rcases h with ⟨b, hb, hd⟩ | ⟨a, ha, hd⟩
    · exact .inl ⟨b, hb, hd⟩
    · rcases List.mem_cons.mp ha with rfl | ha
      · simp [laws.refused hd] at hs
      · exact .inr ⟨a, ha, laws.stable hd hs⟩
  | recvLeft hs =>
    rcases h with ⟨b, hb, hd⟩ | ⟨a, ha, hd⟩
    · rcases List.mem_cons.mp hb with rfl | hb
      · simp [laws.refused hd] at hs
      · exact .inl ⟨b, hb, laws.stable hd hs⟩
    · exact .inr ⟨a, ha, hd⟩

/-- Emitting keeps the grid or dooms the pair. -/
theorem Sound.send_or_doomed (laws : Laws step cross Dead) {l l' r : S} {as bs : List A} {a : A}
    (h : Sound step ⟨l, r, as, bs⟩) (hcross : Crossing cross ⟨l', r, as ++ [a], bs⟩)
    (hs : step l a = some l') :
    Sound step ⟨l', r, as ++ [a], bs⟩ ∨ Doomed Dead ⟨l', r, as ++ [a], bs⟩ := by
  obtain ⟨g, hg, rfl, rfl⟩ := h.grid
  rcases push_or_dead laws hg hcross hs with hrow | ⟨b, hb, hd⟩ | hd
  · exact .inl (Sound.send hg rfl hrow)
  · exact .inr (.inl ⟨b, hb, hd⟩)
  · exact .inr (.inr ⟨a, by simp, hd⟩)

theorem sound_or_doomed_move (laws : Laws step cross Dead)
    (hmay : ∀ {s a bs}, may s a bs → ∀ b ∈ bs, cross a b) (hcross : Crossing cross p)
    (h : Sound step p ∨ Doomed Dead p) (hmove : Move step may p q) :
    Sound step q ∨ Doomed Dead q := by
  rcases h with h | h
  swap
  · exact .inr (h.move laws hmove)
  have hcross' := hcross.move laws hmay hmove
  cases hmove with
  | sendLeft hm hs => exact h.send_or_doomed laws hcross' hs
  | sendRight hm hs =>
    exact (h.swap.send_or_doomed laws (hcross'.swap laws) hs).imp Sound.swap Doomed.swap
  | recvRight hs =>
    obtain ⟨r', hr', h'⟩ := h.recv
    obtain rfl : _ = r' := by simpa [hs] using hr'
    exact .inl h'
  | recvLeft hs =>
    obtain ⟨l', hl', h'⟩ := h.swap.recv
    obtain rfl : _ = l' := by simpa [hs] using hl'
    exact .inl h'.swap

/-- **Every run keeps the grid or is doomed.** -/
theorem sound_or_doomed (laws : Laws step cross Dead)
    (hmay : ∀ {s a bs}, may s a bs → ∀ b ∈ bs, cross a b) (hcross : Crossing cross p)
    (h : Sound step p) (hreach : Relation.ReflTransGen (Move step may) p q) :
    Sound step q ∨ Doomed Dead q := by
  have hboth : Crossing cross q ∧ (Sound step q ∨ Doomed Dead q) := by
    induction hreach with
    | refl => exact ⟨hcross, .inl h⟩
    | tail _ hmove ih =>
      exact ⟨ih.1.move laws hmay hmove, sound_or_doomed_move laws hmay ih.1 ih.2 hmove⟩
  exact hboth.2

/-- **At quiescence the peers agree**: a doomed pair has an action in flight. -/
theorem eq_of_quiescent (laws : Laws step cross Dead)
    (hmay : ∀ {s a bs}, may s a bs → ∀ b ∈ bs, cross a b) {s : S}
    (hreach : Relation.ReflTransGen (Move step may) ⟨s, s, [], []⟩ q) (hr : q.toRight = [])
    (hl : q.toLeft = []) : q.left = q.right := by
  have hcross : Crossing cross (⟨s, s, [], []⟩ : Pair S A) := by
    intro a ha
    simp at ha
  rcases sound_or_doomed laws hmay hcross (sound_refl s) hreach with h | h
  · exact h.eq hr hl
  · simp [Doomed, hr, hl] at h

end Pair
end Replica
end Rclweb
