import Mathlib.Data.Nat.Notation

/-!
# Programs that wait for answers

A program over an interface of operations either returns or performs an operation and
continues with its answer, which the environment chooses.  The interface is any type of
operations with a type of answers for each.

`Ensures` is the calculus of such programs against every environment: before each operation
the obligation `may` is checked, and on return the postcondition.  Both see the history, the
operations performed so far with their answers, and answers are assumed to satisfy `gives`.
Whoever runs the program answer by answer keeps the contract (`ensures_await`).
-/

namespace Rclweb

/-- **A program over operations `Op`** with answers `Answer`, returning an `α`. -/
inductive Program (Op : Type) (Answer : Op → Type) (α : Type) where
  | pure (a : α)
  | await (op : Op) (next : Answer op → Program Op Answer α)

namespace Program

variable {Op : Type} {Answer : Op → Type} {α β : Type}

/-- An operation with the answer it got. -/
abbrev Event (Op : Type) (Answer : Op → Type) := (op : Op) × Answer op

/-- Run `f` on what a program returns. -/
def bind : Program Op Answer α → (α → Program Op Answer β) → Program Op Answer β
  | pure a, f => f a
  | await op next, f => await op fun answer => (next answer).bind f

def map (f : α → β) (p : Program Op Answer α) : Program Op Answer β := p.bind fun a => pure (f a)

@[simp] theorem bind_pure (a : α) (f : α → Program Op Answer β) : (pure a).bind f = f a := rfl

@[simp] theorem bind_await (op : Op) (next : Answer op → Program Op Answer α)
    (f : α → Program Op Answer β) :
    (await op next).bind f = await op fun answer => (next answer).bind f := rfl

/-- **A run of a program**: the operations it performs with their answers, and what it
returns. -/
inductive Returns : Program Op Answer α → List (Event Op Answer) → α → Prop
  | pure (a : α) : Returns (pure a) [] a
  | await {op : Op} {next : Answer op → Program Op Answer α} (answer : Answer op)
      {events : List (Event Op Answer)} {a : α} :
      Returns (next answer) events a → Returns (await op next) (⟨op, answer⟩ :: events) a

/-- Run a program on an environment that answers by a function. -/
def run (answer : (op : Op) → Answer op) : Program Op Answer α → α
  | pure a => a
  | await op next => (next (answer op)).run answer

theorem returns_run (answer : (op : Op) → Answer op) (p : Program Op Answer α) :
    ∃ events, Returns p events (p.run answer) := by
  induction p with
  | pure a => exact ⟨[], .pure a⟩
  | await op next ih =>
    obtain ⟨events, h⟩ := ih (answer op)
    exact ⟨_, .await (answer op) h⟩

section Ensures

variable (gives : (op : Op) → Answer op → Prop)
  (may : List (Event Op Answer) → Op → Prop) (post : List (Event Op Answer) → α → Prop)

/-- **Against every environment** the program meets its obligations and, if it returns, its
postcondition. -/
def Ensures (history : List (Event Op Answer)) : Program Op Answer α → Prop
  | pure a => post history a
  | await op next =>
    may history op ∧ ∀ answer, gives op answer →
      Ensures (history ++ [⟨op, answer⟩]) (next answer)

variable {gives may post} {history : List (Event Op Answer)} {p : Program Op Answer α}

@[simp] theorem ensures_pure (a : α) : Ensures gives may post history (pure a) ↔ post history a :=
  Iff.rfl

@[simp] theorem ensures_await (op : Op) (next : Answer op → Program Op Answer α) :
    Ensures gives may post history (await op next) ↔
      may history op ∧ ∀ answer, gives op answer →
        Ensures gives may post (history ++ [⟨op, answer⟩]) (next answer) :=
  Iff.rfl

/-- Weaker obligations and a weaker postcondition. -/
theorem Ensures.mono {may' : List (Event Op Answer) → Op → Prop}
    {post' : List (Event Op Answer) → α → Prop} (h : Ensures gives may post history p)
    (hmay : ∀ history op, may history op → may' history op)
    (hpost : ∀ history a, post history a → post' history a) :
    Ensures gives may' post' history p := by
  induction p generalizing history with
  | pure a => exact hpost history a h
  | await op next ih => exact ⟨hmay _ op h.1, fun answer hgive => ih answer (h.2 answer hgive)⟩

/-- Two contracts of one program hold together. -/
theorem Ensures.and {may' : List (Event Op Answer) → Op → Prop}
    {post' : List (Event Op Answer) → α → Prop} (h : Ensures gives may post history p)
    (h' : Ensures gives may' post' history p) :
    Ensures gives (fun history op => may history op ∧ may' history op)
      (fun history a => post history a ∧ post' history a) history p := by
  induction p generalizing history with
  | pure a => exact ⟨h, h'⟩
  | await op next ih =>
    exact ⟨⟨h.1, h'.1⟩, fun answer hgive => ih answer (h.2 answer hgive) (h'.2 answer hgive)⟩

/-- **The rule of sequencing.** -/
theorem Ensures.bind {f : α → Program Op Answer β} {post' : List (Event Op Answer) → β → Prop}
    (h : Ensures gives may post history p)
    (hf : ∀ history a, post history a → Ensures gives may post' history (f a)) :
    Ensures gives may post' history (p.bind f) := by
  induction p generalizing history with
  | pure a => exact hf history a h
  | await op next ih => exact ⟨h.1, fun answer hgive => ih answer (h.2 answer hgive)⟩

/-- **A contract holds of every run** whose answers are as assumed. -/
theorem Ensures.of_returns (h : Ensures gives may post history p) {events : List (Event Op Answer)}
    {a : α} (hrun : Returns p events a) (hgives : ∀ e ∈ events, gives e.1 e.2) :
    post (history ++ events) a := by
  induction hrun generalizing history with
  | pure a => simpa using h
  | @await op next answer events a _ ih =>
    rw [← List.singleton_append, ← List.append_assoc]
    exact ih (h.2 answer (hgives ⟨op, answer⟩ List.mem_cons_self))
      fun e he => hgives e (List.mem_cons_of_mem _ he)

end Ensures

end Program
end Rclweb
