import Rclweb.Library.ByteReader

/-!
# Scanning bytes with the offsets of a machine

A scanner goes over a byte string with an offset that is a machine word.  Sums of offsets wrap
modulo the size of the word; modulus `0` is the machine whose words hold every number.  A scanner
checks that bytes are there, indexes and slices behind its offset, moves the offset on, and asks
for memory.  An index or a slice outside the byte string is a fault, which ends the run.

A run keeps a log of what the input made it check and ask for.  On the machine that holds every
number the log says what the input *declares*: where lengths end, and how many records it
announces.

`Agrees m r c c'` compares a scanner on a machine with the same scanner on the unbounded one, from
every offset with `c` bytes behind it.  If what is declared fits the word and the input, the two
runs are one, and `c'` bytes are left behind the last offset.  If not, the run on the machine faults
or asks for memory that the input cannot justify.  The rules put the comparison of a scanner
together from those of its steps, so that only two of them have to look at a wrapped sum
(`Agrees.requireSlice` and `Agrees.requireRecords`).
-/

namespace Rclweb

/-! ## Runs -/

namespace Scan

inductive Fault where
  | index
  | slice
  deriving DecidableEq, Repr

inductive Outcome (ε α : Type) where
  | ok (a : α) (o : ℕ)
  | err (e : ε)
  | fault (f : Fault)

/-- **What a scanner finds in its input**: a length that ends somewhere, or a number of records of
a least size for which memory is asked, with the bytes that are left. -/
inductive Demand where
  | ends (n : ℕ)
  | slots (count size left : ℕ)
  deriving DecidableEq, Repr

namespace Demand

/-- Memory is asked for no more records than the bytes left can hold. -/
def Justified : Demand → Prop
  | ends _ => True
  | slots count size left => count * size ≤ left

/-- **A demand fits the machine and the input.** -/
def Fits (m : ℕ) : Demand → Prop
  | ends n => n < m
  | slots count size left => count * size ≤ left

instance : DecidablePred Justified
  | ends _ => inferInstanceAs (Decidable True)
  | slots count size left => inferInstanceAs (Decidable (count * size ≤ left))

instance (m : ℕ) : DecidablePred (Fits m)
  | ends n => inferInstanceAs (Decidable (n < m))
  | slots count size left => inferInstanceAs (Decidable (count * size ≤ left))

theorem Fits.justified {m : ℕ} {d : Demand} (h : d.Fits m) : d.Justified := by
  cases d with
  | ends n => exact trivial
  | slots count size left => exact h

end Demand

/-- How a run ends, and its log. -/
structure Run (ε α : Type) where
  outcome : Outcome ε α
  log : List Demand

namespace Outcome

variable {ε α : Type}

/-- What a caller gets, if there was no fault. -/
def result : Outcome ε α → Option (Except ε α)
  | ok a _ => some (.ok a)
  | err e => some (.error e)
  | fault _ => none

/-- **The outcome is a value or an error**, and a value is as described. -/
def Leaves (P : α → ℕ → Prop) : Outcome ε α → Prop
  | ok a o => P a o
  | err _ => True
  | fault _ => False

theorem Leaves.mono {P Q : α → ℕ → Prop} {x : Outcome ε α} (h : x.Leaves P)
    (hPQ : ∀ a o, P a o → Q a o) : x.Leaves Q := by
  cases x with
  | ok a o => exact hPQ a o h
  | err e => exact trivial
  | fault f => exact h

end Outcome

/-- **A safe run** returns a value or an error, and asks for no memory that the input cannot
justify. -/
def Run.Safe {ε α : Type} (run : Run ε α) : Prop :=
  run.outcome.Leaves (fun _ _ => True) ∧ ∀ d ∈ run.log, d.Justified

end Scan

open Scan

/-! ## Scanners -/

/-- **A scanner**: from a machine, by the modulus of its words, a byte string and an offset. -/
def Scan (ε α : Type) : Type := ℕ → List UInt8 → ℕ → Run ε α

namespace Scan

variable {ε α β : Type}

/-- The machine whose words hold every number. -/
abbrev unbounded : ℕ := 0

/-- The machine of 32-bit words. -/
abbrev word32 : ℕ := 2 ^ 32

/-- A sum as a word of the machine. -/
def wrap (m n : ℕ) : ℕ := n % m

/-- A product that stays at the largest word (`saturating_mul`). -/
def saturate (m n : ℕ) : ℕ := if m = 0 then n else min n (m - 1)

instance : Monad (Scan ε) where
  pure a := fun _ _ o => ⟨.ok a o, []⟩
  bind r f := fun m bytes o =>
    let first := r m bytes o
    match first.outcome with
    | .ok a o' =>
      let second := f a m bytes o'
      ⟨second.outcome, first.log ++ second.log⟩
    | .err e => ⟨.err e, first.log⟩
    | .fault f => ⟨.fault f, first.log⟩

def fail (e : ε) : Scan ε α := fun _ _ _ => ⟨.err e, []⟩

def stray (f : Fault) : Scan ε α := fun _ _ _ => ⟨.fault f, []⟩

/-- A result that is not read off the input. -/
def lift : Except ε α → Scan ε α
  | .ok a => pure a
  | .error e => fail e

/-- Fail when the end of the next bytes lies outside. -/
def require (n : ℕ) (e : ε) : Scan ε Unit := fun m bytes o =>
  ⟨if bytes.length < wrap m (o + n) then .err e else .ok () o, [.ends (o + n)]⟩

/-- The same for records of a size. -/
def requireRecords (count size : ℕ) (e : ε) : Scan ε Unit := fun m bytes o =>
  ⟨if bytes.length < wrap m (o + saturate m (count * size)) then .err e else .ok () o,
    [.ends (o + count * size)]⟩

/-- Fail when the offset is at the end. -/
def requireLeft (e : ε) : Scan ε Unit := fun _ bytes o =>
  ⟨if bytes.length ≤ o then .err e else .ok () o, []⟩

/-- Fail when the offset is not at the end. -/
def requireEnd (e : ε) : Scan ε Unit := fun _ bytes o =>
  ⟨if o ≠ bytes.length then .err e else .ok () o, []⟩

/-- The byte at a distance from the offset. -/
def byteAt (k : ℕ) : Scan ε UInt8 := fun m bytes o =>
  ⟨match bytes[wrap m (o + k)]? with
    | some b => .ok b o
    | none => .fault .index, []⟩

/-- A number of `w` bytes at a distance from the offset. -/
def numberAt : (w k : ℕ) → Scan ε ℕ
  | 0, _ => pure 0
  | w + 1, k => do
    let b ← byteAt k
    let rest ← numberAt w (k + 1)
    pure (b.toNat + 256 * rest)

/-- The bytes from the offset to its sum with a length. -/
def slice (n : ℕ) : Scan ε (List UInt8) := fun m bytes o =>
  ⟨if wrap m (o + n) < o ∨ bytes.length < wrap m (o + n) then .fault .slice
    else .ok ((bytes.take (wrap m (o + n))).drop o) o, []⟩

/-- A slice whose length is known to the type. -/
def array (n : ℕ) : Scan ε { raw : List UInt8 // raw.length = n } := do
  let raw ← slice n
  if h : raw.length = n then pure ⟨raw, h⟩ else stray .slice

def advance (n : ℕ) : Scan ε Unit := fun m _ o => ⟨.ok () (wrap m (o + n)), []⟩

/-- Ask for the memory of a number of records, each at least so many bytes of input. -/
def reserve (count size : ℕ) : Scan ε Unit := fun _ bytes o =>
  ⟨.ok () o, [.slots count size (bytes.length - o)]⟩

/-- A text, with an error for bytes that are none. -/
def text (raw : List UInt8) (e : ε) : Scan ε String :=
  match BigEndian.ofUtf8? raw with
  | some s => pure s
  | none => fail e

/-- A scanner for each number from `i` on, `n` of them. -/
def repeated (r : ℕ → Scan ε α) : (i n : ℕ) → Scan ε (List α)
  | _, 0 => pure []
  | i, n + 1 => do
    let a ← r i
    let rest ← repeated r (i + 1) n
    pure (a :: rest)

/-- What an input declares: the log of a run on the unbounded machine. -/
def declared (r : Scan ε α) (bytes : List UInt8) : List Demand := (r unbounded bytes 0).log

/-! ## Agreement with the unbounded machine -/

@[simp] theorem wrap_unbounded (n : ℕ) : wrap unbounded n = n := Nat.mod_zero n

theorem wrap_of_lt {m n : ℕ} (h : n < m) : wrap m n = n := Nat.mod_eq_of_lt h

/-- A sum that overflows once. -/
theorem wrap_of_le {m n : ℕ} (h : m ≤ n) (hlt : n < 2 * m) : wrap m n = n - m := by
  rw [wrap, Nat.mod_eq_sub_mod h, Nat.mod_eq_of_lt (by omega)]

@[simp] theorem saturate_unbounded (n : ℕ) : saturate unbounded n = n := if_pos rfl

theorem saturate_of_lt {m n : ℕ} (h : n < m) : saturate m n = n := by
  rw [saturate, if_neg (by omega)]
  omega

/-! ## Sequencing -/

section Bind

variable {r : Scan ε α} {f : α → Scan ε β} {m : ℕ} {bytes : List UInt8} {o o' : ℕ}

theorem bind_of_ok {a : α} (h : (r m bytes o).outcome = .ok a o') :
    (r >>= f) m bytes o =
      ⟨(f a m bytes o').outcome, (r m bytes o).log ++ (f a m bytes o').log⟩ := by
  show (match (r m bytes o).outcome with
    | .ok a o' => _
    | .err e => _
    | .fault f => _) = _
  rw [h]

theorem bind_of_err {e : ε} (h : (r m bytes o).outcome = .err e) :
    (r >>= f) m bytes o = ⟨.err e, (r m bytes o).log⟩ := by
  show (match (r m bytes o).outcome with
    | .ok a o' => _
    | .err e => _
    | .fault f => _) = _
  rw [h]

theorem bind_of_fault {g : Fault} (h : (r m bytes o).outcome = .fault g) :
    (r >>= f) m bytes o = ⟨.fault g, (r m bytes o).log⟩ := by
  show (match (r m bytes o).outcome with
    | .ok a o' => _
    | .err e => _
    | .fault f => _) = _
  rw [h]

/-- The last step of a run that returns a value started where the first one ended. -/
theorem ok_of_bind_ok {b : β} {o'' : ℕ} (h : ((r >>= f) m bytes o).outcome = .ok b o'') :
    ∃ a o', (r m bytes o).outcome = .ok a o' ∧ (f a m bytes o').outcome = .ok b o'' := by
  rcases hout : (r m bytes o).outcome with ⟨a, o'⟩ | e | g
  · rw [bind_of_ok hout] at h
    exact ⟨a, o', rfl, h⟩
  · rw [bind_of_err hout] at h
    exact nomatch h
  · rw [bind_of_fault hout] at h
    exact nomatch h

theorem mem_log_bind {d : Demand} (h : d ∈ (r m bytes o).log) : d ∈ ((r >>= f) m bytes o).log := by
  rcases hout : (r m bytes o).outcome with ⟨a, o'⟩ | e | g
  · rw [bind_of_ok hout]
    exact List.mem_append_left _ h
  · rwa [bind_of_err hout]
  · rwa [bind_of_fault hout]

/-- A run that is safe up to its end was safe before. -/
theorem safe_of_bind (h : ((r >>= f) m bytes o).Safe) : (r m bytes o).Safe := by
  obtain ⟨hleaves, hlog⟩ := h
  rcases hout : (r m bytes o).outcome with ⟨a, o'⟩ | e | g
  · rw [bind_of_ok hout] at hlog
    refine ⟨by rw [hout]; trivial, fun d hd => hlog d (List.mem_append_left _ hd)⟩
  · rw [bind_of_err hout] at hlog
    exact ⟨by rw [hout]; trivial, hlog⟩
  · rw [bind_of_fault hout] at hleaves
    exact hleaves.elim

theorem safe_next_of_bind {a : α} (h : ((r >>= f) m bytes o).Safe)
    (hout : (r m bytes o).outcome = .ok a o') : (f a m bytes o').Safe := by
  rw [bind_of_ok hout] at h
  exact ⟨h.1, fun d hd => h.2 d (List.mem_append_right _ hd)⟩

end Bind

/-! ## The comparison -/

/-- **A scanner on a machine and on the unbounded one**, from one offset: if all that is declared
fits, the runs are one and leave `c'` bytes behind, and if not, the run on the machine is not
safe. -/
structure AgreesAt (m : ℕ) (r : Scan ε α) (bytes : List UInt8) (o c' : ℕ) : Prop where
  same : (∀ d ∈ (r unbounded bytes o).log, d.Fits m) →
    r m bytes o = r unbounded bytes o ∧
      (r unbounded bytes o).outcome.Leaves fun _ o' => o' + c' ≤ bytes.length
  strays : ∀ d ∈ (r unbounded bytes o).log, ¬ d.Fits m → ¬ (r m bytes o).Safe

/-- **The comparison from every offset** with `c` bytes behind it, in every byte string of less
than half the machine's numbers. -/
def Agrees (m : ℕ) (r : Scan ε α) (c c' : ℕ) : Prop :=
  ∀ bytes o, bytes.length < m / 2 → o + c ≤ bytes.length → AgreesAt m r bytes o c'

/-- **On a machine, a scanner is safe exactly on the inputs whose declarations fit.** -/
theorem Agrees.safe_iff {m : ℕ} {r : Scan ε α} {c' : ℕ} (h : Agrees m r 0 c') {bytes : List UInt8}
    (hlen : bytes.length < m / 2) :
    (r m bytes 0).Safe ↔ ∀ d ∈ declared r bytes, d.Fits m := by
  obtain ⟨hsame, hstrays⟩ := h bytes 0 hlen (Nat.zero_le _)
  constructor
  · intro hsafe d hd
    by_contra hfits
    exact hstrays d hd hfits hsafe
  · intro hfits
    obtain ⟨heq, hleaves⟩ := hsame hfits
    rw [heq]
    exact ⟨hleaves.mono fun _ _ _ => trivial, fun d hd => (hfits d hd).justified⟩

/-- Where the declarations fit, the machine computes what the unbounded one does. -/
theorem Agrees.eq_unbounded {m : ℕ} {r : Scan ε α} {c' : ℕ} (h : Agrees m r 0 c')
    {bytes : List UInt8} (hlen : bytes.length < m / 2)
    (hfits : ∀ d ∈ declared r bytes, d.Fits m) : r m bytes 0 = r unbounded bytes 0 :=
  ((h bytes 0 hlen (Nat.zero_le _)).same hfits).1

section Rules

variable {m c c₁ c' n k : ℕ} {r : Scan ε α} {f : α → Scan ε β}

theorem Agrees.mono {d d' : ℕ} (h : Agrees m r c c') (hc : c ≤ d) (hc' : d' ≤ c') :
    Agrees m r d d' := by
  intro bytes o hlen ho
  obtain ⟨hsame, hstrays⟩ := h bytes o hlen (by omega)
  refine ⟨fun hfits => ?_, hstrays⟩
  obtain ⟨heq, hleaves⟩ := hsame hfits
  exact ⟨heq, hleaves.mono fun _ _ h => by omega⟩

/-- A step that declares nothing. -/
theorem Agrees.of_silent (hlog : ∀ bytes o, (r unbounded bytes o).log = [])
    (h : ∀ bytes o, bytes.length < m / 2 → o + c ≤ bytes.length →
      r m bytes o = r unbounded bytes o ∧
        (r unbounded bytes o).outcome.Leaves fun _ o' => o' + c' ≤ bytes.length) :
    Agrees m r c c' := by
  intro bytes o hlen ho
  refine ⟨fun _ => h bytes o hlen ho, fun d hd => ?_⟩
  rw [hlog] at hd
  exact absurd hd List.not_mem_nil

theorem Agrees.pure (a : α) : Agrees m (pure a : Scan ε α) c c :=
  .of_silent (fun _ _ => rfl) fun _ _ _ ho => ⟨rfl, ho⟩

theorem Agrees.fail (e : ε) : Agrees m (fail e : Scan ε α) c c' :=
  .of_silent (fun _ _ => rfl) fun _ _ _ _ => ⟨rfl, trivial⟩

theorem Agrees.ite {p : Prop} [Decidable p] {r' : Scan ε α} (h : Agrees m r c c')
    (h' : Agrees m r' c c') : Agrees m (if p then r else r') c c' := by
  split_ifs
  · exact h
  · exact h'

theorem Agrees.lift (x : Except ε α) : Agrees m (lift x) c c := by
  cases x with
  | ok a => exact .pure a
  | error e => exact .fail e

theorem Agrees.text (raw : List UInt8) (e : ε) : Agrees m (text raw e) c c := by
  unfold Scan.text
  split
  · exact .pure _
  · exact .fail e

/-- Sequencing, from one offset: what follows may use where the first step ends. -/
theorem AgreesAt.bind {bytes : List UInt8} {o : ℕ} (hr : AgreesAt m r bytes o c₁)
    (hf : ∀ a o', (r unbounded bytes o).outcome = .ok a o' → o' + c₁ ≤ bytes.length →
      AgreesAt m (f a) bytes o' c') :
    AgreesAt m (r >>= f) bytes o c' := by
  obtain ⟨hsame, hstrays⟩ := hr
  rcases hout : (r unbounded bytes o).outcome with ⟨a, o'⟩ | e | g
  · by_cases hfits : ∀ d ∈ (r unbounded bytes o).log, d.Fits m
    · obtain ⟨heq, hleaves⟩ := hsame hfits
      rw [hout] at hleaves
      have hout' : (r m bytes o).outcome = .ok a o' := heq ▸ hout
      obtain ⟨hsame', hstrays'⟩ := hf a o' hout hleaves
      constructor
      · intro hall
        rw [bind_of_ok hout] at hall
        obtain ⟨heq', hleaves'⟩ := hsame' fun d hd => hall d (List.mem_append_right _ hd)
        rw [bind_of_ok hout, bind_of_ok hout', heq, heq']
        exact ⟨rfl, hleaves'⟩
      · intro d hd hd' hsafe
        rw [bind_of_ok hout, List.mem_append] at hd
        rcases hd with hd | hd
        · exact hd' (hfits d hd)
        · exact hstrays' d hd hd' (safe_next_of_bind hsafe hout')
    · obtain ⟨d, hd, hd'⟩ : ∃ d ∈ (r unbounded bytes o).log, ¬ d.Fits m := by
        by_contra hnone
        exact hfits fun d hd => by_contra fun hd' => hnone ⟨d, hd, hd'⟩
      exact ⟨fun hall => absurd (hall d (mem_log_bind hd)) hd',
        fun _ _ _ hsafe => hstrays d hd hd' (safe_of_bind hsafe)⟩
  · constructor
    · intro hall
      rw [bind_of_err hout] at hall
      obtain ⟨heq, -⟩ := hsame hall
      have hout' : (r m bytes o).outcome = .err e := heq ▸ hout
      rw [bind_of_err hout, bind_of_err hout', heq]
      exact ⟨rfl, trivial⟩
    · intro d hd hd' hsafe
      rw [bind_of_err hout] at hd
      exact hstrays d hd hd' (safe_of_bind hsafe)
  · constructor
    · intro hall
      rw [bind_of_fault hout] at hall
      obtain ⟨-, hleaves⟩ := hsame hall
      rw [hout] at hleaves
      exact hleaves.elim
    · intro d hd hd' hsafe
      rw [bind_of_fault hout] at hd
      exact hstrays d hd hd' (safe_of_bind hsafe)

/-- **The rule of sequencing.** -/
theorem Agrees.bind (hr : Agrees m r c c₁) (hf : ∀ a, Agrees m (f a) c₁ c') :
    Agrees m (r >>= f) c c' := fun bytes o hlen ho =>
  (hr bytes o hlen ho).bind fun a o' _ ho' => hf a bytes o' hlen ho'

theorem Agrees.map (hr : Agrees m r c c') (g : α → β) : Agrees m (g <$> r) c c' :=
  hr.bind fun a => .pure (g a)

/-! ## Steps behind the checked bytes -/

theorem Agrees.byteAt (hk : k < c) : Agrees m (byteAt k : Scan ε UInt8) c c := by
  refine .of_silent (fun _ _ => rfl) fun bytes o hlen ho => ?_
  have hlt : o + k < bytes.length := by omega
  unfold Scan.byteAt
  rw [wrap_unbounded, wrap_of_lt (by omega), List.getElem?_eq_getElem hlt]
  exact ⟨rfl, ho⟩

theorem Agrees.numberAt {w : ℕ} (hk : k + w ≤ c) : Agrees m (numberAt w k : Scan ε ℕ) c c := by
  induction w generalizing k with
  | zero => exact .pure 0
  | succ w ih => exact (Agrees.byteAt (by omega)).bind fun _ => (ih (by omega)).map _

theorem Agrees.slice (hn : n ≤ c) : Agrees m (slice n : Scan ε (List UInt8)) c c := by
  refine .of_silent (fun _ _ => rfl) fun bytes o hlen ho => ?_
  unfold Scan.slice
  rw [wrap_unbounded, wrap_of_lt (by omega), if_neg (by omega)]
  exact ⟨rfl, ho⟩

/-- The bytes of a slice. -/
theorem slice_unbounded {bytes : List UInt8} {o : ℕ} (h : o + n ≤ bytes.length) :
    (slice n : Scan ε (List UInt8)) unbounded bytes o =
      ⟨.ok ((bytes.take (o + n)).drop o) o, []⟩ := by
  unfold Scan.slice
  rw [wrap_unbounded, if_neg (by omega)]

theorem Agrees.array (hn : n ≤ c) :
    Agrees m (array n : Scan ε { raw : List UInt8 // raw.length = n }) c c := by
  intro bytes o hlen ho
  refine (Agrees.slice hn bytes o hlen ho).bind fun raw o' hout ho' => ?_
  rw [slice_unbounded (by omega)] at hout
  obtain ⟨rfl, rfl⟩ := Outcome.ok.inj hout
  have hraw : ((bytes.take (o + n)).drop o).length = n := by
    rw [List.length_drop, List.length_take]
    omega
  rw [dif_pos hraw]
  exact Agrees.pure _ bytes o hlen ho'

theorem Agrees.advance (hn : n ≤ c) : Agrees m (advance n : Scan ε Unit) c (c - n) := by
  refine .of_silent (fun _ _ => rfl) fun bytes o hlen ho => ?_
  unfold Scan.advance
  rw [wrap_unbounded, wrap_of_lt (by omega)]
  exact ⟨rfl, show o + n + (c - n) ≤ bytes.length by omega⟩

/-! ## Checks -/

/-- Where the sum does not wrap, a check is the same on both machines. -/
theorem agreesAt_require {bytes : List UInt8} {o : ℕ} (e : ε) (h : o + n < m) :
    AgreesAt m (require n e) bytes o n := by
  constructor
  · intro _
    unfold Scan.require
    rw [wrap_unbounded, wrap_of_lt h]
    refine ⟨rfl, ?_⟩
    split
    · exact trivial
    · show o + n ≤ bytes.length
      omega
  · intro d hd hd'
    rw [List.mem_singleton.mp hd] at hd'
    exact absurd h hd'

/-- A check of a number of bytes that is too small to wrap. -/
theorem Agrees.require (e : ε) (hn : n ≤ m / 2) : Agrees m (require n e) c n :=
  fun _ _ hlen ho => agreesAt_require e (by omega)

theorem Agrees.require32 (e : ε) (hn : n ≤ 2 ^ 31) : Agrees word32 (Scan.require n e) c n :=
  .require e hn

theorem Agrees.requireLeft (e : ε) : Agrees m (requireLeft e) c 1 := by
  refine .of_silent (fun _ _ => rfl) fun bytes o _ _ => ⟨rfl, ?_⟩
  unfold Scan.requireLeft
  split
  · exact trivial
  · show o + 1 ≤ bytes.length
    omega

theorem Agrees.requireEnd (e : ε) : Agrees m (requireEnd e) c c := by
  refine .of_silent (fun _ _ => rfl) fun bytes o _ ho => ⟨rfl, ?_⟩
  unfold Scan.requireEnd
  split
  · exact trivial
  · exact ho

/-- **A slice behind its check.**  A sum that wraps passes the check, and the slice then ends
before it starts. -/
theorem Agrees.requireSlice {g : List UInt8 → Scan ε β} (e : ε) (hn : n < m)
    (hg : ∀ raw, Agrees m (g raw) n c') :
    Agrees m (Scan.require n e >>= fun _ => Scan.slice n >>= g) c c' := by
  intro bytes o hlen ho
  rcases lt_or_ge (o + n) m with hlt | hge
  · exact (agreesAt_require e hlt).bind fun _ o' _ ho' =>
      ((Agrees.slice le_rfl).bind hg) bytes o' hlen ho'
  have hwrap : wrap m (o + n) = o + n - m := wrap_of_le hge (by omega)
  constructor
  · intro hfits
    exact absurd (hfits (.ends (o + n)) (mem_log_bind (List.mem_singleton_self _)))
      (not_lt.mpr hge)
  · intro _ _ _ hsafe
    have hpasses : (Scan.require n e m bytes o).outcome = .ok () o := by
      unfold Scan.require
      rw [hwrap]
      exact if_neg (by omega)
    have hfault : (Scan.slice n m bytes o : Run ε (List UInt8)).outcome = .fault .slice := by
      unfold Scan.slice
      rw [hwrap]
      exact if_pos (.inl (by omega))
    have hslice := safe_of_bind (safe_next_of_bind (r := Scan.require n e) hsafe hpasses)
    rw [Run.Safe, hfault] at hslice
    exact hslice.1

theorem Agrees.reserve (count size : ℕ) : Agrees m (reserve count size : Scan ε Unit) c c := by
  intro bytes o hlen ho
  refine ⟨fun _ => ⟨rfl, ho⟩, fun d hd hd' hsafe => ?_⟩
  obtain rfl := List.mem_singleton.mp hd
  exact hd' (hsafe.2 _ (List.mem_singleton_self _))

/-- **Records behind the check of their bytes.**  A sum that wraps passes the check, and more
memory is then asked for than the input can justify. -/
theorem agreesAt_requireRecords {count size : ℕ} {g : Unit → Scan ε β} {bytes : List UInt8} {o : ℕ}
    (e : ε) (hlen : bytes.length < m / 2) (hpos : 0 < o) (ho : o ≤ bytes.length)
    (hg : ∀ u, Agrees m (g u) (count * size) c') :
    AgreesAt m (requireRecords count size e >>= fun _ => Scan.reserve count size >>= g)
      bytes o c' := by
  rcases lt_or_ge (o + count * size) m with hlt | hge
  · have hcheck : AgreesAt m (requireRecords count size e) bytes o (count * size) := by
      constructor
      · intro _
        unfold Scan.requireRecords
        rw [wrap_unbounded, saturate_unbounded, saturate_of_lt (by omega), wrap_of_lt hlt]
        refine ⟨rfl, ?_⟩
        split
        · exact trivial
        · show o + count * size ≤ bytes.length
          omega
      · intro d hd hd'
        rw [List.mem_singleton.mp hd] at hd'
        exact absurd hlt hd'
    exact hcheck.bind fun _ o' _ ho' => ((Agrees.reserve count size).bind hg) bytes o' hlen ho'
  constructor
  · intro hfits
    exact absurd (hfits (.ends (o + count * size)) (mem_log_bind (List.mem_singleton_self _)))
      (not_lt.mpr hge)
  · intro _ _ _ hsafe
    -- a saturated product wraps to the byte before the offset
    have hwrap : wrap m (o + saturate m (count * size)) < o := by
      rw [saturate, if_neg (by omega), wrap_of_le (by omega) (by omega)]
      omega
    have hpasses : (requireRecords count size e m bytes o).outcome = .ok () o := by
      unfold Scan.requireRecords
      exact if_neg (by omega)
    have hnext := safe_next_of_bind (r := requireRecords count size e) hsafe hpasses
    have hreserve := safe_of_bind hnext
    have hjust : count * size ≤ bytes.length - o := hreserve.2 _ (List.mem_singleton_self _)
    omega

/-! ## Loops -/

/-- **A loop whose body needs no bytes checked before it.** -/
theorem Agrees.repeated {p : ℕ → Scan ε α} (hp : ∀ i, Agrees m (p i) 0 0) (i k : ℕ) :
    Agrees m (Scan.repeated p i k) 0 0 := by
  induction k generalizing i with
  | zero => exact .pure []
  | succ k ih => exact (hp i).bind fun _ => (ih (i + 1)).bind fun _ => .pure _

/-- **A loop over records of a size** whose bytes are checked before it. -/
theorem Agrees.repeatedOf {p : ℕ → Scan ε α} {size : ℕ}
    (hp : ∀ i left, Agrees m (p i) (left + size) left) (i k : ℕ) :
    Agrees m (Scan.repeated p i k) (k * size + c) c := by
  induction k generalizing i with
  | zero => exact (Agrees.pure []).mono (by omega) le_rfl
  | succ k ih =>
    have hsplit : (k + 1) * size + c = k * size + c + size := by
      rw [Nat.succ_mul]
      omega
    rw [hsplit]
    exact (hp i _).bind fun _ => (ih (i + 1)).bind fun _ => .pure _

end Rules

end Scan
end Rclweb
