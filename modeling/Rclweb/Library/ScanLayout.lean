import Mathlib.Data.List.Flatten
import Rclweb.Library.Scan

/-!
# Scanning a layout

`Scans r p a` says that a scanner reads a value off the bytes of its layout, wherever they stand and
whatever follows, on every machine that has room for the whole byte string, and that it asks for no
memory the bytes do not justify.  The rules put a layout together from its parts; those for checks
and for reads at a distance look at the bytes that are still ahead.

`Gives r P` says that whatever is read has a property, on every machine.
-/

namespace Rclweb
namespace Scan

variable {ε α β : Type}

/-- The machine holds the length of a byte string. -/
def Room (m n : ℕ) : Prop := m = 0 ∨ n < m

theorem Room.wrap {m n k : ℕ} (h : Room m n) (hk : k ≤ n) : wrap m k = k := by
  rcases h with rfl | h
  · exact wrap_unbounded k
  · exact wrap_of_lt (by omega)

/-- **A scanner reads a value off its bytes.** -/
def Scans (r : Scan ε α) (p : List UInt8) (a : α) : Prop :=
  ∀ m front rest, Room m (front ++ (p ++ rest)).length →
    ∃ log, r m (front ++ (p ++ rest)) front.length = ⟨.ok a (front.length + p.length), log⟩ ∧
      ∀ d ∈ log, d.Justified

variable {r : Scan ε α} {f : α → Scan ε β} {p q : List UInt8} {a : α} {b : β} {n k : ℕ}

/-- What is scanned is the result, and the run is safe. -/
theorem Scans.run (h : Scans r p a) {m : ℕ} (hroom : Room m p.length) :
    (r m p 0).outcome.result = some (.ok a) ∧ (r m p 0).Safe := by
  obtain ⟨log, hrun, hlog⟩ := h m [] [] (by simpa using hroom)
  rw [List.append_nil, List.nil_append, List.length_nil] at hrun
  rw [hrun]
  exact ⟨rfl, trivial, hlog⟩

/-! ## Sequencing -/

theorem outcome_bind {m o o' : ℕ} {bytes : List UInt8} (h : (r m bytes o).outcome = .ok a o') :
    ((r >>= f) m bytes o).outcome = (f a m bytes o').outcome := by
  rw [bind_of_ok h]

theorem scans_pure (a : α) : Scans (pure a : Scan ε α) [] a := fun _ _ _ _ =>
  ⟨[], rfl, List.forall_mem_nil _⟩

/-- **The rule of sequencing.** -/
theorem Scans.bind (hr : Scans r p a) (hf : Scans (f a) q b) : Scans (r >>= f) (p ++ q) b := by
  intro m front rest hroom
  rw [List.append_assoc] at hroom ⊢
  obtain ⟨log, hrun, hlog⟩ := hr m front (q ++ rest) hroom
  have hsplit : front ++ (p ++ (q ++ rest)) = (front ++ p) ++ (q ++ rest) :=
    (List.append_assoc ..).symm
  obtain ⟨log', hrun', hlog'⟩ := hf m (front ++ p) rest (by rwa [← hsplit])
  rw [← hsplit, List.length_append] at hrun'
  refine ⟨log ++ log', ?_, List.forall_mem_append.mpr ⟨hlog, hlog'⟩⟩
  rw [bind_of_ok (congrArg Run.outcome hrun), hrun', hrun, List.length_append, Nat.add_assoc]

theorem Scans.map (hr : Scans r p a) (g : α → β) : Scans (g <$> r) p (g a) := by
  have h := hr.bind (f := fun a => pure (g a)) (scans_pure (g a))
  rwa [List.append_nil] at h

/-- The last part of a layout. -/
theorem Scans.last (hr : Scans r p a) (hf : Scans (f a) [] b) : Scans (r >>= f) p b := by
  have h := hr.bind hf
  rwa [List.append_nil] at h

/-- A step that looks at what is ahead and stays where it is. -/
theorem Scans.peek
    (hr : ∀ m front rest, Room m (front ++ (p ++ rest)).length →
      ∃ log, r m (front ++ (p ++ rest)) front.length = ⟨.ok a front.length, log⟩ ∧
        ∀ d ∈ log, d.Justified)
    (hf : Scans (f a) p b) : Scans (r >>= f) p b := by
  intro m front rest hroom
  obtain ⟨log, hrun, hlog⟩ := hr m front rest hroom
  obtain ⟨log', hrun', hlog'⟩ := hf m front rest hroom
  refine ⟨log ++ log', ?_, List.forall_mem_append.mpr ⟨hlog, hlog'⟩⟩
  rw [bind_of_ok (congrArg Run.outcome hrun), hrun', hrun]

/-! ## What is ahead -/

/-- Bytes are checked that are there. -/
theorem Scans.require {e : ε} {f : Unit → Scan ε β} (hn : n ≤ p.length) (hf : Scans (f ()) p b) :
    Scans (Scan.require n e >>= f) p b := by
  refine .peek (fun m front rest hroom => ⟨[.ends (front.length + n)], ?_, ?_⟩) hf
  · have hle : front.length + n ≤ (front ++ (p ++ rest)).length := by
      simp only [List.length_append]
      omega
    unfold Scan.require
    rw [hroom.wrap hle, if_neg (not_lt.mpr hle)]
  · exact List.forall_mem_singleton.mpr trivial

/-- Memory is asked for records that are there. -/
theorem Scans.reserve {f : Unit → Scan ε β} {count size : ℕ} (h : count * size ≤ p.length)
    (hf : Scans (f ()) p b) : Scans (Scan.reserve count size >>= f) p b := by
  refine .peek (fun m front rest hroom => ⟨_, rfl, List.forall_mem_singleton.mpr ?_⟩) hf
  show count * size ≤ _
  simp only [List.length_append]
  omega

section Ahead

variable {m : ℕ} {front rest : List UInt8}

theorem byteAt_of_room (hroom : Room m (front ++ (p ++ rest)).length) {x : UInt8}
    (hx : p[k]? = some x) :
    (Scan.byteAt k : Scan ε UInt8) m (front ++ (p ++ rest)) front.length =
      ⟨.ok x front.length, []⟩ := by
  obtain ⟨hk, -⟩ := List.getElem?_eq_some_iff.mp hx
  have hle : front.length + k ≤ (front ++ (p ++ rest)).length := by
    simp only [List.length_append]
    omega
  unfold Scan.byteAt
  rw [hroom.wrap hle, List.getElem?_append_right (Nat.le_add_right _ _), Nat.add_sub_cancel_left,
    List.getElem?_append_left hk, hx]

theorem numberAt_of_room (hroom : Room m (front ++ (p ++ rest)).length) {w n : ℕ}
    (hn : n < 256 ^ w) (hp : (p.drop k).take w = LittleEndian.toBytes w n) :
    (Scan.numberAt w k : Scan ε ℕ) m (front ++ (p ++ rest)) front.length =
      ⟨.ok n front.length, []⟩ := by
  induction w generalizing k n with
  | zero =>
    obtain rfl : n = 0 := by omega
    rfl
  | succ w ih =>
    rw [LittleEndian.toBytes] at hp
    cases hdrop : p.drop k with
    | nil =>
      rw [hdrop] at hp
      cases hp
    | cons x more =>
      rw [hdrop, List.take_succ_cons] at hp
      obtain ⟨rfl, hmore⟩ := List.cons.inj hp
      have hbyte : p[k]? = some (UInt8.ofNat n) := by
        rw [← Nat.add_zero k, ← List.getElem?_drop, hdrop]
        rfl
      have hnext : (p.drop (k + 1)).take w = LittleEndian.toBytes w (n / 256) := by
        rw [← List.drop_drop, hdrop, List.drop_one, List.tail_cons]
        exact hmore
      have hlt : n / 256 < 256 ^ w := by
        rw [pow_succ] at hn
        exact Nat.div_lt_of_lt_mul (by omega)
      have hsum : (UInt8.ofNat n).toNat + 256 * (n / 256) = n := by
        rw [UInt8.toNat_ofNat']
        omega
      have hfirst := byteAt_of_room (ε := ε) hroom hbyte
      have hrest := ih hlt hnext
      rw [Scan.numberAt, bind_of_ok (congrArg Run.outcome hfirst),
        bind_of_ok (congrArg Run.outcome hrest), hfirst, hrest]
      show (⟨.ok ((UInt8.ofNat n).toNat + 256 * (n / 256)) front.length, []⟩ : Run ε ℕ) = _
      rw [hsum]

theorem slice_of_room (hroom : Room m (front ++ (p ++ rest)).length) (hn : n ≤ p.length) :
    (Scan.slice n : Scan ε (List UInt8)) m (front ++ (p ++ rest)) front.length =
      ⟨.ok (p.take n) front.length, []⟩ := by
  have hle : front.length + n ≤ (front ++ (p ++ rest)).length := by
    simp only [List.length_append]
    omega
  unfold Scan.slice
  rw [hroom.wrap hle, if_neg (by omega), List.drop_take, List.drop_left, Nat.add_sub_cancel_left,
    List.take_append_of_le_length hn]

/-- A number at a distance from the start. -/
theorem outcome_numberAt_start (hroom : Room m p.length) {w n : ℕ} (hn : n < 256 ^ w)
    (hp : (p.drop k).take w = LittleEndian.toBytes w n) :
    ((Scan.numberAt w k : Scan ε ℕ) m p 0).outcome = .ok n 0 := by
  have hroom' : Room m ([] ++ (p ++ [])).length := by simpa using hroom
  have h := numberAt_of_room (ε := ε) hroom' hn hp
  rw [List.append_nil, List.nil_append, List.length_nil] at h
  rw [h]

theorem outcome_require_start (hroom : Room m p.length) (hn : n ≤ p.length) (e : ε) :
    (Scan.require n e m p 0).outcome = .ok () 0 := by
  unfold Scan.require
  rw [Nat.zero_add, hroom.wrap hn, if_neg (not_lt.mpr hn)]

end Ahead

theorem Scans.byteAt {f : UInt8 → Scan ε β} {x : UInt8} (hx : p[k]? = some x)
    (hf : Scans (f x) p b) : Scans (Scan.byteAt k >>= f) p b :=
  .peek (fun _ _ _ hroom => ⟨[], byteAt_of_room hroom hx, List.forall_mem_nil _⟩) hf

/-- A number whose bytes are ahead, behind some others. -/
theorem Scans.numberAt {f : ℕ → Scan ε β} {w : ℕ} (hn : n < 256 ^ w)
    (hp : (p.drop k).take w = LittleEndian.toBytes w n) (hf : Scans (f n) p b) :
    Scans (Scan.numberAt w k >>= f) p b :=
  .peek (fun _ _ _ hroom => ⟨[], numberAt_of_room hroom hn hp, List.forall_mem_nil _⟩) hf

/-- The bytes are one slice. -/
theorem Scans.slice {f : List UInt8 → Scan ε β} (hp : p.length = n) (hf : Scans (f p) p b) :
    Scans (Scan.slice n >>= f) p b := by
  refine .peek (fun m front rest hroom => ⟨[], ?_, List.forall_mem_nil _⟩) hf
  rw [slice_of_room hroom hp.ge, ← hp, List.take_length]

theorem Scans.array {f : { raw : List UInt8 // raw.length = n } → Scan ε β}
    (x : { raw : List UInt8 // raw.length = n }) (hf : Scans (f x) x.1 b) :
    Scans (Scan.array n >>= f) x.1 b := by
  refine .peek (fun m front rest hroom => ⟨[], ?_, List.forall_mem_nil _⟩) hf
  have hslice : (Scan.slice n : Scan ε _) m (front ++ (x.1 ++ rest)) front.length =
      ⟨.ok x.1 front.length, []⟩ := by
    rw [slice_of_room hroom x.2.ge, List.take_of_length_le x.2.le]
  rw [Scan.array, bind_of_ok (congrArg Run.outcome hslice), dif_pos x.2, hslice]
  rfl

/-! ## Parts -/

/-- The offset moves over a part. -/
theorem Scans.advance {f : Unit → Scan ε β} (hp : p.length = n) (hf : Scans (f ()) q b) :
    Scans (Scan.advance n >>= f) (p ++ q) b := by
  refine Scans.bind (a := ()) (fun m front rest hroom => ⟨[], ?_, List.forall_mem_nil _⟩) hf
  have hle : front.length + n ≤ (front ++ (p ++ rest)).length := by
    simp only [List.length_append]
    omega
  unfold Scan.advance
  rw [hroom.wrap hle, hp]

/-- The offset moves over what was read. -/
theorem Scans.finish (hp : p.length = n) (a : α) :
    Scans ((Scan.advance n >>= fun _ => pure a : Scan ε α)) p a := by
  have h := Scans.advance (ε := ε) (f := fun _ => pure a) hp (scans_pure a)
  rwa [List.append_nil] at h

theorem scans_text {s : String} {e : ε} :
    Scans (text (BigEndian.utf8 s) e) [] s := by
  rw [text, BigEndian.ofUtf8?_utf8]
  exact scans_pure s

/-- **Records one after another.** -/
theorem scans_repeated {r : ℕ → Scan ε α} {encode : α → List UInt8} {items : List α}
    (h : ∀ a ∈ items, ∀ i, Scans (r i) (encode a) a) (i : ℕ) :
    Scans (repeated r i items.length) (items.flatMap encode) items := by
  induction items generalizing i with
  | nil => exact scans_pure []
  | cons a items ih =>
    obtain ⟨hfirst, hrest⟩ := List.forall_mem_cons.mp h
    rw [List.flatMap_cons, List.length_cons, repeated]
    exact (hfirst i).bind ((ih hrest (i + 1)).last (scans_pure _))

/-! ## Whatever is read -/

/-- **Whatever a scanner reads has a property.** -/
def Gives (r : Scan ε α) (P : α → Prop) : Prop :=
  ∀ m bytes o a o', (r m bytes o).outcome = .ok a o' → P a

variable {P Q : α → Prop} {R : β → Prop}

theorem gives_pure (h : P a) : Gives (pure a : Scan ε α) P := by
  rintro m bytes o _ _ ⟨⟩
  exact h

theorem gives_fail {e : ε} : Gives (fail e) P := by
  rintro m bytes o _ _ ⟨⟩

theorem gives_any (r : Scan ε α) : Gives r fun _ => True := fun _ _ _ _ _ _ => trivial

/-- What is read last has a property, given one of what was read before. -/
theorem Gives.bind (hr : Gives r P) (hf : ∀ a, P a → Gives (f a) R) : Gives (r >>= f) R := by
  intro m bytes o b o' h
  obtain ⟨a, middle, ha, hb⟩ := ok_of_bind_ok h
  exact hf a (hr m bytes o a middle ha) m bytes middle b o' hb

/-- What is read first does not matter. -/
theorem Gives.after (hf : ∀ a, Gives (f a) R) : Gives (r >>= f) R :=
  (gives_any r).bind fun a _ => hf a

theorem Gives.map {g : α → β} (h : Gives r P) (hg : ∀ a, P a → R (g a)) : Gives (g <$> r) R :=
  h.bind fun a ha => gives_pure (hg a ha)

theorem gives_slice : Gives (slice n : Scan ε (List UInt8)) fun raw => raw.length ≤ n := by
  intro m bytes o raw o' h
  unfold slice at h
  have hle : wrap m (o + n) ≤ o + n := Nat.mod_le _ _
  dsimp only at h
  split_ifs at h
  cases h
  rw [List.length_drop, List.length_take]
  omega

theorem gives_numberAt {w : ℕ} : Gives (numberAt w k : Scan ε ℕ) fun n => n < 256 ^ w := by
  induction w generalizing k with
  | zero => exact gives_pure Nat.one_pos
  | succ w ih =>
    refine .after fun b => (ih (k := k + 1)).bind fun rest hrest => gives_pure ?_
    have hb := b.toNat_lt
    rw [pow_succ]
    omega

theorem gives_text {raw : List UInt8} {e : ε} :
    Gives (text raw e) fun s => BigEndian.utf8 s = raw := by
  intro m bytes o s o' h
  unfold text at h
  cases hs : BigEndian.ofUtf8? raw with
  | none =>
    rw [hs] at h
    cases h
  | some s' =>
    rw [hs] at h
    cases h
    exact BigEndian.utf8_of_ofUtf8? hs

theorem gives_repeated {r : ℕ → Scan ε α} (h : ∀ i, Gives (r i) P) (i k : ℕ) :
    Gives (repeated r i k) fun items => items.length = k ∧ ∀ a ∈ items, P a := by
  induction k generalizing i with
  | zero => exact gives_pure ⟨rfl, List.forall_mem_nil _⟩
  | succ k ih =>
    refine (h i).bind fun a ha => (ih (i + 1)).bind fun items hitems => gives_pure ?_
    exact ⟨congrArg (· + 1) hitems.1, List.forall_mem_cons.mpr ⟨ha, hitems.2⟩⟩

end Scan
end Rclweb
