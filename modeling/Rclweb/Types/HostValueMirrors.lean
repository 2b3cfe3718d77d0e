import Rclweb.Types.HostValueScan

/-!
# Packed values by cursor and by machine

`decodeHostValue` reads a packed value through a cursor that checks each read for itself.  The
machine's reader checks once for many reads, and asks for memory.  On the unbounded machine they are
the same decoder (`decodeHostValue_eq_unbounded`), and so they are on every machine and input where
what is declared fits.

`Mirrors r x c c'` compares a scanner with an operation of the cursor from every offset with `c`
bytes behind it.
-/

namespace Rclweb

open Scan Attempts Cdr

namespace Types

variable {ε α β : Type}

/-- **An outcome of the scanner is the result of the cursor.** -/
def SameResult (bytes : List UInt8) (c' : ℕ) :
    Scan.Outcome ε α → EStateM.Result ε Cursor α → Prop
  | .ok a o', x => x = .ok a ⟨bytes, o'⟩ ∧ o' + c' ≤ bytes.length
  | .err e, x => ∃ s, x = .error e s
  | .fault _, _ => False

/-- **A scanner on the unbounded machine does what an operation of the cursor does.** -/
def Mirrors (r : Scan ε α) (x : EStateM ε Cursor α) (c c' : ℕ) : Prop :=
  ∀ bytes o, o + c ≤ bytes.length →
    SameResult bytes c' (r unbounded bytes o).outcome (x ⟨bytes, o⟩)

section Rules

variable {r : Scan ε α} {x : EStateM ε Cursor α} {f : α → Scan ε β} {g : α → EStateM ε Cursor β}
  {c c₁ c' n w : ℕ} {e : ε}

theorem Mirrors.mono {d d' : ℕ} (h : Mirrors r x c c') (hc : c ≤ d) (hc' : d' ≤ c') :
    Mirrors r x d d' := by
  intro bytes o ho
  have hsame := h bytes o (by omega)
  rcases hout : (r unbounded bytes o).outcome with ⟨a, o'⟩ | e | s
  · rw [hout] at hsame
    exact ⟨hsame.1, by have := hsame.2; omega⟩
  · rw [hout] at hsame
    exact hsame
  · rw [hout] at hsame
    exact hsame.elim

theorem Mirrors.pure (a : α) : Mirrors (pure a : Scan ε α) (pure a) c c := fun _ _ ho => ⟨rfl, ho⟩

theorem Mirrors.fail (e : ε) : Mirrors (Scan.fail e : Scan ε α) (throw e) c c' :=
  fun bytes o _ => ⟨⟨bytes, o⟩, rfl⟩

theorem Mirrors.ite {p : Prop} [Decidable p] {r' : Scan ε α} {x' : EStateM ε Cursor α}
    (h : Mirrors r x c c') (h' : Mirrors r' x' c c') :
    Mirrors (if p then r else r') (if p then x else x') c c' := by
  split_ifs
  · exact h
  · exact h'

/-- **The rule of sequencing.** -/
theorem Mirrors.bind (hr : Mirrors r x c c₁) (hf : ∀ a, Mirrors (f a) (g a) c₁ c') :
    Mirrors (r >>= f) (x >>= g) c c' := by
  intro bytes o ho
  have hsame := hr bytes o ho
  rcases hout : (r unbounded bytes o).outcome with ⟨a, o'⟩ | e | s
  · rw [hout] at hsame
    obtain ⟨hx, ho'⟩ := hsame
    have hnext := hf a bytes o' ho'
    rw [bind_of_ok hout]
    have hbind : (x >>= g) ⟨bytes, o⟩ = g a ⟨bytes, o'⟩ := by
      show EStateM.bind x g _ = _
      rw [EStateM.bind, hx]
    rwa [hbind]
  · rw [hout] at hsame
    obtain ⟨s, hx⟩ := hsame
    rw [bind_of_err hout]
    refine ⟨s, ?_⟩
    show EStateM.bind x g _ = _
    rw [EStateM.bind, hx]
  · rw [hout] at hsame
    exact hsame.elim

theorem Mirrors.map (hr : Mirrors r x c c') (k : α → β) : Mirrors (k <$> r) (k <$> x) c c' := by
  rw [← bind_pure_comp k x]
  exact hr.bind fun a => .pure (k a)

/-- A step that does nothing to the input. -/
theorem Mirrors.reserve (count size : ℕ) (hf : Mirrors r x c c') :
    Mirrors (Scan.reserve count size >>= fun _ => r) x c c' := by
  intro bytes o ho
  rw [bind_of_ok (r := Scan.reserve count size) rfl]
  exact hf bytes o ho

/-- A check of both. -/
theorem Mirrors.need (e : ε) : Mirrors (require n e) (Cursor.need n e) c n := by
  intro bytes o ho
  show SameResult bytes n (if bytes.length < wrap unbounded (o + n) then .err e else .ok () o)
    ((refuse (bytes.length < o + n) e : EStateM ε Cursor Unit) ⟨bytes, o⟩)
  rw [wrap_unbounded, refuse]
  split
  · exact ⟨⟨bytes, o⟩, rfl⟩
  · exact ⟨rfl, by omega⟩

theorem Mirrors.needRecords (count size : ℕ) (e : ε) :
    Mirrors (requireRecords count size e) (Cursor.need (count * size) e) c (count * size) := by
  intro bytes o ho
  show SameResult bytes _ (if bytes.length < wrap unbounded (o + saturate unbounded (count * size))
      then .err e else .ok () o)
    ((refuse (bytes.length < o + count * size) e : EStateM ε Cursor Unit) ⟨bytes, o⟩)
  rw [wrap_unbounded, saturate_unbounded, refuse]
  split
  · exact ⟨⟨bytes, o⟩, rfl⟩
  · exact ⟨rfl, by omega⟩

theorem take_of_left {bytes : List UInt8} {o : ℕ} (h : o + n ≤ bytes.length) (e : ε) :
    Cursor.take n e ⟨bytes, o⟩ = .ok ((bytes.drop o).take n) ⟨bytes, o + n⟩ := by
  rw [Cursor.take_ok_iff]
  have hlen : ((bytes.drop o).take n).length = n := by
    rw [List.length_take, List.length_drop]
    omega
  exact ⟨hlen, ⟨by rwa [hlen], List.take_prefix _ _, by rw [hlen]; rfl⟩⟩

theorem slice_of_left {bytes : List UInt8} {o : ℕ} (h : o + n ≤ bytes.length) :
    (slice n : Scan ε (List UInt8)) unbounded bytes o =
      ⟨.ok ((bytes.drop o).take n) o, []⟩ := by
  rw [slice_unbounded h, List.drop_take, Nat.add_sub_cancel_left]

/-- **A slice of checked bytes** and the offset behind it are what the cursor takes, whose own
check passes. -/
theorem Mirrors.take (k : List UInt8 → α) (e : ε) (hn : n ≤ c) :
    Mirrors (slice n >>= fun raw => advance n >>= fun _ => Pure.pure (k raw))
      (k <$> Cursor.take n e) c (c - n) := by
  intro bytes o ho
  have htake : (k <$> Cursor.take n e) ⟨bytes, o⟩ =
      .ok (k ((bytes.drop o).take n)) ⟨bytes, o + n⟩ :=
    map_ok_iff.mpr ⟨_, take_of_left (by omega) e, rfl⟩
  rw [bind_of_ok (congrArg Run.outcome (slice_of_left (by omega))), htake]
  show SameResult bytes _ (.ok _ (wrap unbounded (o + n))) _
  rw [wrap_unbounded]
  exact ⟨rfl, by omega⟩

/-- A text, which is looked at before the offset moves. -/
theorem Mirrors.takeText (e : ε) (hn : n ≤ c) :
    Mirrors (slice n >>= fun raw => text raw e >>= fun s => advance n >>= fun _ => Pure.pure s)
      (Cursor.take n e >>= fun raw => orFail (BigEndian.ofUtf8? raw) e) c (c - n) := by
  intro bytes o ho
  have htake : (Cursor.take n e >>= fun raw => orFail (BigEndian.ofUtf8? raw) e) ⟨bytes, o⟩ =
      orFail (BigEndian.ofUtf8? ((bytes.drop o).take n)) e ⟨bytes, o + n⟩ := by
    show EStateM.bind (Cursor.take n e) _ _ = _
    rw [EStateM.bind, take_of_left (by omega)]
  rw [bind_of_ok (congrArg Run.outcome (slice_of_left (by omega))), htake, text]
  rcases BigEndian.ofUtf8? ((bytes.drop o).take n) with _ | s
  · exact ⟨_, rfl⟩
  · show SameResult bytes _ (.ok s (wrap unbounded (o + n))) _
    rw [wrap_unbounded]
    exact ⟨rfl, by omega⟩

/-- **A loop of records** whose bytes are checked before it. -/
theorem Mirrors.repeated {p : ℕ → Scan ε α} {q : EStateM ε Cursor α} {size : ℕ}
    (hp : ∀ i left, Mirrors (p i) q (left + size) left) (i k : ℕ) :
    Mirrors (Scan.repeated p i k) (Attempts.repeated q k) (k * size + c) c := by
  induction k generalizing i with
  | zero => exact (Mirrors.pure []).mono (by omega) le_rfl
  | succ k ih =>
    have hsplit : (k + 1) * size + c = k * size + c + size := by
      rw [Nat.succ_mul]
      omega
    rw [hsplit]
    exact (hp i _).bind fun _ => (ih (i + 1)).bind fun _ => .pure _

end Rules

namespace Scanned

variable {c n w : ℕ}

/-! ## Reads -/

theorem mirrors_number (h : w ≤ c) : Mirrors (number w) (Cursor.number w truncated) c (c - w) :=
  .take _ _ h

/-- A byte that is indexed. -/
theorem mirrors_u8 (h : 1 ≤ c) : Mirrors u8 (Cursor.u8 truncated) c (c - 1) := by
  intro bytes o ho
  have hlt : o < bytes.length := by omega
  have hbyte : (byteAt 0 unbounded bytes o : Run GeneratedValueError UInt8).outcome =
      .ok bytes[o] o := by
    rw [byteAt, wrap_unbounded, Nat.add_zero, List.getElem?_eq_getElem hlt]
  have htake : Cursor.u8 truncated ⟨bytes, o⟩ = .ok bytes[o] ⟨bytes, o + 1⟩ := by
    refine map_ok_iff.mpr ⟨_, map_ok_iff.mpr ⟨_, take_of_left (by omega) _, rfl⟩, ?_⟩
    have hone : (bytes.drop o).take 1 = [bytes[o]] := by
      rw [List.drop_eq_getElem_cons hlt]
      rfl
    rw [hone]
    show UInt8.ofNat (BigEndian.ofBytes [bytes[o]]) = bytes[o]
    simp [BigEndian.ofBytes]
  rw [u8, bind_of_ok hbyte, htake]
  show SameResult bytes _ (.ok _ (wrap unbounded (o + 1))) _
  rw [wrap_unbounded]
  exact ⟨rfl, by omega⟩

theorem mirrors_u16 (h : 2 ≤ c) : Mirrors u16 (Cursor.u16 truncated) c (c - 2) :=
  (mirrors_number h).map _

theorem mirrors_u32 (h : 4 ≤ c) : Mirrors u32 (Cursor.u32 truncated) c (c - 4) :=
  (mirrors_number h).map _

theorem mirrors_u64 (h : 8 ≤ c) : Mirrors u64 (Cursor.u64 truncated) c (c - 8) :=
  (mirrors_number h).map _

theorem mirrors_i8 (h : 1 ≤ c) : Mirrors i8 (Cursor.i8 truncated) c (c - 1) := (mirrors_u8 h).map _

theorem mirrors_i16 (h : 2 ≤ c) : Mirrors i16 (Cursor.i16 truncated) c (c - 2) :=
  (mirrors_u16 h).map _

theorem mirrors_i32 (h : 4 ≤ c) : Mirrors i32 (Cursor.i32 truncated) c (c - 4) :=
  (mirrors_u32 h).map _

theorem mirrors_i64 (h : 8 ≤ c) : Mirrors i64 (Cursor.i64 truncated) c (c - 8) :=
  (mirrors_u64 h).map _

theorem mirrors_flag (h : 1 ≤ c) : Mirrors flag (readFlag truncated) c (c - 1) :=
  (mirrors_u8 h).map _

/-- Checking before bytes are taken changes nothing: the cursor checks again. -/
theorem need_take {ε : Type} (n : ℕ) (e : ε) :
    (Cursor.need n e >>= fun _ => Cursor.take n e) = Cursor.take n e := by
  funext c
  show EStateM.bind (Cursor.need n e) _ c = EStateM.bind (Cursor.need n e) _ c
  by_cases h : c.bytes.length < c.o + n
  · have hneed : Cursor.need n e c = .error e c := by
      show (refuse (c.bytes.length < c.o + n) e : EStateM ε Cursor Unit) c = _
      rw [refuse, if_pos h]
      rfl
    rw [EStateM.bind, EStateM.bind, hneed]
  · have hneed : Cursor.need n e c = .ok () c := Cursor.need_ok_iff.mpr ⟨by omega, rfl⟩
    rw [EStateM.bind, hneed]
    rfl

theorem need_number {α ε : Type} (k : ℕ → α) (e : ε) :
    (Cursor.need w e >>= fun _ => k <$> Cursor.number w e) = k <$> Cursor.number w e := by
  rw [← map_bind, Cursor.number, ← map_bind, need_take]

theorem need_flag :
    (Cursor.need 1 truncated >>= fun _ => readFlag truncated) = readFlag truncated := by
  rw [readFlag, ← map_bind, Cursor.u8, need_number]

theorem mirrors_requireLeft : Mirrors (requireLeft truncated) (Cursor.need 1 truncated) c 1 := by
  intro bytes o ho
  show SameResult bytes 1 (if bytes.length ≤ o then .err truncated else .ok () o)
    ((refuse (bytes.length < o + 1) truncated : EStateM _ Cursor Unit) ⟨bytes, o⟩)
  rw [refuse]
  by_cases h : bytes.length ≤ o
  · rw [if_pos h, if_pos (by omega)]
    exact ⟨⟨bytes, o⟩, rfl⟩
  · rw [if_neg h, if_neg (by omega)]
    exact ⟨rfl, by omega⟩

theorem mirrors_readU16 : Mirrors readU16 (Cursor.u16 truncated) c 0 := by
  rw [Cursor.u16, ← need_number]
  exact (Mirrors.need _).bind fun _ => mirrors_u16 le_rfl

theorem mirrors_readU32 : Mirrors readU32 (Cursor.u32 truncated) c 0 := by
  rw [Cursor.u32, ← need_number]
  exact (Mirrors.need _).bind fun _ => mirrors_u32 le_rfl

theorem mirrors_readU16Str :
    Mirrors readU16Str (Types.readU16Str BigEndian.ofUtf8? truncated) c 0 := by
  refine mirrors_readU16.bind fun len => ?_
  rw [← need_take, bind_assoc]
  refine (Mirrors.need _).bind fun _ => ?_
  exact (Mirrors.takeText _ le_rfl).mono le_rfl (Nat.zero_le _)

/-! ## Messages -/

theorem mirrors_readPrimitiveScalars :
    Mirrors readPrimitiveScalars (Types.readPrimitiveScalars BigEndian.ofUtf8? truncated) c 0 := by
  refine (Mirrors.need _).bind fun _ => ?_
  refine (mirrors_flag (by omega)).bind fun _ => ?_
  refine (mirrors_u8 (by omega)).bind fun _ => ?_
  refine (mirrors_u8 (by omega)).bind fun _ => ?_
  refine (mirrors_u32 (by omega)).bind fun _ => ?_
  refine (mirrors_u64 (by omega)).bind fun _ => ?_
  refine (mirrors_i8 (by omega)).bind fun _ => ?_
  refine (mirrors_u8 (by omega)).bind fun _ => ?_
  refine (mirrors_i16 (by omega)).bind fun _ => ?_
  refine (mirrors_u16 (by omega)).bind fun _ => ?_
  refine (mirrors_i32 (by omega)).bind fun _ => ?_
  refine (mirrors_u32 (by omega)).bind fun _ => ?_
  refine (mirrors_i64 (by omega)).bind fun _ => ?_
  refine (mirrors_u64 (by omega)).bind fun _ => ?_
  refine mirrors_readU16Str.bind fun _ => ?_
  refine mirrors_readU16Str.bind fun _ => ?_
  exact .pure _

/-- What the cursor does for counted numbers of eight bytes. -/
def cursorF64s : EStateM GeneratedValueError Cursor (List UInt64) := do
  let f64Len ← Cursor.u32 truncated
  Cursor.need (f64Len.toNat * 8) truncated
  Attempts.repeated (Cursor.u64 truncated) f64Len.toNat

/-- What the cursor does for counted bytes. -/
def cursorBytes : EStateM GeneratedValueError Cursor (List UInt8) := do
  let bytesLen ← Cursor.u32 truncated
  Cursor.take bytesLen.toNat truncated

theorem mirrors_readF64s : Mirrors readF64s cursorF64s c 0 := by
  refine mirrors_readU32.bind fun f64Len => ?_
  refine (Mirrors.needRecords _ _ _).bind fun _ => ?_
  refine Mirrors.reserve _ _ ?_
  show Mirrors _ _ (f64Len.toNat * 8 + 0) 0
  refine Mirrors.repeated (fun _ left => ?_) 0 f64Len.toNat
  exact (mirrors_u64 (by omega)).mono le_rfl (by omega)

theorem mirrors_readByteSequence : Mirrors readByteSequence cursorBytes c 0 := by
  refine mirrors_readU32.bind fun bytesLen => ?_
  rw [← need_take]
  refine (Mirrors.need _).bind fun _ => ?_
  rw [← id_map (Cursor.take bytesLen.toNat truncated)]
  exact (Mirrors.take id _ le_rfl).mono le_rfl (Nat.zero_le _)

/-- The cursor's reader of collections, with its two counted parts apart. -/
theorem readCollections_eq :
    Types.readCollections BigEndian.ofUtf8? truncated = (do
      Cursor.need 12 truncated
      let x ← Cursor.i32 truncated
      let y ← Cursor.i32 truncated
      let z ← Cursor.i32 truncated
      let boundedF64 ← cursorF64s
      let bytesValue ← cursorBytes
      let boundedString ← Types.readU16Str BigEndian.ofUtf8? truncated
      let boundedWstring ← Types.readU16Str BigEndian.ofUtf8? truncated
      pure { fixedI32 := (x, y, z), boundedF64, bytesValue, boundedString, boundedWstring }) := by
  simp only [Types.readCollections, cursorF64s, cursorBytes, bind_assoc]

theorem mirrors_readCollections :
    Mirrors readCollections (Types.readCollections BigEndian.ofUtf8? truncated) c 0 := by
  rw [readCollections_eq]
  refine (Mirrors.need _).bind fun _ => ?_
  refine (mirrors_i32 (by omega)).bind fun _ => ?_
  refine (mirrors_i32 (by omega)).bind fun _ => ?_
  refine (mirrors_i32 (by omega)).bind fun _ => ?_
  refine mirrors_readF64s.bind fun _ => ?_
  refine mirrors_readByteSequence.bind fun _ => ?_
  refine mirrors_readU16Str.bind fun _ => ?_
  refine mirrors_readU16Str.bind fun _ => ?_
  exact .pure _

theorem mirrors_readNestedSample :
    Mirrors readNestedSample (Types.readNestedSample BigEndian.ofUtf8? truncated) c 0 := by
  refine (Mirrors.need _).bind fun _ => ?_
  refine (mirrors_i32 (by omega)).bind fun _ => ?_
  refine (mirrors_u32 (by omega)).bind fun _ => ?_
  refine mirrors_readPrimitiveScalars.bind fun _ => ?_
  refine mirrors_readCollections.bind fun _ => ?_
  exact .pure _

theorem mirrors_readEchoNestedResponse :
    Mirrors readEchoNestedResponse
      (Types.readEchoNestedResponse BigEndian.ofUtf8? truncated) c 0 := by
  refine mirrors_readNestedSample.bind fun _ => ?_
  rw [← need_flag, bind_assoc]
  refine mirrors_requireLeft.bind fun _ => ?_
  refine (mirrors_flag le_rfl).bind fun _ => ?_
  exact .pure _

theorem mirrors_readMeasureSequenceFeedback :
    Mirrors readMeasureSequenceFeedback
      (Types.readMeasureSequenceFeedback BigEndian.ofUtf8? truncated) c 0 := by
  rw [Types.readMeasureSequenceFeedback, Cursor.u32, ← need_number, bind_assoc]
  refine (Mirrors.need _).bind fun _ => ?_
  refine (mirrors_u32 le_rfl).bind fun _ => ?_
  refine mirrors_readNestedSample.bind fun _ => ?_
  exact .pure _

/-- **Every reader of a type is the cursor's.** -/
theorem mirrors_readHostValue (typeName : String) :
    Mirrors (readHostValue typeName)
      (Types.readHostValue BigEndian.ofUtf8? truncated .unknownType typeName) c 0 := by
  unfold readHostValue Types.readHostValue
  refine .ite (mirrors_readPrimitiveScalars.map _) ?_
  refine .ite (mirrors_readCollections.map _) ?_
  refine .ite (mirrors_readNestedSample.map _) ?_
  refine .ite (mirrors_readNestedSample.map _) ?_
  refine .ite (mirrors_readEchoNestedResponse.map _) ?_
  refine .ite (mirrors_readCollections.map _) ?_
  refine .ite (mirrors_readNestedSample.map _) ?_
  exact .ite (mirrors_readMeasureSequenceFeedback.map _) (.fail _)

/-- **On the unbounded machine the decoder is the cursor's.** -/
theorem decodeHostValue_unbounded (typeName : String) (bytes : List UInt8) :
    (decodeHostValue typeName unbounded bytes 0).outcome.result =
      some (Types.decodeHostValue typeName bytes) := by
  have hsame := mirrors_readHostValue (c := 0) typeName bytes 0 (Nat.zero_le _)
  unfold Types.decodeHostValue decodePacked decodeHostValue
  rcases hout : (readHostValue typeName unbounded bytes 0).outcome with ⟨msg, o⟩ | e | x
  · rw [hout] at hsame
    rw [bind_of_ok hout, hsame.1]
    show Outcome.result
      ((requireEnd truncated >>= fun _ => pure msg) unbounded bytes o).outcome =
      some (if o ≠ bytes.length then _ else _)
    by_cases h : o ≠ bytes.length
    · have hend : (requireEnd truncated unbounded bytes o).outcome = .err truncated := if_pos h
      rw [if_pos h, bind_of_err hend]
      rfl
    · have hend : (requireEnd truncated unbounded bytes o).outcome = .ok () o := if_neg h
      rw [if_neg h, bind_of_ok hend]
      rfl
  · rw [hout] at hsame
    obtain ⟨s, hx⟩ := hsame
    rw [bind_of_err hout, hx]
    rfl
  · rw [hout] at hsame
    exact hsame.elim

end Scanned
end Types
end Rclweb
