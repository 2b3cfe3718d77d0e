import Rclweb.Audit.Export

/-!
# The rotation stack over a run

The rotations that the probing of names finds, and the live file behind them, hold the parts of
one ledger, and this ledger is the end of what has been written.  A rotation that is cut off while
the older files move up leaves a gap, at which the probing stops; what is below the gap is still an
end of what has been written.

A new live file continues the chain only in memory until it has its first line, and a rotation never
looks beyond `retain`.  So a process must not die between the two, nor start with a smaller `retain`
than the stack has files.
-/

namespace Rclweb
namespace Audit

variable {c : Crates} {disk disk' : Disk}

/-! ## Moving up -/

namespace FsOp

variable {source target name other : FileName}

theorem apply_remove : (remove other).apply disk name = if name = other then none else disk name :=
  Function.update_apply disk other none name

theorem apply_rename : (rename source target).apply disk name =
    if name = source then none else if name = target then disk source else disk name := by
  rw [apply, Function.update_apply, Function.update_apply]

theorem apply_create : (create other).apply disk name =
    if name = other then some ((disk other).getD []) else disk name :=
  Function.update_apply disk other _ name

end FsOp

/-! ## Writing -/

theorem appendLive_live {disk : Disk} {content : List UInt8} (bytes : List UInt8)
    (h : disk .live = some content) :
    appendLive disk bytes .live = some (content ++ bytes) := by
  rw [appendLive, Function.update_self, h]
  rfl

theorem appendLive_rotation (disk : Disk) (bytes : List UInt8) (n : ℕ) :
    appendLive disk bytes (.rotation n) = disk (.rotation n) := Function.update_of_ne (by simp) _ _

/-! ## Rotations below a gap -/

/-- The rotations up to `n` are those of `disk`, and there is room above. -/
structure Below (disk disk' : Disk) (n : ℕ) : Prop where
  same : ∀ i, 1 ≤ i → i ≤ n → disk' (.rotation i) = disk (.rotation i)
  room : disk' (.rotation (n + 1)) = none

/-- Moving one rotation up makes room for the next. -/
theorem Below.rename {n : ℕ} (h : Below disk disk' (n + 1)) :
    Below disk ((FsOp.rename (.rotation (n + 1)) (.rotation (n + 2))).apply disk') n := by
  constructor
  · intro i hi hin
    have hne : FileName.rotation i ≠ .rotation (n + 1) := by
      intro heq
      have := FileName.rotation.inj heq
      omega
    have hne' : FileName.rotation i ≠ .rotation (n + 2) := by
      intro heq
      have := FileName.rotation.inj heq
      omega
    rw [FsOp.apply_rename, if_neg hne, if_neg hne', h.same i hi (by omega)]
  · rw [FsOp.apply_rename, if_pos rfl]

theorem Below.skip {n : ℕ} (h : Below disk disk' (n + 1))
    (hmissing : ¬(disk (.rotation (n + 1))).isSome = true) : Below disk disk' n := by
  refine ⟨fun i hi hin => h.same i hi (by omega), ?_⟩
  rw [h.same (n + 1) (by omega) le_rfl]
  exact Option.not_isSome_iff_eq_none.mp hmissing

/-- **Moving up that is cut off** leaves the rotations below a gap. -/
theorem Below.take_shiftOps {n : ℕ} (h : Below disk disk' n) (k : ℕ) :
    ∃ j ≤ n, Below disk (perform disk' ((shiftOps disk n).take k)) j := by
  induction n generalizing disk' k with
  | zero =>
    refine ⟨0, le_rfl, ?_⟩
    rw [shiftOps, List.take_nil]
    exact h
  | succ n ih =>
    rw [shiftOps]
    by_cases hthere : (disk (.rotation (n + 1))).isSome = true
    · rw [if_pos hthere]
      cases k with
      | zero => exact ⟨n + 1, le_rfl, h⟩
      | succ k =>
        obtain ⟨j, hj, hbelow⟩ := ih h.rename k
        exact ⟨j, by omega, hbelow⟩
    · rw [if_neg hthere]
      obtain ⟨j, hj, hbelow⟩ := ih (h.skip hthere) k
      exact ⟨j, by omega, hbelow⟩

/-- **Moving up**: each rotation takes the place of the next. -/
theorem Below.shiftOps {n : ℕ} (h : Below disk disk' n) :
    (∀ i, 1 ≤ i → i ≤ n →
      perform disk' (shiftOps disk n) (.rotation (i + 1)) = disk (.rotation i)) ∧
      ∀ i, n + 1 < i → perform disk' (shiftOps disk n) (.rotation i) = disk' (.rotation i) := by
  induction n generalizing disk' with
  | zero => exact ⟨fun i hi hi0 => by omega, fun _ _ => rfl⟩
  | succ n ih =>
    rw [Audit.shiftOps]
    by_cases hthere : (disk (.rotation (n + 1))).isSome = true
    · rw [if_pos hthere]
      obtain ⟨hlow, hhigh⟩ := ih h.rename
      constructor
      · intro i hi hin
        rcases Nat.lt_or_ge n i with hni | hni
        · obtain rfl : i = n + 1 := by omega
          refine (hhigh (n + 2) (by omega)).trans ?_
          rw [FsOp.apply_rename, if_neg (by simp), if_pos rfl, h.same (n + 1) hi le_rfl]
        · exact hlow i hi hni
      · intro i hi
        refine (hhigh i (by omega)).trans ?_
        rw [FsOp.apply_rename, if_neg (by simp; omega), if_neg (by simp; omega)]
    · rw [if_neg hthere]
      obtain ⟨hlow, hhigh⟩ := ih (h.skip hthere)
      constructor
      · intro i hi hin
        rcases Nat.lt_or_ge n i with hni | hni
        · obtain rfl : i = n + 1 := by omega
          rw [hhigh (n + 2) (by omega), h.room]
          exact (Option.not_isSome_iff_eq_none.mp hthere).symm
        · exact hlow i hi hni
      · intro i hi
        exact hhigh i (by omega)

/-- Removing the oldest rotation makes room. -/
theorem below_removed (disk : Disk) (n : ℕ) :
    Below disk (perform disk
      (if (disk (.rotation (n + 1))).isSome then [.remove (.rotation (n + 1))] else [])) n := by
  by_cases hthere : (disk (.rotation (n + 1))).isSome = true
  · rw [if_pos hthere]
    constructor
    · intro i hi hin
      show (FsOp.remove _).apply disk _ = _
      rw [FsOp.apply_remove, if_neg (by simp; omega)]
    · show (FsOp.remove _).apply disk _ = none
      rw [FsOp.apply_remove, if_pos rfl]
  · rw [if_neg hthere]
    exact ⟨fun _ _ _ => rfl, Option.not_isSome_iff_eq_none.mp hthere⟩

/-- **A rotation that has not yet taken the live file** leaves the rotations below a gap. -/
theorem exists_below_take_shelveOps {m retain k : ℕ} (hretain : 1 ≤ retain)
    (hroom : disk (.rotation (m + 1)) = none) :
    ∃ j ≤ m, Below disk (perform disk ((shelveOps disk retain).take k)) j := by
  obtain ⟨n, rfl⟩ := Nat.exists_eq_succ_of_ne_zero (by omega : retain ≠ 0)
  have hbelow : ∃ j, Below disk (perform disk ((shelveOps disk (n + 1)).take k)) j := by
    cases k with
    | zero => exact ⟨m, fun _ _ _ => rfl, hroom⟩
    | succ k =>
      rw [shelveOps, List.take_append, perform_append, Nat.add_sub_cancel]
      have hall : ∀ ops : List FsOp, ops.length ≤ 1 → ops.take (k + 1) = ops := fun ops hops =>
        List.take_of_length_le (by omega)
      rw [hall _ (by split <;> simp)]
      obtain ⟨j, -, hj⟩ := (below_removed disk n).take_shiftOps _
      exact ⟨j, hj⟩
  obtain ⟨j, hj⟩ := hbelow
  rcases Nat.lt_or_ge m j with hmj | hjm
  · refine ⟨m, le_rfl, fun i hi him => hj.same i hi (by omega), ?_⟩
    rw [hj.same (m + 1) (by omega) hmj, hroom]
  · exact ⟨j, hjm, hj⟩

/-- **A rotation**: the live file is rotation 1, and each rotation takes the place of the next. -/
theorem perform_rotateOps_rotation (disk : Disk) {retain : ℕ} (hretain : 1 ≤ retain) :
    perform disk (rotateOps disk retain) (.rotation 1) = disk .live ∧
      (∀ i, 1 ≤ i → i < retain →
        perform disk (rotateOps disk retain) (.rotation (i + 1)) = disk (.rotation i)) ∧
      ∀ i, retain < i →
        perform disk (rotateOps disk retain) (.rotation i) = disk (.rotation i) := by
  obtain ⟨n, rfl⟩ := Nat.exists_eq_succ_of_ne_zero (by omega : retain ≠ 0)
  obtain ⟨hlow, hhigh⟩ := (below_removed disk n).shiftOps
  have hperform : ∀ i, perform disk (rotateOps disk (n + 1)) (.rotation i) =
      if i = 1 then perform disk (shelveOps disk (n + 1)) .live
      else perform disk (shelveOps disk (n + 1)) (.rotation i) := by
    intro i
    rw [rotateOps, perform_append]
    show (FsOp.create .live).apply ((FsOp.rename .live (.rotation 1)).apply _) (.rotation i) = _
    rw [FsOp.apply_create, if_neg (by simp), FsOp.apply_rename, if_neg (by simp)]
    by_cases hi : i = 1
    · rw [if_pos hi, if_pos (by rw [hi])]
    · rw [if_neg hi, if_neg fun heq => hi (FileName.rotation.inj heq)]
  refine ⟨?_, ?_, ?_⟩
  · rw [hperform, if_pos rfl]
    exact perform_live shelveOps_sparesLive
  · intro i hi hin
    rw [hperform, if_neg (by omega), shelveOps, perform_append]
    exact hlow i hi (by omega)
  · intro i hi
    rw [hperform, if_neg (by omega), shelveOps, perform_append]
    refine (hhigh i (by omega)).trans ?_
    split
    · show (FsOp.remove _).apply disk _ = _
      rw [FsOp.apply_remove, if_neg (by simp; omega)]
    · rfl

end Audit
end Rclweb
