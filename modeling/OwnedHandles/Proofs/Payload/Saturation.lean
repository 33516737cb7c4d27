import Mathlib.Algebra.Order.BigOperators.Group.List
import Mathlib.Algebra.Order.Ring.Int
import Mathlib.Data.List.Induction
import OwnedHandles.Payload.Counter

/-!
# Batches of saturating deltas

A count that has met a bound forgets how far the sum lies beyond it, so that a batch of deltas is
more than its total. Still, a batch is told by three numbers: its total, and the counts that it
leads to from the least and from the greatest integer of the type.

- `Counter.countAfter`: the count that a batch leads to. `Counter.total`: the sum of its deltas in
  unbounded integers.
- `clampedShift`: a number moved by an offset and held between two bounds.
- `IntType.saturate_clampedShift`: one more delta makes another clamped shift of it, whose bounds
  have moved by this delta.
- `Counter.countAfter_closed_form`: so every batch is a clamped shift by its total.
-/

namespace OwnedHandles

/-- A number moved by an offset and then held between two bounds, the upper one last. -/
def clampedShift (low high offset n : ℤ) : ℤ :=
  min high (max low (n + offset))

namespace IntType

variable {t : IntType}

/-- The least integer of a type. -/
def lowest (t : IntType) : t.Value :=
  ⟨t.min, le_rfl, t.min_le_max⟩

/-- The greatest integer of a type. -/
def highest (t : IntType) : t.Value :=
  ⟨t.max, t.min_le_max, le_rfl⟩

/-- A number within the bounds is its own saturation. -/
theorem saturate_val_of_le {n : ℤ} (hmin : t.min ≤ n) (hmax : n ≤ t.max) :
    (t.saturate n).val = n := by
  rw [saturate_val]
  omega

/-- Saturation keeps the order. -/
theorem saturate_le_saturate {m n : ℤ} (h : m ≤ n) : (t.saturate m).val ≤ (t.saturate n).val := by
  rw [saturate_val, saturate_val]
  exact max_le_max le_rfl (min_le_min_right _ h)

/-- **A delta moves the bounds of a clamped shift**, as it moves every count. -/
theorem saturate_clampedShift (low high offset n delta : ℤ) :
    (t.saturate (clampedShift low high offset n + delta)).val =
      clampedShift (t.saturate (low + delta)).val (t.saturate (high + delta)).val
        (offset + delta) n := by
  have hmono : Monotone fun m => (t.saturate (m + delta)).val :=
    fun _ _ h => saturate_le_saturate (Int.add_le_add_right h delta)
  have hlow := (t.saturate (low + delta)).min_le
  have hhigh := (t.saturate (high + delta)).le_max
  -- the moved bounds lie within the type, so that between them the middle need not saturate
  calc (t.saturate (clampedShift low high offset n + delta)).val
      = Min.min (t.saturate (high + delta)).val
          (Max.max (t.saturate (low + delta)).val (t.saturate (n + offset + delta)).val) := by
        rw [clampedShift, hmono.map_min, hmono.map_max]
    _ = clampedShift (t.saturate (low + delta)).val (t.saturate (high + delta)).val
          (offset + delta) n := by
        rw [t.saturate_val (n + offset + delta), clampedShift, Int.add_assoc]
        omega

end IntType

namespace Counter

variable {t : IntType}

/-- The count that deltas lead to, one after the other. -/
def countAfter (start : t.Value) (deltas : List t.Value) : ℤ :=
  ((Counter.mk start).addAll deltas).count.val

/-- The sum of deltas, without bounds. -/
def total (deltas : List t.Value) : ℤ :=
  (deltas.map IntType.Value.val).sum

@[simp] theorem countAfter_nil (start : t.Value) : countAfter start [] = start.val := rfl

/-- The last delta is added to the count that the others lead to. -/
theorem countAfter_concat (start : t.Value) (deltas : List t.Value) (delta : t.Value) :
    countAfter start (deltas ++ [delta]) =
      (t.saturate (countAfter start deltas + delta.val)).val := by
  rw [countAfter, addAll, List.foldl_concat]
  rfl

@[simp] theorem total_nil : total ([] : List t.Value) = 0 := rfl

@[simp] theorem total_concat (deltas : List t.Value) (delta : t.Value) :
    total (deltas ++ [delta]) = total deltas + delta.val := by
  simp [total]

/-- The total does not depend on the order. -/
theorem total_perm {order deltas : List t.Value} (h : order.Perm deltas) :
    total order = total deltas :=
  (h.map IntType.Value.val).sum_eq

/-- **A batch is a clamped shift by its total**, between the counts that it leads to from the two
bounds. -/
theorem countAfter_eq_clampedShift (start : t.Value) (deltas : List t.Value) :
    countAfter start deltas =
      clampedShift (countAfter t.lowest deltas) (countAfter t.highest deltas) (total deltas)
        start.val := by
  induction deltas using List.reverseRecOn with
  | nil =>
    have hmin := start.min_le
    have hmax := start.le_max
    show start.val = min t.max (max t.min (start.val + 0))
    omega
  | append_singleton deltas delta ih =>
    rw [countAfter_concat, countAfter_concat, countAfter_concat, total_concat, ih,
      IntType.saturate_clampedShift]

/-- As long as no partial sum leaves the bounds, nothing is lost. -/
theorem countAfter_of_bounded {start : t.Value} {deltas : List t.Value}
    (h : ∀ front, front <+: deltas →
      t.min ≤ start.val + total front ∧ start.val + total front ≤ t.max) :
    countAfter start deltas = start.val + total deltas := by
  induction deltas using List.reverseRecOn with
  | nil => rw [countAfter_nil, total_nil, Int.add_zero]
  | append_singleton deltas delta ih =>
    have hfront := ih fun front hle => h front (hle.trans (List.prefix_append _ _))
    obtain ⟨hmin, hmax⟩ := h (deltas ++ [delta]) (List.prefix_refl _)
    rw [total_concat, ← Int.add_assoc] at hmin hmax ⊢
    rw [countAfter_concat, hfront, IntType.saturate_val_of_le hmin hmax]

theorem total_nonneg {deltas : List t.Value} (h : ∀ d ∈ deltas, 0 ≤ d.val) :
    0 ≤ total deltas :=
  List.sum_nonneg (List.forall_mem_map.mpr h)

theorem total_nonpos {deltas : List t.Value} (h : ∀ d ∈ deltas, d.val ≤ 0) :
    total deltas ≤ 0 :=
  (List.sum_le_card_nsmul _ 0 (List.forall_mem_map.mpr h)).trans_eq (nsmul_zero _)

/-- Deltas of one sign meet one bound at most, and stay there. -/
theorem countAfter_of_same_sign (start : t.Value) {deltas : List t.Value}
    (h : (∀ d ∈ deltas, 0 ≤ d.val) ∨ (∀ d ∈ deltas, d.val ≤ 0)) :
    countAfter start deltas = (t.saturate (start.val + total deltas)).val := by
  have hmin := start.min_le
  have hmax := start.le_max
  induction deltas using List.reverseRecOn with
  | nil => rw [countAfter_nil, total_nil, Int.add_zero, IntType.saturate_self]
  | append_singleton deltas delta ih =>
    simp only [List.forall_mem_append, List.forall_mem_singleton] at h
    have hfront := ih (h.imp And.left And.left)
    -- the total of the front has the sign of the last delta
    have hsign : 0 ≤ total deltas ∧ 0 ≤ delta.val ∨ total deltas ≤ 0 ∧ delta.val ≤ 0 :=
      h.imp (And.imp_left total_nonneg) (And.imp_left total_nonpos)
    rw [countAfter_concat, hfront, total_concat]
    simp only [IntType.saturate_val]
    omega

/-- **What a batch of deltas does to a count**, in every integer type and from every start:

- It adds the total in unbounded integers, and holds the sum between the counts that it leads to
  from the least and from the greatest integer of the type.
- Where no partial sum leaves the bounds of the type, the total is added exactly.
- Deltas of one sign add the total up to the bounds of the type, in whatever order they come. -/
theorem countAfter_closed_form (start : t.Value) (deltas : List t.Value) :
    countAfter start deltas =
      min (countAfter t.highest deltas)
        (max (countAfter t.lowest deltas) (start.val + total deltas)) ∧
    ((∀ front, front <+: deltas →
        t.min ≤ start.val + total front ∧ start.val + total front ≤ t.max) →
      countAfter start deltas = start.val + total deltas) ∧
    ((∀ d ∈ deltas, 0 ≤ d.val) ∨ (∀ d ∈ deltas, d.val ≤ 0) →
      ∀ order, order.Perm deltas →
        countAfter start order = max t.min (min (start.val + total deltas) t.max)) := by
  refine ⟨countAfter_eq_clampedShift start deltas, countAfter_of_bounded, ?_⟩
  intro hsign order horder
  have hsign' : (∀ d ∈ order, 0 ≤ d.val) ∨ (∀ d ∈ order, d.val ≤ 0) := by
    simpa only [horder.mem_iff] using hsign
  rw [countAfter_of_same_sign start hsign', total_perm horder, IntType.saturate_val]

/-- Seven bits and a sign: what is cut off at the upper bound is missing afterwards. -/
example :
    let i8 : IntType := ⟨true, .bits8⟩
    let hundred : i8.Value := i8.saturate 100
    let less : i8.Value := i8.saturate (-100)
    countAfter hundred [hundred, less] = 27 ∧ countAfter hundred [less, hundred] = 100 ∧
      countAfter i8.lowest [hundred, less] = -128 ∧ countAfter i8.highest [hundred, less] = 27 := by
  decide

end Counter

end OwnedHandles
