import OwnedHandles.Arith.Power

/-!
# Bounded integers

The integer types of a C interface: 8 to 128 bits, signed or not.

- `IntType.min`, `IntType.max`: the bounds of a type.
- `IntType.Value`: the integers of a type.
- `IntType.saturate`: the nearest integer of the type, the bound where the number lies beyond it.
-/

namespace OwnedHandles

/-- The sizes an integer type can have. -/
inductive IntWidth where
  | bits8
  | bits16
  | bits32
  | bits64
  | bits128
  deriving DecidableEq, Repr

/-- The number of bits of a size. -/
def IntWidth.bits : IntWidth → Nat
  | .bits8 => 8
  | .bits16 => 16
  | .bits32 => 32
  | .bits64 => 64
  | .bits128 => 128

/-- An integer type: its sign and its size. -/
structure IntType where
  signed : Bool
  width : IntWidth
  deriving DecidableEq, Repr

namespace IntType

/-- The 64-bit signed type, the one of the counters that cross the boundary. -/
def int64 : IntType := ⟨true, .bits64⟩

/-- The least integer of a type. -/
def min (t : IntType) : Int :=
  if t.signed then -Arith.twoPow (t.width.bits - 1) else 0

/-- The greatest integer of a type. -/
def max (t : IntType) : Int :=
  if t.signed then Arith.twoPow (t.width.bits - 1) - 1 else Arith.twoPow t.width.bits - 1

/-- Zero lies in every type. -/
theorem min_le_zero (t : IntType) : t.min ≤ 0 := by
  obtain ⟨signed, width⟩ := t
  cases signed <;> cases width <;> decide

theorem zero_le_max (t : IntType) : 0 ≤ t.max := by
  obtain ⟨signed, width⟩ := t
  cases signed <;> cases width <;> decide

theorem min_le_max (t : IntType) : t.min ≤ t.max :=
  Int.le_trans t.min_le_zero t.zero_le_max

/-- The integers of a type. -/
@[ext] structure Value (t : IntType) where
  val : Int
  min_le : t.min ≤ val
  le_max : val ≤ t.max
  deriving DecidableEq, Repr

/-- The integer of the type, if the number lies within its bounds. -/
def value? (t : IntType) (n : Int) : Option t.Value :=
  if h : t.min ≤ n ∧ n ≤ t.max then some ⟨n, h.1, h.2⟩ else none

/-- The integer of the type nearest to a number: the number itself, or the bound it lies beyond. -/
def saturate (t : IntType) (n : Int) : t.Value :=
  if hlow : n < t.min then ⟨t.min, Int.le_refl _, t.min_le_max⟩
  else if hhigh : t.max < n then ⟨t.max, t.min_le_max, Int.le_refl _⟩
  else ⟨n, Int.not_lt.mp hlow, Int.not_lt.mp hhigh⟩

/-- Saturation clamps to the bounds. -/
theorem saturate_val (t : IntType) (n : Int) :
    (t.saturate n).val = Max.max t.min (Min.min n t.max) := by
  have := t.min_le_max
  unfold saturate
  grind

/-- An integer of the type saturates to itself. -/
@[simp] theorem saturate_self (t : IntType) (v : t.Value) : t.saturate v.val = v := by
  have := v.min_le
  have := v.le_max
  ext
  rw [saturate_val]
  omega

/-- Zero, as an integer of the type. -/
def zero (t : IntType) : t.Value :=
  ⟨0, t.min_le_zero, t.zero_le_max⟩

end IntType

end OwnedHandles
