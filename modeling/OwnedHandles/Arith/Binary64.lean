import OwnedHandles.Arith.Nearest
import OwnedHandles.Arith.Power

/-!
# Non-negative binary64 numbers

Every finite number of the format is a whole multiple of 2^-1074, so a non-negative one is a natural
number of such units. A number with more than 53 significant bits has no place on the grid: from
2^53 units on, the distance between neighbours doubles with each power of two.

- `Binary64.spacing`: the distance between neighbours near a magnitude, as a power of two.
- `Binary64.nearest`: the number of the format nearest to a quotient, ties to the even neighbour.
- `Binary64.ofNat`, addition and division: the exact result, then `nearest`.
- `Binary64.toBits`: the pattern of the format.
- `Binary64.scaled`: the exact value times a power of ten, rounded to a whole number.

Magnitudes of 2^1024 and more have no finite pattern. Sums and quotients of clock readings stay far
below, so the type leaves the range open.
-/

namespace OwnedHandles

open Arith

/-- The distance between neighbouring numbers at `units` is two to this power: the position of the
leading bit less the 52 bits that follow it, and never below one unit. -/
def Binary64.spacing (units : Nat) : Nat :=
  units.log2 - 52

/-- A non-negative number of the binary64 format, counted in units of 2^-1074. -/
structure Binary64 where
  /-- The magnitude in units of 2^-1074. -/
  units : Nat
  /-- The magnitude lies on the grid of the format: at most 53 significant bits. -/
  on_grid : twoPow (Binary64.spacing units) ∣ units
  deriving DecidableEq

namespace Binary64

/-- The units in the number one. -/
def unitsPerOne : Nat :=
  twoPow 1074

/-- Up to the next power of two, every multiple of the spacing is on the grid; that power itself is
on the wider grid that begins there. -/
theorem on_grid_of_le (gap q : Nat) (h : q ≤ twoPow 53) :
    twoPow (spacing (q * twoPow gap)) ∣ q * twoPow gap := by
  rcases Nat.lt_or_ge q (twoPow 53) with hlt | hge
  · have hle : spacing (q * twoPow gap) ≤ gap := by
      rcases Nat.eq_zero_or_pos (q * twoPow gap) with hz | hpos
      · rw [hz]
        exact Nat.zero_le gap
      · have hlog : (q * twoPow gap).log2 < 53 + gap := by
          rw [log2_lt_iff (Nat.ne_of_gt hpos), twoPow_add]
          exact Nat.mul_lt_mul_of_pos_right hlt (twoPow_pos gap)
        unfold spacing
        omega
    exact Nat.dvd_trans (twoPow_dvd hle) (Nat.dvd_mul_left _ _)
  · obtain rfl : q = twoPow 53 := Nat.le_antisymm h hge
    rw [← twoPow_add, spacing, log2_twoPow]
    exact twoPow_dvd (by omega)

/-- A quotient in units, in steps of the spacing at its floor, needs at most 53 bits. -/
theorem mantissa_le (num den : Nat) (h : 0 < den) :
    roundDiv num (den * twoPow (spacing (num / den))) ≤ twoPow 53 := by
  refine roundDiv_le_of_le_mul (Nat.mul_pos h (twoPow_pos _)) ?_
  have hfloor : num / den < twoPow ((num / den).log2 + 1) := lt_twoPow_log2 _
  have hbits : twoPow ((num / den).log2 + 1) ≤ twoPow (53 + spacing (num / den)) :=
    twoPow_le (by unfold spacing; omega)
  have hnum : num < (num / den + 1) * den := Nat.lt_mul_of_div_lt (Nat.lt_succ_self _) h
  calc num ≤ (num / den + 1) * den := Nat.le_of_lt hnum
    _ ≤ twoPow (53 + spacing (num / den)) * den := Nat.mul_le_mul_right den (by omega)
    _ = twoPow 53 * (den * twoPow (spacing (num / den))) := by
      rw [twoPow_add, Nat.mul_assoc, Nat.mul_comm (twoPow (spacing _))]

/-- The number of the format nearest to `num / den` units, ties to the even neighbour: a whole
number of steps of the grid at that magnitude. A zero divisor gives zero. -/
def nearestUnits (num den : Nat) : Binary64 :=
  let gap := spacing (num / den)
  if h : 0 < den then
    ⟨roundDiv num (den * twoPow gap) * twoPow gap, on_grid_of_le gap _ (mantissa_le num den h)⟩
  else ⟨0, Nat.dvd_zero _⟩

/-- The number of the format nearest to `num / den`, ties to the even neighbour. -/
def nearest (num den : Nat) : Binary64 :=
  nearestUnits (num * unitsPerOne) den

/-- A natural number, rounded where it has more than 53 significant bits. -/
def ofNat (n : Nat) : Binary64 :=
  nearest n 1

/-- Addition: the exact sum, rounded. -/
instance : Add Binary64 where
  add a b := nearestUnits (a.units + b.units) 1

/-- Division: the exact quotient, rounded. -/
instance : Div Binary64 where
  div a b := nearest a.units b.units

/-- The 64 bits of the format: the biased exponent above the 52 bits below the leading one. The
leading bit of a normal number adds itself to the exponent field. -/
def toBits (x : Binary64) : Nat :=
  let gap := spacing x.units
  gap * twoPow 52 + x.units / twoPow gap

/-- The exact value times ten to the power `places`, rounded to a whole number, ties to even. -/
def scaled (x : Binary64) (places : Nat) : Nat :=
  roundDiv (x.units * tenPow places) unitsPerOne

end Binary64

end OwnedHandles
