import OwnedHandles.Arith.Binary64
import OwnedHandles.Proofs.Arith.IsNearest

/-!
# Quotients of natural numbers as floats

- `Binary64.units_ofNat`: a number of at most 53 bits is converted exactly.
- `Binary64.units_div_close`: a quotient below one is off by at most one part in 2^54.
- `Binary64.isNearest_scaled_div`: its decimal digits are those of the exact quotient, although they
  are taken from the float, as long as the divisor and the decimal places stay below 2^53 together.
-/

namespace OwnedHandles.Binary64

open Arith

theorem unitsPerOne_pos : 0 < unitsPerOne :=
  twoPow_pos 1074

/-- The number one as a multiple of any spacing that is not wider. -/
theorem unitsPerOne_eq_mul {gap : ℕ} (h : gap ≤ 1074) :
    unitsPerOne = twoPow (1074 - gap) * twoPow gap := by
  rw [← twoPow_add, Nat.sub_add_cancel h, unitsPerOne]

/-- A magnitude of at most `53 + k` bits has neighbours at most `2 ^ k` away. -/
theorem spacing_le {units k : ℕ} (h : units < twoPow (53 + k)) : spacing units ≤ k := by
  rcases Nat.eq_zero_or_pos units with rfl | hpos
  · exact Nat.zero_le k
  · have hlog : units.log2 < 53 + k := (log2_lt_iff (Nat.ne_of_gt hpos)).mpr h
    unfold spacing
    omega

theorem units_nearestUnits (num : ℕ) {den : ℕ} (h : 0 < den) :
    (nearestUnits num den).units =
      roundDiv num (den * twoPow (spacing (num / den))) * twoPow (spacing (num / den)) := by
  unfold nearestUnits
  rw [dif_pos h]

/-- **A number of at most 53 bits is converted exactly.** -/
theorem units_ofNat {n : ℕ} (h : n < twoPow 53) : (ofNat n).units = n * unitsPerOne := by
  have hgap : spacing (n * unitsPerOne / 1) ≤ 1074 := by
    refine spacing_le ?_
    rw [Nat.div_one, twoPow_add, ← unitsPerOne]
    exact Nat.mul_lt_mul_of_pos_right h unitsPerOne_pos
  rw [ofNat, nearest, units_nearestUnits _ Nat.one_pos]
  generalize spacing (n * unitsPerOne / 1) = gap at hgap
  rw [unitsPerOne_eq_mul hgap, ← Nat.mul_assoc, Nat.one_mul, roundDiv_mul_self _ (twoPow_pos gap)]

/-- The quotient of two numbers of at most 53 bits, which are converted exactly. -/
theorem div_ofNat {a b : ℕ} (ha : a < twoPow 53) (hb : b < twoPow 53) :
    ofNat a / ofNat b = nearestUnits (a * unitsPerOne * unitsPerOne) (b * unitsPerOne) := by
  show nearest (ofNat a).units (ofNat b).units = _
  rw [units_ofNat ha, units_ofNat hb]
  rfl

/-- **A quotient below one is off by at most one part in 2^54.** -/
theorem units_div_close {a b : ℕ} (hab : a < b) (hb : b < twoPow 53) :
    2 * |((ofNat a / ofNat b).units * b : ℤ) - a * unitsPerOne| * twoPow 53 ≤ b * unitsPerOne := by
  have hbpos : 0 < b := Nat.zero_lt_of_lt hab
  have hquotient : a * unitsPerOne * unitsPerOne / (b * unitsPerOne) = a * unitsPerOne / b :=
    Nat.mul_div_mul_right _ _ unitsPerOne_pos
  have hgap : spacing (a * unitsPerOne / b) ≤ 1021 := by
    refine spacing_le ?_
    rw [Nat.div_lt_iff_lt_mul hbpos, Nat.mul_comm, ← unitsPerOne]
    exact Nat.mul_lt_mul_of_pos_left hab unitsPerOne_pos
  have hone := unitsPerOne_pos
  rw [div_ofNat (Nat.lt_trans hab hb) hb, units_nearestUnits _ (Nat.mul_pos hbpos hone), hquotient]
  generalize spacing (a * unitsPerOne / b) = gap at hgap
  -- the rounded quotient is a whole number of gaps, half a gap away at most
  have hnearest := isNearest_roundDiv (a * unitsPerOne * unitsPerOne)
    (Nat.mul_pos (Nat.mul_pos hbpos hone) (twoPow_pos gap))
  generalize roundDiv (a * unitsPerOne * unitsPerOne) (b * unitsPerOne * twoPow gap) = q at hnearest
  have hgaps : twoPow gap * twoPow 53 ≤ unitsPerOne := by
    rw [← twoPow_add]
    exact twoPow_le (by omega)
  unfold IsNearest at hnearest
  generalize unitsPerOne = one at hone hnearest hgaps
  generalize twoPow gap = width at hnearest hgaps
  generalize twoPow 53 = bits at hgaps
  zify at hone hgaps
  push_cast at hnearest ⊢
  have hhalf : 2 * |(q * width * b : ℤ) - a * one| ≤ b * width := by
    refine le_of_mul_le_mul_left ?_ hone
    calc (one : ℤ) * (2 * |(q * width * b : ℤ) - a * one|)
        = 2 * |(one : ℤ) * (q * width * b - a * one)| := by
          rw [abs_mul, Nat.abs_cast]
          ring
      _ = 2 * |(q * (b * one * width) : ℤ) - a * one * one| := by ring_nf
      _ ≤ b * one * width := hnearest
      _ = one * (b * width) := by ring
  calc 2 * |(q * width * b : ℤ) - a * one| * bits
      ≤ b * width * bits := mul_le_mul_of_nonneg_right hhalf (by positivity)
    _ = b * (width * bits) := by ring
    _ ≤ b * one := mul_le_mul_of_nonneg_left hgaps (by positivity)

/-- **The digits of a quotient are those of the exact quotient**, although they are taken from the
float. -/
theorem isNearest_scaled_div {a b places : ℕ} (hab : a < b)
    (hlcm : b.lcm (tenPow places) < twoPow 53) :
    IsNearest (a * tenPow places) b ((ofNat a / ofNat b).scaled places) := by
  have hbpos : 0 < b := Nat.zero_lt_of_lt hab
  have hb : b < twoPow 53 := by
    refine Nat.lt_of_le_of_lt (Nat.le_of_dvd ?_ (Nat.dvd_lcm_left b _)) hlcm
    exact Nat.lcm_pos hbpos (tenPow_pos places)
  refine IsNearest.of_approx unitsPerOne_pos hbpos hlcm (units_div_close hab hb) ?_
  exact isNearest_roundDiv _ unitsPerOne_pos

end OwnedHandles.Binary64
