import OwnedHandles.Proofs.Arith.Quotient

/-!
# Quotients in proportion

Rounding sees a quotient, and not the numbers that it is made of.

- `roundDiv_eq_of_proportion`: two quotients of the same value are rounded to the same number, also
  where they are half way between two.
- `Binary64.div_ofNat_eq_of_proportion`: the same for quotients of floats, as long as the numbers
  are converted exactly.
-/

namespace OwnedHandles

namespace Arith

variable {num den num' den' : ℕ}

/-- A common factor has no part in the rounding. -/
theorem roundDiv_mul_left {k : ℕ} (hk : 0 < k) (num den : ℕ) :
    roundDiv (k * num) (k * den) = roundDiv num den := by
  have hdouble : ∀ a, 2 * (k * a) = k * (2 * a) := fun a => Nat.mul_left_comm 2 k a
  unfold roundDiv
  simp only [Nat.mul_div_mul_left _ _ hk, Nat.mul_mod_mul_left, hdouble, Nat.mul_lt_mul_left hk]

/-- **Quotients of the same value are rounded alike.** -/
theorem roundDiv_eq_of_proportion (hden : 0 < den) (hden' : 0 < den')
    (h : num * den' = num' * den) : roundDiv num den = roundDiv num' den' := by
  calc roundDiv num den = roundDiv (den' * num) (den' * den) := (roundDiv_mul_left hden' _ _).symm
    _ = roundDiv (den * num') (den * den') := by
      rw [Nat.mul_comm den' num, h, Nat.mul_comm num' den, Nat.mul_comm den' den]
    _ = roundDiv num' den' := roundDiv_mul_left hden _ _

theorem div_eq_of_proportion (hden : 0 < den) (hden' : 0 < den')
    (h : num * den' = num' * den) : num / den = num' / den' := by
  calc num / den = num * den' / (den * den') := (Nat.mul_div_mul_right _ _ hden').symm
    _ = num' * den / (den' * den) := by rw [h, Nat.mul_comm den den']
    _ = num' / den' := Nat.mul_div_mul_right _ _ hden

end Arith

namespace Binary64

open Arith

variable {num den num' den' : ℕ}

/-- Floats are equal if their magnitudes are. -/
theorem eq_of_units {x y : Binary64} (h : x.units = y.units) : x = y := by
  obtain ⟨units, hgrid⟩ := x
  obtain ⟨units', hgrid'⟩ := y
  obtain rfl : units = units' := h
  rfl

/-- **The nearest float to a quotient is a matter of its value.** -/
theorem nearestUnits_eq_of_proportion (hden : 0 < den) (hden' : 0 < den')
    (h : num * den' = num' * den) : nearestUnits num den = nearestUnits num' den' := by
  refine eq_of_units ?_
  -- the floor tells the grid, and the grid stretches both divisors alike
  rw [units_nearestUnits _ hden, units_nearestUnits _ hden', div_eq_of_proportion hden hden' h]
  generalize spacing (num' / den') = gap
  have hpos := twoPow_pos gap
  have hround : roundDiv num (den * twoPow gap) = roundDiv num' (den' * twoPow gap) := by
    refine roundDiv_eq_of_proportion (Nat.mul_pos hden hpos) (Nat.mul_pos hden' hpos) ?_
    rw [← Nat.mul_assoc, ← Nat.mul_assoc, h]
  rw [hround]

/-- **Quotients of the same value are the same float.** -/
theorem div_ofNat_eq_of_proportion (ha : num < twoPow 53) (hb : den < twoPow 53)
    (ha' : num' < twoPow 53) (hb' : den' < twoPow 53) (hden : 0 < den) (hden' : 0 < den')
    (h : num * den' = num' * den) : ofNat num / ofNat den = ofNat num' / ofNat den' := by
  have hone := unitsPerOne_pos
  rw [div_ofNat ha hb, div_ofNat ha' hb']
  refine nearestUnits_eq_of_proportion (Nat.mul_pos hden hone) (Nat.mul_pos hden' hone) ?_
  generalize unitsPerOne = one
  calc num * one * one * (den' * one) = num * den' * (one * one * one) := by ring
    _ = num' * one * one * (den * one) := by rw [h]; ring

end Binary64

end OwnedHandles
