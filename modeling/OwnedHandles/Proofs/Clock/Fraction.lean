import Mathlib.Algebra.Order.Field.Rat
import OwnedHandles.Proofs.Arith.Proportion
import OwnedHandles.Proofs.Clock.Promotion

/-!
# Digits of the same fraction

- `Magnitude.fractionText_eq_of_proportion`: rests that are the same fraction of their units have
  the same digits. The float of a quotient does not tell the rests from each other.
- `Magnitude.carry_eq`: digits carry alike into every whole part.
- `Magnitude.split_depends_on_fraction`: so digits and carry are a matter of the exact fraction.
-/

namespace OwnedHandles

open Arith

namespace Magnitude

variable {n m : ℕ} {u v : TimeUnit}

theorem nanosPerUnit_lt (u : TimeUnit) : u.nanosPerUnit < twoPow 53 := by
  cases u <;> decide

/-- **Rests that are the same fraction of their units have the same digits.** -/
theorem fractionText_eq_of_proportion
    (h : n % u.nanosPerUnit * v.nanosPerUnit = m % v.nanosPerUnit * u.nanosPerUnit)
    (places : ℕ) : fractionText n u places = fractionText m v places := by
  have hu := u.nanosPerUnit_pos
  have hv := v.nanosPerUnit_pos
  have hn := Nat.lt_trans (Nat.mod_lt n hu) (nanosPerUnit_lt u)
  have hm := Nat.lt_trans (Nat.mod_lt m hv) (nanosPerUnit_lt v)
  have hquotient := Binary64.div_ofNat_eq_of_proportion hn (nanosPerUnit_lt u) hm
    (nanosPerUnit_lt v) hu hv h
  rw [fractionText, fractionText, hquotient]

/-- Digits carry one or nothing, whatever the whole part is. -/
theorem carry_eq (text : List Char) :
    ∃ up fraction, up ≤ 1 ∧ ∀ whole, carry whole text = ⟨whole + up, fraction⟩ := by
  unfold carry
  split
  · exact ⟨1, _, Nat.le_refl 1, fun whole => rfl⟩
  · exact ⟨0, _, Nat.zero_le 1, fun whole => rfl⟩

/-- The whole units in front have no part in the rest. -/
theorem split_add_mul (n k : ℕ) (u : TimeUnit) (places : ℕ) :
    split (n + k * u.nanosPerUnit) u places =
      ⟨(split n u places).whole + k, (split n u places).fraction⟩ := by
  have hdigits : fractionText (n + k * u.nanosPerUnit) u places = fractionText n u places :=
    fractionText_eq_of_proportion (by rw [Nat.add_mul_mod_self_right]) places
  obtain ⟨up, fraction, -, hcarry⟩ := carry_eq (fractionText n u places)
  rw [split, split, hdigits, Nat.add_mul_div_right n k u.nanosPerUnit_pos, hcarry, hcarry,
    Nat.add_right_comm]

/-- A thousandfold length in the next larger unit is the same number. -/
theorem split_larger {larger : TimeUnit} (h : u.larger = some larger) (n places : ℕ) :
    split (1000 * n) larger places = split n u places := by
  have hunit : larger.nanosPerUnit = 1000 * u.nanosPerUnit := TimeUnit.nanosPerUnit_larger h
  have hdigits : fractionText (1000 * n) larger places = fractionText n u places := by
    refine fractionText_eq_of_proportion ?_ places
    rw [hunit, Nat.mul_mod_mul_left]
    ring
  rw [split, split, hdigits, hunit, Nat.mul_div_mul_left _ _ (by decide)]

/-- **The digits depend on the exact fraction, and on nothing else.** If two lengths leave the same
fraction of their units as a rational number, whatever the units are, then they have the same digits
and the same carry, also where the digits are half way between two.

- So whole units may be added without any change to the digits, however many there are.
- A thousandfold length in the next larger unit shows the same number. -/
theorem split_depends_on_fraction (n m : ℕ) (u v : TimeUnit) (places : ℕ)
    (h : ((n % u.nanosPerUnit : ℕ) : ℚ) / u.nanosPerUnit =
      ((m % v.nanosPerUnit : ℕ) : ℚ) / v.nanosPerUnit) :
    (split n u places).fraction = (split m v places).fraction ∧
    (∃ up, up ≤ 1 ∧ (split n u places).whole = n / u.nanosPerUnit + up ∧
      (split m v places).whole = m / v.nanosPerUnit + up) ∧
    (∀ k, split (n + k * u.nanosPerUnit) u places =
      ⟨(split n u places).whole + k, (split n u places).fraction⟩) ∧
    ∀ larger, u.larger = some larger → split (1000 * n) larger places = split n u places ∧
      ∀ (d d' : Duration) (style : RenderStyle), d'.nanos = 1000 * d.nanos → ∃ number,
        d.renderChars (style.withUnit (.fixed u)) = number ++ u.suffix.toList ∧
        d'.renderChars (style.withUnit (.fixed larger)) = number ++ larger.suffix.toList := by
  have hu : (u.nanosPerUnit : ℚ) ≠ 0 := Nat.cast_ne_zero.mpr (Nat.ne_of_gt u.nanosPerUnit_pos)
  have hv : (v.nanosPerUnit : ℚ) ≠ 0 := Nat.cast_ne_zero.mpr (Nat.ne_of_gt v.nanosPerUnit_pos)
  rw [div_eq_div_iff hu hv] at h
  have hdigits := fractionText_eq_of_proportion (n := n) (by exact_mod_cast h) places
  obtain ⟨up, fraction, hup, hcarry⟩ := carry_eq (fractionText m v places)
  refine ⟨?_, ⟨up, hup, ?_, ?_⟩, fun k => split_add_mul n k u places, fun larger hlarger => ?_⟩
  · rw [split, split, hdigits, hcarry, hcarry]
  · rw [split, hdigits, hcarry]
  · rw [split, hcarry]
  · refine ⟨split_larger hlarger n places, fun d d' style hd => ?_⟩
    refine ⟨(split d.nanos u style.places).text, rfl, ?_⟩
    show (split d'.nanos larger style.places).text ++ larger.suffix.toList = _
    rw [hd, split_larger hlarger]

/-- Half a hundredth of a second and half a hundredth of a microsecond, whole units in front of the
one: the digits go the same way. -/
theorem split_depends_on_fraction_half_way :
    ((7005000000 % TimeUnit.seconds.nanosPerUnit : ℕ) : ℚ) / TimeUnit.seconds.nanosPerUnit =
        ((5 % TimeUnit.micros.nanosPerUnit : ℕ) : ℚ) / TimeUnit.micros.nanosPerUnit ∧
      (split 7005000000 .seconds 2).fraction = (split 5 .micros 2).fraction := by
  have hfraction : ((7005000000 % TimeUnit.seconds.nanosPerUnit : ℕ) : ℚ) /
      TimeUnit.seconds.nanosPerUnit =
        ((5 % TimeUnit.micros.nanosPerUnit : ℕ) : ℚ) / TimeUnit.micros.nanosPerUnit := by
    norm_num [TimeUnit.nanosPerUnit, nanosPerSecond]
  exact ⟨hfraction, (split_depends_on_fraction _ _ _ _ 2 hfraction).1⟩

example : split 7005000000 .seconds 2 = ⟨7, ".01".toList⟩ ∧
    split 5 .micros 2 = ⟨0, ".01".toList⟩ ∧
    split 15 .micros 2 = ⟨0, ".01".toList⟩ := by
  decide +kernel

end Magnitude

end OwnedHandles
