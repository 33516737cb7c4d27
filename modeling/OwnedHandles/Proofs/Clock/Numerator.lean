import OwnedHandles.Clock.Rendering
import OwnedHandles.Proofs.Arith.Quotient
import OwnedHandles.Proofs.Text.Numeral

/-!
# A duration in steps of the last place

The digits of a rendered duration, the point left out, are one whole number: how many steps of the
last place the duration has.

- `Magnitude.numerator`: this number. `Magnitude.split_eq`: the text is made of it, so that a
  fraction that is rounded up to a whole unit carries as in any addition.
- `Magnitude.isNearest_numerator`: it is a nearest one to the exact length, for all units and
  places. All that is proved about rendered durations follows from this.
-/

namespace OwnedHandles

open Arith

namespace Magnitude

/-- The number of steps of the last place: those of the whole units, which are exact, and those of
the rest, which come from a float. -/
def numerator (nanos : ℕ) (unit : TimeUnit) (places : ℕ) : ℕ :=
  nanos / unit.nanosPerUnit * tenPow places +
    (Binary64.ofNat (nanos % unit.nanosPerUnit) / Binary64.ofNat unit.nanosPerUnit).scaled places

/-! ## Rounding -/

theorem exactPlaces_le (unit : TimeUnit) : Duration.exactPlaces unit ≤ maxPlaces := by
  cases unit <;> decide

/-- A unit and the decimal places of a style are both shared by a billion, which a float can tell
apart from its neighbours. -/
theorem lcm_nanosPerUnit_lt (unit : TimeUnit) {places : ℕ} (h : places ≤ maxPlaces) :
    unit.nanosPerUnit.lcm (tenPow places) < twoPow 53 := by
  have hunit : unit.nanosPerUnit ∣ tenPow maxPlaces := by
    rw [← Duration.tenPow_exactPlaces]
    exact tenPow_dvd (exactPlaces_le unit)
  have hdvd := Nat.lcm_dvd hunit (tenPow_dvd h)
  calc unit.nanosPerUnit.lcm (tenPow places)
      ≤ tenPow maxPlaces := Nat.le_of_dvd (tenPow_pos _) hdvd
    _ < twoPow 53 := by decide

variable (nanos : ℕ) (unit : TimeUnit) {places : ℕ}

/-- The steps of the rest are a nearest number to the exact ones. -/
theorem isNearest_rest (h : places ≤ maxPlaces) :
    IsNearest (nanos % unit.nanosPerUnit * tenPow places) unit.nanosPerUnit
      ((Binary64.ofNat (nanos % unit.nanosPerUnit) /
        Binary64.ofNat unit.nanosPerUnit).scaled places) :=
  Binary64.isNearest_scaled_div (Nat.mod_lt _ unit.nanosPerUnit_pos) (lcm_nanosPerUnit_lt unit h)

/-- The steps of the rest are at most those of one unit. -/
theorem rest_le (h : places ≤ maxPlaces) :
    (Binary64.ofNat (nanos % unit.nanosPerUnit) /
      Binary64.ofNat unit.nanosPerUnit).scaled places ≤ tenPow places := by
  refine (isNearest_rest nanos unit h).le_of_lt_mid ?_
  have hrest := Nat.mul_lt_mul_of_pos_right (Nat.mod_lt nanos unit.nanosPerUnit_pos)
    (tenPow_pos places)
  have hpos := unit.nanosPerUnit_pos
  linarith

/-- **The digits are a nearest number to the exact length**: two roundings, first to a float and
then to decimal places, come to the same as one. -/
theorem isNearest_numerator (h : places ≤ maxPlaces) :
    IsNearest (nanos * tenPow places) unit.nanosPerUnit (numerator nanos unit places) := by
  have hrest := (isNearest_rest nanos unit h).add_mul (nanos / unit.nanosPerUnit * tenPow places)
  have hlength : nanos / unit.nanosPerUnit * tenPow places * unit.nanosPerUnit +
      nanos % unit.nanosPerUnit * tenPow places = nanos * tenPow places := by
    calc nanos / unit.nanosPerUnit * tenPow places * unit.nanosPerUnit +
          nanos % unit.nanosPerUnit * tenPow places
        = (nanos / unit.nanosPerUnit * unit.nanosPerUnit + nanos % unit.nanosPerUnit) *
            tenPow places := by ring
      _ = nanos * tenPow places := by rw [Nat.div_add_mod']
  rwa [hlength] at hrest

/-! ## Carrying -/

/-- A rest of less than one unit, or of exactly one, is added to the whole units digit by digit. -/
theorem carry_fixed (whole : ℕ) {rest : ℕ} (h : rest ≤ tenPow places) :
    carry whole (Decimal.fixed places rest) =
      ⟨(whole * tenPow places + rest) / tenPow places,
        Decimal.fraction places ((whole * tenPow places + rest) % tenPow places)⟩ := by
  have hpos := tenPow_pos places
  rcases Nat.lt_or_eq_of_le h with hlt | rfl
  · rw [Decimal.fixed, Nat.div_eq_of_lt hlt, Nat.mod_eq_of_lt hlt, Nat.mul_comm whole,
      Nat.mul_add_div hpos, Nat.div_eq_of_lt hlt, Nat.mul_add_mod, Nat.mod_eq_of_lt hlt]
    rfl
  · rw [Decimal.fixed, Nat.div_self hpos, Nat.mod_self, ← Nat.succ_mul, Nat.mul_div_cancel _ hpos,
      Nat.mul_mod_left]
    rfl

/-- **The text is made of the digits of one number.** -/
theorem split_eq (h : places ≤ maxPlaces) :
    split nanos unit places =
      ⟨numerator nanos unit places / tenPow places,
        Decimal.fraction places (numerator nanos unit places % tenPow places)⟩ := by
  rw [split, fractionText, Binary64.toFixed]
  exact carry_fixed _ (rest_le nanos unit h)

end Magnitude

end OwnedHandles
