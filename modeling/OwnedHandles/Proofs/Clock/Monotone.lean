import OwnedHandles.Proofs.Clock.Promotion

/-!
# Longer durations show no smaller quantities

- `Magnitude.numerator_mono`: in one unit, rounding keeps the order.
- `UnitChoice.nanosPerUnit_settle_mono`: in the open choice, a longer duration settles on no smaller
  unit. Where the shorter one has been moved on to a larger unit, the longer one has been, too.
- `Duration.render_monotone`: what is shown for a longer duration is no smaller, in every style.
-/

namespace OwnedHandles

open Arith

/-! ## Units by their length -/

namespace TimeUnit

theorem nanosPerUnit_injective {u v : TimeUnit} (h : u.nanosPerUnit = v.nanosPerUnit) : u = v := by
  revert h
  cases u <;> cases v <;> decide

/-- No unit lies between a unit and the next larger one. -/
theorem eq_of_nanosPerUnit_lt_larger {u v next : TimeUnit} (hlarger : u.larger = some next)
    (hle : u.nanosPerUnit ≤ v.nanosPerUnit) (hlt : v.nanosPerUnit < next.nanosPerUnit) : v = u := by
  revert hle hlt
  cases u <;> cases hlarger <;> cases v <;> decide

/-- A larger unit is at least a thousand of a smaller one. -/
theorem promotionBound_mul_le {u v : TimeUnit} (h : u.nanosPerUnit < v.nanosPerUnit) :
    promotionBound * u.nanosPerUnit ≤ v.nanosPerUnit := by
  revert h
  cases u <;> cases v <;> decide

theorem nanosPerUnit_nanos_le (u : TimeUnit) : nanos.nanosPerUnit ≤ u.nanosPerUnit :=
  u.nanosPerUnit_pos

theorem nanosPerUnit_le_seconds (u : TimeUnit) : u.nanosPerUnit ≤ seconds.nanosPerUnit := by
  cases u <;> decide

/-- A unit that a duration has at least one of is no larger than the largest such one. -/
theorem le_nanosPerUnit_largestIn {u : TimeUnit} {d : Duration} (h : u.nanosPerUnit ≤ d.nanos) :
    u.nanosPerUnit ≤ (largestIn d).nanosPerUnit := by
  cases hlarger : (largestIn d).larger with
  | none =>
    rw [eq_seconds_of_larger hlarger]
    exact nanosPerUnit_le_seconds u
  | some next =>
    -- it is smaller than the next larger one, which the duration has less than one of
    by_contra hgt
    have hbound := promotionBound_mul_le (Nat.lt_of_not_le hgt)
    rw [← nanosPerUnit_larger hlarger] at hbound
    exact Nat.not_le_of_lt (lt_nanosPerUnit_larger hlarger) (Nat.le_trans hbound h)

/-- A longer duration begins with no smaller unit. -/
theorem nanosPerUnit_largestIn_mono {d₁ d₂ : Duration} (h : d₁.nanos ≤ d₂.nanos) :
    (largestIn d₁).nanosPerUnit ≤ (largestIn d₂).nanosPerUnit := by
  rcases Nat.eq_zero_or_pos d₁.nanos with hzero | hpos
  · rw [largestIn_of_lt (hzero ▸ by decide)]
    exact nanosPerUnit_nanos_le _
  · exact le_nanosPerUnit_largestIn (Nat.le_trans (nanosPerUnit_largestIn_le hpos) h)

end TimeUnit

/-! ## One unit -/

/-- **In one unit, rounding keeps the order.** -/
theorem Magnitude.numerator_mono {n₁ n₂ : ℕ} (unit : TimeUnit) {places : ℕ}
    (hplaces : places ≤ maxPlaces) (h : n₁ ≤ n₂) :
    numerator n₁ unit places ≤ numerator n₂ unit places := by
  rcases Nat.eq_or_lt_of_le h with rfl | hlt
  · exact Nat.le_refl _
  · refine (isNearest_numerator n₁ unit hplaces).le_of_lt (isNearest_numerator n₂ unit hplaces) ?_
    exact Nat.mul_lt_mul_of_pos_right hlt (tenPow_pos places)

/-! ## The open choice -/

section OpenChoice

variable {d d₁ d₂ : Duration} {places : ℕ} (hplaces : places ≤ maxPlaces)

include hplaces

/-- The settled unit is no smaller than the first one. -/
theorem UnitChoice.nanosPerUnit_largestIn_le_settle :
    (TimeUnit.largestIn d).nanosPerUnit ≤ (UnitChoice.auto.settle d places).nanosPerUnit := by
  rcases settle_auto_cases d hplaces with ⟨-, hsettle⟩ | ⟨next, hlarger, -, -, hsettle⟩
  · rw [hsettle]
  · rw [hsettle, TimeUnit.nanosPerUnit_larger hlarger]
    exact Nat.le_mul_of_pos_left _ (by decide)

/-- **A longer duration settles on no smaller unit.** -/
theorem UnitChoice.nanosPerUnit_settle_mono (h : d₁.nanos ≤ d₂.nanos) :
    (UnitChoice.auto.settle d₁ places).nanosPerUnit ≤
      (UnitChoice.auto.settle d₂ places).nanosPerUnit := by
  have hfirst := TimeUnit.nanosPerUnit_largestIn_mono h
  have hsecond := nanosPerUnit_largestIn_le_settle hplaces (d := d₂)
  rcases settle_auto_cases d₁ hplaces with ⟨-, hsettle⟩ | ⟨next, hlarger, hthousand, -, hsettle⟩
  · rw [hsettle]
    exact Nat.le_trans hfirst hsecond
  · rw [hsettle]
    by_contra hgt
    -- the longer one would be settled on the unit that the shorter one has left at a thousand
    have hunit := TimeUnit.eq_of_nanosPerUnit_lt_larger hlarger (Nat.le_trans hfirst hsecond)
      (Nat.lt_of_not_le hgt)
    have hne : UnitChoice.auto.settle d₂ places ≠ .seconds := by
      rw [hunit]
      exact TimeUnit.ne_seconds_of_larger hlarger
    have hlt := Magnitude.whole_settle_lt d₂ hplaces hne
    rw [hunit] at hlt
    have hbound := (Magnitude.promotionBound_le_whole_iff hplaces).mp (Nat.le_of_eq hthousand.symm)
    have hmono := Magnitude.numerator_mono (TimeUnit.largestIn d₁) hplaces h
    have hge := (Magnitude.promotionBound_le_whole_iff hplaces).mpr (Nat.le_trans hbound hmono)
    exact Nat.not_le_of_lt hlt hge

/-- **In the open choice, a longer duration shows no smaller quantity**, also where it settles on a
larger unit: what is shown in the smaller unit stays below a thousand, and what is shown in the
larger one is at least one. -/
theorem Magnitude.numerator_settle_mul_mono (h : d₁.nanos ≤ d₂.nanos) :
    numerator d₁.nanos (UnitChoice.auto.settle d₁ places) places *
        (UnitChoice.auto.settle d₁ places).nanosPerUnit ≤
      numerator d₂.nanos (UnitChoice.auto.settle d₂ places) places *
        (UnitChoice.auto.settle d₂ places).nanosPerUnit := by
  rcases Nat.eq_or_lt_of_le (UnitChoice.nanosPerUnit_settle_mono hplaces h) with heq | hlt
  · rw [TimeUnit.nanosPerUnit_injective heq]
    exact Nat.mul_le_mul_right _ (numerator_mono _ hplaces h)
  · have hseconds : UnitChoice.auto.settle d₁ places ≠ .seconds := by
      intro heq
      rw [heq] at hlt
      exact Nat.not_le_of_lt hlt (TimeUnit.nanosPerUnit_le_seconds _)
    have hpos : 0 < d₂.nanos := by
      by_contra hzero
      rw [UnitChoice.settle_auto_of_lt d₂ hplaces (by omega)] at hlt
      exact Nat.not_le_of_lt hlt (TimeUnit.nanosPerUnit_nanos_le _)
    have hbelow := Nat.lt_of_not_le fun hle => Nat.not_le_of_lt
      (whole_settle_lt d₁ hplaces hseconds) ((promotionBound_le_whole_iff hplaces).mpr hle)
    have habove := tenPow_le_numerator_settle d₂ hplaces hpos
    calc numerator d₁.nanos (UnitChoice.auto.settle d₁ places) places *
          (UnitChoice.auto.settle d₁ places).nanosPerUnit
        ≤ promotionBound * tenPow places * (UnitChoice.auto.settle d₁ places).nanosPerUnit :=
          Nat.mul_le_mul_right _ (Nat.le_of_lt hbelow)
      _ = tenPow places * (promotionBound * (UnitChoice.auto.settle d₁ places).nanosPerUnit) := by
          ring
      _ ≤ tenPow places * (UnitChoice.auto.settle d₂ places).nanosPerUnit :=
          Nat.mul_le_mul_left _ (TimeUnit.promotionBound_mul_le hlt)
      _ ≤ numerator d₂.nanos (UnitChoice.auto.settle d₂ places) places *
          (UnitChoice.auto.settle d₂ places).nanosPerUnit := Nat.mul_le_mul_right _ habove

end OpenChoice

/-! ## Every style -/

namespace Duration

variable {d₁ d₂ : Duration}

/-- In every style, the steps shown for a longer duration make up no smaller length. -/
theorem numerator_shown_mul_mono (style : RenderStyle) (h : d₁.nanos ≤ d₂.nanos) :
    (d₁.shown style).numerator * (d₁.shown style).unit.nanosPerUnit ≤
      (d₂.shown style).numerator * (d₂.shown style).unit.nanosPerUnit := by
  rw [numerator_shown, numerator_shown]
  obtain ⟨unit, places, hplaces⟩ := style
  cases unit with
  | auto => exact Magnitude.numerator_settle_mul_mono hplaces h
  | fixed unit => exact Nat.mul_le_mul_right _ (Magnitude.numerator_mono unit hplaces h)

/-- **A longer duration never shows a smaller quantity**, whatever the style: what is read from the
text, times the nanoseconds of its suffix, keeps the order of the durations. -/
theorem render_monotone (style : RenderStyle) (h : d₁.nanos ≤ d₂.nanos) :
    ∃ q₁ q₂, Quantity.read (d₁.render style).toList = some q₁ ∧
      Quantity.read (d₂.render style).toList = some q₂ ∧ q₁.nanos ≤ q₂.nanos := by
  refine ⟨_, _, d₁.read_render style, d₂.read_render style, ?_⟩
  have hsteps : ((d₁.shown style).numerator * (d₁.shown style).unit.nanosPerUnit : ℚ) ≤
      (d₂.shown style).numerator * (d₂.shown style).unit.nanosPerUnit := by
    exact_mod_cast numerator_shown_mul_mono style h
  rw [Quantity.nanos, Quantity.nanos, length_fraction_shown, length_fraction_shown,
    div_mul_eq_mul_div, div_mul_eq_mul_div]
  exact div_le_div_of_nonneg_right hsteps (Nat.cast_nonneg _)

/-- Across the promotion: `999.99µs` is no more than `1.00ms`. -/
theorem render_monotone_across_promotion :
    (ofNanos 999994).nanos ≤ (ofNanos 999999).nanos ∧
      ∃ q₁ q₂, Quantity.read ((ofNanos 999994).render .default).toList = some q₁ ∧
        Quantity.read ((ofNanos 999999).render .default).toList = some q₂ ∧
        q₁.nanos ≤ q₂.nanos :=
  ⟨by decide, render_monotone .default (by decide)⟩

example : (ofNanos 999994).render .default = "999.99µs" ∧
    (ofNanos 999999).render .default = "1.00ms" := by
  decide +kernel

end Duration

end OwnedHandles
