import OwnedHandles.Proofs.Clock.Quantity

/-!
# The unit of the open choice

Where no unit is asked for, rendering begins with the largest unit that the duration has at least
one of, and moves on to larger ones as long as the whole part reaches a thousand.

- `UnitChoice.passes`: the units that are tried. `getLast?_passes`: the last one is the settled one.
- `Magnitude.numerator_larger`: where rounding reaches a thousand in one unit, rounding anew in the
  next one reaches exactly one.
- `settle_auto_cases`: so there are two ways, to stay or to move on once.
- `auto_settles_by_rule`: what this means for the text.
-/

namespace OwnedHandles

open Arith

/-! ## One unit after the other -/

namespace TimeUnit

/-- A unit is a thousand of the next smaller one. -/
theorem nanosPerUnit_larger {unit next : TimeUnit} (h : unit.larger = some next) :
    next.nanosPerUnit = promotionBound * unit.nanosPerUnit := by
  cases unit <;> cases h <;> rfl

theorem eq_seconds_of_larger {unit : TimeUnit} (h : unit.larger = none) : unit = .seconds := by
  cases unit with
  | seconds => rfl
  | millis => cases h
  | micros => cases h
  | nanos => cases h

theorem ne_seconds_of_larger {unit next : TimeUnit} (h : unit.larger = some next) :
    unit ≠ .seconds := by
  rintro rfl
  cases h

/-- There are fewer units from the next larger one on. -/
theorem length_upward_larger {unit next : TimeUnit} (h : unit.larger = some next) :
    next.upward.length < unit.upward.length := by
  cases unit <;> cases h <;> decide

/-- A duration has at least one of its unit, if it is not zero. -/
theorem nanosPerUnit_largestIn_le {d : Duration} (h : 0 < d.nanos) :
    (largestIn d).nanosPerUnit ≤ d.nanos := by
  unfold largestIn
  split
  · assumption
  · split
    · assumption
    · split
      · assumption
      · exact h

/-- A duration has less than one of the next larger unit. -/
theorem lt_nanosPerUnit_larger {d : Duration} {next : TimeUnit}
    (h : (largestIn d).larger = some next) : d.nanos < next.nanosPerUnit := by
  unfold largestIn at h
  split at h
  · cases h
  · split at h
    · cases h
      exact Nat.lt_of_not_le ‹_›
    · split at h
      · cases h
        exact Nat.lt_of_not_le ‹_›
      · cases h
        exact Nat.lt_of_not_le ‹_›

/-- What is shorter than a microsecond has at least one of nanoseconds only. -/
theorem largestIn_of_lt {d : Duration} (h : d.nanos < 1000) : largestIn d = .nanos := by
  have hseconds : ¬seconds.nanosPerUnit ≤ d.nanos :=
    Nat.not_le_of_lt (Nat.lt_trans h (by decide))
  have hmillis : ¬millis.nanosPerUnit ≤ d.nanos := Nat.not_le_of_lt (Nat.lt_trans h (by decide))
  have hmicros : ¬micros.nanosPerUnit ≤ d.nanos := Nat.not_le_of_lt h
  rw [largestIn, if_neg hseconds, if_neg hmillis, if_neg hmicros]

end TimeUnit

/-- The units that are tried for a duration, from a first one on: in the open choice, the next
larger one follows where the whole part reaches a thousand. -/
def UnitChoice.passes (choice : UnitChoice) (d : Duration) (places : ℕ) (unit : TimeUnit) :
    List TimeUnit :=
  match _h : unit.larger with
  | some next =>
    if choice = .auto ∧ promotionBound ≤ (Magnitude.split d.nanos unit places).whole then
      unit :: choice.passes d places next
    else [unit]
  | none => [unit]
termination_by unit.upward.length
decreasing_by exact TimeUnit.length_upward_larger _h

/-- The open choice stays with a unit that there is no larger one of, or whose whole part stays
below a thousand. -/
theorem UnitChoice.passes_auto_stay {d : Duration} {places : ℕ} {unit : TimeUnit}
    (h : unit = .seconds ∨ (Magnitude.split d.nanos unit places).whole < promotionBound) :
    UnitChoice.auto.passes d places unit = [unit] := by
  rw [passes]
  split
  · rename_i next hlarger
    rcases h with rfl | hlt
    · cases hlarger
    · rw [if_neg fun hbound => Nat.not_lt_of_le hbound.2 hlt]
  · rfl

/-- The open choice moves on to the next larger unit where the whole part reaches a thousand. -/
theorem UnitChoice.passes_auto_move {d : Duration} {places : ℕ} {unit next : TimeUnit}
    (hlarger : unit.larger = some next)
    (hbound : promotionBound ≤ (Magnitude.split d.nanos unit places).whole) :
    UnitChoice.auto.passes d places unit = unit :: UnitChoice.auto.passes d places next := by
  rw [passes]
  split
  · rename_i next' hlarger'
    obtain rfl : next' = next := Option.some.inj (hlarger'.symm.trans hlarger)
    rw [if_pos ⟨rfl, hbound⟩]
  · rename_i hnone
    rw [hnone] at hlarger
    cases hlarger

/-- In the open choice, the unit that is tried last is the first one, from there upwards, whose
whole part stays below a thousand. -/
theorem UnitChoice.getLast?_passes_auto (d : Duration) (places : ℕ) (unit : TimeUnit) :
    (UnitChoice.auto.passes d places unit).getLast? =
      some ((unit.upward.find? fun u =>
        (Magnitude.split d.nanos u places).whole < promotionBound).getD .seconds) := by
  fun_induction UnitChoice.passes UnitChoice.auto d places unit with
  | case1 unit next hlarger hbound ih =>
    have hfits : ¬(Magnitude.split d.nanos unit places).whole < promotionBound :=
      Nat.not_lt_of_le hbound.2
    rw [List.getLast?_cons, ih, unit.upward_eq, hlarger,
      List.find?_cons_of_neg (by simpa using hfits)]
    rfl
  | case2 unit next hlarger hbound =>
    have hfits : (Magnitude.split d.nanos unit places).whole < promotionBound :=
      Nat.lt_of_not_le fun hle => hbound ⟨rfl, hle⟩
    rw [unit.upward_eq, List.find?_cons_of_pos (by simpa using hfits)]
    rfl
  | case3 unit hlarger =>
    obtain rfl := TimeUnit.eq_seconds_of_larger hlarger
    rw [TimeUnit.upward, List.find?_singleton]
    split <;> rfl

/-- **The unit that is tried last is the one that is settled on.** -/
theorem UnitChoice.getLast?_passes (choice : UnitChoice) (d : Duration) (places : ℕ) :
    (choice.passes d places (choice.resolve d)).getLast? = some (choice.settle d places) := by
  cases choice with
  | auto => exact getLast?_passes_auto d places _
  | fixed unit =>
    rw [passes]
    split
    · rw [if_neg (by simp)]
      rfl
    · rfl

/-! ## Rounding in one unit and in the next -/

namespace Magnitude

variable {nanos places : ℕ} {unit next : TimeUnit}

/-- Below the next larger unit, rounding reaches a thousand at most. -/
theorem numerator_le_of_larger (hplaces : places ≤ maxPlaces) (hlarger : unit.larger = some next)
    (hlt : nanos < next.nanosPerUnit) :
    numerator nanos unit places ≤ promotionBound * tenPow places := by
  refine (isNearest_numerator nanos unit hplaces).le_of_lt_mid ?_
  rw [TimeUnit.nanosPerUnit_larger hlarger] at hlt
  have hscaled := Nat.mul_lt_mul_of_pos_right hlt (tenPow_pos places)
  have hpos := unit.nanosPerUnit_pos
  linarith

/-- **Where rounding reaches a thousand in one unit, rounding anew in the next larger one reaches
exactly one.** The duration lies within half a step of the smaller unit below one of the larger, and
the steps of the larger one are wider. -/
theorem numerator_larger (hplaces : places ≤ maxPlaces) (hlarger : unit.larger = some next)
    (hlt : nanos < next.nanosPerUnit)
    (hbound : promotionBound * tenPow places ≤ numerator nanos unit places) :
    numerator nanos next places = tenPow places := by
  have hnext := isNearest_numerator nanos next hplaces
  have hpos := unit.nanosPerUnit_pos
  refine Nat.le_antisymm (hnext.le_of_lt_mid ?_) (hnext.le_of_mid_lt ?_)
  · have hscaled := Nat.mul_lt_mul_of_pos_right hlt (tenPow_pos places)
    linarith [next.nanosPerUnit_pos]
  · obtain ⟨hup, -⟩ := isNearest_iff.mp (isNearest_numerator nanos unit hplaces)
    have hsteps := Nat.mul_le_mul_right unit.nanosPerUnit hbound
    have hwider : unit.nanosPerUnit < promotionBound * unit.nanosPerUnit :=
      (Nat.lt_mul_iff_one_lt_left hpos).mpr (by decide)
    rw [TimeUnit.nanosPerUnit_larger hlarger]
    linarith

/-- Where there is at least one of a unit, rounding keeps at least one. -/
theorem tenPow_le_numerator (hplaces : places ≤ maxPlaces) (hle : unit.nanosPerUnit ≤ nanos) :
    tenPow places ≤ numerator nanos unit places := by
  refine (isNearest_numerator nanos unit hplaces).le_of_mid_lt ?_
  have hscaled := Nat.mul_le_mul_right (tenPow places) hle
  have hpos := unit.nanosPerUnit_pos
  linarith

/-- A whole part reaches a thousand iff the digits reach a thousand units. -/
theorem promotionBound_le_whole_iff (hplaces : places ≤ maxPlaces) :
    promotionBound ≤ (split nanos unit places).whole ↔
      promotionBound * tenPow places ≤ numerator nanos unit places := by
  rw [split_eq nanos unit hplaces, Nat.le_div_iff_mul_le (tenPow_pos places)]

/-- The number one as it is written. -/
theorem text_split_of_numerator_eq (hplaces : places ≤ maxPlaces)
    (hone : numerator nanos unit places = tenPow places) :
    (split nanos unit places).text =
      '1' :: if places = 0 then [] else '.' :: List.replicate places '0' := by
  rw [split_eq nanos unit hplaces, hone, Nat.div_self (tenPow_pos places), Nat.mod_self,
    Decimal.fraction, Decimal.padded_zero, text, Decimal.digits_of_lt (show 1 < 10 by decide)]
  rfl

end Magnitude

/-! ## The settled unit -/

/-- The open choice stays with its first unit, or it moves on once: where rounding reaches exactly a
thousand in the first unit, and then exactly one in the next. -/
theorem UnitChoice.passes_auto_cases (d : Duration) {places : ℕ} (hplaces : places ≤ maxPlaces) :
    ((TimeUnit.largestIn d = .seconds ∨
        (Magnitude.split d.nanos (TimeUnit.largestIn d) places).whole < promotionBound) ∧
      UnitChoice.auto.passes d places (TimeUnit.largestIn d) = [TimeUnit.largestIn d]) ∨
    ∃ next, (TimeUnit.largestIn d).larger = some next ∧
      (Magnitude.split d.nanos (TimeUnit.largestIn d) places).whole = promotionBound ∧
      Magnitude.numerator d.nanos next places = tenPow places ∧
      UnitChoice.auto.passes d places (TimeUnit.largestIn d) = [TimeUnit.largestIn d, next] := by
  by_cases hstay : TimeUnit.largestIn d = .seconds ∨
    (Magnitude.split d.nanos (TimeUnit.largestIn d) places).whole < promotionBound
  · exact .inl ⟨hstay, passes_auto_stay hstay⟩
  · obtain ⟨hseconds, hbound⟩ := not_or.mp hstay
    have hbound := Nat.le_of_not_lt hbound
    have hsteps := (Magnitude.promotionBound_le_whole_iff hplaces).mp hbound
    cases hlarger : (TimeUnit.largestIn d).larger with
    | none => exact absurd (TimeUnit.eq_seconds_of_larger hlarger) hseconds
    | some next =>
      have hlt := TimeUnit.lt_nanosPerUnit_larger hlarger
      have hle := Magnitude.numerator_le_of_larger hplaces hlarger hlt
      have hone := Magnitude.numerator_larger hplaces hlarger hlt hsteps
      have hfits : (Magnitude.split d.nanos next places).whole < promotionBound := by
        rw [Magnitude.split_eq _ _ hplaces, hone, Nat.div_self (tenPow_pos places)]
        show 1 < promotionBound
        decide
      refine .inr ⟨next, rfl, ?_, hone, ?_⟩
      · rw [Magnitude.split_eq _ _ hplaces, Nat.le_antisymm hle hsteps]
        exact Nat.mul_div_cancel promotionBound (tenPow_pos places)
      · rw [passes_auto_move hlarger hbound, passes_auto_stay (.inr hfits)]

/-- **At most two units are tried.** -/
theorem UnitChoice.length_passes_auto_le (d : Duration) {places : ℕ}
    (hplaces : places ≤ maxPlaces) :
    (UnitChoice.auto.passes d places (UnitChoice.auto.resolve d)).length ≤ 2 := by
  show (UnitChoice.auto.passes d places (TimeUnit.largestIn d)).length ≤ 2
  rcases passes_auto_cases d hplaces with ⟨-, hpasses⟩ | ⟨next, -, -, -, hpasses⟩
  · rw [hpasses]
    exact Nat.le_succ 1
  · rw [hpasses]
    exact Nat.le_refl 2

/-- **The settled unit is the first one or the next larger one.** The number shown in the next one
is exactly one. -/
theorem UnitChoice.settle_auto_cases (d : Duration) {places : ℕ} (hplaces : places ≤ maxPlaces) :
    ((TimeUnit.largestIn d = .seconds ∨
        (Magnitude.split d.nanos (TimeUnit.largestIn d) places).whole < promotionBound) ∧
      UnitChoice.auto.settle d places = TimeUnit.largestIn d) ∨
    ∃ next, (TimeUnit.largestIn d).larger = some next ∧
      (Magnitude.split d.nanos (TimeUnit.largestIn d) places).whole = promotionBound ∧
      Magnitude.numerator d.nanos next places = tenPow places ∧
      UnitChoice.auto.settle d places = next := by
  have hlast : (UnitChoice.auto.passes d places (TimeUnit.largestIn d)).getLast? = _ :=
    UnitChoice.auto.getLast?_passes d places
  rcases passes_auto_cases d hplaces with
    ⟨hstay, hpasses⟩ | ⟨next, hlarger, hthousand, hone, hpasses⟩
  · rw [hpasses] at hlast
    exact .inl ⟨hstay, (Option.some.inj hlast).symm⟩
  · rw [hpasses] at hlast
    exact .inr ⟨next, hlarger, hthousand, hone, (Option.some.inj hlast).symm⟩

variable (d : Duration) {places : ℕ} (hplaces : places ≤ maxPlaces)

include hplaces

/-- Below seconds, the settled whole part stays below a thousand. -/
theorem Magnitude.whole_settle_lt (hne : UnitChoice.auto.settle d places ≠ .seconds) :
    (split d.nanos (UnitChoice.auto.settle d places) places).whole < promotionBound := by
  rcases UnitChoice.settle_auto_cases d hplaces with ⟨hstay, hsettle⟩ | ⟨next, -, -, hone, hsettle⟩
  · rw [hsettle] at hne ⊢
    exact hstay.resolve_left hne
  · rw [hsettle, split_eq _ _ hplaces, hone, Nat.div_self (tenPow_pos places)]
    show 1 < promotionBound
    decide

/-- The settled number is at least one, but for no time at all. -/
theorem Magnitude.tenPow_le_numerator_settle (hpos : 0 < d.nanos) :
    tenPow places ≤ numerator d.nanos (UnitChoice.auto.settle d places) places := by
  rcases UnitChoice.settle_auto_cases d hplaces with ⟨-, hsettle⟩ | ⟨next, -, -, hone, hsettle⟩
  · rw [hsettle]
    exact tenPow_le_numerator hplaces (TimeUnit.nanosPerUnit_largestIn_le hpos)
  · rw [hsettle, hone]

/-- **What is shorter than a microsecond is shown in nanoseconds.** -/
theorem UnitChoice.settle_auto_of_lt (hlt : d.nanos < 1000) :
    UnitChoice.auto.settle d places = .nanos := by
  have hfirst := TimeUnit.largestIn_of_lt hlt
  rcases settle_auto_cases d hplaces with ⟨-, hsettle⟩ | ⟨next, -, hthousand, -, -⟩
  · rw [hsettle, hfirst]
  · -- nanoseconds are shown exactly, so that fewer than a thousand are not rounded up
    have hexact : Magnitude.numerator d.nanos .nanos places * 1 = d.nanos * tenPow places :=
      (Magnitude.isNearest_numerator d.nanos .nanos hplaces).mul_eq_of_dvd Nat.one_pos
        (Nat.one_dvd _)
    rw [Nat.mul_one] at hexact
    rw [hfirst, Magnitude.split_eq _ _ hplaces, hexact] at hthousand
    have hnanos : d.nanos = 1000 :=
      (Nat.mul_div_cancel d.nanos (tenPow_pos places)).symm.trans hthousand
    exact absurd hnanos (Nat.ne_of_lt hlt)

omit hplaces

/-- In the open choice, a duration is shown as in the settled unit. -/
theorem Duration.render_auto (style : RenderStyle) :
    d.render (style.withUnit .auto) =
      d.render (style.withUnit (.fixed (UnitChoice.auto.settle d style.places))) := rfl

/-- **The open choice goes by its rule.** Let the first unit be the largest one that the duration
has at least one of.

- If that is seconds, or if the whole part in it stays below a thousand, the text is the one in this
  fixed unit.
- Else the whole part in it is exactly a thousand, and the text is a one, with zeros behind a point
  if there are places, and the suffix of the next larger unit.

In either case the text is the one in the settled unit. So the whole part stays below a thousand in
all units but seconds, and is at least one for all durations but zero. What is shorter than a
microsecond is shown in nanoseconds. At most two units are tried, the settled one last. -/
theorem auto_settles_by_rule (d : Duration) (style : RenderStyle) :
    (UnitChoice.auto.resolve d = .seconds ∨
        (Magnitude.split d.nanos (UnitChoice.auto.resolve d) style.places).whole < 1000 →
      d.render (style.withUnit .auto) =
        d.render (style.withUnit (.fixed (UnitChoice.auto.resolve d)))) ∧
    (¬(UnitChoice.auto.resolve d = .seconds ∨
        (Magnitude.split d.nanos (UnitChoice.auto.resolve d) style.places).whole < 1000) →
      (Magnitude.split d.nanos (UnitChoice.auto.resolve d) style.places).whole = 1000 ∧
      ∃ next, (UnitChoice.auto.resolve d).larger = some next ∧
        (d.render (style.withUnit .auto)).toList =
          ('1' :: if style.places = 0 then [] else '.' :: List.replicate style.places '0') ++
            next.suffix.toList) ∧
    d.render (style.withUnit .auto) =
      d.render (style.withUnit (.fixed (UnitChoice.auto.settle d style.places))) ∧
    (UnitChoice.auto.settle d style.places ≠ .seconds →
      (Magnitude.split d.nanos (UnitChoice.auto.settle d style.places) style.places).whole <
        1000) ∧
    (0 < d.nanos → 1 ≤
      (Magnitude.split d.nanos (UnitChoice.auto.settle d style.places) style.places).whole) ∧
    (d.nanos < 1000 → UnitChoice.auto.settle d style.places = .nanos) ∧
    (UnitChoice.auto.passes d style.places (UnitChoice.auto.resolve d)).getLast? =
      some (UnitChoice.auto.settle d style.places) ∧
    (UnitChoice.auto.passes d style.places (UnitChoice.auto.resolve d)).length ≤ 2 := by
  have hplaces := style.places_le
  have hpos := tenPow_pos style.places
  refine ⟨fun hstay => ?_, fun hmove => ?_, d.render_auto style,
    Magnitude.whole_settle_lt d hplaces, fun hnanos => ?_, UnitChoice.settle_auto_of_lt d hplaces,
    UnitChoice.auto.getLast?_passes d style.places, UnitChoice.length_passes_auto_le d hplaces⟩
  · rcases UnitChoice.settle_auto_cases d hplaces with
      ⟨-, hsettle⟩ | ⟨next, hlarger, hthousand, -, -⟩
    · rw [d.render_auto, hsettle]
      rfl
    · rcases hstay with hseconds | hlt
      · exact absurd hseconds (TimeUnit.ne_seconds_of_larger hlarger)
      · exact absurd hthousand (Nat.ne_of_lt hlt)
  · rcases UnitChoice.settle_auto_cases d hplaces with
      ⟨hstay, -⟩ | ⟨next, hlarger, hthousand, hone, hsettle⟩
    · exact absurd hstay hmove
    · refine ⟨hthousand, next, hlarger, ?_⟩
      rw [d.render_auto, hsettle, Duration.render, String.toList_ofList,
        ← Magnitude.text_split_of_numerator_eq hplaces hone]
      rfl
  · rw [Magnitude.split_eq _ _ hplaces]
    exact (Nat.one_le_div_iff hpos).mpr (Magnitude.tenPow_le_numerator_settle d hplaces hnanos)

end OwnedHandles
