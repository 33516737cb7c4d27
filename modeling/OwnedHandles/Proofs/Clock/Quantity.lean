import Mathlib.Data.Rat.Cast.Order
import OwnedHandles.Proofs.Clock.Numerator

/-!
# What a rendered duration shows

A rendered duration is read back here as a decimal and a unit, and compared with the exact length.

- `Quantity`: the digits before and after a point, and a unit. `Quantity.text` writes it.
- `Quantity.WellWritten`: digits only, and no zeros in front of the whole part.
- `Quantity.read`: a text read from its front. `WellWritten.read_text`: what is well written is read
  back, so that a text shows one quantity.
- `Duration.render_is_nearest`: a rendered duration shows a nearest decimal of its places to the
  exact length.
-/

namespace OwnedHandles

open Arith

/-- The unit with a suffix. -/
def TimeUnit.ofSuffix? (suffix : List Char) : Option TimeUnit :=
  [TimeUnit.seconds, .millis, .micros, .nanos].find? (·.suffix.toList = suffix)

@[simp] theorem TimeUnit.ofSuffix?_suffix (unit : TimeUnit) :
    ofSuffix? unit.suffix.toList = some unit := by
  cases unit <;> decide

/-- A decimal with a unit: the digits before and after the point, if there are any after it. -/
structure Quantity where
  whole : List Char
  fraction : List Char
  unit : TimeUnit
  deriving DecidableEq, Repr

namespace Quantity

/-- The digits of a quantity, the point left out, as one number. -/
def numerator (q : Quantity) : ℕ :=
  Nat.ofDigitChars 10 (q.whole ++ q.fraction) 0

/-- The number shown, times the nanoseconds of its suffix. -/
def nanos (q : Quantity) : ℚ :=
  q.numerator / tenPow q.fraction.length * q.unit.nanosPerUnit

/-- A quantity as it is written: there is a point if there are digits after it. -/
def text (q : Quantity) : List Char :=
  q.whole ++ Decimal.behindPoint q.fraction ++ q.unit.suffix.toList

/-- The whole part is written without zeros in front, and there are only digits after the point. -/
structure WellWritten (q : Quantity) : Prop where
  whole : Decimal.IsCanonical q.whole
  fraction : ∀ c ∈ q.fraction, c.isDigit = true

/-- The quantity that a text shows: digits, digits after a point if there is one, and a suffix. -/
def read (text : List Char) : Option Quantity :=
  let whole := text.takeWhile Char.isDigit
  match text.dropWhile Char.isDigit with
  | '.' :: rest =>
    let fraction := rest.takeWhile Char.isDigit
    (TimeUnit.ofSuffix? (rest.dropWhile Char.isDigit)).map fun unit => ⟨whole, fraction, unit⟩
  | rest => (TimeUnit.ofSuffix? rest).map fun unit => ⟨whole, [], unit⟩

/-! ## Reading what is written -/

/-- Reading digits stops at the first other character. -/
theorem takeWhile_isDigit_append {digits : List Char} (hdigits : ∀ c ∈ digits, c.isDigit = true)
    {c : Char} (hc : c.isDigit = false) (rest : List Char) :
    (digits ++ c :: rest).takeWhile Char.isDigit = digits ∧
      (digits ++ c :: rest).dropWhile Char.isDigit = c :: rest := by
  rw [List.takeWhile_append_of_pos hdigits, List.dropWhile_append_of_pos hdigits,
    List.takeWhile_cons_of_neg (by simp [hc]), List.dropWhile_cons_of_neg (by simp [hc]),
    List.append_nil]
  exact ⟨rfl, rfl⟩

/-- A suffix begins with a letter. -/
theorem suffix_eq_cons (unit : TimeUnit) :
    ∃ c rest, unit.suffix.toList = c :: rest ∧ c.isDigit = false ∧ c ≠ '.' := by
  cases unit with
  | seconds => exact ⟨'s', [], by decide⟩
  | millis => exact ⟨'m', ['s'], by decide⟩
  | micros => exact ⟨'µ', ['s'], by decide⟩
  | nanos => exact ⟨'n', ['s'], by decide⟩

/-- **What is well written is read back.** -/
theorem WellWritten.read_text {q : Quantity} (h : q.WellWritten) : read q.text = some q := by
  obtain ⟨whole, fraction, unit⟩ := q
  obtain ⟨c, suffix, hsuffix, hdigit, hpoint⟩ := suffix_eq_cons unit
  have hunit := unit.ofSuffix?_suffix
  rw [hsuffix] at hunit
  by_cases hfraction : fraction = []
  · subst hfraction
    obtain ⟨htake, hdrop⟩ := takeWhile_isDigit_append h.whole.isDigit hdigit suffix
    rw [text, Decimal.behindPoint_nil, List.append_nil, hsuffix, read, htake, hdrop]
    split
    · rename_i rest heq
      exact absurd (List.cons.inj heq).1 hpoint
    · rw [hunit]
      rfl
  · obtain ⟨htake, hdrop⟩ :=
      takeWhile_isDigit_append h.whole.isDigit (c := '.') rfl (fraction ++ c :: suffix)
    obtain ⟨htake', hdrop'⟩ := takeWhile_isDigit_append h.fraction hdigit suffix
    have htext : text ⟨whole, fraction, unit⟩ = whole ++ '.' :: (fraction ++ c :: suffix) := by
      rw [text, Decimal.behindPoint_of_ne_nil hfraction, hsuffix, List.append_assoc,
        List.cons_append]
    rw [htext, read, htake, hdrop]
    simp only [htake', hdrop', hunit]
    rfl

end Quantity

/-! ## Rendered durations -/

namespace Duration

/-- What a duration is shown as: the digits of the nearest number of steps of the last place. -/
def shown (d : Duration) (style : RenderStyle) : Quantity :=
  let unit := style.unit.settle d style.places
  let steps := Magnitude.numerator d.nanos unit style.places
  ⟨Decimal.digits (steps / tenPow style.places),
    Decimal.padded style.places (steps % tenPow style.places), unit⟩

variable (d : Duration) (style : RenderStyle)

theorem wellWritten_shown : (d.shown style).WellWritten where
  whole := Decimal.isCanonical_digits _
  fraction _ := Decimal.isDigit_of_mem_padded

@[simp] theorem length_fraction_shown : (d.shown style).fraction.length = style.places :=
  Decimal.length_padded _ _

/-- The digits shown are the steps of the last place. -/
theorem numerator_shown :
    (d.shown style).numerator =
      Magnitude.numerator d.nanos (d.shown style).unit style.places := by
  rw [Quantity.numerator, Nat.ofDigitChars_append]
  simp only [shown]
  rw [Decimal.ofDigitChars_digits, Decimal.ofDigitChars_padded, Nat.mod_mod, Nat.div_add_mod']

/-- **A rendered duration is written as what it shows.** -/
theorem renderChars_eq : d.renderChars style = (d.shown style).text := by
  rw [renderChars, Magnitude.split_eq _ _ style.places_le, Magnitude.text, Quantity.text]
  simp only [shown]
  rw [Decimal.fraction_eq]

/-- **A rendered duration is read back as what it shows.** -/
theorem read_render : Quantity.read (d.render style).toList = some (d.shown style) := by
  rw [render, String.toList_ofList, renderChars_eq]
  exact (d.wellWritten_shown style).read_text

/-- The number shown is a nearest one to the exact length. -/
theorem isNearest_shown :
    IsNearest (d.nanos * tenPow style.places) (d.shown style).unit.nanosPerUnit
      (d.shown style).numerator := by
  rw [numerator_shown]
  exact Magnitude.isNearest_numerator _ _ style.places_le

/-- Places that tell single nanoseconds show the exact length. -/
theorem nanos_shown_of_le (h : (d.shown style).unit.nanosPerUnit ≤ tenPow style.places) :
    (d.shown style).nanos = d.nanos := by
  have hdvd : (d.shown style).unit.nanosPerUnit ∣ d.nanos * tenPow style.places := by
    rw [← tenPow_exactPlaces] at h ⊢
    exact Nat.dvd_mul_left_of_dvd (tenPow_dvd ((Nat.pow_le_pow_iff_right (by decide)).mp h)) _
  have hexact := (d.isNearest_shown style).mul_eq_of_dvd (TimeUnit.nanosPerUnit_pos _) hdvd
  have hpos : (tenPow style.places : ℚ) ≠ 0 := by
    exact_mod_cast Nat.ne_of_gt (tenPow_pos style.places)
  rw [Quantity.nanos, length_fraction_shown, div_mul_eq_mul_div, div_eq_iff hpos]
  exact_mod_cast hexact

/-- **A rendered duration is correctly rounded.** In every style it is a decimal without zeros in
front, with exactly the places asked for and no point if there are none, and the suffix of a unit,
which is the one of the style if that is fixed. The number shown is off by at most half a step of
the last place, no other number of that many places is nearer, and away from the midpoints none is
as near. If a step of the last place is at most a nanosecond, the exact length is shown. -/
theorem render_is_nearest :
    ∃ q : Quantity, Quantity.read (d.render style).toList = some q ∧
      (d.render style).toList = q.text ∧ q.WellWritten ∧ q.fraction.length = style.places ∧
      (∀ unit, style.unit = .fixed unit → q.unit = unit) ∧
      2 * |(q.numerator * q.unit.nanosPerUnit : ℤ) - d.nanos * tenPow style.places| ≤
        q.unit.nanosPerUnit ∧
      (∀ m : ℕ, |(q.numerator * q.unit.nanosPerUnit : ℤ) - d.nanos * tenPow style.places| ≤
        |(m * q.unit.nanosPerUnit : ℤ) - d.nanos * tenPow style.places|) ∧
      ((∀ k, 2 * (d.nanos * tenPow style.places) ≠ (2 * k + 1) * q.unit.nanosPerUnit) →
        ∀ m : ℕ, m ≠ q.numerator →
          |(q.numerator * q.unit.nanosPerUnit : ℤ) - d.nanos * tenPow style.places| <
            |(m * q.unit.nanosPerUnit : ℤ) - d.nanos * tenPow style.places|) ∧
      (q.unit.nanosPerUnit ≤ tenPow style.places → q.nanos = d.nanos) := by
  have hnearest := d.isNearest_shown style
  have hle := hnearest.abs_sub_le
  have hlt := fun hmid (m : ℕ) hne => hnearest.abs_sub_lt hmid (m := m) hne
  unfold IsNearest at hnearest
  push_cast at hnearest hle hlt
  refine ⟨d.shown style, d.read_render style, ?_, d.wellWritten_shown style,
    d.length_fraction_shown style, ?_, hnearest, hle, hlt, d.nanos_shown_of_le style⟩
  · rw [render, String.toList_ofList, renderChars_eq]
  · intro unit hunit
    rw [shown, hunit]
    rfl

end Duration

end OwnedHandles
