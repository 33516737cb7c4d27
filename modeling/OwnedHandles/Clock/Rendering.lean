import OwnedHandles.Clock.TimeUnit
import OwnedHandles.Text.Decimal

/-!
# Durations as text

A duration is shown as a decimal and a unit, such as `1.50ms`. The whole part is exact; the fraction
of a unit is taken as a float and rounded to the places asked for, which may carry into the whole
part.

- `RenderStyle`: the unit and the number of places.
- `Magnitude.split`: whole part and fraction of a duration in a unit.
- `UnitChoice.settle`: the unit that is used in the end. Where the choice is left to the duration, a
  whole part that reaches a thousand moves on to a larger unit, so 999999ns is shown as `1.00ms`.
- `Duration.render`: the text.
- `Duration.exactText`: the text with all digits, for dumps.
-/

namespace OwnedHandles

/-- The most places that a style can ask for. -/
def maxPlaces : Nat := 9

/-- How a duration is shown: its unit and the number of digits after the point. -/
structure RenderStyle where
  unit : UnitChoice
  places : Nat
  places_le : places ≤ maxPlaces
  deriving DecidableEq, Repr

namespace RenderStyle

/-- The style with the given unit and, up to the greatest number, so many places. -/
def ofPlaces (unit : UnitChoice) (places : Nat) : RenderStyle :=
  ⟨unit, min places maxPlaces, Nat.min_le_right _ _⟩

/-- The style where none is asked for: the unit that suits the duration, and two places. -/
def default : RenderStyle := ofPlaces .auto 2

instance : Inhabited RenderStyle := ⟨default⟩

/-- The same style in another unit. -/
def withUnit (style : RenderStyle) (unit : UnitChoice) : RenderStyle :=
  { style with unit }

/-- The same style with another number of places. -/
def withPlaces (style : RenderStyle) (places : Nat) : RenderStyle :=
  ofPlaces style.unit places

/-- The style as text. -/
def text (style : RenderStyle) : String :=
  s!"RenderConfig(unit: {style.unit.name}, precision: {style.places})"

end RenderStyle

/-- A duration in a unit: the whole part, and the text of the fraction with its point. -/
structure Magnitude where
  whole : Nat
  fraction : List Char
  deriving DecidableEq, Repr

namespace Magnitude

/-- The fraction of a unit as text: the nanoseconds beyond the whole units over those of one unit,
as a float, with exactly `places` digits. It begins with `1` where it has been rounded up to a whole
unit, else with `0`. -/
def fractionText (nanos : Nat) (unit : TimeUnit) (places : Nat) : List Char :=
  let part := Binary64.ofNat (nanos % unit.nanosPerUnit)
  let one := Binary64.ofNat unit.nanosPerUnit
  (part / one).toFixed places

/-- Whole units and the text of the rest, which has a digit of its own before the point. A rest that
has been rounded up to a whole unit carries. -/
def carry (whole : Nat) : List Char → Magnitude
  | '1' :: rest => ⟨whole + 1, rest⟩
  | text => ⟨whole, text.drop 1⟩

/-- Whole part and fraction of a number of nanoseconds in a unit. -/
def split (nanos : Nat) (unit : TimeUnit) (places : Nat) : Magnitude :=
  carry (nanos / unit.nanosPerUnit) (fractionText nanos unit places)

/-- The digits of a magnitude, then the fraction. -/
def text (m : Magnitude) : List Char :=
  Decimal.digits m.whole ++ m.fraction

end Magnitude

/-- From this whole part on, a larger unit is used if there is one. -/
def promotionBound : Nat := 1000

/-- The unit that a duration is shown in. A fixed unit stays. Else it is the first, from the largest
unit that the duration has at least one of upwards, whose whole part stays below a thousand, and
seconds if there is none. -/
def UnitChoice.settle (choice : UnitChoice) (d : Duration) (places : Nat) : TimeUnit :=
  match choice with
  | .fixed unit => unit
  | .auto =>
    let fits (unit : TimeUnit) : Bool :=
      (Magnitude.split d.nanos unit places).whole < promotionBound
    ((TimeUnit.largestIn d).upward.find? fits).getD .seconds

namespace Duration

/-- The characters of a duration in a style. -/
def renderChars (d : Duration) (style : RenderStyle) : List Char :=
  let unit := style.unit.settle d style.places
  (Magnitude.split d.nanos unit style.places).text ++ unit.suffix.toList

/-- The text of a duration in a style. -/
def render (d : Duration) (style : RenderStyle) : String :=
  String.ofList (d.renderChars style)

/-- The text of a duration where no style is asked for. -/
def display (d : Duration) : String :=
  d.render RenderStyle.default

/-- The places that tell a number of nanoseconds exactly in a unit. -/
def exactPlaces : TimeUnit → Nat
  | .seconds => 9
  | .millis => 6
  | .micros => 3
  | .nanos => 0

/-- A unit is ten to the power of its exact places, in nanoseconds. -/
theorem tenPow_exactPlaces (unit : TimeUnit) :
    Arith.tenPow (exactPlaces unit) = unit.nanosPerUnit := by
  cases unit <;> rfl

/-- The exact length in the largest unit that the duration has at least one of, without zeros at the
end of the fraction. -/
def exactText (d : Duration) : String :=
  let unit := TimeUnit.largestIn d
  let padded := Decimal.padded (exactPlaces unit) (d.nanos % unit.nanosPerUnit)
  let fraction := (padded.reverse.dropWhile (· = '0')).reverse
  let point := if fraction = [] then [] else ['.']
  String.ofList (Decimal.digits (d.nanos / unit.nanosPerUnit) ++ point ++ fraction) ++ unit.suffix

/-- The duration as it stands in a dump of a data structure. -/
def dump (d : Duration) : String :=
  "Duration \x7b inner: " ++ d.exactText ++ " \x7d"

end Duration

end OwnedHandles
