import OwnedHandles.Arith.Binary64

/-!
# Decimal digits

- `Decimal.digits n`: the decimal numeral of `n`, without leading zeros.
- `Decimal.padded width n`: the last `width` digits of `n`, zeros in front.
- `Decimal.fixed whole fraction places`: a numeral, and for `places > 0` a point and so many digits.
- `Binary64.toFixed`: the exact value of a float, rounded to a number of places, ties to even.
-/

namespace OwnedHandles

open Arith (tenPow)

namespace Decimal

/-- The decimal numeral of a natural number: no leading zero, and one digit for zero itself. -/
def digits (n : Nat) : List Char :=
  Nat.toDigits 10 n

/-- The last `width` decimal digits of `n`, filled with zeros in front. -/
def padded : Nat → Nat → List Char
  | 0, _ => []
  | width + 1, n => padded width (n / 10) ++ [Nat.digitChar (n % 10)]

@[simp] theorem length_padded (width n : Nat) : (padded width n).length = width := by
  induction width generalizing n with
  | zero => rfl
  | succ width ih => simp [padded, ih]

/-- The digits after the point, with the point; nothing at all for zero places. -/
def fraction (places n : Nat) : List Char :=
  if places = 0 then [] else '.' :: padded places n

/-- The numeral of `n` over ten to the power `places`, with exactly `places` digits after the
point. -/
def fixed (places n : Nat) : List Char :=
  digits (n / tenPow places) ++ fraction places (n % tenPow places)

end Decimal

/-- Text with exactly `places` digits after the point: the exact value of the float rounded to the
nearest such decimal, ties to the even digit. -/
def Binary64.toFixed (x : Binary64) (places : Nat) : List Char :=
  Decimal.fixed places (x.scaled places)

end OwnedHandles
