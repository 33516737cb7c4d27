import Mathlib.Data.List.Basic
import Mathlib.Tactic.Ring
import OwnedHandles.Text.Decimal

/-!
# Reading decimal digits back

- `Decimal.ofDigitChars_digits`, `Decimal.ofDigitChars_padded`: the digits of a number are read as
  that number.
- `Decimal.IsCanonical`: a whole number as it is written, without zeros in front.
- `Decimal.isCanonical_digits`: that is how numerals are written here.
- `Decimal.behindPoint`: digits after the point, with the point.
-/

namespace OwnedHandles.Decimal

open Arith

/-- A whole number as it is written: digits, at least one, and no zero in front of others. -/
structure IsCanonical (text : List Char) : Prop where
  isDigit : ∀ c ∈ text, c.isDigit = true
  ne_nil : text ≠ []
  eq_zero : text.head? = some '0' → text = ['0']

/-! ## Whole numbers -/

theorem isDigit_of_mem_digits {n : ℕ} {c : Char} (h : c ∈ digits n) : c.isDigit = true :=
  Nat.isDigit_of_mem_toDigits (by decide) (by decide) h

theorem digits_of_lt {n : ℕ} (h : n < 10) : digits n = [Nat.digitChar n] :=
  Nat.toDigits_of_lt_base h

theorem digits_of_le {n : ℕ} (h : 10 ≤ n) :
    digits n = digits (n / 10) ++ [Nat.digitChar (n % 10)] :=
  Nat.toDigits_of_base_le (by decide) h

theorem digits_ne_nil (n : ℕ) : digits n ≠ [] :=
  List.ne_nil_of_length_pos Nat.length_toDigits_pos

/-- The digits of a number are read as that number. -/
@[simp] theorem ofDigitChars_digits (n : ℕ) : Nat.ofDigitChars 10 (digits n) 0 = n :=
  Nat.ofDigitChars_toDigits (by decide) (by decide)

/-- A digit that is zero stands for zero. -/
theorem eq_zero_of_digitChar {n : ℕ} (hlt : n < 10) (h : Nat.digitChar n = '0') : n = 0 := by
  have hvalue := ofDigitChars_digits n
  rw [digits_of_lt hlt, h] at hvalue
  exact hvalue.symm

/-- Only zero begins with a zero. -/
theorem head?_digits_ne {n : ℕ} (h : 0 < n) : (digits n).head? ≠ some '0' := by
  induction n using Nat.strong_induction_on with
  | _ n ih =>
    rcases Nat.lt_or_ge n 10 with hlt | hge
    · rw [digits_of_lt hlt]
      intro hhead
      exact Nat.ne_of_gt h (eq_zero_of_digitChar hlt (Option.some.inj hhead))
    · have hpos : 0 < n / 10 := Nat.div_pos hge (by decide)
      rw [digits_of_le hge, List.head?_append_of_ne_nil _ (digits_ne_nil _)]
      exact ih (n / 10) (Nat.div_lt_self h (by decide)) hpos

/-- **Numerals are written without zeros in front.** -/
theorem isCanonical_digits (n : ℕ) : IsCanonical (digits n) where
  isDigit _ := isDigit_of_mem_digits
  ne_nil := digits_ne_nil n
  eq_zero hhead := by
    rcases Nat.eq_zero_or_pos n with rfl | hpos
    · rfl
    · exact absurd hhead (head?_digits_ne hpos)

/-! ## Digits after the point -/

theorem isDigit_of_mem_padded {width n : ℕ} {c : Char} (h : c ∈ padded width n) :
    c.isDigit = true := by
  induction width generalizing n with
  | zero => cases h
  | succ width ih =>
    rcases List.mem_append.mp h with h | h
    · exact ih h
    · obtain rfl := List.mem_singleton.mp h
      rw [Nat.isDigit_digitChar]
      exact decide_eq_true (Nat.mod_lt _ (by decide))

/-- The last digits of a number are read as its remainder, behind what has been read before. -/
theorem ofDigitChars_padded (width n before : ℕ) :
    Nat.ofDigitChars 10 (padded width n) before =
      before * tenPow width + n % tenPow width := by
  induction width generalizing n with
  | zero =>
    show before = before * 1 + n % 1
    rw [Nat.mul_one, Nat.mod_one, Nat.add_zero]
  | succ width ih =>
    have hdigit : Nat.ofDigitChars 10 [Nat.digitChar (n % 10)] 0 = n % 10 := by
      rw [← digits_of_lt (Nat.mod_lt n (by decide)), ofDigitChars_digits]
    rw [Nat.ofDigitChars_cons, Nat.ofDigitChars_nil, Nat.mul_zero, Nat.zero_add] at hdigit
    rw [padded, Nat.ofDigitChars_append, ih, Nat.ofDigitChars_cons, Nat.ofDigitChars_nil, hdigit,
      tenPow_succ, Nat.mul_comm (tenPow width) 10, Nat.mod_mul]
    ring

/-- Digits with a point in front; no point if there are none. -/
def behindPoint (digits : List Char) : List Char :=
  if digits = [] then [] else '.' :: digits

@[simp] theorem behindPoint_nil : behindPoint [] = [] := rfl

theorem behindPoint_of_ne_nil {digits : List Char} (h : digits ≠ []) :
    behindPoint digits = '.' :: digits :=
  if_neg h

/-- There is a point iff there are digits after it. -/
theorem fraction_eq (places n : ℕ) : fraction places n = behindPoint (padded places n) := by
  cases places with
  | zero => rfl
  | succ places =>
    have hne : padded (places + 1) n ≠ [] :=
      List.ne_nil_of_length_eq_add_one (length_padded (places + 1) n)
    rw [behindPoint_of_ne_nil hne, fraction, if_neg (Nat.succ_ne_zero places)]

/-- The digits of zero. -/
theorem padded_zero (width : ℕ) : padded width 0 = List.replicate width '0' := by
  induction width with
  | zero => rfl
  | succ width ih =>
    rw [padded, Nat.zero_div, ih, List.replicate_succ']
    rfl

end OwnedHandles.Decimal
