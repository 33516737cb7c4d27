/-!
# Rounding a quotient to the nearest integer

- `roundDiv num den`: the integer nearest to `num / den`; of two equally near ones, the even one.

The rounded quotient is the floor or the floor plus one, and it lies within half a divisor of the
dividend (`roundDiv_le`, `le_roundDiv`). Both bounds are stated without division, so that `omega`
can use them.
-/

namespace OwnedHandles.Arith

/-- The integer nearest to `num / den`, ties going to the even neighbour. -/
def roundDiv (num den : Nat) : Nat :=
  let floor := num / den
  let double := 2 * (num % den)
  if double < den then floor
  else if den < double then floor + 1
  else if floor % 2 = 0 then floor
  else floor + 1

/-- Rounding moves to the floor or one above it. -/
theorem roundDiv_eq_or (num den : Nat) :
    roundDiv num den = num / den ∨ roundDiv num den = num / den + 1 := by
  unfold roundDiv
  grind

/-- Rounding up is by at most half the divisor. -/
theorem roundDiv_le {num den : Nat} (h : 0 < den) :
    2 * (roundDiv num den * den) ≤ 2 * num + den := by
  have hdiv : num / den * den + num % den = num := Nat.div_add_mod' num den
  have hmod : num % den < den := Nat.mod_lt _ h
  have hup : (num / den + 1) * den = num / den * den + den := by rw [Nat.add_mul, Nat.one_mul]
  unfold roundDiv
  grind

/-- Rounding down is by at most half the divisor. -/
theorem le_roundDiv {num den : Nat} (h : 0 < den) :
    2 * num ≤ 2 * (roundDiv num den * den) + den := by
  have hdiv : num / den * den + num % den = num := Nat.div_add_mod' num den
  have hmod : num % den < den := Nat.mod_lt _ h
  have hup : (num / den + 1) * den = num / den * den + den := by rw [Nat.add_mul, Nat.one_mul]
  unfold roundDiv
  grind

/-- A multiple of the divisor is its own rounding. -/
@[simp] theorem roundDiv_mul_self {den : Nat} (n : Nat) (h : 0 < den) :
    roundDiv (n * den) den = n := by
  simp [roundDiv, Nat.mul_div_cancel n h, Nat.mul_mod_left, h]

/-- A quotient that is at most `n` also rounds to at most `n`. -/
theorem roundDiv_le_of_le_mul {num den n : Nat} (h : 0 < den) (hle : num ≤ n * den) :
    roundDiv num den ≤ n := by
  rcases Nat.lt_or_ge num (n * den) with hlt | hge
  · have hfloor : num / den < n := (Nat.div_lt_iff_lt_mul h).2 hlt
    rcases roundDiv_eq_or num den with e | e <;> omega
  · have hnum : num = n * den := Nat.le_antisymm hle hge
    exact Nat.le_of_eq (hnum ▸ roundDiv_mul_self n h)

end OwnedHandles.Arith
