/-!
# Powers of two and ten

The two scales of this library: `twoPow` for binary formats and machine words, `tenPow` for decimal
places.
-/

namespace OwnedHandles.Arith

/-- Two to the power `n`. -/
def twoPow (n : Nat) : Nat := Nat.pow 2 n

/-- Ten to the power `n`. -/
def tenPow (n : Nat) : Nat := Nat.pow 10 n

@[simp] theorem twoPow_zero : twoPow 0 = 1 := rfl

@[simp] theorem tenPow_zero : tenPow 0 = 1 := rfl

theorem twoPow_succ (n : Nat) : twoPow (n + 1) = twoPow n * 2 := rfl

theorem tenPow_succ (n : Nat) : tenPow (n + 1) = tenPow n * 10 := rfl

theorem twoPow_pos (n : Nat) : 0 < twoPow n :=
  Nat.two_pow_pos n

theorem tenPow_pos (n : Nat) : 0 < tenPow n :=
  Nat.pow_pos (by decide)

theorem twoPow_add (m n : Nat) : twoPow (m + n) = twoPow m * twoPow n :=
  Nat.pow_add 2 m n

/-- A smaller power of two divides a greater one. -/
theorem twoPow_dvd {m n : Nat} (h : m ≤ n) : twoPow m ∣ twoPow n :=
  Nat.pow_dvd_pow 2 h

/-- A smaller power of ten divides a greater one. -/
theorem tenPow_dvd {m n : Nat} (h : m ≤ n) : tenPow m ∣ tenPow n :=
  Nat.pow_dvd_pow 10 h

theorem twoPow_le {m n : Nat} (h : m ≤ n) : twoPow m ≤ twoPow n :=
  Nat.pow_le_pow_right (by decide) h

/-- The leading bit of a power of two. -/
@[simp] theorem log2_twoPow (n : Nat) : (twoPow n).log2 = n :=
  Nat.log2_two_pow

/-- The leading bit tells which power of two a number stays below. -/
theorem log2_lt_iff {m n : Nat} (h : m ≠ 0) : m.log2 < n ↔ m < twoPow n :=
  Nat.log2_lt h

/-- A number stays below the power of two after its leading bit. -/
theorem lt_twoPow_log2 (n : Nat) : n < twoPow (n.log2 + 1) :=
  Nat.lt_log2_self

end OwnedHandles.Arith
