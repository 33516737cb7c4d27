import Mathlib.Algebra.Order.Ring.Abs
import Mathlib.Algebra.Order.Ring.Int
import Mathlib.Tactic.Linarith
import Mathlib.Tactic.Positivity
import Mathlib.Tactic.Ring
import OwnedHandles.Arith.Nearest

/-!
# Nearest whole numbers

- `IsNearest num den n`: `n` is a whole number nearest to `num / den`, ties left open. `roundDiv` is
  one.
- `IsNearest.abs_sub_le`, `IsNearest.abs_sub_lt`: no other whole number is nearer, and away from the
  midpoints none is as near.
- `IsNearest.le_of_lt`: rounding keeps the order.
- `IsNearest.of_approx`: a quotient may be rounded twice. If it is known to more bits than the least
  common multiple of the two grids has, the first rounding moves it across no midpoint.
-/

namespace OwnedHandles.Arith

/-- `n` is a whole number nearest to `num / den`. -/
def IsNearest (num den n : ℕ) : Prop :=
  2 * |(n * den : ℤ) - num| ≤ den

theorem isNearest_iff {num den n : ℕ} :
    IsNearest num den n ↔ 2 * (n * den) ≤ 2 * num + den ∧ 2 * num ≤ 2 * (n * den) + den := by
  unfold IsNearest
  rw [← Nat.cast_mul]
  rcases abs_cases (((n * den : ℕ) : ℤ) - num) with ⟨habs, hsign⟩ | ⟨habs, hsign⟩
  · rw [habs]
    omega
  · rw [habs]
    omega

theorem isNearest_roundDiv (num : ℕ) {den : ℕ} (h : 0 < den) :
    IsNearest num den (roundDiv num den) :=
  isNearest_iff.mpr ⟨roundDiv_le h, le_roundDiv h⟩

variable {num den n : ℕ}

/-- Two different multiples of the divisor are a divisor apart, so one of them is at least half a
divisor away. -/
theorem le_abs_sub_add_abs_sub {m : ℕ} (hne : m ≠ n) (num den : ℕ) :
    (den : ℤ) ≤ |(m * den : ℤ) - num| + |(n * den : ℤ) - num| := by
  have hgap : (1 : ℤ) ≤ |(m : ℤ) - n| := by
    have hsub : (m : ℤ) - n ≠ 0 := by omega
    exact Int.one_le_abs hsub
  calc (den : ℤ) = 1 * den := by ring
    _ ≤ |(m : ℤ) - n| * den := mul_le_mul_of_nonneg_right hgap (by positivity)
    _ = |((m : ℤ) - n) * den| := by rw [abs_mul, Nat.abs_cast]
    _ = |((m * den : ℤ) - num) - ((n * den : ℤ) - num)| := by ring_nf
    _ ≤ |(m * den : ℤ) - num| + |(n * den : ℤ) - num| := abs_sub _ _

/-- **No whole number is nearer.** -/
theorem IsNearest.abs_sub_le (h : IsNearest num den n) (m : ℕ) :
    |(n * den : ℤ) - num| ≤ |(m * den : ℤ) - num| := by
  by_cases hm : m = n
  · rw [hm]
  · have hgap := le_abs_sub_add_abs_sub hm num den
    unfold IsNearest at h
    linarith

/-- **Away from the midpoints, no other whole number is as near.** -/
theorem IsNearest.abs_sub_lt (h : IsNearest num den n)
    (hmid : ∀ k, 2 * num ≠ (2 * k + 1) * den) {m : ℕ} (hne : m ≠ n) :
    |(n * den : ℤ) - num| < |(m * den : ℤ) - num| := by
  refine lt_of_le_of_ne (h.abs_sub_le m) fun heq => ?_
  -- both would be half a divisor away, the quotient half way above the smaller one
  have hgap := le_abs_sub_add_abs_sub hne num den
  have hm : IsNearest num den m := by
    unfold IsNearest at h ⊢
    rwa [← heq]
  obtain ⟨hup, hdown⟩ := isNearest_iff.mp h
  obtain ⟨hup', hdown'⟩ := isNearest_iff.mp hm
  rcases Nat.lt_or_gt_of_ne hne with hlt | hlt
  · have hsucc : (m + 1) * den ≤ n * den := Nat.mul_le_mul_right den hlt
    refine hmid m ?_
    linarith
  · have hsucc : (n + 1) * den ≤ m * den := Nat.mul_le_mul_right den hlt
    refine hmid n ?_
    linarith

/-- A quotient below the midpoint above `k` is rounded to at most `k`. -/
theorem IsNearest.le_of_lt_mid (h : IsNearest num den n) {k : ℕ}
    (hlt : 2 * num < (2 * k + 1) * den) : n ≤ k := by
  obtain ⟨hup, -⟩ := isNearest_iff.mp h
  by_contra hgt
  have hsucc : (k + 1) * den ≤ n * den := Nat.mul_le_mul_right den (Nat.lt_of_not_le hgt)
  linarith

/-- A quotient above the midpoint below `k` is rounded to at least `k`. -/
theorem IsNearest.le_of_mid_lt (h : IsNearest num den n) {k : ℕ}
    (hlt : 2 * k * den < 2 * num + den) : k ≤ n := by
  obtain ⟨-, hdown⟩ := isNearest_iff.mp h
  by_contra hgt
  have hsucc : (n + 1) * den ≤ k * den := Nat.mul_le_mul_right den (Nat.lt_of_not_le hgt)
  linarith

/-- Whole numbers are added before or after the rounding alike. -/
theorem IsNearest.add_mul (h : IsNearest num den n) (k : ℕ) :
    IsNearest (k * den + num) den (k + n) := by
  obtain ⟨hup, hdown⟩ := isNearest_iff.mp h
  refine isNearest_iff.mpr ⟨?_, ?_⟩
  · linarith
  · linarith

/-- A whole quotient is its own nearest number. -/
theorem IsNearest.mul_eq_of_dvd (h : IsNearest num den n) (hden : 0 < den) (hdvd : den ∣ num) :
    n * den = num := by
  obtain ⟨c, rfl⟩ := hdvd
  have hle : n ≤ c := h.le_of_lt_mid (by linarith)
  have hge : c ≤ n := h.le_of_mid_lt (by linarith)
  rw [Nat.le_antisymm hle hge, Nat.mul_comm]

/-- **Rounding keeps the order.** -/
theorem IsNearest.le_of_lt {num' n' : ℕ} (h : IsNearest num den n) (h' : IsNearest num' den n')
    (hlt : num < num') : n ≤ n' := by
  obtain ⟨-, hdown⟩ := isNearest_iff.mp h'
  exact h.le_of_lt_mid (by linarith)

/-- What two roundings are off by together, in steps of a grid that both share: the second one by
half a step of its own, the first one by one part in `2 * bits`. -/
theorem abs_sub_le_of_two_roundings {g c p a x one bits s : ℕ} (hone : 0 < one)
    (happrox : 2 * |(x * (g * c) : ℤ) - a * one| * bits ≤ g * c * one)
    (hs : 2 * |(s * one : ℤ) - x * (g * p)| ≤ one) :
    2 * |(s * c : ℤ) - a * p| * bits ≤ c * bits + g * c * p := by
  zify at hone
  have hsplit : (one : ℤ) * (s * c - a * p) =
      c * (s * one - x * (g * p)) + p * (x * (g * c) - a * one) := by ring
  have hsum : (one : ℤ) * |(s * c : ℤ) - a * p| ≤
      c * |(s * one : ℤ) - x * (g * p)| + p * |(x * (g * c) : ℤ) - a * one| := by
    calc (one : ℤ) * |(s * c : ℤ) - a * p| = |(one : ℤ) * (s * c - a * p)| := by
          rw [abs_mul, Nat.abs_cast]
      _ ≤ |(c : ℤ) * (s * one - x * (g * p))| + |(p : ℤ) * (x * (g * c) - a * one)| := by
          rw [hsplit]
          exact abs_add_le _ _
      _ = c * |(s * one : ℤ) - x * (g * p)| + p * |(x * (g * c) : ℤ) - a * one| := by
          rw [abs_mul, abs_mul, Nat.abs_cast, Nat.abs_cast]
  refine le_of_mul_le_mul_left ?_ hone
  calc (one : ℤ) * (2 * |(s * c : ℤ) - a * p| * bits)
      = 2 * bits * (one * |(s * c : ℤ) - a * p|) := by ring
    _ ≤ 2 * bits * (c * |(s * one : ℤ) - x * (g * p)| + p * |(x * (g * c) : ℤ) - a * one|) :=
        mul_le_mul_of_nonneg_left hsum (by positivity)
    _ = c * bits * (2 * |(s * one : ℤ) - x * (g * p)|) +
          p * (2 * |(x * (g * c) : ℤ) - a * one| * bits) := by ring
    _ ≤ c * bits * one + p * (g * c * one) :=
        add_le_add (mul_le_mul_of_nonneg_left hs (by positivity))
          (mul_le_mul_of_nonneg_left happrox (by positivity))
    _ = one * (c * bits + g * c * p) := by ring

/-- The least common multiple is the shared part times what each of the two has of its own. -/
theorem gcd_mul_mul_eq_lcm {b scale c p : ℕ} (hb : 0 < b) (hc : b = b.gcd scale * c)
    (hp : scale = b.gcd scale * p) : b.gcd scale * c * p = b.lcm scale := by
  refine Nat.eq_of_mul_eq_mul_left (Nat.gcd_pos_of_pos_left scale hb) ?_
  calc b.gcd scale * (b.gcd scale * c * p) = b.gcd scale * c * (b.gcd scale * p) := by ring
    _ = b * scale := by rw [← hc, ← hp]
    _ = b.gcd scale * b.lcm scale := (Nat.gcd_mul_lcm b scale).symm

/-- **Rounding twice is as good as rounding once.** Let `x / one` approximate `a / b` to one part in
`2 * bits`, where `bits` exceeds the least common multiple of `b` and `scale`. Then a nearest whole
number to `scale` times the approximation is one to `scale` times the quotient. -/
theorem IsNearest.of_approx {a b x one bits scale s : ℕ} (hone : 0 < one) (hb : 0 < b)
    (hlcm : b.lcm scale < bits) (happrox : 2 * |(x * b : ℤ) - a * one| * bits ≤ b * one)
    (hs : IsNearest (x * scale) one s) : IsNearest (a * scale) b s := by
  obtain ⟨c, hc⟩ := b.gcd_dvd_left scale
  obtain ⟨p, hp⟩ := b.gcd_dvd_right scale
  rw [← gcd_mul_mul_eq_lcm hb hc hp] at hlcm
  generalize b.gcd scale = g at hc hp hlcm
  subst hc hp
  zify at hlcm
  unfold IsNearest at hs ⊢
  push_cast at happrox hs ⊢
  -- the error is a whole number of steps, and less than half a step more than half of `c`
  have herror := abs_sub_le_of_two_roundings hone happrox hs
  have hsteps : 2 * |(s * c : ℤ) - a * p| ≤ c := by
    have hlt : 2 * |(s * c : ℤ) - a * p| * bits < (c + 1) * bits := by linarith
    have hbits : (0 : ℤ) ≤ bits := by positivity
    exact Int.lt_add_one_iff.mp (lt_of_mul_lt_mul_right hlt hbits)
  calc 2 * |(s * (g * c) : ℤ) - a * (g * p)| = g * (2 * |(s * c : ℤ) - a * p|) := by
        have hgrid : (s * (g * c) : ℤ) - a * (g * p) = g * (s * c - a * p) := by ring
        rw [hgrid, abs_mul, Nat.abs_cast]
        ring
    _ ≤ g * c := mul_le_mul_of_nonneg_left hsteps (by positivity)

end OwnedHandles.Arith
