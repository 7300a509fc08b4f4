import Mathlib.Data.Rat.Floor

/-
  IEEE 754 binary64 as a rounding of the rationals: `round q` is the double nearest to `q`,
  ties to even, as `strconv.ParseFloat(s, 64)` computes it from the decimal `s` denoting
  `q`. A double has 53 significant bits, and below `2^-1022` a fixed quantum of `2^-1074`.
  A `q` that rounds beyond the largest finite double gives no double (`ParseFloat` then
  returns an infinity and `ErrRange`).

  Integers up to `2^53` in absolute value are doubles. Larger ones need not be:
  `2^53 + 1` rounds to `2^53`.
-/

namespace Binary64

/-- Round half to even: the nearest integer, and of two equally near the even one. -/
def roundHalfEven (x : ℚ) : Int :=
  let f := ⌊x⌋
  let r := x - f
  if r < 1 / 2 then f else if 1 / 2 < r then f + 1 else if f % 2 = 0 then f else f + 1

/-- `⌊log₂ a⌋` of a positive rational, from the bit lengths of its numerator and
    denominator, which fix it up to one. -/
def exponent (a : ℚ) : Int :=
  let e : Int := (a.num.natAbs.log2 : Int) - (a.den.log2 : Int)
  if (2 : ℚ) ^ e ≤ a then e else e - 1

/-- The exponent of the last significant bit of a double near the positive `a`. -/
def quantumExponent (a : ℚ) : Int :=
  max (exponent a) (-1022) - 52

/-- The double nearest to `q`, ties to even, or none when `q` rounds to an infinity. -/
def round (q : ℚ) : Option ℚ :=
  if q = 0 then some 0
  else
    let k := quantumExponent |q|
    let v : ℚ := roundHalfEven (|q| / 2 ^ k) * 2 ^ k
    if (2 : ℚ) ^ 1024 ≤ v then none else some (if q < 0 then -v else v)

example : round (2 ^ 53 + 1) = some (2 ^ 53) := by decide +kernel

example : round (1 / 10) = some (3602879701896397 / 36028797018963968) := by decide +kernel

@[simp] theorem roundHalfEven_intCast (z : ℤ) : roundHalfEven z = z := by
  simp [roundHalfEven]

/-- A nonzero `q` that is a whole multiple of its quantum, below the overflow bound, is a
    double. -/
theorem round_of_eq_mul {q : ℚ} (hq : q ≠ 0) {m : ℤ}
    (hm : |q| = m * 2 ^ quantumExponent |q|) (hlt : |q| < 2 ^ 1024) : round q = some q := by
  have hpow : (2 : ℚ) ^ quantumExponent |q| ≠ 0 := zpow_ne_zero _ two_ne_zero
  have hdiv : |q| / 2 ^ quantumExponent |q| = m := by
    rw [div_eq_iff hpow]
    exact hm
  have hv : (roundHalfEven (|q| / 2 ^ quantumExponent |q|) : ℚ) * 2 ^ quantumExponent |q| = |q| := by
    rw [hdiv, roundHalfEven_intCast]
    exact hm.symm
  simp only [round, hq, if_false, hv, not_le.mpr hlt, Option.some.injEq]
  rcases lt_or_gt_of_ne hq with hneg | hpos
  · rw [if_pos hneg, abs_of_neg hneg, neg_neg]
  · rw [if_neg (not_lt.mpr hpos.le), abs_of_pos hpos]

theorem exponent_natCast {n : ℕ} (hn : n ≠ 0) : exponent n = n.log2 := by
  have hle : (2 : ℚ) ^ n.log2 ≤ n := by
    exact_mod_cast Nat.log2_self_le hn
  have hone : Nat.log2 1 = 0 := by decide
  simp [exponent, hone, hle]

/-- Integers up to `2^53` in absolute value are doubles. -/
theorem round_intCast {z : ℤ} (hz : z.natAbs ≤ 2 ^ 53) : round (z : ℚ) = some (z : ℚ) := by
  by_cases hz0 : z = 0
  · simp [round, hz0]
  have hn : z.natAbs ≠ 0 := Int.natAbs_ne_zero.mpr hz0
  have habs : |(z : ℚ)| = (z.natAbs : ℚ) := by
    rw [← Int.cast_abs, Int.abs_eq_natAbs, Int.cast_natCast]
  have hlog : z.natAbs.log2 < 54 := (Nat.log2_lt hn).mpr (by omega)
  have hk : quantumExponent |(z : ℚ)| = (z.natAbs.log2 : ℤ) - 52 := by
    rw [quantumExponent, habs, exponent_natCast hn]
    omega
  have hq : (z : ℚ) ≠ 0 := Int.cast_ne_zero.mpr hz0
  have hlt : |(z : ℚ)| < 2 ^ 1024 := by
    have hbound : (2 : ℕ) ^ 53 < 2 ^ 1024 := Nat.pow_lt_pow_right (by norm_num) (by norm_num)
    rw [habs]
    exact_mod_cast lt_of_le_of_lt hz hbound
  by_cases hsmall : z.natAbs.log2 ≤ 52
  · -- the quantum is at most 1: `z` is `z * 2^(52 - e)` quanta
    have hexp : ((z.natAbs.log2 : ℤ) - 52) = -((52 - z.natAbs.log2 : ℕ) : ℤ) := by omega
    have hm : |(z : ℚ)| = (((z.natAbs * 2 ^ (52 - z.natAbs.log2) : ℕ) : ℤ) : ℚ) *
        2 ^ quantumExponent |(z : ℚ)| := by
      rw [hk, hexp, zpow_neg, zpow_natCast, habs, Int.cast_natCast, Nat.cast_mul, Nat.cast_pow,
        Nat.cast_ofNat, mul_inv_cancel_right₀ (pow_ne_zero _ two_ne_zero)]
    exact round_of_eq_mul hq hm hlt
  · -- `z` is `±2^53`, two quanta of `2^52`
    have htop : z.natAbs = 2 ^ 53 := by
      have hself := Nat.log2_self_le hn
      have h53 : 53 ≤ z.natAbs.log2 := by omega
      exact le_antisymm hz (le_trans (Nat.pow_le_pow_right (by norm_num) h53) hself)
    have hm : |(z : ℚ)| = ((2 ^ 52 : ℤ) : ℚ) * 2 ^ quantumExponent |(z : ℚ)| := by
      have hlog53 : Nat.log2 (2 ^ 53) = 53 := by decide
      rw [hk, habs, htop, hlog53]
      norm_num
    exact round_of_eq_mul hq hm hlt

end Binary64
