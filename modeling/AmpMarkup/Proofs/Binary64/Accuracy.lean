import AmpMarkup.Proofs.Binary64.Rounding
import Mathlib.Algebra.Order.Field.Basic
import Mathlib.Data.Nat.Cast.Order.Field
import Mathlib.Data.Nat.Log
import Mathlib.Data.Rat.Cast.Order
import Mathlib.Tactic.FieldSimp
import Mathlib.Tactic.Positivity

namespace AmpMarkup

/-!
# How far rounding can move a number

A number is moved by at most half the distance between its neighbours. That is a small part of the
number itself, or of one where the number is tiny; and no number is moved past a representable one.

* `Binary64.toRat` — the number itself; `Binary64.nearest` — the result of rounding, in units,
  before it is looked at whether it is too large.
* `Binary64.abs_toRat_sub_le` — how far a quotient is moved.
* `Binary64.exists_ofRatio?` — quotients that are not too large.
* `Binary64.nearest_le`, `Binary64.le_nearest` — rounding against a representable number.
* `Binary64.le_roundHalfUp_iff` — what rounding to an integer gives.
-/

/-- The nearest integer is at most a half away. -/
theorem roundHalfEven_near (num : Nat) {den : Nat} (hden : 0 < den) :
    2 * num ≤ 2 * (roundHalfEven num den * den) + den ∧
      2 * (roundHalfEven num den * den) ≤ 2 * num + den := by
  have hdiv : num / den * den + num % den = num := Nat.div_add_mod' num den
  have hmod : num % den < den := Nat.mod_lt num hden
  unfold roundHalfEven
  dsimp only
  generalize num / den = q at *
  generalize num % den = r at *
  split
  · omega
  · split
    · rw [Nat.add_mul]
      omega
    · -- Half way between two integers, the one or the other is taken.
      rcases Nat.mod_two_eq_zero_or_one q with hq | hq
      · rw [hq, Nat.add_zero]
        omega
      · rw [hq, Nat.add_mul]
        omega

namespace Binary64

variable {num den : Nat} {x y : Binary64}

/-- The number as a rational. -/
def toRat (x : Binary64) : ℚ := x.units / one

/-- The number one, in units, is positive as a rational. -/
theorem one_cast_pos : (0 : ℚ) < one := Nat.cast_pos.mpr one_pos

/-- The number one has at least as many units as there are steps between two powers of two. -/
theorem pow_le_one : 2 ^ 52 ≤ one := by decide +kernel

/-- What is out of range begins at twice the power `2 ^ 1023`. -/
theorem limit_eq : limit = 2 * 2 ^ 1023 * one := by decide +kernel

/-- No number is negative. -/
theorem toRat_nonneg (x : Binary64) : 0 ≤ x.toRat := by
  unfold toRat
  positivity

/-- A multiple of one is that natural number. -/
theorem toRat_nat (n : Nat) : toRat ⟨n * one⟩ = n := by
  rw [toRat, Nat.cast_mul, mul_div_cancel_right₀ _ one_cast_pos.ne']

/-- The result of rounding, in units, whether or not it is too large. -/
def nearest (num den : Nat) : Nat :=
  spacing (num * one / den) * roundHalfEven (num * one) (den * spacing (num * one / den))

theorem ofRatio?_eq_ite (num den : Nat) :
    ofRatio? num den = if nearest num den < limit then some ⟨nearest num den⟩ else none := rfl

/-- A result that is in range is the nearest number of units. -/
theorem units_of_ofRatio? (h : ofRatio? num den = some x) : x.units = nearest num den := by
  rw [ofRatio?_eq_ite] at h
  split at h
  · rw [← Option.some.inj h]
  · cases h

/-! ### The distance -/

/-- The distance of two neighbours is a small part of the numbers there. -/
theorem spacing_le (u : Nat) : 2 ^ 52 * spacing u ≤ u + 2 ^ 52 := by
  by_cases hu : u < 2 ^ 53
  · rw [spacing_of_lt hu]
    omega
  · have hlog : 52 ≤ u.log2 := (Nat.le_log2 (by omega)).mpr (by omega)
    have hpow : 2 ^ 52 * 2 ^ (u.log2 - 52) = 2 ^ u.log2 := by
      rw [← Nat.pow_add, Nat.add_sub_cancel' hlog]
    have := Nat.log2_self_le (n := u) (by omega)
    rw [spacing_eq, hpow]
    omega

/-- A quotient is moved by at most half the distance of its neighbours. -/
theorem abs_nearest_sub_le (hden : 0 < den) :
    |(nearest num den : ℚ) / one - num / den| ≤ spacing (num * one / den) / (2 * one) := by
  have hone := one_cast_pos
  have hdenQ : (0 : ℚ) < den := Nat.cast_pos.mpr hden
  obtain ⟨hlo, hhi⟩ := roundHalfEven_near (num * one)
    (Nat.mul_pos hden (spacing_pos (num * one / den)))
  have hunits : roundHalfEven (num * one) (den * spacing (num * one / den)) *
      (den * spacing (num * one / den)) = nearest num den * den := by
    unfold nearest
    ring
  rw [hunits] at hlo hhi
  generalize nearest num den = k at *
  generalize spacing (num * one / den) = step at *
  generalize one = o at *
  have hloQ : (2 : ℚ) * (num * o) ≤ 2 * (k * den) + den * step := by exact_mod_cast hlo
  have hhiQ : (2 : ℚ) * (k * den) ≤ 2 * (num * o) + den * step := by exact_mod_cast hhi
  have hsplit : (k : ℚ) / o - num / den = (k * den - num * o) / (o * den) := by
    field_simp
  have hbound : (step : ℚ) / (2 * o) = step * den / 2 / (o * den) := by
    field_simp
  rw [hsplit, hbound, abs_div, abs_of_pos (mul_pos hone hdenQ)]
  refine div_le_div_of_nonneg_right ?_ (mul_pos hone hdenQ).le
  rw [abs_le]
  constructor <;> linarith

/-- A quotient is moved by a small part of itself, or of one. -/
theorem abs_nearest_sub_le' (num : Nat) (hden : 0 < den) :
    |(nearest num den : ℚ) / one - num / den| ≤ ((num : ℚ) / den + 1) / 2 ^ 53 := by
  have hone := one_cast_pos
  have hdenQ : (0 : ℚ) < den := Nat.cast_pos.mpr hden
  refine (abs_nearest_sub_le hden).trans ?_
  have hstep : (2 : ℚ) ^ 52 * spacing (num * one / den) ≤ (num * one / den : ℕ) + 2 ^ 52 := by
    exact_mod_cast spacing_le _
  have hdiv : ((num * one / den : ℕ) : ℚ) ≤ (num * one : ℕ) / den := Nat.cast_div_le
  have hbig : ((2 ^ 52 : ℕ) : ℚ) ≤ one := Nat.cast_le.mpr pow_le_one
  generalize one = o at *
  generalize spacing (num * o / den) = step at *
  generalize num * o / den = v at *
  push_cast at hdiv hbig
  have hsum : (2 : ℚ) ^ 52 * step ≤ (num / den + 1) * o := by
    calc (2 : ℚ) ^ 52 * step ≤ num * o / den + o := by linarith
      _ = (num / den + 1) * o := by ring
  rw [div_le_div_iff₀ (by positivity) (by positivity)]
  linarith

/-- Rounding a quotient moves it by a small part of itself, or by a small part of one. -/
theorem abs_toRat_sub_le (h : ofRatio? num den = some x) (hden : 0 < den) :
    |x.toRat - num / den| ≤ ((num : ℚ) / den + 1) / 2 ^ 53 := by
  rw [toRat, units_of_ofRatio? h]
  exact abs_nearest_sub_le' _ hden

/-- A quotient below half of the first number that is too large is not too large. -/
theorem exists_ofRatio? (hden : 0 < den) (h : (num : ℚ) / den ≤ 2 ^ 1023) :
    ∃ x, ofRatio? num den = some x := by
  have hone := one_cast_pos
  have hnonneg : (0 : ℚ) ≤ (num : ℚ) / den := div_nonneg (Nat.cast_nonneg _) (Nat.cast_nonneg _)
  have hmoved := (abs_le.mp (abs_nearest_sub_le' num hden)).2
  have hlimit := congrArg (Nat.cast (R := ℚ)) limit_eq
  rw [Nat.cast_mul, Nat.cast_mul, Nat.cast_pow, Nat.cast_ofNat] at hlimit
  have hlarge : (1 : ℚ) ≤ 2 ^ 1023 := one_le_pow₀ one_le_two
  suffices hlt : nearest num den < limit from
    ⟨⟨nearest num den⟩, by rw [ofRatio?_eq_ite, if_pos hlt]⟩
  rw [← Nat.cast_lt (α := ℚ), hlimit, ← div_lt_iff₀ hone]
  generalize (2 : ℚ) ^ 1023 = p at *
  linarith

/-! ### Representable numbers in between -/

/-- Larger numbers do not have fewer binary digits. -/
theorem log2_mono {u v : Nat} (h : u ≤ v) : u.log2 ≤ v.log2 := by
  rw [Nat.log2_eq_log_two, Nat.log2_eq_log_two]
  exact Nat.log_mono_right h

/-- The distance of the neighbours grows with the numbers. -/
theorem spacing_dvd_spacing {u v : Nat} (h : u ≤ v) : spacing u ∣ spacing v := by
  rw [spacing_eq, spacing_eq]
  exact Nat.pow_dvd_pow 2 (Nat.sub_le_sub_right (log2_mono h) 52)

/-- What is not above a representable number is not rounded to more. -/
theorem nearest_le (num : Nat) (hy : y.Representable) (hden : 0 < den)
    (h : num * one ≤ y.units * den) :
    nearest num den ≤ y.units := by
  have hle : num * one / den ≤ y.units := by
    refine Nat.div_le_of_le_mul ?_
    rw [Nat.mul_comm den]
    exact h
  obtain ⟨k, hk⟩ := (spacing_dvd_spacing hle).trans hy.dvd
  have hpos := spacing_pos (num * one / den)
  unfold nearest
  generalize spacing (num * one / den) = step at *
  generalize num * one = a at *
  rw [hk] at h ⊢
  -- In steps of the grid the quotient is at most `k`, and so is the integer near it.
  obtain ⟨-, hhi⟩ := roundHalfEven_near a (Nat.mul_pos hden hpos)
  refine Nat.mul_le_mul_left step (Nat.le_of_lt_succ ?_)
  refine Nat.lt_of_mul_lt_mul_right (a := den * step) ?_
  have hmul : step * k * den = k * (den * step) := by ring
  have hprod := Nat.mul_pos hden hpos
  rw [hmul] at h
  rw [Nat.succ_mul]
  omega

/-- What is not below a representable number is not rounded to less. -/
theorem le_nearest (num : Nat) (hy : y.Representable) (hden : 0 < den)
    (h : y.units * den ≤ num * one) :
    y.units ≤ nearest num den := by
  have hle : y.units ≤ num * one / den := (Nat.le_div_iff_mul_le hden).mpr h
  have hquot : spacing (num * one / den) * (num * one / den / spacing (num * one / den)) ≤
      nearest num den := by
    unfold nearest
    refine Nat.mul_le_mul_left _ ?_
    rw [Nat.div_div_eq_div_mul]
    exact (roundHalfEven_bounds _ _).1
  refine Nat.le_trans ?_ hquot
  generalize num * one / den = v at *
  by_cases hlog : v.log2 = y.units.log2
  · obtain ⟨k, hk⟩ := hy.dvd
    rw [spacing_eq, ← hlog, ← spacing_eq] at hk
    rw [hk] at hle ⊢
    refine Nat.mul_le_mul_left _ ((Nat.le_div_iff_mul_le (spacing_pos v)).mpr ?_)
    rwa [Nat.mul_comm]
  · -- Otherwise a power of two lies between the two, and it is on the grid.
    have hlt : y.units.log2 < v.log2 := Nat.lt_of_le_of_ne (log2_mono hle) (Ne.symm hlog)
    have hv : v ≠ 0 := by
      rintro rfl
      simp at hlt
    have hpow : y.units ≤ 2 ^ v.log2 :=
      Nat.le_of_lt (Nat.lt_of_lt_of_le Nat.lt_log2_self (Nat.pow_le_pow_right (by decide) hlt))
    obtain ⟨k, hk⟩ : spacing v ∣ 2 ^ v.log2 := Nat.pow_dvd_pow 2 (Nat.sub_le _ _)
    refine Nat.le_trans hpow ?_
    have hself := Nat.log2_self_le hv
    rw [hk] at hself ⊢
    refine Nat.mul_le_mul_left _ ((Nat.le_div_iff_mul_le (spacing_pos v)).mpr ?_)
    rwa [Nat.mul_comm]

/-! ### Integers near a number -/

/-- The comparison with a natural number is that of the rationals. -/
theorem leNat_iff {n : Nat} : x.leNat n = true ↔ x.toRat ≤ n := by
  rw [leNat, decide_eq_true_eq, toRat, div_le_iff₀ one_cast_pos]
  exact_mod_cast Iff.rfl

/-- Rounding half up gives the last integer that is at most a half above. -/
theorem le_roundHalfUp_iff {k : Nat} : k ≤ x.roundHalfUp ↔ (k : ℚ) ≤ x.toRat + 1 / 2 := by
  have hone := one_cast_pos
  have hsum : x.toRat + 1 / 2 = (2 * x.units + one) / (2 * one) := by
    unfold toRat
    field_simp
  rw [roundHalfUp, Nat.le_div_iff_mul_le (Nat.mul_pos (by decide) one_pos), hsum,
    le_div_iff₀ (by positivity)]
  exact_mod_cast Iff.rfl

end Binary64

end AmpMarkup
