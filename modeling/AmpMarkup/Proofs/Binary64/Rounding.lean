import AmpMarkup.Binary64.Shortest
import Mathlib.Tactic.Linarith
import Mathlib.Tactic.Ring

namespace AmpMarkup

/-!
# Rounding to binary64 numbers

A quotient is rounded on the grid of the numbers near it. How wide that grid is depends on the
quotient and not on the number that comes out, and the two differ where the quotient lies directly
below a power of two.

* `roundHalfEven_eq` — what the nearest integer is, halves to even.
* `Binary64.Representable` — the numbers that have 53 binary digits; `representable_of_ofRatio?`.
* `Binary64.ofRatio?_eq` — a quotient in the interval of a number is rounded to it.
* `Binary64.ofRatio?_of_exact`, `Binary64.ofDecimal?_of_readsBack` — in particular the number
  itself, and the decimals that read back as it.
-/

/-! ### Integers -/

/-- The nearest integer is the one at most a half away, and even where it is a half away. -/
theorem roundHalfEven_eq {num den m : Nat} (hden : 0 < den)
    (hlo : 2 * (m * den) ≤ 2 * num + den) (hhi : 2 * num ≤ 2 * (m * den) + den)
    (heven : 2 * (m * den) = 2 * num + den ∨ 2 * num = 2 * (m * den) + den → m % 2 = 0) :
    roundHalfEven num den = m := by
  have hdiv : num / den * den + num % den = num := Nat.div_add_mod' num den
  have hmod : num % den < den := Nat.mod_lt num hden
  unfold roundHalfEven
  dsimp only
  generalize num / den = q at *
  generalize num % den = r at *
  -- The integer part is `m`, or it is one less.
  have hq : q = m ∨ q + 1 = m := by
    rcases Nat.lt_trichotomy q m with hlt | heq | hgt
    · refine .inr (by_contra fun hne => ?_)
      have hstep : (q + 2) * den ≤ m * den := Nat.mul_le_mul_right den (by omega)
      rw [Nat.add_mul] at hstep
      omega
    · exact .inl heq
    · have hstep : (m + 1) * den ≤ q * den := Nat.mul_le_mul_right den hgt
      rw [Nat.add_mul] at hstep
      omega
  -- Then the remainder is at most a half, and nothing is added, or at least a half, and one is.
  rcases hq with rfl | rfl
  · split
    · rfl
    · split
      · omega
      · have := heven (.inr (by omega))
        omega
  · rw [Nat.add_mul] at hlo hhi heven
    split
    · omega
    · split
      · rfl
      · have := heven (.inl (by omega))
        omega

/-- Rounding goes to one of the two integers around. -/
theorem roundHalfEven_bounds (num den : Nat) :
    num / den ≤ roundHalfEven num den ∧ roundHalfEven num den ≤ num / den + 1 := by
  unfold roundHalfEven
  dsimp only
  split
  · omega
  · split <;> omega

namespace Binary64

theorem spacing_eq (u : Nat) : spacing u = 2 ^ (u.log2 - 52) := rfl

/-- The steps of the grid have a positive length. -/
theorem spacing_pos (u : Nat) : 0 < spacing u := Nat.two_pow_pos _

/-- The number one as a power of two. -/
theorem one_eq : one = 2 ^ 1074 := by decide +kernel

/-- The number one is not zero. -/
theorem one_pos : 0 < one := by decide +kernel

/-- All 32-bit natural numbers are in range. -/
theorem one_lt_limit : 4294967295 * one < limit := by decide +kernel

/-- Small numbers of units are one unit apart. -/
theorem spacing_of_lt {u : Nat} (h : u < 2 ^ 53) : spacing u = 1 := by
  rw [spacing_eq, show u.log2 - 52 = 0 from ?_, Nat.pow_zero]
  by_cases hu : u = 0
  · rw [hu, Nat.log2_zero]
  · have := (Nat.log2_lt hu).mpr h
    omega

/-! ### Representable numbers -/

/-- The number has at most 53 binary digits and is not too large. -/
structure Representable (x : Binary64) : Prop where
  dvd : spacing x.units ∣ x.units
  lt : x.units < limit

/-- Integers of at most 53 digits times a power of two are representable. -/
theorem spacing_dvd_of_le {e q : Nat} (hq : q ≤ 2 ^ 53) : spacing (2 ^ e * q) ∣ 2 ^ e * q := by
  by_cases hzero : q = 0
  · rw [hzero, Nat.mul_zero]
    exact Nat.dvd_zero _
  have hne : 2 ^ e * q ≠ 0 := by positivity
  have hlog : (2 ^ e * q).log2 = e + q.log2 := by
    rw [Nat.log2_eq_iff hne, Nat.add_assoc, Nat.pow_add, Nat.pow_add 2 e]
    exact ⟨Nat.mul_le_mul_left _ (Nat.log2_self_le hzero),
      Nat.mul_lt_mul_of_pos_left Nat.lt_log2_self (Nat.two_pow_pos e)⟩
  rw [spacing_eq, hlog]
  rcases Nat.lt_or_eq_of_le hq with hlt | rfl
  · have := (Nat.log2_lt hzero).mpr hlt
    exact Nat.dvd_trans (Nat.pow_dvd_pow 2 (by omega)) (Nat.dvd_mul_right _ _)
  · rw [Nat.log2_two_pow, ← Nat.pow_add]
    exact Nat.pow_dvd_pow 2 (by omega)

/-- Every result of rounding is representable. -/
theorem representable_of_ofRatio? {num den : Nat} {x : Binary64} (h : ofRatio? num den = some x) :
    x.Representable := by
  unfold ofRatio? at h
  dsimp only at h
  split at h
  · rename_i hlt
    obtain rfl := Option.some.inj h
    refine ⟨?_, hlt⟩
    have hround := (roundHalfEven_bounds (num * one) (den * spacing (num * one / den))).2
    rw [← Nat.div_div_eq_div_mul] at hround
    generalize num * one / den = v at *
    simp only [spacing_eq] at hround ⊢
    -- The step leaves at most 53 digits of the quotient.
    have hquot : v / 2 ^ (v.log2 - 52) < 2 ^ 53 := by
      rw [Nat.div_lt_iff_lt_mul (Nat.two_pow_pos _), ← Nat.pow_add]
      exact Nat.lt_of_lt_of_le Nat.lt_log2_self (Nat.pow_le_pow_right (by decide) (by omega))
    exact spacing_dvd_of_le (by omega)
  · exact absurd h (by simp)

/-- The natural numbers of 32 digits are representable. -/
theorem representable_nat {n : Nat} (hn : n ≤ 4294967295) : Representable ⟨n * one⟩ := by
  constructor
  · rw [Nat.mul_comm, one_eq]
    exact spacing_dvd_of_le (by omega)
  · exact Nat.lt_of_le_of_lt (Nat.mul_le_mul_right one hn) one_lt_limit

/-! ### The interval of a number -/

/-- A bound that counts itself or not, as an inequality. -/
theorem below_iff {ends : Bool} {a b : Nat} :
    below ends a b = true ↔ a ≤ b ∧ (a = b → ends = true) := by
  simp only [below, Bool.or_eq_true, decide_eq_true_eq, Bool.and_eq_true]
  constructor
  · rintro (hlt | ⟨hends, heq⟩)
    · exact ⟨Nat.le_of_lt hlt, fun heq => absurd heq (by omega)⟩
    · exact ⟨by omega, fun _ => hends⟩
  · rintro ⟨hle, hends⟩
    rcases Nat.lt_or_eq_of_le hle with hlt | heq
    · exact .inl hlt
    · exact .inr ⟨hends heq, heq⟩

/-- `num / den` units lie in the interval of reals that round to `x`. -/
structure Holds (x : Binary64) (num den : Nat) : Prop where
  lower : (4 * x.units - x.quartersBelow) * den ≤ 4 * num
  upper : 4 * num ≤ (4 * x.units + x.quartersAbove) * den
  lower_end : (4 * x.units - x.quartersBelow) * den = 4 * num → x.endsRound = true
  upper_end : 4 * num = (4 * x.units + x.quartersAbove) * den → x.endsRound = true

/-- The interval of a number goes down by half a step at most. -/
theorem quartersBelow_le (x : Binary64) : x.quartersBelow ≤ 2 * spacing x.units := by
  unfold quartersBelow
  dsimp only
  split <;> omega

/-- A quotient whose grid has the given step is rounded to the multiple of the step near it. -/
theorem ofRatio?_of_grid {num den m step : Nat} (hden : 0 < den)
    (hstep : spacing (num * one / den) = step)
    (hlo : 2 * (step * m * den) ≤ 2 * (num * one) + step * den)
    (hhi : 2 * (num * one) ≤ 2 * (step * m * den) + step * den)
    (heven : 2 * (step * m * den) = 2 * (num * one) + step * den ∨
      2 * (num * one) = 2 * (step * m * den) + step * den → m % 2 = 0)
    (hlimit : step * m < limit) : ofRatio? num den = some ⟨step * m⟩ := by
  have hpos : 0 < step := hstep ▸ spacing_pos _
  have hmul : m * (den * step) = step * m * den := by ring
  have hswap : den * step = step * den := Nat.mul_comm den step
  -- In steps of the grid the quotient is nearest to `m`.
  have hround : roundHalfEven (num * one) (den * step) = m := by
    refine roundHalfEven_eq (Nat.mul_pos hden hpos) ?_ ?_ ?_
    · rw [hmul, hswap]
      exact hlo
    · rw [hmul, hswap]
      exact hhi
    · rw [hmul, hswap]
      exact heven
  unfold ofRatio?
  dsimp only
  rw [hstep, hround, if_pos hlimit]

/-- Between two powers of two the step is determined by the lower one. -/
theorem spacing_eq_of_bounds {L v : Nat} (hlo : 2 ^ L ≤ v) (hhi : v < 2 ^ (L + 1)) :
    spacing v = 2 ^ (L - 52) := by
  have hne : v ≠ 0 := by
    have := Nat.two_pow_pos L
    omega
  rw [spacing_eq, (Nat.log2_eq_iff hne).mpr ⟨hlo, hhi⟩]

/-- A representable number stays a whole step below the next power of two. -/
theorem Representable.add_spacing_le {x : Binary64} (hx : x.Representable) :
    x.units + spacing x.units ≤ 2 ^ (x.units.log2 + 1) := by
  have hdvd : spacing x.units ∣ 2 ^ (x.units.log2 + 1) := Nat.pow_dvd_pow 2 (by omega)
  obtain ⟨m, hm⟩ := hx.dvd
  obtain ⟨k, hk⟩ := hdvd
  have hlt : x.units < 2 ^ (x.units.log2 + 1) := Nat.lt_log2_self
  have hmk : m < k := by
    refine Nat.lt_of_mul_lt_mul_left (a := spacing x.units) ?_
    rw [← hm, ← hk]
    exact hlt
  calc x.units + spacing x.units = spacing x.units * (m + 1) := by rw [Nat.mul_add_one, ← hm]
    _ ≤ spacing x.units * k := Nat.mul_le_mul_left _ hmk
    _ = 2 ^ (x.units.log2 + 1) := hk.symm

/-- A representable number above a power of two is a whole step above it. -/
theorem Representable.spacing_add_le {x : Binary64} (hx : x.Representable) (hne : x.units ≠ 0)
    (hlog : 52 ≤ x.units.log2) (hpow : x.units ≠ 2 ^ x.units.log2) :
    2 ^ x.units.log2 + spacing x.units ≤ x.units := by
  have hdvd : spacing x.units ∣ 2 ^ x.units.log2 := Nat.pow_dvd_pow 2 (by omega)
  obtain ⟨m, hm⟩ := hx.dvd
  obtain ⟨k, hk⟩ := hdvd
  have hlt : 2 ^ x.units.log2 < x.units :=
    Nat.lt_of_le_of_ne (Nat.log2_self_le hne) (Ne.symm hpow)
  have hkm : k < m := by
    refine Nat.lt_of_mul_lt_mul_left (a := spacing x.units) ?_
    rw [← hm, ← hk]
    exact hlt
  calc 2 ^ x.units.log2 + spacing x.units = spacing x.units * (k + 1) := by
        rw [Nat.mul_add_one, ← hk]
    _ ≤ spacing x.units * m := Nat.mul_le_mul_left _ hkm
    _ = x.units := hm.symm

namespace Holds

variable {x : Binary64} {num den : Nat}

/-- Above a number its interval ends before the next power of two. -/
theorem div_lt (h : x.Holds num den) (hx : x.Representable) (hden : 0 < den) :
    num / den < 2 ^ (x.units.log2 + 1) := by
  rw [Nat.div_lt_iff_lt_mul hden]
  have hroom := Nat.mul_le_mul_right den hx.add_spacing_le
  have hupper := h.upper
  have hstep : 0 < spacing x.units * den := Nat.mul_pos (spacing_pos _) hden
  unfold quartersAbove at hupper
  generalize 2 ^ (x.units.log2 + 1) = p at *
  rw [Nat.add_mul] at hroom hupper
  rw [Nat.mul_assoc, Nat.mul_assoc] at hupper
  omega

/-- What is four times a lower bound of the interval bounds the quotient. -/
theorem le_div (h : x.Holds num den) (hden : 0 < den) {b : Nat}
    (hb : 4 * b ≤ 4 * x.units - x.quartersBelow) : b ≤ num / den := by
  rw [Nat.le_div_iff_mul_le hden]
  have hlower := h.lower
  have := Nat.mul_le_mul_right den hb
  rw [Nat.mul_assoc] at this
  omega

/-- Below a power of two the interval reaches into a grid that is twice as fine. -/
theorem spacing_of_pow (h : x.Holds num den) (hx : x.Representable) (hden : 0 < den)
    (hlog : 52 < x.units.log2) (hpow : x.units = 2 ^ x.units.log2)
    (hbelow : num < x.units * den) :
    2 * spacing (num / den) = spacing x.units ∧ x.quartersBelow = spacing x.units := by
  have hquarter : x.quartersBelow = spacing x.units := by
    unfold quartersBelow
    dsimp only
    rw [if_pos ⟨by omega, hpow⟩]
  have htwice : 2 * 2 ^ (x.units.log2 - 1 - 52) = spacing x.units := by
    rw [spacing_eq, ← pow_succ', show x.units.log2 - 1 - 52 + 1 = x.units.log2 - 52 by omega]
  have hhalf : 2 * 2 ^ (x.units.log2 - 1) = x.units := by
    rw [← pow_succ', Nat.sub_add_cancel (by omega), ← hpow]
  have hpos := Nat.two_pow_pos (x.units.log2 - 1)
  have hle : spacing x.units ≤ x.units := Nat.le_of_dvd (by omega) hx.dvd
  refine ⟨?_, hquarter⟩
  rw [spacing_eq_of_bounds (L := x.units.log2 - 1), htwice]
  · refine h.le_div hden ?_
    rw [hquarter]
    omega
  · rw [Nat.sub_add_cancel (by omega), ← hpow]
    exact (Nat.div_lt_iff_lt_mul hden).mpr hbelow

/-- The grid of a quotient in the interval of a number is the grid of the number. Only directly
    below a power of two is it twice as fine. -/
theorem spacing_eq_or (h : x.Holds num den) (hx : x.Representable) (hden : 0 < den) :
    spacing (num / den) = spacing x.units ∨
      (2 * spacing (num / den) = spacing x.units ∧ num < x.units * den
        ∧ x.quartersBelow = spacing x.units) := by
  have hhi := h.div_lt hx hden
  by_cases hbelow : num < x.units * den
  · have hquot : num / den < x.units := (Nat.div_lt_iff_lt_mul hden).mpr hbelow
    by_cases hlog : x.units.log2 ≤ 52
    · -- Here all spacings are one.
      have hsmall : x.units < 2 ^ 53 :=
        Nat.lt_of_lt_of_le Nat.lt_log2_self (Nat.pow_le_pow_right (by decide) (by omega))
      rw [spacing_of_lt hsmall, spacing_of_lt (Nat.lt_trans hquot hsmall)]
      exact .inl rfl
    · by_cases hpow : x.units = 2 ^ x.units.log2
      · obtain ⟨hhalf, hquarter⟩ := h.spacing_of_pow hx hden (by omega) hpow hbelow
        exact .inr ⟨hhalf, hbelow, hquarter⟩
      · have hne : x.units ≠ 0 := by
          intro hzero
          rw [hzero, Nat.log2_zero] at hlog
          omega
        have habove := hx.spacing_add_le hne (by omega) hpow
        have hquarters := x.quartersBelow_le
        left
        rw [spacing_eq_of_bounds (h.le_div hden (by omega)) hhi, spacing_eq]
  · left
    have hquot : x.units ≤ num / den := (Nat.le_div_iff_mul_le hden).mpr (by omega)
    by_cases hne : x.units = 0
    · rw [hne, Nat.log2_zero] at hhi
      rw [hne, spacing_of_lt (by omega), spacing_of_lt (by decide)]
    · rw [spacing_eq_of_bounds (Nat.le_trans (Nat.log2_self_le hne) hquot) hhi, spacing_eq]

end Holds

/-- A quotient in the interval of a number is rounded to it. -/
theorem ofRatio?_eq {x : Binary64} {num den : Nat} (hx : x.Representable) (hden : 0 < den)
    (h : x.Holds (num * one) den) : ofRatio? num den = some x := by
  obtain ⟨m, hm⟩ := hx.dvd
  have hpos := spacing_pos x.units
  have hlt := hx.lt
  have hends : x.endsRound = true → m % 2 = 0 := by
    intro hround
    rw [endsRound, decide_eq_true_eq, Nat.div_eq_of_eq_mul_right hpos hm] at hround
    exact hround
  have hgrid := h.spacing_eq_or hx hden
  obtain ⟨hlower, hupper, hlowerEnd, hupperEnd⟩ := h
  unfold quartersAbove at hupper hupperEnd
  -- All bounds are brought into sums of products of two factors.
  rw [Nat.sub_mul] at hlower hlowerEnd
  rw [Nat.add_mul] at hupper hupperEnd
  rw [Nat.mul_assoc, Nat.mul_assoc] at hupper hupperEnd
  rw [Nat.mul_assoc] at hlower hlowerEnd
  rcases hgrid with hstep | ⟨hhalf, hbelow, hquarter⟩
  -- On the grid of the number the quotient is within half a step of `m` steps.
  · have hquarters := Nat.mul_le_mul_right den x.quartersBelow_le
    rw [Nat.mul_assoc] at hquarters
    obtain ⟨u⟩ := x
    dsimp only at *
    rw [hm]
    rw [hm] at hlt
    refine ofRatio?_of_grid hden hstep ?_ ?_ ?_ hlt
    · rw [← hm]
      omega
    · rw [← hm]
      omega
    · rw [← hm]
      rintro (heq | heq)
      · exact hends (hlowerEnd (by omega))
      · exact hends (hupperEnd (by omega))
  -- On the finer grid the number is an even number of steps, and the quotient is not above it.
  · rw [hquarter] at hlower hlowerEnd
    have hunits : x.units = spacing (num * one / den) * (2 * m) := by
      rw [hm, ← hhalf]
      ring
    obtain ⟨u⟩ := x
    dsimp only at *
    have hdouble : 2 * (spacing (num * one / den) * den) = spacing u * den := by
      rw [← Nat.mul_assoc, hhalf]
    rw [hunits]
    rw [hunits] at hlt
    refine ofRatio?_of_grid hden rfl ?_ ?_ ?_ hlt
    · rw [← hunits]
      omega
    · rw [← hunits]
      omega
    · intro
      exact Nat.mul_mod_right 2 m

/-- A number lies in its interval. -/
theorem holds_self {x : Binary64} {den : Nat} (hden : 0 < den) : x.Holds (x.units * den) den := by
  have hpos := spacing_pos x.units
  have hbelow : 0 < x.quartersBelow := by
    unfold quartersBelow
    dsimp only
    split <;> omega
  have habove : 4 * (x.units * den) < (4 * x.units + x.quartersAbove) * den := by
    rw [← Nat.mul_assoc]
    exact Nat.mul_lt_mul_of_pos_right (by unfold quartersAbove; omega) hden
  refine ⟨?_, Nat.le_of_lt habove, ?_, fun h => absurd h (Nat.ne_of_lt habove)⟩
  · rw [← Nat.mul_assoc]
    exact Nat.mul_le_mul_right den (Nat.sub_le _ _)
  · intro heq
    rw [← Nat.mul_assoc, Nat.mul_left_inj (Nat.ne_of_gt hden)] at heq
    -- Only zero is the lower end of its interval.
    have hzero : x.units = 0 := by omega
    rw [endsRound, hzero, Nat.zero_div]
    rfl

/-- A quotient that is a representable number is not changed. -/
theorem ofRatio?_of_exact {x : Binary64} {num den : Nat} (hx : x.Representable) (hden : 0 < den)
    (h : num * one = x.units * den) : ofRatio? num den = some x := by
  refine ofRatio?_eq hx hden ?_
  rw [h]
  exact holds_self hden

/-! ### Decimals -/

/-- The decimal is a quotient with a power of ten above or below. -/
theorem ofDecimal?_eq (c : Nat) (j : Int) :
    ofDecimal? c j = ofRatio? (c * 10 ^ j.toNat) (10 ^ (-j).toNat) := by
  unfold ofDecimal?
  split
  · rw [show (-j).toNat = 0 by omega, Nat.pow_zero]
    rfl
  · rw [show j.toNat = 0 by omega, Nat.pow_zero, Nat.mul_one]
    rfl

/-- What reading back means: the decimal lies in the interval of the number. -/
theorem holds_of_readsBack {x : Binary64} {c : Nat} {j : Int} (h : x.readsBack c j = true) :
    x.Holds (c * 10 ^ j.toNat * one) (10 ^ (-j).toNat) := by
  have hvalue : c * (4 * one * Nat.pow 10 j.toNat) = 4 * (c * 10 ^ j.toNat * one) := by
    show c * (4 * one * 10 ^ j.toNat) = _
    ring
  unfold readsBack at h
  dsimp only at h
  rw [hvalue, Bool.and_eq_true, below_iff, below_iff] at h
  obtain ⟨⟨hlower, hlowerEnd⟩, hupper, hupperEnd⟩ := h
  exact ⟨hlower, hupper, hlowerEnd, hupperEnd⟩

/-- A decimal that reads back as a number is rounded to it. -/
theorem ofDecimal?_of_readsBack {x : Binary64} {c : Nat} {j : Int} (hx : x.Representable)
    (h : x.readsBack c j = true) : ofDecimal? c j = some x := by
  rw [ofDecimal?_eq]
  exact ofRatio?_eq hx (Nat.pow_pos (by decide)) (holds_of_readsBack h)

end Binary64

end AmpMarkup
