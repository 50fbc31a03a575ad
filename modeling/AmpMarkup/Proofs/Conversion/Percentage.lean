import AmpMarkup.Proofs.Conversion.NormalLength

namespace AmpMarkup.Conversion

open Binary64 (one toRat)

/-!
# Pixels of natural numbers and percentages

A percentage is rounded three times before its pixels are rounded to an integer: when it is read,
when it is divided by a hundred and when it is multiplied by the width of the page. All that moves
it by less than a hundredth, and a natural percentage of a natural width is a number of hundredths.
So the integer is the right one, unless the exact number lies half way between two.

* `wholePixels?_whole`, `pixels?_whole` — the pixels of a natural number.
* `percentPixels?_near` — how far a percentage is moved before the last rounding.
* `percentPixels?_whole` — the pixels of a natural percentage.
* `isSome_percentPixels?` — percentages that give no more pixels than there can be.
-/

variable {n : Numeral} {x : Binary64} {k : Nat} {m : UInt32} {r : ℚ}

/-! ### Natural numbers -/

/-- Pixels up to the greatest number have a text. -/
theorem wholePixelText?_of_le (h : k ≤ maxPixels) : wholePixelText? k = some (toString k) :=
  if_pos h

/-- Pixels beyond the greatest number have none. -/
theorem wholePixelText?_of_lt (h : maxPixels < k) : wholePixelText? k = none :=
  if_neg (Nat.not_le.mpr h)

/-- How far the number of a numeral is moved when it is read. -/
theorem Numeral.abs_toRat_sub_le (hx : n.toBinary64? = some x) :
    |x.toRat - n.value| ≤ (n.value + 1) / 2 ^ 53 := by
  rw [toBinary64?_eq] at hx
  rw [value_eq]
  exact Binary64.abs_toRat_sub_le hx (Nat.pow_pos (by decide))

/-- The largest values allowed in a numeral are far below the greatest binary number. -/
theorem pow_ten_le : (10 : ℚ) ^ 300 ≤ 2 ^ 12 * 2 ^ 985 := by
  have h : 10 ^ 300 ≤ 2 ^ 12 * 2 ^ 985 := by decide +kernel
  exact_mod_cast h

/-- Powers of two are multiplied by adding their exponents. -/
theorem pow_two_mul {a b c : Nat} (h : a + b = c) : (2 : ℚ) ^ a * 2 ^ b = 2 ^ c := by
  rw [← pow_add, h]

/-- A numeral with such a value is read as a number. -/
theorem Numeral.exists_toBinary64? (h : n.value ≤ 10 ^ 300) : ∃ x, n.toBinary64? = some x := by
  rw [toBinary64?_eq]
  refine Binary64.exists_ofRatio? (Nat.pow_pos (by decide)) ?_
  rw [← value_eq]
  refine h.trans (pow_ten_le.trans ?_)
  rw [pow_two_mul (Nat.add_comm 12 985)]
  exact pow_le_pow_right₀ one_le_two (by decide)

/-- What is too large stays too large. -/
theorem lt_toRat_of_lt (hx : n.toBinary64? = some x) (h : n.value = k) (hk : maxPixels < k) :
    (maxPixels : ℚ) < x.toRat := by
  have hmoved := (abs_le.mp (Numeral.abs_toRat_sub_le hx)).1
  have hlarge : (2 : ℚ) ^ 32 ≤ k := by exact_mod_cast (show 2 ^ 32 ≤ k from hk)
  rw [h] at hmoved
  have hmax : (maxPixels : ℚ) = 2 ^ 32 - 1 := by norm_num [maxPixels]
  rw [hmax]
  linarith

/-- The comparison that is made is that of the values. -/
theorem leNat_eq_false (h : (maxPixels : ℚ) < x.toRat) : x.leNat maxPixels = false := by
  rw [← Bool.not_eq_true, Binary64.leNat_iff]
  exact not_le.mpr h

/-- A natural number of pixels has its own digits as its text, or none if it is too large. -/
theorem pixels?_whole (hx : n.toBinary64? = some x) (h : n.value = k) :
    pixels? x = wholePixelText? k := by
  by_cases hk : k ≤ maxPixels
  · rw [Numeral.toBinary64?_whole h hk, Option.some.injEq] at hx
    rw [← hx, pixels?_nat hk, wholePixelText?_of_le hk]
  · rw [Nat.not_le] at hk
    rw [wholePixelText?_of_lt hk, pixels?, leNat_eq_false (lt_toRat_of_lt hx h hk)]
    rfl

/-- A natural number in front of a unit has the same text. -/
theorem wholePixels?_whole (hx : n.toBinary64? = some x) (h : n.value = k) :
    wholePixels? x = wholePixelText? k := by
  by_cases hk : k ≤ maxPixels
  · rw [Numeral.toBinary64?_whole h hk, Option.some.injEq] at hx
    have hle : Binary64.leNat ⟨k * one⟩ maxPixels = true := by
      rw [Binary64.leNat_iff, Binary64.toRat_nat]
      exact_mod_cast hk
    rw [← hx, wholePixelText?_of_le hk, wholePixels?, if_pos hle, Binary64.floor,
      Nat.mul_div_left k Binary64.one_pos]
  · rw [Nat.not_le] at hk
    rw [wholePixelText?_of_lt hk, wholePixels?, leNat_eq_false (lt_toRat_of_lt hx h hk)]
    rfl

/-! ### Percentages -/

/-- Natural numbers up to the greatest number of pixels are exact. -/
theorem ofNat?_eq (hk : k ≤ maxPixels) : Binary64.ofNat? k = some ⟨k * one⟩ :=
  Binary64.ofRatio?_of_exact (Binary64.representable_nat hk) (by decide) (Nat.mul_one _).symm

/-- A number divided by a natural number, rounded once. -/
theorem exists_div? (hk : 0 < k) (h : x.toRat / k ≤ 2 ^ 1023) : ∃ y,
    x.div? ⟨k * one⟩ = some y ∧ |y.toRat - x.toRat / k| ≤ (x.toRat / k + 1) / 2 ^ 53 := by
  have hquot : (x.units : ℚ) / (k * one : ℕ) = x.toRat / k := by
    rw [toRat, Nat.cast_mul, div_div, mul_comm]
  have hden : 0 < k * one := Nat.mul_pos hk Binary64.one_pos
  rw [← hquot] at h ⊢
  obtain ⟨y, hy⟩ := Binary64.exists_ofRatio? hden h
  exact ⟨y, hy, Binary64.abs_toRat_sub_le hy hden⟩

/-- A number multiplied by a natural number, rounded once. -/
theorem exists_mul? (h : x.toRat * k ≤ 2 ^ 1023) : ∃ y,
    x.mul? ⟨k * one⟩ = some y ∧ |y.toRat - x.toRat * k| ≤ (x.toRat * k + 1) / 2 ^ 53 := by
  have hone := Binary64.one_cast_pos.ne'
  have hprod : ((x.units * (k * one) : ℕ) : ℚ) / (one * one : ℕ) = x.toRat * k := by
    rw [toRat, Nat.cast_mul, Nat.cast_mul, Nat.cast_mul]
    field_simp
  have hden : 0 < one * one := Nat.mul_pos Binary64.one_pos Binary64.one_pos
  rw [← hprod] at h ⊢
  obtain ⟨y, hy⟩ := Binary64.exists_ofRatio? hden h
  exact ⟨y, hy, Binary64.abs_toRat_sub_le hy hden⟩

/-- Every width of a page is a number of pixels. -/
theorem toNat_le_maxPixels (m : UInt32) : m.toNat ≤ maxPixels := by
  have := m.toNat_lt
  unfold maxPixels
  omega

/-- The three roundings, one after the other. -/
theorem percentPixels?_eq {hundred width h e : Binary64} (hk : Binary64.ofNat? 100 = some hundred)
    (hdiv : x.div? hundred = some h) (hm : Binary64.ofNat? m.toNat = some width)
    (hmul : h.mul? width = some e) : percentPixels? x m = wholePixelText? e.roundHalfUp := by
  unfold percentPixels? wholePixelText?
  rw [hk, Option.bind_eq_bind, Option.bind_some, hdiv, Option.bind_some, hm, Option.bind_some, hmul,
    Option.bind_some]

/-- Three small errors are a small error: `p` is near `r`, `h` near a hundredth of `p`, and `e` near
    `h` times a width. -/
theorem abs_sub_le_of_steps {r p h e w : ℚ} (hr : 0 ≤ r) (hw : 0 ≤ w) (hw' : w ≤ 2 ^ 32)
    (hp : |p - r| ≤ (r + 1) / 2 ^ 53) (hh : |h - p / 100| ≤ (p / 100 + 1) / 2 ^ 53)
    (he : |e - h * w| ≤ (h * w + 1) / 2 ^ 53) :
    |e - r * w / 100| ≤ (r * w / 100 + 2 ^ 32) / 2 ^ 50 := by
  rw [abs_le] at hp hh he
  have hhundredth : |h - r / 100| ≤ (3 * (r / 100) + 2) / 2 ^ 53 := by
    rw [abs_le]
    constructor <;> linarith
  have hrw : 0 ≤ r * w := mul_nonneg hr hw
  have hwidth : |h * w - r * w / 100| ≤ (3 * (r * w / 100) + 2 * w) / 2 ^ 53 := by
    calc |h * w - r * w / 100| = |h - r / 100| * w := by
          rw [show h * w - r * w / 100 = (h - r / 100) * w by ring, abs_mul, abs_of_nonneg hw]
      _ ≤ (3 * (r / 100) + 2) / 2 ^ 53 * w := mul_le_mul_of_nonneg_right hhundredth hw
      _ = (3 * (r * w / 100) + 2 * w) / 2 ^ 53 := by ring
  rw [abs_le] at hwidth ⊢
  constructor <;> linarith

/-- A percentage is moved by very little before its pixels are rounded to an integer. -/
theorem percentPixels?_near (hr : 0 ≤ r) (hlarge : r ≤ 10 ^ 300)
    (hx : |x.toRat - r| ≤ (r + 1) / 2 ^ 53) : ∃ e : Binary64,
    percentPixels? x m = wholePixelText? e.roundHalfUp ∧
    |e.toRat - r * m.toNat / 100| ≤ (r * m.toNat / 100 + 2 ^ 32) / 2 ^ 50 := by
  have hw : (m.toNat : ℚ) ≤ 2 ^ 32 := by exact_mod_cast m.toNat_lt.le
  have hw0 : (0 : ℚ) ≤ m.toNat := Nat.cast_nonneg _
  -- None of the results is too large.
  have hb : r ≤ 2 ^ 12 * 2 ^ 985 := hlarge.trans pow_ten_le
  have hc : (2 : ℚ) ^ 985 * 2 ^ 38 = 2 ^ 1023 := pow_two_mul rfl
  have hb1 : (1 : ℚ) ≤ 2 ^ 985 := one_le_pow₀ one_le_two
  have hp := abs_le.mp hx
  obtain ⟨h, hdiv, hh⟩ := exists_div? (x := x) (k := 100) (by decide) (by
    rw [← hc]
    generalize (2 : ℚ) ^ 985 = b at *
    push_cast
    linarith only [hp.2, hb, hb1])
  have hh' := abs_le.mp hh
  have hprod : h.toRat * m.toNat ≤ 2 ^ 985 * 2 ^ 38 := by
    calc h.toRat * m.toNat ≤ h.toRat * 2 ^ 32 := mul_le_mul_of_nonneg_left hw h.toRat_nonneg
      _ ≤ 2 ^ 985 * 2 ^ 38 := by
        generalize (2 : ℚ) ^ 985 = b at *
        push_cast at hh'
        linarith only [hh'.2, hp.2, hb, hb1]
  obtain ⟨e, hmul, he⟩ := exists_mul? (x := h) (k := m.toNat) (hprod.trans_eq hc)
  refine ⟨e, ?_, abs_sub_le_of_steps hr hw0 hw hx (by simpa using hh) he⟩
  exact percentPixels?_eq (ofNat?_eq (by decide)) hdiv (ofNat?_eq (toNat_le_maxPixels m)) hmul

/-- The pixels of a natural percentage: rounded to the nearest integer, where only a half may go
    down. -/
theorem percentPixels?_whole (hx : n.toBinary64? = some x) (h : n.value = k)
    (hlarge : n.value ≤ 10 ^ 300) :
    percentPixels? x m = wholePixelText? ((k * m.toNat + 50) / 100) ∨
      k * m.toNat % 100 = 50 ∧ percentPixels? x m = wholePixelText? (k * m.toNat / 100) := by
  obtain ⟨e, heq, hnear⟩ := percentPixels?_near (m := m) n.value_nonneg hlarge
    (Numeral.abs_toRat_sub_le hx)
  rw [heq, h] at *
  have hcast : (k : ℚ) * m.toNat = (k * m.toNat : ℕ) := (Nat.cast_mul _ _).symm
  rw [hcast] at hnear
  generalize k * m.toNat = t at *
  rw [abs_le] at hnear
  by_cases hfits : t < 100 * 2 ^ 32
  · -- The error is less than a hundredth, so only one integer is near, or two at a half.
    have hfitsQ : (t : ℚ) < 100 * 2 ^ 32 := by exact_mod_cast hfits
    have hhi : e.roundHalfUp ≤ (t + 50) / 100 := by
      have hround := Binary64.le_roundHalfUp_iff.mp (Nat.le_refl e.roundHalfUp)
      have hlt : (e.roundHalfUp * 100 : ℚ) < t + 51 := by linarith
      have hltN : e.roundHalfUp * 100 < t + 51 := by exact_mod_cast hlt
      omega
    have hlo : (t + 49) / 100 ≤ e.roundHalfUp := by
      rw [Binary64.le_roundHalfUp_iff]
      have hdiv : (t + 49) / 100 * 100 ≤ t + 49 := Nat.div_mul_le_self _ _
      have hdivQ : (((t + 49) / 100 : ℕ) : ℚ) * 100 ≤ t + 49 := by exact_mod_cast hdiv
      linarith
    have hcases : e.roundHalfUp = (t + 50) / 100 ∨ t % 100 = 50 ∧ e.roundHalfUp = t / 100 := by
      omega
    rcases hcases with hround | ⟨hhalf, hround⟩
    · exact .inl (by rw [hround])
    · exact .inr ⟨hhalf, by rw [hround]⟩
  · -- Here both numbers are too large.
    have hlargeQ : (100 : ℚ) * 2 ^ 32 ≤ t := by exact_mod_cast Nat.not_lt.mp hfits
    have hround : 2 ^ 32 ≤ e.roundHalfUp := by
      rw [Binary64.le_roundHalfUp_iff]
      push_cast
      linarith
    have hexact : 2 ^ 32 ≤ (t + 50) / 100 := by omega
    exact .inl (by rw [wholePixelText?_of_lt hround, wholePixelText?_of_lt hexact])

/-- A percentage of no more pixels than there can be gives some. -/
theorem isSome_percentPixels? (hx : n.toBinary64? = some x) (hlarge : n.value ≤ 10 ^ 300)
    (h : n.value * m.toNat / 100 ≤ maxPixels) : (percentPixels? x m).isSome = true := by
  obtain ⟨e, heq, hnear⟩ := percentPixels?_near (m := m) n.value_nonneg hlarge
    (Numeral.abs_toRat_sub_le hx)
  have hmax : (maxPixels : ℚ) = 2 ^ 32 - 1 := by norm_num [maxPixels]
  have hround : e.roundHalfUp ≤ maxPixels := by
    by_contra hlt
    have hge := Binary64.le_roundHalfUp_iff.mp (Nat.succ_le_of_lt (Nat.not_le.mp hlt))
    rw [abs_le] at hnear
    push_cast at hge
    linarith
  rw [heq, wholePixelText?_of_le hround]
  rfl

end AmpMarkup.Conversion
