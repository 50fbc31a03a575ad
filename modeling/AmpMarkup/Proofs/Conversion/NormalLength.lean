import AmpMarkup.Conversion.LengthForm
import AmpMarkup.Proofs.Binary64.Accuracy
import AmpMarkup.Proofs.Conversion.Length

namespace AmpMarkup.Conversion

open AmpMarkup.Text

/-!
# What is written for a length

A numeral is read exactly where one is written, and it is rounded once. So a length that is written
as the shortest decimal stands for no more pixels than there can be, and not for a natural number,
because these are not changed by rounding.

* `Numeral.ofChars?_of_isWritten`, `Numeral.isWritten_of_ofChars?` — numerals are read exactly where
  they are written.
* `Numeral.toBinary64?_whole` — natural numbers of pixels are not rounded.
* `Numeral.value_le_of_toBinary64?` — nothing is rounded down past the largest number of pixels.
* `normalizeLength?_normal` — normal forms are normal, and stay as they are.
-/

namespace Numeral

variable {n : Numeral} {s : List Char} {x : Binary64} {k : Nat}

/-! ### Numerals as texts -/

/-- A written numeral has only digits and a point. -/
theorem IsWritten.isPlain (h : n.IsWritten s) : IsPlain s := by
  intro c hc
  rcases h.text_eq with rfl | ⟨rfl, -⟩
  · rw [List.mem_append, List.mem_cons] at hc
    rcases hc with hc | rfl | hc
    · exact .inl (h.digits c (List.mem_append_left _ hc))
    · exact .inr rfl
    · exact .inl (h.digits c (List.mem_append_right _ hc))
  · exact .inl (h.digits c (List.mem_append_left _ hc))

/-- A numeral is read wherever it is written. -/
theorem ofChars?_of_isWritten (h : n.IsWritten s) : ofChars? s = some n := by
  have hwhole : ∀ c ∈ n.whole, c.isDigit = true := fun c hc =>
    h.digits c (List.mem_append_left _ hc)
  have hfraction : ∀ c ∈ n.fraction, c.isDigit = true := fun c hc =>
    h.digits c (List.mem_append_right _ hc)
  rcases h.text_eq with rfl | ⟨rfl, hnil⟩
  · exact ofChars?_point hwhole h.ne_nil hfraction
  · have hne := h.ne_nil
    rw [hnil, List.append_nil] at hne
    rw [ofChars?_digits hwhole hne, ← hnil]

/-- A numeral is read nowhere else. -/
theorem isWritten_of_ofChars? (h : ofChars? s = some n) : n.IsWritten s := by
  have hsplit : s.takeWhile Char.isDigit ++ s.dropWhile Char.isDigit = s :=
    List.takeWhile_append_dropWhile
  have hwhole : ∀ c ∈ s.takeWhile Char.isDigit, c.isDigit = true := fun c hc =>
    List.mem_takeWhile_imp hc
  unfold ofChars? at h
  dsimp only at h
  obtain ⟨fraction, hfraction, h⟩ := Option.bind_eq_some_iff.mp h
  split at h
  · cases h
  · rename_i hne
    obtain rfl := Option.some.inj h
    generalize s.takeWhile Char.isDigit = whole at *
    generalize s.dropWhile Char.isDigit = rest at *
    -- Nothing follows the digits, or a point with more digits.
    split at hfraction
    · obtain rfl := Option.some.inj hfraction
      exact ⟨by simpa using hwhole, by simpa using hne, .inr ⟨by simpa using hsplit.symm, rfl⟩⟩
    · rename_i rest'
      split at hfraction
      · rename_i hall
        obtain rfl := Option.some.inj hfraction
        rw [List.all_eq_true] at hall
        refine ⟨fun c hc => ?_, by simpa using hne, .inl hsplit.symm⟩
        rcases List.mem_append.mp hc with hc | hc
        · exact hwhole c hc
        · exact hall c hc
      · cases hfraction
    · cases hfraction

/-- Reading a written numeral rounds its number. -/
theorem readNumber?_of_isWritten (h : n.IsWritten s) : readNumber? s = n.toBinary64? := by
  rw [readNumber?, ofChars?_of_isWritten h, Option.bind_some]

/-- The digits of a natural number, without a point. -/
theorem isWritten_toString (k : Nat) :
    IsWritten ⟨Nat.toDigits 10 k, []⟩ (toString k).toList := by
  rw [Nat.toString_eq_repr, Nat.toList_repr]
  refine ⟨fun c hc => ?_, ?_, .inr ⟨rfl, rfl⟩⟩
  · rw [List.append_nil] at hc
    exact isDigit_of_mem_toDigits hc
  · rw [List.append_nil]
    exact Nat.toDigits_ne_nil

/-! ### The number of a numeral -/

/-- The digits of a natural number stand for it. -/
theorem value_toDigits (k : Nat) : value ⟨Nat.toDigits 10 k, []⟩ = k := by
  simp [value]

/-- Reading a numeral rounds its number once. -/
theorem toBinary64?_eq (n : Numeral) : n.toBinary64? =
    Binary64.ofRatio? (Nat.ofDigitChars 10 (n.whole ++ n.fraction) 0) (10 ^ n.fraction.length) := by
  rw [toBinary64?, digitsValue_eq, Binary64.ofDecimal?_eq]
  simp

/-- The number as a quotient: all the digits, over the power of ten for those behind the point. -/
theorem value_eq (n : Numeral) : n.value =
    (Nat.ofDigitChars 10 (n.whole ++ n.fraction) 0 : ℕ) / (10 ^ n.fraction.length : ℕ) := by
  rw [value, Nat.cast_pow, Nat.cast_ofNat]

/-- The number of a numeral is not negative. -/
theorem value_nonneg (n : Numeral) : 0 ≤ n.value := by
  rw [value_eq]
  positivity

/-- Comparing a number with a natural number is comparing natural numbers. -/
theorem le_value_iff : (k : ℚ) ≤ n.value ↔
    k * 10 ^ n.fraction.length ≤ Nat.ofDigitChars 10 (n.whole ++ n.fraction) 0 := by
  rw [value_eq, le_div_iff₀ (by positivity)]
  exact_mod_cast Iff.rfl

/-- The comparison from above is one of natural numbers as well. -/
theorem value_le_iff : n.value ≤ k ↔
    Nat.ofDigitChars 10 (n.whole ++ n.fraction) 0 ≤ k * 10 ^ n.fraction.length := by
  rw [value_eq, div_le_iff₀ (by positivity)]
  exact_mod_cast Iff.rfl

/-- Natural numbers of pixels are not rounded. -/
theorem toBinary64?_whole (h : n.value = k) (hk : k ≤ maxPixels) :
    n.toBinary64? = some ⟨k * Binary64.one⟩ := by
  have hdigits : Nat.ofDigitChars 10 (n.whole ++ n.fraction) 0 = k * 10 ^ n.fraction.length :=
    Nat.le_antisymm (value_le_iff.mp h.le) (le_value_iff.mp h.ge)
  rw [toBinary64?_eq, hdigits]
  refine Binary64.ofRatio?_of_exact (Binary64.representable_nat hk) (Nat.pow_pos (by decide)) ?_
  rw [Nat.mul_right_comm]

/-- A number at most as large as the largest number of pixels is not rounded to more. -/
theorem toRat_le_of_value_le (h : n.value ≤ maxPixels) (hx : n.toBinary64? = some x) :
    x.toRat ≤ maxPixels := by
  rw [toBinary64?_eq] at hx
  rw [value_le_iff] at h
  have hunits := Binary64.nearest_le (Nat.ofDigitChars 10 (n.whole ++ n.fraction) 0)
    (Binary64.representable_nat (Nat.le_refl maxPixels))
    (Nat.pow_pos (by decide : 0 < 10)) (by
      rw [Nat.mul_right_comm]
      exact Nat.mul_le_mul_right _ h)
  rw [← Binary64.leNat_iff, Binary64.leNat, decide_eq_true_eq, Binary64.units_of_ofRatio? hx]
  exact hunits

/-- What is rounded to less than the largest number of pixels was less before. -/
theorem value_le_of_toBinary64? (hx : n.toBinary64? = some x) (h : x.toRat < maxPixels) :
    n.value ≤ maxPixels := by
  rw [toBinary64?_eq] at hx
  by_contra hlt
  have hge := (le_value_iff (k := maxPixels)).mp (not_le.mp hlt).le
  have hunits := Binary64.le_nearest (Nat.ofDigitChars 10 (n.whole ++ n.fraction) 0)
    (Binary64.representable_nat (Nat.le_refl maxPixels))
    (Nat.pow_pos (by decide : 0 < 10)) (by
      rw [Nat.mul_right_comm]
      exact Nat.mul_le_mul_right _ hge)
  rw [← Binary64.units_of_ofRatio? hx] at hunits
  have hle : (maxPixels : ℚ) ≤ x.toRat := by
    rw [Binary64.toRat, le_div_iff₀ Binary64.one_cast_pos]
    exact_mod_cast hunits
  exact absurd h (not_lt.mpr hle)

end Numeral

/-! ### Normal forms -/

variable {policy : Policy} {axis : Axis} {raw value : String} {x : Binary64}

/-- The text of a natural number of pixels is a normal form. -/
theorem isNormalLength_toString {k : Nat} (hk : k ≤ maxPixels) : IsNormalLength (toString k) := by
  refine .inr ⟨_, Numeral.isWritten_toString k, ?_, fun k' hk' => ?_⟩
  · rw [Numeral.value_toDigits]
    exact_mod_cast hk
  · rw [Numeral.value_toDigits, Nat.cast_inj] at hk'
    rw [hk']

/-- A number that is not natural is written with a point, and stands for no natural number. -/
theorem isNormalLength_positional (hx : x.Representable) (hle : x.leNat maxPixels = true)
    (hnatural : ¬ x.isNatural = true) : IsNormalLength x.shortest.positional := by
  have hwhole : ∀ k : ℕ, x ≠ ⟨k * Binary64.one⟩ := by
    rintro k rfl
    exact hnatural (by simp [Binary64.isNatural])
  have hread : readNumber? x.shortest.positional.toList = some x := by
    rw [readNumber?_positional, Binary64.ofDecimal?_shortest hx]
  obtain ⟨n, hn, hx⟩ := Option.bind_eq_some_iff.mp hread
  have hlt : x.toRat < maxPixels := by
    refine lt_of_le_of_ne (Binary64.leNat_iff.mp hle) fun heq => hwhole maxPixels ?_
    rw [Binary64.toRat, div_eq_iff Binary64.one_cast_pos.ne'] at heq
    cases x
    exact congrArg Binary64.mk (by exact_mod_cast heq)
  have hvalue := Numeral.value_le_of_toBinary64? hx hlt
  refine .inr ⟨n, Numeral.isWritten_of_ofChars? hn, hvalue, fun k hk => ?_⟩
  -- A natural number would not have been rounded.
  rw [hk, Nat.cast_le] at hvalue
  rw [Numeral.toBinary64?_whole hk hvalue, Option.some.injEq] at hx
  exact absurd hx.symm (hwhole k)

/-- What is written for a number of pixels has the normal form. -/
theorem isNormalLength_of_pixels? (hx : x.Representable) (h : pixels? x = some value) :
    IsNormalLength value := by
  rw [pixels?] at h
  split at h
  · rename_i hle
    obtain rfl := Option.some.inj h
    split
    · exact isNormalLength_toString (floor_le hle)
    · rename_i hnatural
      have hunits : x.units ≠ 0 := by
        intro hzero
        exact hnatural (by simp [Binary64.isNatural, hzero])
      rw [Binary64.toDecimalString, if_neg hunits]
      exact isNormalLength_positional hx hle hnatural
  · cases h

/-- Whatever a length is normalised to has the normal form. -/
theorem isNormalLength_of_normalizeLength? (h : policy.normalizeLength? axis raw = some value) :
    IsNormalLength value := by
  rw [Policy.normalizeLength?] at h
  unfold Policy.normalizeTrimmed? at h
  split at h
  · exact .inl (Option.some.inj h).symm
  · split at h
    · rename_i x hx
      exact isNormalLength_of_pixels? (representable_of_readNumber? hx) h
    · split at h
      · obtain ⟨x, -, hx⟩ := Option.bind_eq_some_iff.mp h
        obtain ⟨k, hk, rfl⟩ := nat_of_wholePixels? hx
        exact isNormalLength_toString hk
      · split at h
        · obtain ⟨x, -, hx⟩ := Option.bind_eq_some_iff.mp h
          obtain ⟨k, hk, rfl⟩ := nat_of_percentPixels? hx
          exact isNormalLength_toString hk
        · cases h

/-- The normal form of a length is `auto`, or a numeral for at most `maxPixels` pixels that is
    written without a point and without a zero before it if it stands for a natural number; and it
    is its own normal form, for every policy and on both axes. -/
theorem normalizeLength?_normal (h : policy.normalizeLength? axis raw = some value) :
    IsNormalLength value ∧
    ∀ policy' axis', Policy.normalizeLength? policy' axis' value = some value :=
  ⟨isNormalLength_of_normalizeLength? h, fun _ _ => normalizeLength?_normalizeLength? h⟩

/-- A height with a fraction, read again as a width on a page whose width is known. -/
theorem normalizeLength?_normal_of_fraction :
    Policy.normalizeLength? {} .height " 007.250 " = some "7.25" ∧ IsNormalLength "7.25" ∧
    Policy.normalizeLength? { contentMaxWidth? := some 600 } .width "7.25" = some "7.25" := by
  have h : Policy.normalizeLength? {} .height " 007.250 " = some "7.25" := by decide +kernel
  obtain ⟨hnormal, hagain⟩ := normalizeLength?_normal h
  exact ⟨h, hnormal, hagain _ _⟩

end AmpMarkup.Conversion
