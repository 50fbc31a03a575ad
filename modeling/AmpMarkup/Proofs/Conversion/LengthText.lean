import AmpMarkup.Proofs.Conversion.Percentage
import AmpMarkup.Proofs.Text.Character

namespace AmpMarkup.Conversion

open AmpMarkup.Text

/-!
# Which texts are lengths

The ways to read a length are tried one after the other, each from the end of the text. The last
character tells them apart: digits and points end a numeral, an `x` ends pixels and a percent sign a
percentage.

* `dropSuffix?_eq_some_iff`, `readSuffixed?_append` — suffixes, with blanks before them.
* `normalizeTrimmed?_number`, `normalizeTrimmed?_pixels`, `normalizeTrimmed?_percent` — what each
  kind of text comes to.
* `isLengthText_of_normalizeTrimmed?` — nothing else is accepted.
* `normalizeLength?_exact` — lengths are the texts of these kinds, and natural numbers are exact.
-/

variable {policy : Policy} {axis : Axis} {n : Numeral} {x : Binary64}
  {s front digits blanks unit tail : List Char}

/-! ### Letters of either case -/

/-- Digits have no lower case. -/
theorem toLower_of_isDigit {c : Char} (h : c.isDigit = true) : c.toLower = c := by
  apply toLower_of_not_isUpper
  rw [isDigit_iff_toNat] at h
  rw [← Bool.not_eq_true, isUpper_iff_toNat]
  omega

/-- A percent sign has no other case. -/
theorem eq_percent_of_toLower {c : Char} (h : c.toLower = '%') : c = '%' := by
  have hnat := toNat_toLower c
  rw [h] at hnat
  have hpercent : '%'.toNat = 37 := rfl
  apply Char.toNat_inj.mp
  split at hnat <;> omega

/-- A numeral is not the word `auto`, and no longer text that begins with one is. -/
theorem not_auto_of_isWritten (h : n.IsWritten digits) (rest : List Char) :
    sameFoldChars (digits ++ rest) "auto".toList = false := by
  obtain ⟨c, hc⟩ := List.exists_mem_of_ne_nil _ h.ne_nil
  have hdigit := h.digits c hc
  have hmem : c ∈ digits := by
    rw [List.mem_append] at hc
    rcases h.text_eq with rfl | ⟨rfl, hnil⟩
    · simp only [List.mem_append, List.mem_cons]
      tauto
    · simpa [hnil] using hc
  refine sameFoldChars_eq_false (List.mem_append_left rest hmem) ?_
  rw [toLower_of_isDigit hdigit]
  intro hauto
  have hnone : ∀ c ∈ "auto".toList.map Char.toLower, c.isDigit = false := by decide
  rw [hnone c hauto] at hdigit
  cases hdigit

/-! ### Suffixes -/

/-- A suffix is dropped exactly if the text ends with it. -/
theorem dropSuffix?_eq_some_iff :
    dropSuffix? tail s = some front ↔
      ∃ unit, s = front ++ unit ∧ sameFoldChars unit tail = true := by
  unfold dropSuffix?
  dsimp only
  constructor
  · intro h
    split at h
    · rename_i hsame
      rw [← Option.some.inj h]
      exact ⟨_, (List.take_append_drop _ s).symm, hsame⟩
    · cases h
  · rintro ⟨unit, rfl, hsame⟩
    have hlength := length_eq_of_sameFoldChars hsame
    have hsub : (front ++ unit).length - tail.length = front.length := by
      rw [List.length_append]
      omega
    rw [hsub, List.drop_left, if_pos hsame, List.take_left]

/-- A text that ends in another character does not end with the suffix. -/
theorem dropSuffix?_eq_none {c d : Char} {tail' : List Char} (h : c.toLower ≠ d.toLower) :
    dropSuffix? (tail' ++ [d]) (front ++ [c]) = none := by
  rw [Option.eq_none_iff_forall_ne_some]
  intro r hr
  obtain ⟨unit, heq, hsame⟩ := dropSuffix?_eq_some_iff.mp hr
  rcases List.eq_nil_or_concat unit with rfl | ⟨unit', c', rfl⟩
  · have hlength := length_eq_of_sameFoldChars hsame
    simp at hlength
  · rw [List.concat_eq_append] at heq hsame
    rw [← List.append_assoc] at heq
    obtain ⟨-, hlast⟩ := List.append_inj' heq rfl
    rw [sameFoldChars, beq_iff_eq, List.map_append, List.map_append] at hsame
    obtain ⟨-, hfold⟩ := List.append_inj' hsame rfl
    simp only [List.cons.injEq, List.map_cons, and_true] at hlast hfold
    exact h (hlast ▸ hfold)

/-- The blanks between the digits and the unit are dropped. -/
theorem trimEnd_blanks (hdigits : IsPlain digits) (hblanks : ∀ c ∈ blanks, isBlank c = true) :
    trimEnd isBlank (digits ++ blanks) = digits := by
  have hnil : blanks.rdropWhile isBlank = [] := List.rdropWhile_eq_nil_iff.mpr hblanks
  rw [trimEnd_append (isBlank_eq_false hdigits), trimEnd_eq_rdropWhile, hnil, List.append_nil]

/-- The number before a suffix. -/
theorem readSuffixed?_append (hn : n.IsWritten digits) (hblanks : ∀ c ∈ blanks, isBlank c = true)
    (hunit : sameFoldChars unit tail = true) :
    readSuffixed? tail (digits ++ blanks ++ unit) = some n.toBinary64? := by
  have hdrop : dropSuffix? tail (digits ++ blanks ++ unit) = some (digits ++ blanks) :=
    dropSuffix?_eq_some_iff.mpr ⟨unit, rfl, hunit⟩
  rw [readSuffixed?, hdrop, Option.map_some, trimEnd_blanks hn.isPlain hblanks,
    Numeral.readNumber?_of_isWritten hn]

/-- Where a suffix is read after a number the text is made of a numeral, blanks and the suffix. -/
theorem exists_of_readSuffixed? (h : readSuffixed? tail s = some (some x)) :
    ∃ n digits blanks unit, s = digits ++ blanks ++ unit ∧ Numeral.IsWritten n digits ∧
      (∀ c ∈ blanks, isBlank c = true) ∧ sameFoldChars unit tail = true := by
  obtain ⟨front, hfront, hx⟩ := Option.map_eq_some_iff.mp h
  obtain ⟨unit, rfl, hunit⟩ := dropSuffix?_eq_some_iff.mp hfront
  obtain ⟨n, hn, -⟩ := Option.bind_eq_some_iff.mp hx
  refine ⟨n, _, front.rtakeWhile isBlank, unit, ?_, Numeral.isWritten_of_ofChars? hn,
    fun c hc => List.mem_rtakeWhile_imp hc, hunit⟩
  rw [trimEnd_eq_rdropWhile, List.rdropWhile_append_rtakeWhile]

/-- A text with a character that is neither a digit nor a point is no numeral. -/
theorem readNumber?_eq_none {c : Char} (hc : c ∈ s) (hdigit : c.isDigit = false)
    (hpoint : c ≠ '.') :
    readNumber? s = none := by
  have hnone : Numeral.ofChars? s = none := by
    rw [Option.eq_none_iff_forall_ne_some]
    intro n hn
    rcases (Numeral.isWritten_of_ofChars? hn).isPlain c hc with hc | hc
    · rw [hdigit] at hc
      cases hc
    · exact hpoint hc
  rw [readNumber?, hnone, Option.bind_none]

/-- The unit of pixels is two letters of which the second is an `x`. -/
theorem eq_of_sameFold_px (h : sameFoldChars unit "px".toList = true) :
    ∃ p c, unit = [p, c] ∧ c.toLower = 'x' := by
  match unit, length_eq_of_sameFoldChars h with
  | [p, c], _ =>
    rw [sameFoldChars, beq_iff_eq] at h
    have hlast := (List.cons.inj (List.cons.inj h).2).1
    exact ⟨p, c, rfl, hlast⟩

/-- A letter is neither a digit nor a point. -/
theorem not_plain_of_toLower {c : Char} (h : c.toLower = 'x') : c.isDigit = false ∧ c ≠ '.' := by
  constructor
  · rw [← Bool.not_eq_true]
    intro hdigit
    rw [toLower_of_isDigit hdigit] at h
    subst h
    exact absurd hdigit (by decide)
  · rintro rfl
    exact absurd h (by decide)

/-! ### Texts of each kind -/

/-- The word `auto` is recognised in any case. -/
theorem normalizeTrimmed?_auto (h : sameFoldChars s "auto".toList = true) :
    policy.normalizeTrimmed? axis s = some "auto" := if_pos h

/-- A numeral on its own is a number of pixels, with a fraction if it has one. -/
theorem normalizeTrimmed?_number (hn : n.IsWritten s) (hx : n.toBinary64? = some x) :
    policy.normalizeTrimmed? axis s = pixels? x := by
  have hauto := not_auto_of_isWritten hn []
  rw [List.append_nil] at hauto
  unfold Policy.normalizeTrimmed?
  rw [hauto, if_neg Bool.false_ne_true, Numeral.readNumber?_of_isWritten hn, hx]

/-- A numeral before `px`, with or without blanks between them, is rounded down to whole pixels. -/
theorem normalizeTrimmed?_pixels (hn : n.IsWritten digits)
    (hblanks : ∀ c ∈ blanks, isBlank c = true) (hunit : sameFoldChars unit "px".toList = true) :
    policy.normalizeTrimmed? axis (digits ++ blanks ++ unit) = n.toBinary64?.bind wholePixels? := by
  have hauto := not_auto_of_isWritten hn (blanks ++ unit)
  rw [← List.append_assoc] at hauto
  obtain ⟨p, c, hchars, hc⟩ := eq_of_sameFold_px hunit
  have hmem : c ∈ digits ++ blanks ++ unit := by
    rw [hchars]
    simp
  obtain ⟨hdigit, hpoint⟩ := not_plain_of_toLower hc
  unfold Policy.normalizeTrimmed?
  rw [hauto, if_neg Bool.false_ne_true, readNumber?_eq_none hmem hdigit hpoint,
    readSuffixed?_append hn hblanks hunit]

/-- A numeral before a percent sign is a part of the width of the page, if there is one. -/
theorem normalizeTrimmed?_percent {m : UInt32} (hm : policy.contentMaxWidth? = some m)
    (hn : n.IsWritten digits) (hblanks : ∀ c ∈ blanks, isBlank c = true) :
    policy.normalizeTrimmed? .width (digits ++ blanks ++ ['%']) =
      n.toBinary64?.bind (percentPixels? · m) := by
  have hauto := not_auto_of_isWritten hn (blanks ++ ['%'])
  rw [← List.append_assoc] at hauto
  have hmem : '%' ∈ digits ++ blanks ++ ['%'] := by simp
  have hpixels : readSuffixed? "px".toList (digits ++ blanks ++ ['%']) = none := by
    have hdrop : dropSuffix? (['p'] ++ ['x']) (digits ++ blanks ++ ['%']) = none :=
      dropSuffix?_eq_none (by decide)
    rw [readSuffixed?, show "px".toList = ['p'] ++ ['x'] from rfl, hdrop, Option.map_none]
  unfold Policy.normalizeTrimmed?
  rw [hauto, if_neg Bool.false_ne_true, readNumber?_eq_none hmem (by decide) (by decide), hpixels,
    hm, readSuffixed?_append hn hblanks (by decide)]

/-- Only texts of these kinds are lengths. -/
theorem isLengthText_of_normalizeTrimmed? {value : String}
    (h : policy.normalizeTrimmed? axis s = some value) : IsLengthText policy axis s := by
  unfold Policy.normalizeTrimmed? at h
  split at h
  · rename_i hauto
    exact .auto hauto
  · split at h
    · rename_i x hx
      obtain ⟨n, hn, -⟩ := Option.bind_eq_some_iff.mp hx
      exact .number (Numeral.isWritten_of_ofChars? hn)
    · split at h
      · rename_i x? hx
        obtain ⟨x, rfl, -⟩ := Option.bind_eq_some_iff.mp h
        obtain ⟨n, digits, blanks, unit, rfl, hn, hblanks, hunit⟩ := exists_of_readSuffixed? hx
        exact .pixels hn hblanks hunit
      · split at h
        · rename_i m x? hm hx
          obtain ⟨x, rfl, -⟩ := Option.bind_eq_some_iff.mp h
          obtain ⟨n, digits, blanks, unit, rfl, hn, hblanks, hunit⟩ := exists_of_readSuffixed? hx
          match unit, length_eq_of_sameFoldChars hunit with
          | [c], _ =>
            rw [sameFoldChars, beq_iff_eq] at hunit
            rw [eq_percent_of_toLower (List.cons.inj hunit).1]
            exact .percent rfl (by rw [hm]; rfl) hn hblanks
        · cases h

/-! ### Lengths -/

/-- Pixels with or without a unit. -/
theorem normalizeTrimmed?_whole {k : Nat} (hn : n.IsWritten digits)
    (hblanks : ∀ c ∈ blanks, isBlank c = true)
    (hs : s = digits ∨ sameFoldChars unit "px".toList = true ∧ s = digits ++ blanks ++ unit)
    (hk : n.value = k) (hlarge : k < 10 ^ 300) :
    policy.normalizeTrimmed? axis s = wholePixelText? k := by
  have hvalue : n.value ≤ 10 ^ 300 := by
    rw [hk]
    exact_mod_cast hlarge.le
  obtain ⟨x, hx⟩ := Numeral.exists_toBinary64? hvalue
  rcases hs with rfl | ⟨hunit, rfl⟩
  · rw [normalizeTrimmed?_number hn hx, pixels?_whole hx hk]
  · rw [normalizeTrimmed?_pixels hn hblanks hunit, hx, Option.bind_some, wholePixels?_whole hx hk]

/-- A number of pixels that is not too large has a normal form. -/
theorem isSome_normalizeTrimmed? (hn : n.IsWritten digits)
    (hblanks : ∀ c ∈ blanks, isBlank c = true)
    (hs : s = digits ∨ sameFoldChars unit "px".toList = true ∧ s = digits ++ blanks ++ unit)
    (hle : n.value ≤ maxPixels) : (policy.normalizeTrimmed? axis s).isSome = true := by
  have hlarge : (maxPixels : ℚ) ≤ 10 ^ 300 := by
    have h : maxPixels ≤ 10 ^ 300 := by decide +kernel
    exact_mod_cast h
  obtain ⟨x, hx⟩ := Numeral.exists_toBinary64? (hle.trans hlarge)
  have hfits := Binary64.leNat_iff.mpr (Numeral.toRat_le_of_value_le hle hx)
  rcases hs with rfl | ⟨hunit, rfl⟩
  · rw [normalizeTrimmed?_number hn hx, pixels?, if_pos hfits]
    rfl
  · rw [normalizeTrimmed?_pixels hn hblanks hunit, hx, Option.bind_some, wholePixels?, if_pos hfits]
    rfl

/-- The lengths are, without the blanks around them, the word `auto`, numerals, numerals with `px`,
    and numerals with a percent sign for a width on a page of known width; all of these that are not
    too large have a normal form. For a natural number of pixels it is that number, if there can be
    as many pixels. For a natural percentage it is the nearest natural number of pixels, if there
    can be as many; half way between two it may be either of them. -/
theorem normalizeLength?_exact (policy : Policy) (axis : Axis) (raw : String) :
    let s := trim isBlank raw.toList
    let result := policy.normalizeLength? axis raw
    (∀ value, result = some value → IsLengthText policy axis s) ∧
    (sameFoldChars s "auto".toList = true → result = some "auto") ∧
    ∀ (n : Numeral) (digits blanks unit : List Char), n.IsWritten digits →
      (∀ c ∈ blanks, isBlank c = true) →
      ((s = digits ∨ sameFoldChars unit "px".toList = true ∧ s = digits ++ blanks ++ unit) →
        (n.value ≤ maxPixels → result.isSome = true) ∧
        ∀ k : ℕ, n.value = k → k < 10 ^ 300 → result = wholePixelText? k) ∧
      ∀ m, axis = .width → policy.contentMaxWidth? = some m → s = digits ++ blanks ++ ['%'] →
        n.value < 10 ^ 300 →
        (n.value * m.toNat / 100 ≤ maxPixels → result.isSome = true) ∧
        ∀ k : ℕ, n.value = k →
          result = wholePixelText? ((k * m.toNat + 50) / 100) ∨
          k * m.toNat % 100 = 50 ∧ result = wholePixelText? (k * m.toNat / 100) := by
  intro s result
  refine ⟨fun value h => isLengthText_of_normalizeTrimmed? h, fun h => normalizeTrimmed?_auto h,
    fun n digits blanks unit hn hblanks => ⟨fun hs => ⟨fun hle => ?_, fun k hk hlarge => ?_⟩, ?_⟩⟩
  · exact isSome_normalizeTrimmed? hn hblanks hs hle
  · exact normalizeTrimmed?_whole hn hblanks hs hk hlarge
  · intro m haxis hm hs hlarge
    obtain ⟨x, hx⟩ := Numeral.exists_toBinary64? hlarge.le
    have hresult : result = percentPixels? x m := by
      show policy.normalizeTrimmed? axis s = _
      rw [haxis, hs, normalizeTrimmed?_percent hm hn hblanks, hx, Option.bind_some]
    rw [hresult]
    exact ⟨isSome_percentPixels? hx hlarge.le, fun k hk => percentPixels?_whole hx hk hlarge.le⟩

/-- Half way between two numbers of pixels the lower one is taken here. -/
theorem normalizeLength?_exact_of_half :
    let policy : Policy := { contentMaxWidth? := some 50 }
    let result := policy.normalizeLength? .width " 29.0 %"
    IsLengthText policy .width "29.0 %".toList ∧
    (result = wholePixelText? 15 ∨ 29 * 50 % 100 = 50 ∧ result = wholePixelText? 14) ∧
    result = some "14" := by
  intro policy result
  have htrim : trim isBlank " 29.0 %".toList = "29.0 %".toList := by decide
  have hresult : result = some "14" := by decide +kernel
  have hn : Numeral.IsWritten ⟨['2', '9'], ['0']⟩ "29.0".toList :=
    Numeral.isWritten_of_ofChars? (by decide)
  have hvalue : Numeral.value ⟨['2', '9'], ['0']⟩ = (29 : ℕ) := by
    rw [Numeral.value, show Nat.ofDigitChars 10 (['2', '9'] ++ ['0']) 0 = 290 from rfl]
    norm_num
  obtain ⟨honly, -, hkinds⟩ := normalizeLength?_exact policy .width " 29.0 %"
  obtain ⟨-, hpercent⟩ := hkinds _ _ [' '] [] hn (by decide)
  rw [htrim] at honly hpercent
  have hlarge : 29 < 10 ^ 300 := by decide +kernel
  obtain ⟨-, hwhole⟩ := hpercent 50 rfl rfl rfl (by rw [hvalue]; exact_mod_cast hlarge)
  exact ⟨honly _ hresult, hwhole 29 hvalue, hresult⟩

end AmpMarkup.Conversion
