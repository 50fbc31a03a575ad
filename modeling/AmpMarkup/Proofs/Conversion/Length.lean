import AmpMarkup.Conversion.Length
import AmpMarkup.Proofs.Binary64.ReadBack
import AmpMarkup.Proofs.Text.Ascii
import AmpMarkup.Proofs.Text.Character

namespace AmpMarkup.Conversion

open AmpMarkup.Text

/-!
# Lengths in normal form

A length in normal form is `auto`, a natural number or the shortest decimal of a number that is
none. All of them are read again as what they were written for, by every policy and on both axes.

* `readNumber?_digits`, `readNumber?_point` — what numerals without and with a point stand for.
* `readNumber?_positional` — a decimal that is written without exponent stands for itself.
* `normalizeLength?_of_readNumber?` — the normal form of a text that is a numeral.
* `normalizeLength?_normalizeLength?` — a normal form is its own normal form.
-/

/-! ### Reading numerals -/

section Numerals

variable {ds fs : List Char} {x : Binary64}

theorem Numeral.digitsValue_eq (ds : List Char) :
    Numeral.digitsValue ds = Nat.ofDigitChars 10 ds 0 := rfl

/-- Digits alone are a numeral without a fraction. -/
theorem Numeral.ofChars?_digits (hds : ∀ c ∈ ds, c.isDigit = true) (hne : ds ≠ []) :
    Numeral.ofChars? ds = some ⟨ds, []⟩ := by
  have htake : ds.takeWhile Char.isDigit = ds := by
    rw [List.takeWhile_eq_self_iff]
    exact hds
  have hdrop : ds.dropWhile Char.isDigit = [] := by
    rw [List.dropWhile_eq_nil_iff]
    exact hds
  have hempty : ds.isEmpty = false := by
    rw [List.isEmpty_eq_false_iff]
    exact hne
  rw [Numeral.ofChars?, htake, hdrop]
  simp [hempty]

/-- Digits, a point and digits are a numeral, if there is a digit at all. -/
theorem Numeral.ofChars?_point (hds : ∀ c ∈ ds, c.isDigit = true) (hne : ds ++ fs ≠ [])
    (hfs : ∀ c ∈ fs, c.isDigit = true) :
    Numeral.ofChars? (ds ++ '.' :: fs) = some ⟨ds, fs⟩ := by
  have hpoint : ¬ '.'.isDigit = true := by decide
  have htake : (ds ++ '.' :: fs).takeWhile Char.isDigit = ds := by
    rw [List.takeWhile_append_of_pos hds, List.takeWhile_cons_of_neg hpoint, List.append_nil]
  have hdrop : (ds ++ '.' :: fs).dropWhile Char.isDigit = '.' :: fs := by
    rw [List.dropWhile_append_of_pos hds, List.dropWhile_cons_of_neg hpoint]
  have hempty : ds = [] → fs ≠ [] := fun hnil hnil' => hne (by rw [hnil, hnil', List.append_nil])
  have hall : fs.all Char.isDigit = true := by
    rw [List.all_eq_true]
    exact hfs
  rw [Numeral.ofChars?, htake, hdrop]
  simpa [hall] using hempty

/-- Digits without a point are read as a natural number. -/
theorem readNumber?_digits (hds : ∀ c ∈ ds, c.isDigit = true) (hne : ds ≠ []) :
    readNumber? ds = Binary64.ofDecimal? (Nat.ofDigitChars 10 ds 0) 0 := by
  rw [readNumber?, Numeral.ofChars?_digits hds hne, Option.bind_some, Numeral.toBinary64?,
    List.append_nil, Numeral.digitsValue_eq]
  rfl

/-- With a point among the digits, the number is divided by a power of ten. -/
theorem readNumber?_point (hds : ∀ c ∈ ds, c.isDigit = true) (hne : ds ++ fs ≠ [])
    (hfs : ∀ c ∈ fs, c.isDigit = true) :
    readNumber? (ds ++ '.' :: fs) =
      Binary64.ofDecimal? (Nat.ofDigitChars 10 (ds ++ fs) 0) (-(fs.length : Int)) := by
  rw [readNumber?, Numeral.ofChars?_point hds hne hfs, Option.bind_some, Numeral.toBinary64?,
    Numeral.digitsValue_eq]

/-- Only representable numbers are read. -/
theorem representable_of_readNumber? {s : List Char} (h : readNumber? s = some x) :
    x.Representable := by
  rw [readNumber?, Option.bind_eq_some_iff] at h
  obtain ⟨n, -, hn⟩ := h
  rw [Numeral.toBinary64?, Binary64.ofDecimal?_eq] at hn
  exact Binary64.representable_of_ofRatio? hn

end Numerals

/-! ### Decimals written without exponent -/

/-- Digits or points. -/
def IsPlain (s : List Char) : Prop := ∀ c ∈ s, c.isDigit = true ∨ c = '.'

/-- A natural number is written in digits. -/
theorem isDigit_of_mem_toDigits {n : Nat} {c : Char} (h : c ∈ Nat.toDigits 10 n) :
    c.isDigit = true :=
  Nat.isDigit_of_mem_toDigits (by decide) (by decide) h

section Positional

variable {d : Binary64.Decimal}

/-- Without a negative exponent, the digits are followed by zeros. -/
theorem toList_positional_of_nonneg (h : 0 ≤ d.exponent) :
    d.positional.toList = Nat.toDigits 10 d.digits ++ List.replicate d.exponent.toNat '0' := by
  rw [Binary64.Decimal.positional]
  dsimp only
  rw [if_pos h, String.toList_append, toList_pushn, Nat.toString_eq_repr, Nat.toList_repr]

/-- For a negative exponent the digits, with zeros before them, are split by the point. -/
theorem toList_positional_of_neg (h : ¬ 0 ≤ d.exponent) :
    ∃ ds fs zeros, d.positional.toList = ds ++ '.' :: fs ∧ ds ≠ [] ∧
      ds ++ fs = List.replicate zeros '0' ++ Nat.toDigits 10 d.digits ∧
      d.exponent = -(fs.length : Int) := by
  obtain ⟨places, hplaces⟩ : ∃ places, places = (-d.exponent).toNat := ⟨_, rfl⟩
  obtain ⟨zeros, hzeros⟩ :
    ∃ zeros, zeros = places + 1 - (toString d.digits).length := ⟨_, rfl⟩
  -- The zeros before the digits leave room for one digit before the point.
  obtain ⟨padded, hpadded⟩ :
    ∃ padded, padded = List.replicate zeros '0' ++ Nat.toDigits 10 d.digits := ⟨_, rfl⟩
  have hlist : ("".pushn '0' zeros ++ toString d.digits).toList = padded := by
    rw [String.toList_append, toList_pushn, Nat.toString_eq_repr, Nat.toList_repr, hpadded]
  have hlength : places < padded.length := by
    rw [hpadded, List.length_append, List.length_replicate, hzeros, ← Nat.toList_repr,
      String.length_toList, Nat.toString_eq_repr]
    omega
  refine ⟨padded.take (padded.length - places), padded.drop (padded.length - places), zeros,
    ?_, ?_, ?_, ?_⟩
  · rw [Binary64.Decimal.positional]
    dsimp only
    rw [if_neg h, ← hplaces, ← hzeros, ← String.length_toList, hlist]
    simp
  · intro hnil
    rw [List.take_eq_nil_iff] at hnil
    rcases hnil with hnil | hnil
    · omega
    · rw [hnil, List.length_nil] at hlength
      omega
  · rw [List.take_append_drop, hpadded]
  · rw [List.length_drop]
    omega

/-- Zeros in front of the digits are digits as well. -/
theorem isDigit_of_mem_padded {zeros : Nat} {c : Char}
    (h : c ∈ List.replicate zeros '0' ++ Nat.toDigits 10 d.digits) : c.isDigit = true := by
  rcases List.mem_append.mp h with hzero | hdigit
  · rw [List.eq_of_mem_replicate hzero]
    rfl
  · exact isDigit_of_mem_toDigits hdigit

/-- A decimal that is written without exponent stands for itself. -/
theorem readNumber?_positional (d : Binary64.Decimal) :
    readNumber? d.positional.toList = Binary64.ofDecimal? d.digits d.exponent := by
  by_cases h : 0 ≤ d.exponent
  -- Zeros after the digits multiply by the power of ten.
  · have hdigits : ∀ c ∈ d.positional.toList, c.isDigit = true := by
      rw [toList_positional_of_nonneg h]
      intro c hc
      rcases List.mem_append.mp hc with hdigit | hzero
      · exact isDigit_of_mem_toDigits hdigit
      · rw [List.eq_of_mem_replicate hzero]
        rfl
    have hne : d.positional.toList ≠ [] := by
      rw [toList_positional_of_nonneg h]
      exact List.append_ne_nil_of_left_ne_nil Nat.toDigits_ne_nil _
    rw [readNumber?_digits hdigits hne, toList_positional_of_nonneg h, Nat.ofDigitChars_append,
      Nat.ofDigitChars_ten_toDigits, Nat.ofDigitChars_replicate_zero, Binary64.ofDecimal?_eq,
      Binary64.ofDecimal?_eq, show (-d.exponent).toNat = 0 by omega, Nat.mul_comm (10 ^ _)]
    simp
  -- The point divides by the power of ten, and zeros before the digits count for nothing.
  · obtain ⟨ds, fs, zeros, hlist, hne, hpadded, hexponent⟩ := toList_positional_of_neg h
    have hdigits : ∀ c ∈ ds ++ fs, c.isDigit = true := by
      rw [hpadded]
      exact fun c hc => isDigit_of_mem_padded hc
    rw [hlist, readNumber?_point (fun c hc => hdigits c (List.mem_append_left _ hc))
      (List.append_ne_nil_of_left_ne_nil hne fs)
      (fun c hc => hdigits c (List.mem_append_right _ hc)), hpadded, Nat.ofDigitChars_append,
      Nat.ofDigitChars_replicate_zero, Nat.mul_zero, Nat.ofDigitChars_ten_toDigits, hexponent]

/-- A decimal that is written without exponent has only digits and a point. -/
theorem isPlain_positional (d : Binary64.Decimal) : IsPlain d.positional.toList := by
  by_cases h : 0 ≤ d.exponent
  · rw [toList_positional_of_nonneg h]
    intro c hc
    rcases List.mem_append.mp hc with hdigit | hzero
    · exact .inl (isDigit_of_mem_toDigits hdigit)
    · rw [List.eq_of_mem_replicate hzero]
      exact .inl rfl
  · obtain ⟨ds, fs, zeros, hlist, -, hpadded, -⟩ := toList_positional_of_neg h
    rw [hlist]
    intro c hc
    rw [List.mem_append, List.mem_cons] at hc
    rcases hc with hc | rfl | hc
    · exact .inl (isDigit_of_mem_padded (hpadded ▸ List.mem_append_left fs hc))
    · exact .inr rfl
    · exact .inl (isDigit_of_mem_padded (hpadded ▸ List.mem_append_right ds hc))

end Positional

/-! ### Natural numbers -/

/-- A natural number is written in digits, without a point. -/
theorem isPlain_toString (n : Nat) : IsPlain (toString n).toList := by
  rw [Nat.toString_eq_repr, Nat.toList_repr]
  exact fun c hc => .inl (isDigit_of_mem_toDigits hc)

/-- A natural number of pixels is read back from its text, exactly. -/
theorem readNumber?_toString {n : Nat} (hn : n ≤ maxPixels) :
    readNumber? (toString n).toList = some ⟨n * Binary64.one⟩ := by
  rw [Nat.toString_eq_repr, Nat.toList_repr,
    readNumber?_digits (fun c hc => isDigit_of_mem_toDigits hc) Nat.toDigits_ne_nil,
    Nat.ofDigitChars_ten_toDigits, Binary64.ofDecimal?_eq]
  refine Binary64.ofRatio?_of_exact (Binary64.representable_nat hn) (Nat.pow_pos (by decide)) ?_
  simp

/-- Pixels that are a natural number are written as one. -/
theorem pixels?_nat {n : Nat} (hn : n ≤ maxPixels) :
    pixels? ⟨n * Binary64.one⟩ = some (toString n) := by
  have hle : Binary64.leNat ⟨n * Binary64.one⟩ maxPixels = true := by
    rw [Binary64.leNat, decide_eq_true_eq]
    exact Nat.mul_le_mul_right _ hn
  have hnatural : Binary64.isNatural ⟨n * Binary64.one⟩ = true := by
    rw [Binary64.isNatural, decide_eq_true_eq]
    exact Nat.mul_mod_left n _
  rw [pixels?, if_pos hle, if_pos hnatural, Binary64.floor, Nat.mul_div_left n Binary64.one_pos]

/-! ### Normal forms -/

/-- There are no blanks among digits and points. -/
theorem isBlank_eq_false {s : List Char} (h : IsPlain s) : ∀ c ∈ s, isBlank c = false := by
  intro c hc
  rcases h c hc with hdigit | rfl
  · rw [isDigit_iff_toNat] at hdigit
    simp [isBlank]
    omega
  · decide

/-- No letter is plain. -/
theorem not_auto {s : List Char} (h : IsPlain s) : sameFoldChars s "auto".toList = false := by
  rw [sameFoldChars, beq_eq_false_iff_ne]
  intro heq
  -- Some character would have to become an `a`.
  have hmem : 'a' ∈ s.map Char.toLower := by
    rw [heq]
    decide
  obtain ⟨c, hc, hlower⟩ := List.mem_map.mp hmem
  rcases h c hc with hdigit | rfl
  · rw [isDigit_iff_toNat] at hdigit
    have hnot : ¬ (c.val ≥ 'A'.val ∧ c.val ≤ 'Z'.val) := by
      intro hupper
      have hge : 'A'.val.toNat ≤ c.val.toNat := UInt32.le_iff_toNat_le.mp hupper.1
      have hA : 'A'.val.toNat = 65 := rfl
      rw [Char.toNat] at hdigit
      omega
    rw [toLower_of_not hnot] at hlower
    rw [hlower] at hdigit
    exact absurd hdigit (by decide)
  · exact absurd hlower (by decide)

variable {policy : Policy} {axis : Axis} {value : String} {x : Binary64}

/-- A text that is a numeral has the normal form of its number. -/
theorem normalizeLength?_of_readNumber? (h : IsPlain value.toList)
    (hx : readNumber? value.toList = some x) : policy.normalizeLength? axis value = pixels? x := by
  rw [Policy.normalizeLength?, trim_of_forall (isBlank_eq_false h)]
  unfold Policy.normalizeTrimmed?
  rw [not_auto h, if_neg Bool.false_ne_true, hx]

/-- The word `auto` is a normal form, on either axis and under every policy. -/
theorem normalizeLength?_auto : policy.normalizeLength? axis "auto" = some "auto" := by
  have hauto : sameFoldChars (trim isBlank "auto".toList) "auto".toList = true := by decide
  rw [Policy.normalizeLength?]
  unfold Policy.normalizeTrimmed?
  rw [if_pos hauto]

/-- A natural number of pixels is a normal form. -/
theorem normalizeLength?_toString {n : Nat} (hn : n ≤ maxPixels) :
    policy.normalizeLength? axis (toString n) = some (toString n) := by
  rw [normalizeLength?_of_readNumber? (isPlain_toString n) (readNumber?_toString hn),
    pixels?_nat hn]

/-- Rounding down does not lead past the largest number of pixels. -/
theorem floor_le (h : x.leNat maxPixels = true) : x.floor ≤ maxPixels := by
  rw [Binary64.leNat, decide_eq_true_eq, Nat.mul_comm] at h
  exact Nat.div_le_of_le_mul h

/-- What is written for a number of pixels is a normal form. -/
theorem normalizeLength?_of_pixels? (hx : x.Representable) (h : pixels? x = some value) :
    policy.normalizeLength? axis value = some value := by
  have hpixels := h
  rw [pixels?] at h
  split at h
  · rename_i hle
    split at h
    · rw [← Option.some.inj h]
      exact normalizeLength?_toString (floor_le hle)
    · rename_i hnatural
      have hunits : x.units ≠ 0 := by
        intro hzero
        rw [Binary64.isNatural, hzero, Nat.zero_mod] at hnatural
        exact hnatural rfl
      rw [Binary64.toDecimalString, if_neg hunits] at h
      -- A number that is not natural is written as its shortest decimal, which reads back.
      have hread : readNumber? value.toList = some x := by
        rw [← Option.some.inj h, readNumber?_positional, Binary64.ofDecimal?_shortest hx]
      rw [normalizeLength?_of_readNumber? (Option.some.inj h ▸ isPlain_positional _) hread, hpixels]
  · exact absurd h (by simp)

/-- The pixels before a unit are written as a natural number. -/
theorem nat_of_wholePixels? (h : wholePixels? x = some value) :
    ∃ n, n ≤ maxPixels ∧ toString n = value := by
  rw [wholePixels?] at h
  split at h
  · rename_i hle
    exact ⟨x.floor, floor_le hle, Option.some.inj h⟩
  · exact absurd h (by simp)

/-- The pixels of a percentage are written as a natural number. -/
theorem nat_of_percentPixels? {contentWidth : UInt32}
    (h : percentPixels? x contentWidth = some value) :
    ∃ n, n ≤ maxPixels ∧ toString n = value := by
  rw [percentPixels?] at h
  obtain ⟨hundred, -, h⟩ := Option.bind_eq_some_iff.mp h
  obtain ⟨hundredth, -, h⟩ := Option.bind_eq_some_iff.mp h
  obtain ⟨width, -, h⟩ := Option.bind_eq_some_iff.mp h
  obtain ⟨exact, -, h⟩ := Option.bind_eq_some_iff.mp h
  split at h
  · rename_i hle
    exact ⟨exact.roundHalfUp, hle, Option.some.inj h⟩
  · exact absurd h (by simp)

/-- A normal form is its own normal form, for every policy and on both axes. -/
theorem normalizeLength?_normalizeLength? {policy' : Policy} {axis' : Axis} {raw : String}
    (h : policy'.normalizeLength? axis' raw = some value) :
    policy.normalizeLength? axis value = some value := by
  rw [Policy.normalizeLength?] at h
  unfold Policy.normalizeTrimmed? at h
  split at h
  · rw [← Option.some.inj h]
    exact normalizeLength?_auto
  · split at h
    · rename_i x hx
      exact normalizeLength?_of_pixels? (representable_of_readNumber? hx) h
    · split at h
      · obtain ⟨x, -, hx⟩ := Option.bind_eq_some_iff.mp h
        obtain ⟨n, hn, rfl⟩ := nat_of_wholePixels? hx
        exact normalizeLength?_toString hn
      · split at h
        · obtain ⟨x, -, hx⟩ := Option.bind_eq_some_iff.mp h
          obtain ⟨n, hn, rfl⟩ := nat_of_percentPixels? hx
          exact normalizeLength?_toString hn
        · exact absurd h (by simp)

end AmpMarkup.Conversion
