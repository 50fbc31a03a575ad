import AmpMarkup.Text.Ascii
import Mathlib.Tactic.Common

namespace AmpMarkup.Text

/-!
# Classes of characters by their code points

* `isUpper_iff_toNat`, `isLower_iff_toNat`, `isAlpha_iff_toNat`, `isDigit_iff_toNat` — letters and
  digits as intervals.
* `toNat_toLower` — a capital letter moves by 32; `toLower_of_not_isUpper` — nothing else moves.
* `decidableForallMem` — what holds of the characters of a given text.
* `forall_ascii` — what holds of the first 128 code points holds of all characters of ASCII.
-/

variable {c : Char}

/-- The capitals are those from 65 to 90. -/
theorem isUpper_iff_toNat : c.isUpper = true ↔ 65 ≤ c.toNat ∧ c.toNat ≤ 90 := by
  have hval : c.isUpper = true ↔ 'A'.val ≤ c.val ∧ c.val ≤ 'Z'.val := decide_eq_true_iff
  rw [hval, UInt32.le_iff_toNat_le, UInt32.le_iff_toNat_le]
  exact Iff.rfl

/-- The small letters are those from 97 to 122. -/
theorem isLower_iff_toNat : c.isLower = true ↔ 97 ≤ c.toNat ∧ c.toNat ≤ 122 := by
  have hval : c.isLower = true ↔ 'a'.val ≤ c.val ∧ c.val ≤ 'z'.val :=
    Bool.and_eq_true_iff.trans (and_congr decide_eq_true_iff decide_eq_true_iff)
  rw [hval, UInt32.le_iff_toNat_le, UInt32.le_iff_toNat_le]
  exact Iff.rfl

/-- The digits are those from 48 to 57. -/
theorem isDigit_iff_toNat : c.isDigit = true ↔ 48 ≤ c.toNat ∧ c.toNat ≤ 57 :=
  Char.isDigit_iff_toNat

/-- The letters are the capitals and the small letters. -/
theorem isAlpha_iff_toNat :
    c.isAlpha = true ↔ (65 ≤ c.toNat ∧ c.toNat ≤ 90) ∨ (97 ≤ c.toNat ∧ c.toNat ≤ 122) := by
  have hor : c.isAlpha = true ↔ c.isUpper = true ∨ c.isLower = true := Bool.or_eq_true_iff
  rw [hor, isUpper_iff_toNat, isLower_iff_toNat]

/-- A capital letter moves by 32, and no other character moves. -/
theorem toNat_toLower (c : Char) :
    c.toLower.toNat = if 65 ≤ c.toNat ∧ c.toNat ≤ 90 then c.toNat + 32 else c.toNat := by
  by_cases h : 65 ≤ c.toNat ∧ c.toNat ≤ 90
  · rw [if_pos h]
    have hval : c.val ≥ 'A'.val ∧ c.val ≤ 'Z'.val := by
      rw [ge_iff_le, UInt32.le_iff_toNat_le, UInt32.le_iff_toNat_le]
      exact h
    have hlower : c.toLower.val = c.val + ('a'.val - 'A'.val) := congrArg Char.val (dif_pos hval)
    have hstep : ('a'.val - 'A'.val).toNat = 32 := rfl
    rw [← Char.toNat_val, hlower, UInt32.toNat_add, hstep, Char.toNat_val]
    omega
  · rw [if_neg h]
    have hval : ¬ (c.val ≥ 'A'.val ∧ c.val ≤ 'Z'.val) := by
      rw [ge_iff_le, UInt32.le_iff_toNat_le, UInt32.le_iff_toNat_le]
      exact h
    exact congrArg Char.toNat (dif_neg hval : c.toLower = c)

/-- Only capitals change in lower case. -/
theorem toLower_of_not_isUpper (h : c.isUpper = false) : c.toLower = c := by
  apply Char.toNat_inj.mp
  rw [← Bool.not_eq_true, isUpper_iff_toNat] at h
  rw [toNat_toLower, if_neg h]

/-- Only letters become letters. -/
theorem isAlpha_of_toLower (h : c.toLower.isAlpha = true) : c.isAlpha = true := by
  cases hupper : c.isUpper with
  | true => exact Bool.or_eq_true_iff.mpr (.inl hupper)
  | false => rwa [toLower_of_not_isUpper hupper] at h

/-- The characters of ASCII are those below 128. -/
theorem isAscii_iff : isAscii c = true ↔ c.toNat < 128 := decide_eq_true_iff

/-- A valid number is that of its character. -/
theorem toNat_ofNat {n : Nat} (h : n.isValidChar) : (Char.ofNat n).toNat = n := by
  rw [Char.ofNat, dif_pos h]
  rfl

/-- To decide what holds of the characters of a text only these are looked at, not all there are. -/
instance (priority := high) decidableForallMem {p : Char → Prop} [DecidablePred p] (s : List Char) :
    Decidable (∀ c ∈ s, p c) :=
  List.decidableBAll p s

/-- What is seen to hold of the first 128 code points. -/
theorem forall_ascii {p : Char → Bool} (h : ∀ n < 128, p (Char.ofNat n) = true)
    (hc : isAscii c = true) : p c = true := by
  rw [← Char.ofNat_toNat c]
  exact h c.toNat (isAscii_iff.mp hc)

end AmpMarkup.Text
