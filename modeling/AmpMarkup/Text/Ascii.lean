namespace AmpMarkup.Text

/-!
# Text — letter case and blanks of ASCII

Names of elements and attributes, suffixes and schemes are compared without regard to the case of
ASCII letters; no other letter has a case here.

* `fold s` — `s` with every ASCII letter in lower case, which is done once (`fold_fold`).
* `sameFold a b` — equality up to `fold`; an equivalence (`sameFold_iff`).
* `isAsciiBlank c` — space, tab, line feed, form feed and carriage return (not vertical tab).
* `trim p s` — `s` without the longest prefix and the longest suffix whose characters satisfy `p`.
-/

/-! ### Letter case -/

/-- `s` with its ASCII letters in lower case. -/
def fold (s : String) : String := s.map Char.toLower

/-- Equal up to the case of ASCII letters. -/
def sameFold (a b : String) : Bool := fold a == fold b

/-- Names agree up to case exactly if they are folded to the same. -/
theorem sameFold_iff {a b : String} : sameFold a b = true ↔ fold a = fold b := by
  simp [sameFold]

/-- Only capital letters are changed. -/
theorem toLower_of_not {c : Char} (h : ¬ (c.val ≥ 'A'.val ∧ c.val ≤ 'Z'.val)) : c.toLower = c :=
  dif_neg h

/-- A capital letter moves by the distance of the two alphabets. -/
theorem val_toLower {c : Char} (h : c.val ≥ 'A'.val ∧ c.val ≤ 'Z'.val) :
    c.toLower.val = c.val + ('a'.val - 'A'.val) :=
  congrArg Char.val (dif_pos h)

/-- A small letter stays one. -/
theorem toLower_toLower (c : Char) : c.toLower.toLower = c.toLower := by
  by_cases h : c.val ≥ 'A'.val ∧ c.val ≤ 'Z'.val
  -- Capital letters move by 32, beyond the last of them.
  · have hout : ¬ (c.toLower.val ≥ 'A'.val ∧ c.toLower.val ≤ 'Z'.val) := by
      rw [val_toLower h]
      simp only [ge_iff_le, UInt32.le_iff_toNat_le, UInt32.toNat_add] at h ⊢
      have hA : 'A'.val.toNat = 65 := rfl
      have hZ : 'Z'.val.toNat = 90 := rfl
      have hstep : ('a'.val - 'A'.val).toNat = 32 := rfl
      omega
    exact toLower_of_not hout
  · rw [toLower_of_not h, toLower_of_not h]

/-- Folding changes each character on its own. -/
@[simp] theorem toList_fold (s : String) : (fold s).toList = s.toList.map Char.toLower := by
  simp [fold]

/-- Folding is done once. -/
@[simp] theorem fold_fold (s : String) : fold (fold s) = fold s := by
  apply String.ext
  rw [toList_fold, toList_fold, List.map_map]
  exact List.map_congr_left fun c _ => toLower_toLower c

/-- Equal up to the case of ASCII letters, on lists of characters. -/
def sameFoldChars (a b : List Char) : Bool := a.map Char.toLower == b.map Char.toLower

/-! ### Classes of characters -/

/-- Space, tab, line feed, form feed or carriage return. -/
def isAsciiBlank (c : Char) : Bool :=
  c == ' ' || c == '\t' || c == '\n' || c == '\x0c' || c == '\r'

/-- A code point below 128. -/
def isAscii (c : Char) : Bool := c.toNat < 128

/-- The value of a hexadecimal digit of either case. -/
def hexValue? (c : Char) : Option Nat :=
  if c.isDigit then some (c.toNat - 48)
  else if 'a' ≤ c ∧ c ≤ 'f' then some (c.toNat - 87)
  else if 'A' ≤ c ∧ c ≤ 'F' then some (c.toNat - 55)
  else none

/-- A hexadecimal digit of either case. -/
def isHexDigit (c : Char) : Bool := (hexValue? c).isSome

/-! ### Ends of a text -/

/-- `s` without the longest suffix of characters satisfying `p`. -/
def trimEnd (p : Char → Bool) (s : List Char) : List Char := (s.reverse.dropWhile p).reverse

/-- `s` without the longest prefix and suffix of characters satisfying `p`. -/
def trim (p : Char → Bool) (s : List Char) : List Char := trimEnd p (s.dropWhile p)

end AmpMarkup.Text
