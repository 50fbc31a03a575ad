import AmpMarkup.Proofs.Text.Ascii
import AmpMarkup.Proofs.Text.Character
import AmpMarkup.Url.Percent
import Mathlib.Data.List.Basic

namespace AmpMarkup.Url

open AmpMarkup.Text

/-!
# Percent-encoding once

What has been encoded holds nothing more to encode: no set has the percent sign or a digit.

* `IsFreeOf` — a text without characters of a set; encoding leaves it alone
  (`percentEncode_of_isFreeOf`).
* `KeepsCodes` — the sets that leave encoded bytes alone; `isFreeOf_percentEncode`.
* `hasDotCodesOnly` — texts in which at most dots are encoded; only such a text itself is encoded to
  it (`percentEncode_eq_self`).
-/

variable {set : Char → Bool} {s : List Char} {c : Char}

/-! ### Encoded texts -/

/-- Everything is in ASCII, and nothing in the set. -/
def IsFreeOf (set : Char → Bool) (s : List Char) : Prop :=
  ∀ c ∈ s, isAscii c = true ∧ set c = false

/-- A text that is free of some characters does not have them. -/
theorem IsFreeOf.not_mem (h : IsFreeOf set s) (hc : set c = true) : c ∉ s := fun hmem => by
  rw [(h c hmem).2] at hc
  cases hc

/-- What holds only of characters in the set does not hold of the others in ASCII. -/
theorem eq_false_of_free {f : Char → Bool}
    (hset : ∀ n < 128, (set (Char.ofNat n) || !f (Char.ofNat n)) = true)
    (h : isAscii c = true ∧ set c = false) : f c = false := by
  have hall := forall_ascii (p := fun c => set c || !f c) hset h.1
  simpa [h.2] using hall

/-- A character that need not be encoded is left as it is. -/
theorem percentEncodeChar_of_not (h : isAscii c = true ∧ set c = false) :
    percentEncodeChar set c = [c] := by
  rw [percentEncodeChar, h.1, h.2]
  rfl

/-- A text that is free of the characters to be encoded is left as it is. -/
theorem percentEncode_of_isFreeOf (h : IsFreeOf set s) : percentEncode set s = s := by
  rw [percentEncode, List.flatMap_congr fun c hc => percentEncodeChar_of_not (h c hc)]
  exact List.flatMap_singleton' s

/-- The set has neither the percent sign nor a digit that codes are written with. -/
def KeepsCodes (set : Char → Bool) : Prop :=
  set '%' = false ∧ ∀ n < 16, set (hexDigit n) = false

instance (set : Char → Bool) : Decidable (KeepsCodes set) :=
  inferInstanceAs (Decidable (_ ∧ _))

/-- Codes in user information are not encoded again. -/
theorem keepsCodes_userSet : KeepsCodes userSet := by decide

/-- Codes in paths are not encoded again. -/
theorem keepsCodes_pathSet : KeepsCodes pathSet := by decide

/-- Codes in queries are not encoded again. -/
theorem keepsCodes_specialQuerySet : KeepsCodes specialQuerySet := by decide

/-- Codes in fragments are not encoded again. -/
theorem keepsCodes_fragmentSet : KeepsCodes fragmentSet := by decide

/-- The hexadecimal digits are characters of ASCII. -/
theorem isAscii_hexDigit {n : Nat} (h : n < 16) : isAscii (hexDigit n) = true := by
  have hall : ∀ n < 16, isAscii (hexDigit n) = true := by decide
  exact hall n h

/-- The two digits of a byte. -/
theorem digits_lt (b : UInt8) : b.toNat / 16 < 16 ∧ b.toNat % 16 < 16 := by
  have := b.toNat_lt
  omega

/-- A code is free of the characters to be encoded. -/
theorem isFreeOf_percentByte (hset : KeepsCodes set) (b : UInt8) :
    IsFreeOf set (percentByte b) := by
  intro c hc
  obtain ⟨hhigh, hlow⟩ := digits_lt b
  rw [percentByte, List.mem_cons, List.mem_cons, List.mem_singleton] at hc
  rcases hc with rfl | rfl | rfl
  · exact ⟨rfl, hset.1⟩
  · exact ⟨isAscii_hexDigit hhigh, hset.2 _ hhigh⟩
  · exact ⟨isAscii_hexDigit hlow, hset.2 _ hlow⟩

/-- Encoding leaves nothing to encode. -/
theorem isFreeOf_percentEncode (hset : KeepsCodes set) (s : List Char) :
    IsFreeOf set (percentEncode set s) := by
  intro c hc
  obtain ⟨x, -, hx⟩ := List.mem_flatMap.mp hc
  unfold percentEncodeChar at hx
  split at hx
  · rename_i hkept
    rw [List.mem_singleton.mp hx]
    simpa using hkept
  · obtain ⟨b, -, hb⟩ := List.mem_flatMap.mp hx
    exact isFreeOf_percentByte hset b c hb

/-! ### Encoded dots -/

/-- The first byte of a character tells whether it is in ASCII. -/
theorem exists_utf8EncodeChar (c : Char) : ∃ b bs, String.utf8EncodeChar c = b :: bs ∧
    (b.toNat = c.toNat ∨ isAscii c = false ∧ 128 ≤ b.toNat) := by
  have hval : c.val.toNat = c.toNat := rfl
  simp only [String.utf8EncodeChar, hval]
  have hbyte : ∀ n, (UInt8.ofNat n).toNat = n % 256 := fun n => UInt8.toNat_ofNat'
  by_cases h : c.toNat ≤ 127
  · rw [if_pos h]
    exact ⟨_, _, rfl, .inl (by rw [hbyte]; omega)⟩
  · have hascii : isAscii c = false := by
      rw [← Bool.not_eq_true, isAscii_iff]
      omega
    rw [if_neg h]
    split
    · exact ⟨_, _, rfl, .inr ⟨hascii, by rw [hbyte]; omega⟩⟩
    · split
      · exact ⟨_, _, rfl, .inr ⟨hascii, by rw [hbyte]; omega⟩⟩
      · exact ⟨_, _, rfl, .inr ⟨hascii, by rw [hbyte]; omega⟩⟩

/-- Every percent sign is followed by the code of a dot. -/
def hasDotCodesOnly : List Char → Bool
  | [] => true
  | c :: rest =>
    (c ≠ '%' || (rest.take 2).map Char.toLower = ['2', 'e']) && hasDotCodesOnly rest

/-- Letter case makes no difference to that. -/
theorem hasDotCodesOnly_map_toLower (s : List Char) :
    hasDotCodesOnly (s.map Char.toLower) = hasDotCodesOnly s := by
  have hpercent : ∀ c : Char, c.toLower = '%' ↔ c = '%' := by
    intro c
    constructor
    · intro h
      have hnat := toNat_toLower c
      rw [h] at hnat
      have : '%'.toNat = 37 := rfl
      apply Char.toNat_inj.mp
      split at hnat <;> omega
    · rintro rfl
      rfl
  induction s with
  | nil => rfl
  | cons c s ih =>
    have htwo : ((s.map Char.toLower).take 2).map Char.toLower = (s.take 2).map Char.toLower := by
      rw [← List.map_take, List.map_map]
      exact List.map_congr_left fun x _ => toLower_toLower x
    rw [List.map_cons, hasDotCodesOnly, hasDotCodesOnly, ih, htwo]
    simp only [ne_eq, hpercent]

/-- A dot is never encoded, so a text with no other codes is what has been encoded to it. -/
theorem percentEncode_eq_self (hdot : set '.' = false)
    (h : hasDotCodesOnly (percentEncode set s) = true) : percentEncode set s = s := by
  induction s with
  | nil => rfl
  | cons c s ih =>
    rw [percentEncode, List.flatMap_cons, ← percentEncode] at h ⊢
    by_cases hkept : isAscii c = true ∧ set c = false
    · rw [percentEncodeChar_of_not hkept, List.singleton_append] at h ⊢
      rw [hasDotCodesOnly, Bool.and_eq_true] at h
      rw [ih h.2]
    · exfalso
      obtain ⟨b, bs, hbytes, hb⟩ := exists_utf8EncodeChar c
      have hcode : percentEncodeChar set c = percentByte b ++ bs.flatMap percentByte := by
        rw [percentEncodeChar, if_neg (by simpa using hkept), hbytes, List.flatMap_cons]
      -- The first code is the one of a dot, and only a dot has it.
      rw [hcode, percentByte, List.append_assoc, List.cons_append, hasDotCodesOnly,
        Bool.and_eq_true, decide_eq_false (by simp), Bool.false_or, decide_eq_true_iff] at h
      obtain ⟨hfirst, hrest⟩ := List.cons_eq_cons.mp h.1
      obtain ⟨hsecond, -⟩ := List.cons_eq_cons.mp hrest
      obtain ⟨hhigh, hlow⟩ := digits_lt b
      have hhigh' := (by decide : ∀ n < 16, (hexDigit n).toLower = '2' → n = 2) _ hhigh hfirst
      have hlow' := (by decide : ∀ n < 16, (hexDigit n).toLower = 'e' → n = 14) _ hlow hsecond
      rcases hb with hb | ⟨-, hb⟩
      · have hc : c = '.' := Char.toNat_inj.mp (by
          rw [← hb]
          exact (by omega : b.toNat = 46))
        exact hkept (hc ▸ ⟨rfl, hdot⟩)
      · omega

/-- Encoding brings in nothing but codes. -/
theorem mem_of_mem_percentEncode (h : c ∈ percentEncode set s) (hpercent : c ≠ '%')
    (hdigit : ∀ n < 16, c ≠ hexDigit n) : c ∈ s := by
  obtain ⟨x, hx, hc⟩ := List.mem_flatMap.mp h
  unfold percentEncodeChar at hc
  split at hc
  · exact List.mem_singleton.mp hc ▸ hx
  · obtain ⟨b, -, hb⟩ := List.mem_flatMap.mp hc
    obtain ⟨hhigh, hlow⟩ := digits_lt b
    rw [percentByte, List.mem_cons, List.mem_cons, List.mem_singleton] at hb
    rcases hb with hb | hb | hb
    · exact absurd hb hpercent
    · exact absurd hb (hdigit _ hhigh)
    · exact absurd hb (hdigit _ hlow)

end AmpMarkup.Url
