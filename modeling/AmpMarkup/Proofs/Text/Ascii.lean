import AmpMarkup.Text.Ascii
import Mathlib.Data.List.DropRight

namespace AmpMarkup.Text

/-!
# Letter case and the ends of a text

* `length_eq_of_sameFoldChars`, `sameFoldChars_eq_false` — comparing texts but for letter case.
* `fold_eq_self`, `fold_ne` — what folding does to names that are given.
* `trim_trim` — ends are trimmed once; `trim_of_forall` — only if there is something to trim.
* `trim_append` — a beginning that has nothing to trim is left alone.
* `toList_pushn` — a character that is written several times.
-/

/-! ### Letter case -/

/-- Characters that agree up to case are as many. -/
theorem length_eq_of_sameFoldChars {s t : List Char} (h : sameFoldChars s t = true) :
    s.length = t.length := by
  rw [sameFoldChars, beq_iff_eq] at h
  simpa using congrArg List.length h

/-- A character whose folded form is missing on the other side makes a difference. -/
theorem sameFoldChars_eq_false {s t : List Char} {c : Char} (hc : c ∈ s)
    (h : c.toLower ∉ t.map Char.toLower) : sameFoldChars s t = false := by
  rw [sameFoldChars, beq_eq_false_iff_ne]
  intro heq
  exact h (heq ▸ List.mem_map_of_mem hc)

/-- A text that is in lower case is folded already. -/
theorem fold_eq_self {s : String} (h : s.toList.map Char.toLower = s.toList) : fold s = s := by
  rw [← String.toList_inj, toList_fold, h]

/-- Names are seen to be different by their characters. -/
theorem fold_ne {a b : String} (h : sameFoldChars a.toList b.toList = false) : fold a ≠ fold b := by
  intro heq
  have hchars := congrArg String.toList heq
  rw [toList_fold, toList_fold] at hchars
  rw [sameFoldChars, hchars, beq_self_eq_true] at h
  cases h

/-! ### Ends of a text -/

variable {p : Char → Bool} {s : List Char}

theorem trimEnd_eq_rdropWhile (p : Char → Bool) (s : List Char) : trimEnd p s = s.rdropWhile p :=
  rfl

/-- Trimming the end leaves the beginning as it is. -/
theorem dropWhile_trimEnd (h : s.dropWhile p = s) : (trimEnd p s).dropWhile p = trimEnd p s := by
  obtain ⟨rest, hrest⟩ : trimEnd p s <+: s := List.rdropWhile_prefix p s
  cases htrim : trimEnd p s with
  | nil => rfl
  | cons c cs =>
    -- The first character left is the first of `s`, which is not trimmed.
    have hc : ¬ p c = true := by
      rw [← hrest, htrim, List.dropWhile_eq_self_iff] at h
      exact h (Nat.zero_lt_succ _)
    exact List.dropWhile_cons_of_neg hc

/-- What is trimmed has nothing more to trim. -/
theorem trim_trim (p : Char → Bool) (s : List Char) : trim p (trim p s) = trim p s := by
  have hstart : (trim p s).dropWhile p = trim p s :=
    dropWhile_trimEnd (List.dropWhile_idempotent p s)
  rw [trim, hstart]
  exact List.rdropWhile_idempotent p (s.dropWhile p)

/-- A text without the characters in question is not changed. -/
theorem trim_of_forall (h : ∀ c ∈ s, p c = false) : trim p s = s := by
  have hstart : s.dropWhile p = s := by
    rw [List.dropWhile_eq_self_iff]
    intro hpos
    rw [h _ (List.getElem_mem hpos)]
    exact Bool.false_ne_true
  rw [trim, hstart, trimEnd_eq_rdropWhile, List.rdropWhile_eq_self_iff]
  intro hne
  rw [h _ (List.getLast_mem hne)]
  exact Bool.false_ne_true

/-- Trimming the end leaves a beginning alone that has nothing to trim. -/
theorem trimEnd_append {pre : List Char} (hpre : ∀ c ∈ pre, p c = false) (s : List Char) :
    trimEnd p (pre ++ s) = pre ++ trimEnd p s := by
  rw [trimEnd_eq_rdropWhile, trimEnd_eq_rdropWhile]
  -- The end is trimmed from the last character on.
  induction s using List.reverseRecOn with
  | nil =>
    rw [List.append_nil, List.rdropWhile_nil, List.append_nil, List.rdropWhile_eq_self_iff]
    intro hne
    simp [hpre _ (List.getLast_mem hne)]
  | append_singleton s c ih =>
    rw [← List.append_assoc, List.rdropWhile_concat, List.rdropWhile_concat]
    split
    · exact ih
    · rw [List.append_assoc]

/-- Trimming stops at a character that is not to be trimmed. -/
theorem trim_append {pre : List Char} (hne : pre ≠ []) (hpre : ∀ c ∈ pre, p c = false)
    (s : List Char) : trim p (pre ++ s) = pre ++ trimEnd p s := by
  have hstart : (pre ++ s).dropWhile p = pre ++ s := by
    cases pre with
    | nil => exact absurd rfl hne
    | cons c cs =>
      apply List.dropWhile_cons_of_neg
      simp [hpre c List.mem_cons_self]
  rw [trim, hstart, trimEnd_append hpre]

/-! ### Repeated characters -/

/-- A character that is pushed several times is repeated. -/
theorem toList_pushn (c : Char) (n : Nat) : ("".pushn c n).toList = List.replicate n c := by
  rw [String.pushn_eq_repeat_push]
  induction n with
  | zero => rfl
  | succ n ih => rw [Nat.repeat, String.toList_push, ih, List.replicate_succ']

end AmpMarkup.Text
