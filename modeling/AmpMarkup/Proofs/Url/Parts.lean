import AmpMarkup.Url.DomainName
import Mathlib.Data.List.Basic
import Mathlib.Data.List.Forall2

namespace AmpMarkup.Url

/-!
# Texts cut at a character

What is joined with a character that occurs in none of the parts is cut into the same parts.

* `splitOnChar_joinWithChar`, `joinWithChar_splitOnChar` — the parts are found again, and so is the
  whole.
* `mem_of_mem_splitOnChar`, `not_mem_of_mem_splitOnChar`, `mem_joinWithChar` — the characters of the
  parts and of the whole.
* `takeWhile_append_cons`, `dropWhile_append_cons` — what stands before a first delimiter;
  `reverse_takeWhile_reverse`, `take_length_sub` — around a last one.
* `mapM_eq_some_iff` — all parts can be read, each on its own.
-/

variable {sep c : Char} {s part : List Char} {parts : List (List Char)}

/-! ### Cutting -/

/-- A text has at least one part. -/
theorem splitOnChar_ne_nil (sep : Char) (s : List Char) : splitOnChar sep s ≠ [] := by
  induction s with
  | nil => simp [splitOnChar]
  | cons c rest ih =>
    rw [splitOnChar]
    split
    · simp
    · split <;> simp

/-- Another character belongs to the first part. -/
theorem splitOnChar_cons_of_ne (h : c ≠ sep) :
    ∃ first rest, splitOnChar sep s = first :: rest ∧
      splitOnChar sep (c :: s) = (c :: first) :: rest := by
  cases hs : splitOnChar sep s with
  | nil => exact absurd hs (splitOnChar_ne_nil sep s)
  | cons first rest => exact ⟨first, rest, rfl, by rw [splitOnChar, if_neg h, hs]⟩

/-- A text without separator is its own only part. -/
theorem splitOnChar_of_not_mem (h : sep ∉ s) : splitOnChar sep s = [s] := by
  induction s with
  | nil => rfl
  | cons c s ih =>
    obtain ⟨hc, hs⟩ := List.ne_and_not_mem_of_not_mem_cons h
    obtain ⟨first, rest, hfirst, hcons⟩ := splitOnChar_cons_of_ne (s := s) (Ne.symm hc)
    rw [ih hs] at hfirst
    cases hfirst
    exact hcons

/-- The first part ends at the first separator. -/
theorem splitOnChar_append_cons (h : sep ∉ part) (s : List Char) :
    splitOnChar sep (part ++ sep :: s) = part :: splitOnChar sep s := by
  induction part with
  | nil => simp [splitOnChar]
  | cons c part ih =>
    obtain ⟨hc, hpart⟩ := List.ne_and_not_mem_of_not_mem_cons h
    obtain ⟨first, rest, hfirst, hcons⟩ :=
      splitOnChar_cons_of_ne (s := part ++ sep :: s) (Ne.symm hc)
    rw [ih hpart] at hfirst
    cases hfirst
    exact hcons

/-- Parts that are joined are found again. -/
theorem splitOnChar_joinWithChar (hne : parts ≠ []) (h : ∀ part ∈ parts, sep ∉ part) :
    splitOnChar sep (joinWithChar sep parts) = parts := by
  induction parts with
  | nil => exact absurd rfl hne
  | cons part parts ih =>
    cases parts with
    | nil => exact splitOnChar_of_not_mem (h part List.mem_cons_self)
    | cons second rest =>
      rw [joinWithChar, splitOnChar_append_cons (h part List.mem_cons_self),
        ih (List.cons_ne_nil _ _) fun p hp => h p (List.mem_cons_of_mem part hp)]
      simp

/-- Joining undoes cutting. -/
theorem joinWithChar_splitOnChar (sep : Char) (s : List Char) :
    joinWithChar sep (splitOnChar sep s) = s := by
  induction s with
  | nil => rfl
  | cons c s ih =>
    by_cases hc : c = sep
    · rw [splitOnChar, if_pos hc, joinWithChar, ih, hc]
      · rfl
      · exact splitOnChar_ne_nil sep s
    · obtain ⟨first, rest, hfirst, hcons⟩ := splitOnChar_cons_of_ne (s := s) hc
      rw [hfirst] at ih
      rw [hcons]
      cases rest with
      | nil => exact congrArg (c :: ·) ih
      | cons second rest => exact congrArg (c :: ·) ih

/-! ### Characters -/

/-- A part holds characters of the whole, but not the separator. -/
theorem mem_of_mem_splitOnChar (hpart : part ∈ splitOnChar sep s) (hc : c ∈ part) :
    c ∈ s ∧ c ≠ sep := by
  induction s generalizing part with
  | nil =>
    rw [splitOnChar, List.mem_singleton] at hpart
    rw [hpart] at hc
    cases hc
  | cons x s ih =>
    by_cases hx : x = sep
    · rw [splitOnChar, if_pos hx, List.mem_cons] at hpart
      rcases hpart with rfl | hpart
      · cases hc
      · exact ⟨List.mem_cons_of_mem x (ih hpart hc).1, (ih hpart hc).2⟩
    · obtain ⟨first, rest, hfirst, hcons⟩ := splitOnChar_cons_of_ne (s := s) hx
      rw [hfirst] at ih
      rw [hcons, List.mem_cons] at hpart
      rcases hpart with rfl | hpart
      · rcases List.mem_cons.mp hc with rfl | hc
        · exact ⟨List.mem_cons_self, hx⟩
        · have hmem := ih List.mem_cons_self hc
          exact ⟨List.mem_cons_of_mem x hmem.1, hmem.2⟩
      · have hmem := ih (List.mem_cons_of_mem first hpart) hc
        exact ⟨List.mem_cons_of_mem x hmem.1, hmem.2⟩

/-- No part has a separator. -/
theorem not_mem_of_mem_splitOnChar (hpart : part ∈ splitOnChar sep s) : sep ∉ part :=
  fun hc => (mem_of_mem_splitOnChar hpart hc).2 rfl

/-- What joined parts consist of are separators and characters of the parts. -/
theorem mem_joinWithChar (h : c ∈ joinWithChar sep parts) :
    c = sep ∨ ∃ part ∈ parts, c ∈ part := by
  induction parts with
  | nil => cases h
  | cons part parts ih =>
    cases parts with
    | nil => exact .inr ⟨part, List.mem_cons_self, h⟩
    | cons second rest =>
      rw [joinWithChar, List.mem_append, List.mem_cons] at h
      · rcases h with hc | rfl | hc
        · exact .inr ⟨part, List.mem_cons_self, hc⟩
        · exact .inl rfl
        · rcases ih hc with rfl | ⟨p, hp, hc⟩
          · exact .inl rfl
          · exact .inr ⟨p, List.mem_cons_of_mem part hp, hc⟩
      · simp

/-! ### Delimiters -/

variable {p : Char → Bool} {t : List Char}

/-- The characters that pass a test end before the first that does not. -/
theorem takeWhile_append_cons (hs : ∀ x ∈ s, p x = true) (hc : p c = false) :
    (s ++ c :: t).takeWhile p = s := by
  rw [List.takeWhile_append_of_pos hs, List.takeWhile_cons_of_neg (by simp [hc]), List.append_nil]

/-- Behind the characters that pass a test comes the first that does not. -/
theorem dropWhile_append_cons (hs : ∀ x ∈ s, p x = true) (hc : p c = false) :
    (s ++ c :: t).dropWhile p = c :: t := by
  rw [List.dropWhile_append_of_pos hs, List.dropWhile_cons_of_neg (by simp [hc])]

/-- What stands behind the last separator. -/
theorem reverse_takeWhile_reverse (h : sep ∉ t) :
    ((s ++ sep :: t).reverse.takeWhile (· ≠ sep)).reverse = t := by
  rw [List.reverse_append, List.reverse_cons, List.append_assoc, List.singleton_append,
    takeWhile_append_cons fun x hx => ?_, List.reverse_reverse]
  · simp
  · simpa using fun heq : x = sep => h (heq ▸ List.mem_reverse.mp hx)

/-- What stands before it, counted from the end. -/
theorem take_length_sub (s t : List Char) (sep : Char) :
    (s ++ sep :: t).take ((s ++ sep :: t).length - t.length - 1) = s := by
  refine List.take_left' ?_
  simp only [List.length_append, List.length_cons]
  omega

/-! ### Reading the parts -/

section

variable {α β : Type} {f : α → Option β} {l : List α} {l' : List β} {a : α} {b : β}

/-- A function that may fail gives a list exactly if it gives the entries one by one. -/
theorem mapM_eq_some_iff : l.mapM f = some l' ↔ List.Forall₂ (fun a b => f a = some b) l l' := by
  induction l generalizing l' with
  | nil => simp [eq_comm]
  | cons a l ih =>
    rw [List.mapM_cons, List.forall₂_cons_left_iff]
    simp only [Option.bind_eq_bind, Option.bind_eq_some_iff, ih, Option.pure_def,
      Option.some.injEq, eq_comm (a := l'), exists_and_left]

/-- What corresponds to an entry of one list is in the other. -/
theorem exists_of_forall₂ {R : α → β → Prop} (h : List.Forall₂ R l l') (hb : b ∈ l') :
    ∃ a ∈ l, R a b := by
  induction h with
  | nil => cases hb
  | @cons x y l l' hxy _ ih =>
    rcases List.mem_cons.mp hb with rfl | hb
    · exact ⟨x, List.mem_cons_self, hxy⟩
    · obtain ⟨a, ha, hab⟩ := ih hb
      exact ⟨a, List.mem_cons_of_mem x ha, hab⟩

/-- What has been read was read from some part. -/
theorem exists_of_mem_mapM (h : l.mapM f = some l') (hb : b ∈ l') : ∃ a ∈ l, f a = some b :=
  exists_of_forall₂ (R := fun a b => f a = some b) (mapM_eq_some_iff.mp h) hb

/-- One part that cannot be read spoils the whole. -/
theorem mapM_eq_none_of_mem (ha : a ∈ l) (h : f a = none) : l.mapM f = none := by
  induction l with
  | nil => cases ha
  | cons x l ih =>
    rw [List.mapM_cons]
    rcases List.mem_cons.mp ha with rfl | ha
    · rw [h]
      rfl
    · rw [ih ha]
      cases f x <;> rfl

end

end AmpMarkup.Url
