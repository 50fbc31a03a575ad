import AmpMarkup.Markup.Entity
import AmpMarkup.Markup.Printable
import Mathlib.Data.List.Basic

namespace AmpMarkup

open AmpMarkup.Text

/-!
# Entities are read as the characters they stand for

Replacing an entity is done character by character where the text is made of pieces, one for each
character, in which the entity is either a whole piece or does not begin. So decoding undoes both
ways of escaping, one entity after the other.

* `Text.Avoids pat x` — no occurrence of `pat` begins inside `x`, whatever follows `x`.
* `Text.replaceAll_flatMap` — replacing in a text that is made of pieces.
* `Markup.decodeEntities_escapeText`, `Markup.decodeEntities_escapeValue` — what is escaped is read
  back; `Markup.decodeEntities_of_plain` — a text without ampersands is read as it stands.
* `Markup.decodeEntities_ne_nil` — no text disappears.
-/

namespace Text

variable {pat new x s : List Char}

/-! ### Replacing -/

/-- No occurrence of `pat` begins inside `x`, whatever follows: at each place one of the two parts
    from it on differs from the other before either ends. -/
def Avoids (pat : List Char) : List Char → Prop
  | [] => True
  | c :: rest => pat.isPrefixOf (c :: rest) = false ∧ (c :: rest).isPrefixOf pat = false ∧
      Avoids pat rest

instance Avoids.decidable (pat : List Char) : ∀ x, Decidable (Avoids pat x)
  | [] => inferInstanceAs (Decidable True)
  | _ :: rest =>
    have := Avoids.decidable pat rest
    inferInstanceAs (Decidable (_ ∧ _ ∧ _))

/-- A beginning of a joined text begins in the first part or goes beyond it. -/
theorem prefix_append_cases {rest : List Char} (h : pat <+: x ++ rest) : pat <+: x ∨ x <+: pat := by
  rcases Nat.le_total pat.length x.length with hle | hle
  · exact .inl (List.prefix_of_prefix_length_le h (List.prefix_append x rest) hle)
  · exact .inr (List.prefix_of_prefix_length_le (List.prefix_append x rest) h hle)

/-- A pattern that neither is in front of a text nor has it in front is not in front of a longer
    one. -/
theorem isPrefixOf_append_eq_false {rest : List Char} (h₁ : pat.isPrefixOf x = false)
    (h₂ : x.isPrefixOf pat = false) : pat.isPrefixOf (x ++ rest) = false := by
  rw [Bool.eq_false_iff, Ne, List.isPrefixOf_iff_prefix] at *
  exact fun h => (prefix_append_cases h).elim h₁ h₂

/-- A piece in which no occurrence begins stays. -/
theorem replaceAll_append_of_avoids (new : List Char) (h : Avoids pat x) (rest : List Char) :
    replaceAll pat new (x ++ rest) = x ++ replaceAll pat new rest := by
  induction x with
  | nil => rfl
  | cons c x ih =>
    obtain ⟨h₁, h₂, hx⟩ := h
    have hstart : pat.isPrefixOf (c :: (x ++ rest)) = false := isPrefixOf_append_eq_false h₁ h₂
    rw [List.cons_append, replaceAll_cons_of_not_isPrefixOf new hstart, ih hx, List.cons_append]

/-- A replacement goes on behind what has been written. -/
theorem replaceFrom_append (pat new x rest : List Char) :
    replaceFrom pat new x.length (x ++ rest) = replaceAll pat new rest := by
  induction x with
  | nil => rfl
  | cons c x ih => rw [List.cons_append, List.length_cons, replaceFrom, ih]

/-- An occurrence at the beginning is replaced, and the search goes on behind it. -/
theorem replaceAll_append_self (hpat : pat ≠ []) (new rest : List Char) :
    replaceAll pat new (pat ++ rest) = new ++ replaceAll pat new rest := by
  cases pat with
  | nil => exact absurd rfl hpat
  | cons c tail =>
    have hstart : (c :: tail).isPrefixOf (c :: (tail ++ rest)) = true :=
      List.isPrefixOf_iff_prefix.mpr (List.prefix_append (c :: tail) rest)
    rw [replaceAll, List.cons_append, replaceFrom, if_pos ⟨hpat, hstart⟩, List.length_cons,
      Nat.add_sub_cancel, replaceFrom_append]

/-- In a text made of pieces, those equal to `pat` are replaced if in no other piece an occurrence
    begins. -/
theorem replaceAll_flatMap (hpat : pat ≠ []) {f g : Char → List Char}
    (h : ∀ c ∈ s, f c = pat ∧ g c = new ∨ f c = g c ∧ Avoids pat (f c)) :
    replaceAll pat new (s.flatMap f) = s.flatMap g := by
  induction s with
  | nil => rfl
  | cons c rest ih =>
    have ih := ih fun x hx => h x (List.mem_cons_of_mem c hx)
    rw [List.flatMap_cons, List.flatMap_cons]
    rcases h c List.mem_cons_self with ⟨hf, hg⟩ | ⟨hfg, havoid⟩
    · rw [hf, hg, replaceAll_append_self hpat, ih]
    · rw [replaceAll_append_of_avoids new havoid, hfg, ih]

/-- A text does not become empty when something is put for its parts. -/
theorem replaceAll_ne_nil (hnew : new ≠ []) (hs : s ≠ []) : replaceAll pat new s ≠ [] := by
  cases s with
  | nil => exact absurd rfl hs
  | cons c rest =>
    rw [replaceAll, replaceFrom]
    split
    · exact List.append_ne_nil_of_left_ne_nil hnew _
    · exact List.cons_ne_nil _ _

end Text

namespace Markup

variable {pat s : List Char} {c : Char} {written : List (Char × List Char)}

/-! ### Decoding -/

/-- A pattern with a first character is not empty. -/
theorem ne_nil_of_head? (hpat : pat.head? = some c) : pat ≠ [] := by
  rintro rfl
  cases hpat

/-- A character other than the ampersand begins no entity. -/
theorem avoids_singleton (hpat : pat.head? = some '&') (hc : c ≠ '&') : Avoids pat [c] := by
  obtain ⟨tail, rfl⟩ := List.head?_eq_some_iff.mp hpat
  refine ⟨?_, ?_, trivial⟩
  · simp [List.isPrefixOf, Ne.symm hc]
  · simp [List.isPrefixOf, hc]

/-- Decoding, one entity after the other. -/
theorem decodeEntities_eq (s : List Char) :
    decodeEntities s = replaceAll "&amp;".toList ['&'] (replaceAll "&apos;".toList ['\'']
      (replaceAll "&#39;".toList ['\''] (replaceAll "&quot;".toList ['"']
        (replaceAll "&gt;".toList ['>'] (replaceAll "&lt;".toList ['<'] s))))) := rfl

/-- Decoding leaves something of every text. -/
theorem decodeEntities_ne_nil (hs : s ≠ []) : decodeEntities s ≠ [] := by
  have hstep : ∀ (es : List (List Char × Char)) (t : List Char), t ≠ [] →
      es.foldl (fun t e => replaceAll e.1 [e.2] t) t ≠ [] := by
    intro es
    induction es with
    | nil => exact fun t ht => ht
    | cons e rest ih => exact fun t ht => ih _ (replaceAll_ne_nil (List.cons_ne_nil _ _) ht)
  exact hstep entities s hs

@[simp] theorem decodeEntities_nil : decodeEntities [] = [] := rfl

/-- A text without ampersands holds no entity. -/
theorem decodeEntities_of_plain (h : '&' ∉ s) : decodeEntities s = s := by
  have hsame : ∀ pat new : List Char, pat.head? = some '&' → replaceAll pat new s = s := by
    intro pat new hpat
    have hpieces : replaceAll pat new (s.flatMap fun c => [c]) = s.flatMap fun c => [c] :=
      replaceAll_flatMap (ne_nil_of_head? hpat) fun c hc =>
        .inr ⟨rfl, avoids_singleton hpat fun heq => h (heq ▸ hc)⟩
    rwa [List.flatMap_singleton'] at hpieces
  have hall : ∀ es : List (List Char × Char), (∀ e ∈ es, e.1.head? = some '&') →
      es.foldl (fun t e => replaceAll e.1 [e.2] t) s = s := by
    intro es
    induction es with
    | nil => exact fun _ => rfl
    | cons e rest ih =>
      intro hes
      rw [List.foldl_cons, hsame _ _ (hes e List.mem_cons_self)]
      exact ih fun x hx => hes x (List.mem_cons_of_mem e hx)
  exact hall entities (by decide)

/-! ### Escapes undone -/

/-- A character of a text in which the listed characters are written as entities. -/
def pieces : List (Char × List Char) → Char → List Char
  | [], c => [c]
  | e :: written, c => if c = e.1 then e.2 else pieces written c

/-- If the ampersand is written as an entity, none but the listed entities are pieces in which one
    may begin. -/
theorem avoids_pieces (hpat : pat.head? = some '&') (hother : ∀ e ∈ written, Avoids pat e.2)
    (hamp : c = '&' → c ∈ written.map Prod.fst) : Avoids pat (pieces written c) := by
  induction written with
  | nil => exact avoids_singleton hpat fun hc => absurd (hamp hc) List.not_mem_nil
  | cons e rest ih =>
    rw [pieces]
    split
    · exact hother e List.mem_cons_self
    · rename_i hne
      refine ih (fun x hx => hother x (List.mem_cons_of_mem e hx)) fun hc => ?_
      exact (List.mem_cons.mp (hamp hc)).resolve_left hne

/-- An entity that no character is written as is not found. -/
theorem replaceAll_pieces_of_avoids (hpat : pat.head? = some '&')
    (hother : ∀ e ∈ written, Avoids pat e.2) (hamp : '&' ∈ written.map Prod.fst)
    (new s : List Char) :
    replaceAll pat new (s.flatMap (pieces written)) = s.flatMap (pieces written) :=
  replaceAll_flatMap (ne_nil_of_head? hpat) fun _ _ =>
    .inr ⟨rfl, avoids_pieces hpat hother fun hc => hc ▸ hamp⟩

/-- A character that is not written in another way is written as itself. -/
theorem pieces_of_not_mem (h : c ∉ written.map Prod.fst) : pieces written c = [c] := by
  induction written with
  | nil => rfl
  | cons e rest ih =>
    rw [List.map_cons, List.mem_cons, not_or] at h
    rw [pieces, if_neg h.1, ih h.2]

/-- The character that is written as an entity is read where the entity stands. -/
theorem replaceAll_pieces_cons {x : Char} (hpat : pat.head? = some '&')
    (hother : ∀ e ∈ written, Avoids pat e.2) (hx : x ∉ written.map Prod.fst)
    (hamp : '&' ∈ x :: written.map Prod.fst) (s : List Char) :
    replaceAll pat [x] (s.flatMap (pieces ((x, pat) :: written))) = s.flatMap (pieces written) := by
  refine replaceAll_flatMap (ne_nil_of_head? hpat) fun c _ => ?_
  rw [pieces]
  by_cases hc : c = x
  · subst hc
    exact .inl ⟨if_pos rfl, pieces_of_not_mem hx⟩
  · rw [if_neg hc]
    refine .inr ⟨rfl, avoids_pieces hpat hother fun heq => ?_⟩
    exact (List.mem_cons.mp (heq ▸ hamp)).resolve_left hc

/-- Where no character is written in another way the text is written as itself. -/
theorem flatMap_pieces_nil (s : List Char) : s.flatMap (pieces []) = s := List.flatMap_singleton' s

/-- In texts both angle brackets and the ampersand are written as entities. -/
theorem escapeTextChar_eq_pieces :
    escapeTextChar =
      pieces [('<', "&lt;".toList), ('>', "&gt;".toList), ('&', "&amp;".toList)] := by
  funext c
  by_cases hc : c = '&'
  · rw [hc]
    rfl
  · rw [escapeTextChar, if_neg hc, pieces, pieces, pieces, if_neg hc, pieces]

/-- In values the quote and the ampersand are written as entities. -/
theorem escapeValueChar_eq_pieces :
    escapeValueChar = pieces [('"', "&quot;".toList), ('&', "&amp;".toList)] := by
  funext c
  by_cases hc : c = '&'
  · rw [hc]
    rfl
  · rw [escapeValueChar, if_neg hc, pieces, pieces, if_neg hc, pieces]

/-- An escaped text is read as the text. -/
theorem decodeEntities_escapeText (s : String) :
    decodeEntities (escapeText s).toList = s.toList := by
  rw [escapeText, String.toList_ofList, escapeTextChar_eq_pieces, decodeEntities_eq]
  rw [replaceAll_pieces_cons (by decide) (by decide) (by decide) (by decide),
    replaceAll_pieces_cons (by decide) (by decide) (by decide) (by decide),
    replaceAll_pieces_of_avoids (by decide) (by decide) (by decide),
    replaceAll_pieces_of_avoids (by decide) (by decide) (by decide),
    replaceAll_pieces_of_avoids (by decide) (by decide) (by decide),
    replaceAll_pieces_cons (by decide) (by decide) (by decide) (by decide), flatMap_pieces_nil]

/-- An escaped attribute value is read as the value. -/
theorem decodeEntities_escapeValue (s : String) :
    decodeEntities (escapeValue s).toList = s.toList := by
  rw [escapeValue, String.toList_ofList, escapeValueChar_eq_pieces, decodeEntities_eq]
  rw [replaceAll_pieces_of_avoids (by decide) (by decide) (by decide),
    replaceAll_pieces_of_avoids (by decide) (by decide) (by decide),
    replaceAll_pieces_cons (by decide) (by decide) (by decide) (by decide),
    replaceAll_pieces_of_avoids (by decide) (by decide) (by decide),
    replaceAll_pieces_of_avoids (by decide) (by decide) (by decide),
    replaceAll_pieces_cons (by decide) (by decide) (by decide) (by decide), flatMap_pieces_nil]

/-! ### What escapes leave out -/

/-- A character that is always written as an entity does not appear. -/
theorem not_mem_flatMap_pieces (hc : c ∈ written.map Prod.fst) (h : ∀ e ∈ written, c ∉ e.2)
    (s : List Char) : c ∉ s.flatMap (pieces written) := by
  -- A piece is an entity, or a character that is not written as one.
  have hpiece : ∀ x, c ∈ written.map Prod.fst ∨ x ≠ c → c ∉ pieces written x := by
    intro x hx
    clear hc
    induction written with
    | nil => simpa [pieces, eq_comm] using hx
    | cons e rest ih =>
      rw [pieces]
      split
      · exact h e List.mem_cons_self
      · rename_i hne
        refine ih (fun y hy => h y (List.mem_cons_of_mem e hy)) ?_
        rcases hx with hmem | hne'
        · rcases List.mem_cons.mp hmem with rfl | hmem
          · exact .inr hne
          · exact .inl hmem
        · exact .inr hne'
  rw [List.mem_flatMap]
  rintro ⟨x, -, hx⟩
  exact hpiece x (.inl hc) hx

/-- No tag begins in an escaped text. -/
theorem not_mem_escapeText (s : String) : '<' ∉ (escapeText s).toList := by
  rw [escapeText, String.toList_ofList, escapeTextChar_eq_pieces]
  exact not_mem_flatMap_pieces (by decide) (by decide) _

/-- No quote ends an escaped attribute value. -/
theorem not_mem_escapeValue (s : String) : '"' ∉ (escapeValue s).toList := by
  rw [escapeValue, String.toList_ofList, escapeValueChar_eq_pieces]
  exact not_mem_flatMap_pieces (by decide) (by decide) _

/-- Texts are escaped one after the other. -/
theorem escapeText_append (s t : String) : escapeText (s ++ t) = escapeText s ++ escapeText t := by
  apply String.ext
  simp [escapeText]

end Markup

end AmpMarkup
