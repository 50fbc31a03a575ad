import AmpMarkup.Markup.EntityPass
import AmpMarkup.Proofs.Markup.Entity

namespace AmpMarkup.Markup

open AmpMarkup.Text

/-!
# One replacement after the other comes to a single pass

Every entity begins with the only ampersand in it, and the characters that are written before its
turn are none of its own. So a replacement finds exactly the places at which the text that was given
has the entity, and adds it to those that a single pass takes for their characters.

* `Reads table s t` — a single pass with the entities of `table` takes `s` to `t`.
* `reads_append` — one more entity; `reads_foldl` — as many as there are.
* `Reads.eq_decodeInOnePass` — with all entities this is the pass that is written down.
* `decodeEntities_in_one_pass` — decoding is that pass, and undoes both ways of escaping.
-/

variable {table es : List (List Char × Char)} {pat s t w rest : List Char} {x : Char}

/-- A pass from left to right that takes the entities of `table` for their characters. -/
inductive Reads (table : List (List Char × Char)) : List Char → List Char → Prop where
  | nil : Reads table [] []
  | entity {e : List Char × Char} {rest t : List Char} :
    e ∈ table → Reads table rest t → Reads table (e.1 ++ rest) (e.2 :: t)
  | plain {c : Char} {rest t : List Char} :
    (∀ e ∈ table, ¬ e.1 <+: c :: rest) → Reads table rest t → Reads table (c :: rest) (c :: t)

/-- The only ampersand is the first character. -/
def IsEntity (pat : List Char) : Prop := ∃ tail, pat = '&' :: tail ∧ '&' ∉ tail

namespace Reads

/-- Without entities every text is read as it is. -/
theorem refl (s : List Char) : Reads [] s s := by
  induction s with
  | nil => exact .nil
  | cons c s ih => exact .plain (fun e he => absurd he List.not_mem_nil) ih

/-- A piece without ampersands is read as it stands. -/
theorem exists_of_append (hall : ∀ e ∈ table, IsEntity e.1) (hw : '&' ∉ w)
    (h : Reads table (w ++ rest) t) : ∃ t', t = w ++ t' ∧ Reads table rest t' := by
  induction w generalizing t with
  | nil => exact ⟨t, rfl, h⟩
  | cons c w ih =>
    obtain ⟨hc, hw⟩ := not_or.mp (mt List.mem_cons.mpr hw)
    rw [List.cons_append] at h
    generalize hs : c :: (w ++ rest) = s at h
    cases h with
    | nil => cases hs
    | entity he h =>
      obtain ⟨tail, htail, -⟩ := hall _ he
      rw [htail, List.cons_append] at hs
      exact absurd (List.cons.inj hs).1.symm hc
    | plain hno h =>
      obtain ⟨rfl, rfl⟩ := List.cons.inj hs
      obtain ⟨t', rfl, h'⟩ := ih hw h
      exact ⟨t', rfl, h'⟩

/-- What is read begins with `w` only if the text does, unless an entity has put a character of `w`
    there. -/
theorem prefix_of_prefix (hnew : ∀ e ∈ table, e.2 ∉ w) (h : Reads table s t) (hw : w <+: t) :
    w <+: s := by
  induction h generalizing w with
  | nil => exact hw
  | entity he h ih =>
    cases w with
    | nil => exact List.nil_prefix
    | cons y w =>
      obtain ⟨rfl, -⟩ := List.cons_prefix_cons.mp hw
      exact absurd List.mem_cons_self (hnew _ he)
  | plain hno h ih =>
    cases w with
    | nil => exact List.nil_prefix
    | cons y w =>
      obtain ⟨rfl, hrest⟩ := List.cons_prefix_cons.mp hw
      refine List.cons_prefix_cons.mpr ⟨rfl, ih (fun e he hmem => ?_) hrest⟩
      exact hnew e he (List.mem_cons_of_mem y hmem)

end Reads

/-- After a pass, replacing one more entity comes to a pass that knows it as well. -/
theorem reads_append (hall : ∀ e ∈ table, IsEntity e.1) (hpat : IsEntity pat)
    (hnew : ∀ e ∈ table, e.2 ∉ pat) (h : Reads table s t) :
    Reads (table ++ [(pat, x)]) s (replaceAll pat [x] t) := by
  obtain ⟨tail, rfl, htail⟩ := hpat
  -- What is replaced may be longer than one character, so the induction is on the length.
  induction hlen : s.length using Nat.strongRecOn generalizing s t with
  | ind len ih =>
    cases h with
    | nil => exact .nil
    | @entity e rest t he h =>
      -- The character that has been written here is none of `pat`.
      have hstart : ('&' :: tail).isPrefixOf (e.2 :: t) = false := by
        rw [Bool.eq_false_iff, Ne, List.isPrefixOf_iff_prefix, List.cons_prefix_cons]
        rintro ⟨heq, -⟩
        exact hnew e he (heq ▸ List.mem_cons_self)
      rw [replaceAll_cons_of_not_isPrefixOf [x] hstart]
      obtain ⟨name, hname, -⟩ := hall e he
      refine .entity (List.mem_append_left _ he) (ih rest.length ?_ h rfl)
      rw [← hlen, hname, List.length_append, List.length_cons]
      omega
    | @plain c rest t hno h =>
      by_cases hprefix : '&' :: tail <+: c :: rest
      -- Behind its ampersand nothing of `pat` has been changed so far, so it is found.
      · obtain ⟨rest', hrest⟩ := hprefix
        rw [List.cons_append] at hrest
        obtain ⟨rfl, rfl⟩ := List.cons.inj hrest
        obtain ⟨t', rfl, h'⟩ := h.exists_of_append hall htail
        have hreplaced : replaceAll ('&' :: tail) [x] ('&' :: (tail ++ t')) =
            x :: replaceAll ('&' :: tail) [x] t' :=
          replaceAll_append_self (List.cons_ne_nil _ _) [x] t'
        rw [hreplaced]
        refine .entity (e := ('&' :: tail, x)) (List.mem_append_right _ List.mem_cons_self)
          (ih rest'.length ?_ h' rfl)
        rw [← hlen, List.length_cons, List.length_append]
        omega
      -- What is read so far does not begin with `pat` where the text does not.
      · have hstart : ('&' :: tail).isPrefixOf (c :: t) = false := by
          rw [Bool.eq_false_iff, Ne, List.isPrefixOf_iff_prefix]
          intro hbegin
          obtain ⟨rfl, hrest⟩ := List.cons_prefix_cons.mp hbegin
          refine hprefix (List.cons_prefix_cons.mpr ⟨rfl, h.prefix_of_prefix ?_ hrest⟩)
          exact fun e he hmem => hnew e he (List.mem_cons_of_mem _ hmem)
        rw [replaceAll_cons_of_not_isPrefixOf [x] hstart]
        refine .plain (fun e he => ?_) (ih rest.length ?_ h rfl)
        · rcases List.mem_append.mp he with he | he
          · exact hno e he
          · rw [List.mem_singleton.mp he]
            exact hprefix
        · rw [← hlen, List.length_cons]
          omega

/-- Replacing entities one after the other comes to a pass that knows all of them, if none of them
    has a character in it that has been written before its turn. -/
theorem reads_foldl (hall : ∀ e ∈ table ++ es, IsEntity e.1)
    (hnew : (table ++ es).Pairwise fun e e' => e.2 ∉ e'.1) (h : Reads table s t) :
    Reads (table ++ es) s (es.foldl (fun t e => replaceAll e.1 [e.2] t) t) := by
  induction es generalizing table t with
  | nil => rwa [List.append_nil]
  | cons e es ih =>
    have hstep : Reads (table ++ [e]) s (replaceAll e.1 [e.2] t) := by
      refine reads_append (fun e' he' => hall e' (List.mem_append_left _ he'))
        (hall e (List.mem_append_right _ List.mem_cons_self)) (fun e' he' => ?_) h
      exact (List.pairwise_append.mp hnew).2.2 e' he' e List.mem_cons_self
    rw [List.append_cons] at hall hnew ⊢
    exact ih hall hnew hstep

/-- Every entity of the table has its only ampersand in front. -/
theorem isEntity_of_mem_entities : ∀ e ∈ entities, IsEntity e.1 := by
  intro e he
  simp only [entities, List.mem_cons, List.not_mem_nil, or_false] at he
  rcases he with rfl | rfl | rfl | rfl | rfl | rfl <;> exact ⟨_, rfl, by decide⟩

/-- Decoding reads the entities of the table. -/
theorem reads_decodeEntities (s : List Char) : Reads entities s (decodeEntities s) := by
  have hstart : Reads [] s s := .refl s
  exact reads_foldl isEntity_of_mem_entities (by decide) hstart

/-- A pass with all entities leaves no choice. -/
theorem Reads.eq_decodeInOnePass (h : Reads entities s t) : t = decodeInOnePass s := by
  induction h with
  | nil => rfl
  | @entity e rest t he h ih =>
    rw [ih]
    simp only [entities, List.mem_cons, List.not_mem_nil, or_false] at he
    rcases he with rfl | rfl | rfl | rfl | rfl | rfl <;> rfl
  | @plain c rest t hno h ih =>
    simp only [entities, List.forall_mem_cons] at hno
    obtain ⟨hlt, hgt, hquot, hnumber, hapos, hamp, -⟩ := hno
    -- No entity begins here, so none of the earlier equations applies.
    rw [decodeInOnePass, ih]
    · rintro r rfl rfl
      exact hlt ⟨r, rfl⟩
    · rintro r rfl rfl
      exact hgt ⟨r, rfl⟩
    · rintro r rfl rfl
      exact hquot ⟨r, rfl⟩
    · rintro r rfl rfl
      exact hnumber ⟨r, rfl⟩
    · rintro r rfl rfl
      exact hapos ⟨r, rfl⟩
    · rintro r rfl rfl
      exact hamp ⟨r, rfl⟩

/-- Decoding, which replaces one entity after the other throughout the text, comes to a single pass
    from left to right that does not look at its own output again. It undoes the escapes of texts
    and those of attribute values. -/
theorem decodeEntities_in_one_pass :
    (∀ s : List Char, decodeEntities s = decodeInOnePass s) ∧
    (∀ s : String, decodeEntities (escapeText s).toList = s.toList) ∧
    ∀ s : String, decodeEntities (escapeValue s).toList = s.toList :=
  ⟨fun s => (reads_decodeEntities s).eq_decodeInOnePass, decodeEntities_escapeText,
    decodeEntities_escapeValue⟩

/-- An ampersand that has been decoded begins no entity. -/
example : decodeEntities "&amp;lt; &lt &amp;amp;#39;".toList = "&lt; &lt &amp;#39;".toList := by
  decide

end AmpMarkup.Markup
