import AmpMarkup.Document.Attributes
import AmpMarkup.Proofs.Text.Ascii

namespace AmpMarkup

open AmpMarkup.Text

/-!
# Attributes as a map

What is found under a name after a change, and where the entries come from. Lookup and setting are
followed on lists of entries; that names are in lower case and distinct is only needed where an
entry is deleted, since no other then answers for its name.

* `Attributes.get?_set`, `Attributes.get?_erase` — what is found after a change.
* `Attributes.ofList_entries` — attributes are read from their entries.
* `Attributes.mem_ofList` — where the entries of a map come from.
* `Attributes.without` — the attributes apart from one name; `erase_entries` — they are what is left
  when the entry of the name is taken away.
-/

namespace Attributes

variable {a : Attributes} {name value : String} {es : List (String × String)}

/-! ### Setting an entry -/

/-- A name that is not there yet goes to the end. -/
theorem setEntry_of_absent (h : ∀ e ∈ es, fold e.1 ≠ fold name) :
    setEntry name value es = es ++ [(fold name, value)] := by
  induction es with
  | nil => rfl
  | cons e rest ih =>
    have he : ¬ sameFold e.1 name = true := by
      rw [sameFold_iff]
      exact h e List.mem_cons_self
    rw [setEntry, if_neg he, ih fun x hx => h x (List.mem_cons_of_mem e hx), List.cons_append]

/-- Of two values that are set under a name the later one counts. -/
theorem setEntry_setEntry (v w : String) :
    setEntry name w (setEntry name v es) = setEntry name w es := by
  induction es with
  | nil => simp [setEntry, sameFold_iff]
  | cons e rest ih =>
    rw [setEntry, setEntry]
    by_cases he : sameFold e.1 name = true
    · rw [if_pos he, if_pos he, setEntry, if_pos he]
    · rw [if_neg he, if_neg he, setEntry, if_neg he, ih]

/-! ### Looking a name up in entries -/

variable {m : String}

/-- The first entry of a name answers for it. -/
theorem value?_cons (e : String × String) (es : List (String × String)) (m : String) :
    value? (e :: es) m = if fold e.1 = fold m then some e.2 else value? es m := by
  rw [value?, List.find?_cons]
  by_cases he : fold e.1 = fold m
  · rw [sameFold_iff.mpr he, if_pos he]
    rfl
  · rw [Bool.eq_false_iff.mpr fun h => he (sameFold_iff.mp h), if_neg he]
    rfl

/-- A name that has a value is the name of an entry. -/
theorem exists_entry_of_value? (h : value? es name = some value) :
    ∃ e ∈ es, fold e.1 = fold name ∧ e.2 = value := by
  rw [value?, Option.map_eq_some_iff] at h
  obtain ⟨e, he, rfl⟩ := h
  have hsame : sameFold e.1 name = true := by simpa using List.find?_some he
  exact ⟨e, List.mem_of_find?_eq_some he, sameFold_iff.mp hsame, rfl⟩

/-- After setting a name it has the new value, and all others have theirs. -/
theorem value?_setEntry : value? (setEntry name value es) m =
    if fold m = fold name then some value else value? es m := by
  induction es with
  | nil =>
    rw [setEntry, value?_cons, fold_fold]
    by_cases hm : fold m = fold name
    · rw [if_pos hm, if_pos hm.symm]
    · rw [if_neg hm, if_neg (Ne.symm hm)]
  | cons e rest ih =>
    rw [setEntry, value?_cons]
    by_cases he : fold e.1 = fold name
    · rw [if_pos (sameFold_iff.mpr he), value?_cons, he]
      by_cases hm : fold m = fold name
      · rw [if_pos hm.symm, if_pos hm]
      · rw [if_neg (Ne.symm hm), if_neg hm, if_neg (Ne.symm hm)]
    · rw [if_neg (by rwa [sameFold_iff]), value?_cons, ih]
      by_cases hem : fold e.1 = fold m
      · have hm : fold m ≠ fold name := fun heq => he (hem.trans heq)
        rw [if_pos hem, if_neg hm, if_pos hem]
      · rw [if_neg hem, if_neg hem]

/-- The head of a canonical list has a name of its own, and the tail is canonical. -/
theorem IsCanonical.of_cons {e : String × String} (h : IsCanonical (e :: es)) :
    fold e.1 = e.1 ∧ (∀ x ∈ es, fold x.1 ≠ fold e.1) ∧ IsCanonical es := by
  have hrest : IsCanonical es := h.sublist (List.sublist_cons_self e es)
  have hfold := h.fold_eq e List.mem_cons_self
  refine ⟨hfold, fun x hx heq => ?_, hrest⟩
  rw [hrest.fold_eq x hx, hfold] at heq
  exact (List.nodup_cons.mp h.nodup).1 (heq ▸ List.mem_map_of_mem hx)

/-- In a canonical list no second entry answers for a name that has been deleted. -/
theorem value?_eraseP (h : IsCanonical es) : value? (es.eraseP fun e => sameFold e.1 name) m =
    if fold m = fold name then none else value? es m := by
  induction es with
  | nil => exact (ite_self none).symm
  | cons e rest ih =>
    obtain ⟨-, hother, hrest⟩ := h.of_cons
    rw [value?_cons]
    by_cases he : fold e.1 = fold name
    · rw [List.eraseP_cons_of_pos (by rwa [sameFold_iff]), he]
      by_cases hm : fold m = fold name
      · rw [if_pos hm, Option.eq_none_iff_forall_ne_some]
        intro value hvalue
        obtain ⟨x, hx, hxm, -⟩ := exists_entry_of_value? hvalue
        exact hother x hx (hxm.trans (hm.trans he.symm))
      · rw [if_neg hm, if_neg (Ne.symm hm)]
    · rw [List.eraseP_cons_of_neg (by rwa [sameFold_iff]), value?_cons, ih hrest]
      by_cases hem : fold e.1 = fold m
      · have hm : fold m ≠ fold name := fun heq => he (hem.trans heq)
        rw [if_pos hem, if_neg hm, if_pos hem]
      · rw [if_neg hem, if_neg hem]

/-! ### Looking a name up -/

/-- The case of a name does not matter. -/
theorem get?_congr (h : fold m = fold name) : a.get? m = a.get? name := by
  simp only [get?, value?, sameFold, h]

/-- The same for the attributes of an element. -/
theorem exists_entry_of_get? (h : a.get? name = some value) :
    ∃ e ∈ a.entries, fold e.1 = fold name ∧ e.2 = value :=
  exists_entry_of_value? h

/-- The name that has been set has its new value, and every other name the one that it had. -/
theorem get?_set : (a.set name value).get? m =
    if fold m = fold name then some value else a.get? m :=
  value?_setEntry

/-- Of two values the later one counts. -/
theorem set_set (v w : String) : (a.set name v).set name w = a.set name w :=
  ext (setEntry_setEntry v w)

/-- A name that has been deleted has no value. -/
theorem get?_erase : (a.erase name).get? m = if fold m = fold name then none else a.get? m :=
  value?_eraseP a.canonical

/-- A name is present if it was or has just been set. -/
theorem contains_set : (a.set name value).contains m =
    (a.contains m || decide (fold name = fold m)) := by
  rw [contains_eq_isSome_get?, contains_eq_isSome_get?, get?_set]
  by_cases hm : fold m = fold name
  · rw [if_pos hm, decide_eq_true hm.symm, Bool.or_true, Option.isSome_some]
  · rw [if_neg hm, decide_eq_false (Ne.symm hm), Bool.or_false]

/-! ### Lists of pairs -/

/-- A name is present if it was or is that of one of the pairs. -/
theorem contains_foldl_set (pairs : List (String × String)) :
    (pairs.foldl (fun a e => a.set e.1 e.2) a).contains m =
      (a.contains m || pairs.any fun e => fold e.1 = fold m) := by
  induction pairs generalizing a with
  | nil => rw [List.foldl_nil, List.any_nil, Bool.or_false]
  | cons e rest ih => rw [List.foldl_cons, ih, contains_set, List.any_cons, Bool.or_assoc]

/-- A name is read from a list of pairs if one of them has it. -/
theorem contains_ofList (pairs : List (String × String)) :
    (ofList pairs).contains m = pairs.any fun e => fold e.1 = fold m := by
  rw [ofList, contains_foldl_set]
  rfl

/-- An entry was there before, or it comes from a pair. -/
theorem mem_foldl_set {e : String × String} {pairs : List (String × String)}
    (he : e ∈ (pairs.foldl (fun a e => a.set e.1 e.2) a).entries) :
    e ∈ a.entries ∨ ∃ p ∈ pairs, e = (fold p.1, p.2) := by
  induction pairs generalizing a with
  | nil => exact .inl he
  | cons p rest ih =>
    rcases ih he with hset | ⟨q, hq, rfl⟩
    · rcases mem_setEntry a.canonical.fold_eq hset with rfl | hold
      · exact .inr ⟨p, List.mem_cons_self, rfl⟩
      · exact .inl hold
    · exact .inr ⟨q, List.mem_cons_of_mem p hq, rfl⟩

/-- Each entry comes from a pair, whose name is now in lower case. -/
theorem mem_ofList {e : String × String} {pairs : List (String × String)}
    (he : e ∈ (ofList pairs).entries) : ∃ p ∈ pairs, e = (fold p.1, p.2) := by
  rcases mem_foldl_set he with hempty | hpair
  · exact absurd hempty List.not_mem_nil
  · exact hpair

/-- In a canonical list a name is none of those before it. -/
theorem IsCanonical.fold_ne {before : List (String × String)} {e : String × String}
    (h : IsCanonical (before ++ e :: es)) : ∀ x ∈ before, fold x.1 ≠ fold e.1 := by
  intro x hx
  have hnodup := h.nodup
  rw [List.map_append, List.nodup_append] at hnodup
  rw [h.fold_eq x (List.mem_append_left _ hx),
    h.fold_eq e (List.mem_append_right _ List.mem_cons_self)]
  exact hnodup.2.2 x.1 (List.mem_map_of_mem hx) e.1 List.mem_cons_self

/-- A new name in lower case is appended as it is. -/
theorem set_of_canonical {e : String × String} (h : IsCanonical (a.entries ++ e :: es)) :
    (a.set e.1 e.2).entries = a.entries ++ [e] := by
  have hfold : fold e.1 = e.1 := h.fold_eq e (List.mem_append_right _ List.mem_cons_self)
  rw [entries_set, setEntry_of_absent h.fold_ne, hfold]

/-- New names in lower case are appended as they are. -/
theorem foldl_set_of_canonical (h : IsCanonical (a.entries ++ es)) :
    (es.foldl (fun a e => a.set e.1 e.2) a).entries = a.entries ++ es := by
  induction es generalizing a with
  | nil => rw [List.append_nil, List.foldl_nil]
  | cons e rest ih =>
    have hset := set_of_canonical h
    rw [List.append_cons, ← hset] at h
    rw [List.foldl_cons, ih h, hset, ← List.append_cons]

/-- Attributes are what is read from their entries. -/
theorem ofList_entries (a : Attributes) : ofList a.entries = a :=
  ext (foldl_set_of_canonical (show IsCanonical (empty.entries ++ a.entries) from a.canonical))

/-! ### All names but one -/

/-- The attributes that do not answer for `name`. -/
def without (a : Attributes) (name : String) : Attributes where
  entries := a.entries.filter fun e => fold e.1 ≠ fold name
  canonical := a.canonical.sublist List.filter_sublist

/-- The other names are found as before. -/
theorem get?_without (hm : fold m ≠ fold name) : (a.without name).get? m = a.get? m := by
  show value? (a.entries.filter fun e => fold e.1 ≠ fold name) m = value? a.entries m
  induction a.entries with
  | nil => rfl
  | cons e rest ih =>
    rw [List.filter_cons, value?_cons]
    by_cases he : fold e.1 = fold name
    · rw [if_neg (by simpa using he), ih, if_neg fun heq => hm (heq.symm.trans he)]
    · rw [if_pos (by simpa using he), value?_cons, ih]

/-- What is set under the name itself is not seen, anything else is set in what is left. -/
theorem filter_setEntry : (setEntry m value es).filter (fun e => fold e.1 ≠ fold name) =
    if fold m = fold name then es.filter fun e => fold e.1 ≠ fold name
    else setEntry m value (es.filter fun e => fold e.1 ≠ fold name) := by
  induction es with
  | nil => by_cases hm : fold m = fold name <;> simp [setEntry, hm]
  | cons e rest ih =>
    rw [setEntry]
    by_cases hem : fold e.1 = fold m
    · rw [if_pos (sameFold_iff.mpr hem), List.filter_cons, List.filter_cons]
      by_cases hm : fold m = fold name
      · simp [hem, hm]
      · simp [hem, hm, setEntry, sameFold_iff]
    · rw [if_neg (by rwa [sameFold_iff]), List.filter_cons, List.filter_cons, ih]
      by_cases hm : fold m = fold name
      · rw [if_pos hm, if_pos hm]
      · rw [if_neg hm, if_neg hm]
        by_cases he : fold e.1 = fold name
        · rw [if_neg (by simpa using he), if_neg (by simpa using he)]
        · rw [if_pos (by simpa using he), if_pos (by simpa using he), setEntry,
            if_neg (by rwa [sameFold_iff])]

/-- Leaving out a name undoes setting it, and does not interfere with setting another one. -/
theorem without_set : (a.set m value).without name =
    if fold m = fold name then a.without name else (a.without name).set m value := by
  apply ext
  rw [apply_ite entries]
  exact filter_setEntry

/-- Pairs with other names are read as if the others were not there. -/
theorem without_ofList (pairs : List (String × String)) :
    (ofList pairs).without name = ofList (pairs.filter fun e => fold e.1 ≠ fold name) := by
  have key : ∀ a : Attributes, (pairs.foldl (fun a e => a.set e.1 e.2) a).without name =
      (pairs.filter fun e => fold e.1 ≠ fold name).foldl (fun a e => a.set e.1 e.2)
        (a.without name) := by
    induction pairs with
    | nil => exact fun _ => rfl
    | cons e rest ih =>
      intro a
      rw [List.foldl_cons, ih, without_set, List.filter_cons]
      by_cases he : fold e.1 = fold name
      · rw [if_pos he, if_neg (by simpa using he)]
      · rw [if_neg he, if_pos (by simpa using he), List.foldl_cons]
  exact key empty

/-- In a canonical list a name that has a value has one entry, apart from which the others are
    left. -/
theorem IsCanonical.erase_entry (h : IsCanonical es) (hvalue : value? es name = some value) :
    (fold name, value) ∈ es ∧
      es.erase (fold name, value) = es.filter fun e => fold e.1 ≠ fold name := by
  induction es with
  | nil => cases hvalue
  | cons e rest ih =>
    obtain ⟨hfold, hother, hrest⟩ := h.of_cons
    rw [value?_cons] at hvalue
    rw [List.filter_cons]
    by_cases he : fold e.1 = fold name
    · rw [if_pos he, Option.some.injEq] at hvalue
      have hentry : e = (fold name, value) := Prod.ext (hfold.symm.trans he) hvalue
      rw [if_neg (by simpa using he), ← hentry, List.erase_cons_head]
      refine ⟨List.mem_cons_self, (List.filter_eq_self.mpr fun x hx => ?_).symm⟩
      rw [decide_eq_true_eq, ← he]
      exact hother x hx
    · rw [if_neg he] at hvalue
      obtain ⟨hmem, herase⟩ := ih hrest hvalue
      have hne : e ≠ (fold name, value) := by
        rintro rfl
        exact he (fold_fold name)
      rw [if_pos (by simpa using he), List.erase_cons_tail (by simpa using hne), herase]
      exact ⟨List.mem_cons_of_mem e hmem, rfl⟩

/-- A name that has a value has one entry, apart from which the others are left. -/
theorem erase_entries (hvalue : a.get? name = some value) :
    (fold name, value) ∈ a.entries ∧
      a.entries.erase (fold name, value) = (a.without name).entries :=
  a.canonical.erase_entry hvalue

end Attributes

end AmpMarkup
