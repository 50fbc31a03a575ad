import AmpMarkup.Document.AttributeHistory
import AmpMarkup.Proofs.Document.Attributes
import AmpMarkup.Proofs.Text.Character
import Mathlib.Data.List.Nodup

namespace AmpMarkup

open AmpMarkup.Text

/-!
# Attributes are an ordered map from folded names

* `Attributes.Tracks a told` — each name has the value that was said of it last. `tracks_set`,
  `tracks_remove` and `tracks_ofList` are the steps, `tracks_after` the run.
* `Attributes.remove_eq` — deleting an entry gives what looking it up gives.
* `Attributes.exists_split`, `set_of_absent`, `erase_of_absent` — where the entry of a name stands,
  and what a change does to the others.
* `Attributes.mem_ofList_iff`, `pairwise_names_ofList` — which entries are collected, and that their
  names stand in the order in which they first occur.
* `Attributes.after_keyed_by_fold` — all of it, after any changes.
-/

variable {α : Type} {told : List (String × α)} {name m value : String} {x y : α}
  {a : Attributes} {pairs : List (String × String)}

/-! ### The last thing said -/

/-- Of no entries none is the last. -/
theorem not_isLast_nil : ¬ IsLast ([] : List (String × α)) name x := by
  rintro ⟨before, after, m, h, -⟩
  simp at h

/-- What is said now counts for its own name only. -/
theorem isLast_append_singleton : IsLast (told ++ [(m, y)]) name x ↔
    if fold name = fold m then y = x else IsLast told name x := by
  constructor
  · rintro ⟨before, after, m', h, hm', hafter⟩
    -- Either the new entry is the one that counts, or it stands behind that one.
    rcases List.eq_nil_or_concat' after with rfl | ⟨after, e, rfl⟩
    · obtain ⟨-, hlast⟩ := List.append_inj' h rfl
      rw [List.singleton_inj, Prod.mk.injEq] at hlast
      obtain ⟨rfl, rfl⟩ := hlast
      rw [if_pos hm'.symm]
    · rw [← List.cons_append, ← List.append_assoc] at h
      obtain ⟨hinit, hlast⟩ := List.append_inj' h rfl
      rw [List.singleton_inj] at hlast
      subst hlast
      rw [if_neg fun heq => hafter (m, y) (by simp) heq.symm]
      exact ⟨before, after, m', hinit, hm', fun e he => hafter e (by simp [he])⟩
  · split
    · rename_i heq
      rintro rfl
      exact ⟨told, [], m, rfl, heq.symm, by simp⟩
    · rename_i hne
      rintro ⟨before, after, m', rfl, hm', hafter⟩
      refine ⟨before, after ++ [(m, y)], m', by simp, hm', fun e he => ?_⟩
      rcases List.mem_append.mp he with he | he
      · exact hafter e he
      · rw [List.mem_singleton.mp he]
        exact fun heq => hne heq.symm

/-- Whether an entry is the last of its name does not depend on the other names. -/
theorem isLast_map_some {v : String} :
    IsLast (pairs.map fun e => (e.1, some e.2)) name (some v) ↔ IsLast pairs name v := by
  induction pairs using List.reverseRecOn with
  | nil => exact iff_of_false not_isLast_nil not_isLast_nil
  | append_singleton pairs e ih =>
    rw [List.map_append, List.map_singleton, isLast_append_singleton, isLast_append_singleton, ih,
      Option.some.injEq]

namespace Attributes

/-! ### Where an entry stands -/

/-- Removing a name gives its value and deletes its entry. -/
theorem remove_eq (a : Attributes) (name : String) :
    a.remove name = (a.get? name, a.erase name) := by
  rw [remove, get?, value?]
  cases hi : a.entries.findIdx? fun e => sameFold e.1 name with
  | none =>
    have hnone : ∀ e ∈ a.entries, ¬ sameFold e.1 name = true := fun e he => by
      simpa using List.findIdx?_eq_none_iff.mp hi e he
    have herase : a.erase name = a := ext (List.eraseP_of_forall_not hnone)
    rw [List.find?_eq_none.mpr hnone, herase]
    rfl
  | some i =>
    obtain ⟨hlt, hsame, hbefore⟩ := List.findIdx?_eq_some_iff_getElem.mp hi
    have hfind : a.entries.find? (fun e => sameFold e.1 name) = some a.entries[i] := by
      rw [List.find?_eq_some_iff_getElem]
      exact ⟨hsame, i, hlt, rfl, fun j hj => by simpa using hbefore j hj⟩
    have herase : a.eraseIdx i = a.erase name := by
      apply ext
      rw [entries_erase, List.eraseP_eq_eraseIdx, hi]
      rfl
    simp only [hfind, List.getElem?_eq_getElem hlt, herase]

/-- Setting a name that is there changes the value in its place. -/
theorem setEntry_append {e : String × String} {pre post : List (String × String)}
    (hpre : ∀ x ∈ pre, fold x.1 ≠ fold name) (he : fold e.1 = fold name) :
    setEntry name value (pre ++ e :: post) = pre ++ (e.1, value) :: post := by
  induction pre with
  | nil => rw [List.nil_append, setEntry, if_pos (sameFold_iff.mpr he), List.nil_append]
  | cons x pre ih =>
    have hx : ¬ sameFold x.1 name = true := by
      rw [sameFold_iff]
      exact hpre x List.mem_cons_self
    rw [List.cons_append, setEntry, if_neg hx, ih fun y hy => hpre y (List.mem_cons_of_mem x hy),
      List.cons_append]

/-- The entry of a name that has a value stands in one place, and the others stay where they are
    when it is changed or deleted. -/
theorem exists_split (hvalue : a.get? name = some value) (w : String) :
    ∃ pre post, a.entries = pre ++ (fold name, value) :: post ∧
      (a.set name w).entries = pre ++ (fold name, w) :: post ∧
      (a.erase name).entries = pre ++ post := by
  obtain ⟨entries, hcanonical⟩ := a
  rw [get?, value?, Option.map_eq_some_iff] at hvalue
  obtain ⟨e, hfind, rfl⟩ := hvalue
  obtain ⟨hsame, pre, post, rfl, hpre⟩ := List.find?_eq_some_iff_append.mp hfind
  have hpre' : ∀ x ∈ pre, ¬ sameFold x.1 name = true := fun x hx => by simpa using hpre x hx
  have hname : e.1 = fold name := by
    rw [← sameFold_iff.mp hsame]
    exact (hcanonical.fold_eq e (by simp)).symm
  refine ⟨pre, post, ?_, ?_, ?_⟩
  · rw [← hname]
  · rw [← hname, entries_set, setEntry_append (fun x hx heq => hpre' x hx (sameFold_iff.mpr heq))
      (sameFold_iff.mp hsame)]
  · rw [entries_erase, List.eraseP_append_right _ hpre']
    exact congrArg (pre ++ ·) (List.eraseP_cons_of_pos hsame)

/-- A name without a value is none of the names that are there. -/
theorem forall_ne_of_get?_eq_none (h : a.get? name = none) :
    ∀ e ∈ a.entries, fold e.1 ≠ fold name := by
  intro e he heq
  rw [get?, value?, Option.map_eq_none_iff, List.find?_eq_none] at h
  exact h e he (sameFold_iff.mpr heq)

/-- A name that is not there is set at the end, folded. -/
theorem set_of_absent (h : a.get? name = none) (value : String) :
    (a.set name value).entries = a.entries ++ [(fold name, value)] :=
  setEntry_of_absent (forall_ne_of_get?_eq_none h)

/-- Erasing a name that is not there changes nothing. -/
theorem erase_of_absent (h : a.get? name = none) : a.erase name = a :=
  ext (List.eraseP_of_forall_not fun e he hsame =>
    forall_ne_of_get?_eq_none h e he (sameFold_iff.mp hsame))

/-! ### What names stand for -/

/-- Each name has the value that was said of it last. -/
def Tracks (a : Attributes) (told : List (String × Option String)) : Prop :=
  ∀ name value, a.get? name = some value ↔ IsLast told name (some value)

section

variable {told : List (String × Option String)}

/-- The empty list tracks an empty history. -/
theorem tracks_empty : empty.Tracks [] :=
  fun _ _ => iff_of_false nofun not_isLast_nil

/-- A call of `set` is tracked as the name with its value. -/
theorem tracks_set (h : a.Tracks told) (name value : String) :
    (a.set name value).Tracks (told ++ [(name, some value)]) := by
  intro m v
  rw [get?_set, isLast_append_singleton]
  split
  · rfl
  · exact h m v

/-- A call of `remove` is tracked as the name without a value. -/
theorem tracks_remove (h : a.Tracks told) (name : String) :
    (a.remove name).2.Tracks (told ++ [(name, none)]) := by
  intro m v
  rw [remove_eq, get?_erase, isLast_append_singleton]
  split
  · rfl
  · exact h m v

/-- Collecting pairs is setting them one after the other. -/
theorem tracks_ofList (pairs : List (String × String)) :
    (ofList pairs).Tracks (pairs.map fun e => (e.1, some e.2)) := by
  induction pairs using List.reverseRecOn with
  | nil => exact tracks_empty
  | append_singleton pairs e ih =>
    rw [ofList, List.foldl_append, List.map_append]
    exact tracks_set ih e.1 e.2

/-- Every call is tracked by what it tells. -/
theorem tracks_run (h : a.Tracks told) (change : AttributeChange) :
    (change.run a).Tracks (change.tell told) := by
  cases change with
  | set name value => exact tracks_set h name value
  | remove name => exact tracks_remove h name
  | collect pairs => exact tracks_ofList pairs

/-- The list after any calls tracks all that they tell. -/
theorem tracks_after (changes : List AttributeChange) :
    (after changes).Tracks (AttributeChange.told changes) := by
  induction changes using List.reverseRecOn with
  | nil => exact tracks_empty
  | append_singleton changes change ih =>
    rw [after, AttributeChange.told, List.foldl_append, List.foldl_append]
    exact tracks_run ih change

end

/-! ### The order in which names are collected -/

/-- No other entry answers for the name of an entry. -/
theorem get?_of_mem {e : String × String} (he : e ∈ a.entries) :
    a.get? e.1 = some e.2 := by
  cases hvalue : a.get? e.1 with
  | none => exact absurd rfl (forall_ne_of_get?_eq_none hvalue e he)
  | some v =>
    -- The entry that is found has the same name, and there is only one such entry.
    have hmem := (erase_entries hvalue).1
    rw [a.canonical.fold_eq e he] at hmem
    have heq := List.inj_on_of_nodup_map a.canonical.nodup he hmem rfl
    rw [heq]

/-- What is collected for a name is the last value that is given for it. -/
theorem mem_ofList_iff {e : String × String} :
    e ∈ (ofList pairs).entries ↔ fold e.1 = e.1 ∧ IsLast pairs e.1 e.2 := by
  rw [← isLast_map_some, ← tracks_ofList pairs]
  constructor
  · intro he
    exact ⟨(ofList pairs).canonical.fold_eq e he, get?_of_mem he⟩
  · rintro ⟨hfold, hvalue⟩
    have hmem := (erase_entries hvalue).1
    rwa [hfold] at hmem

/-- Just the names that are given are collected. -/
theorem mem_names_ofList_iff :
    name ∈ (ofList pairs).names ↔ name ∈ pairs.map fun e => fold e.1 := by
  constructor
  · intro hname
    obtain ⟨x, hx, rfl⟩ := List.mem_map.mp hname
    obtain ⟨p, hp, rfl⟩ := mem_ofList hx
    exact List.mem_map_of_mem hp
  · intro hname
    obtain ⟨p, hp, rfl⟩ := List.mem_map.mp hname
    have hcontains : (ofList pairs).contains p.1 = true := by
      rw [contains_ofList, List.any_eq_true]
      exact ⟨p, hp, by simp⟩
    rw [contains, List.any_eq_true] at hcontains
    obtain ⟨x, hx, hsame⟩ := hcontains
    have hfold := (ofList pairs).canonical.fold_eq x hx
    rw [sameFold_iff.mp hsame] at hfold
    exact List.mem_map.mpr ⟨x, hx, hfold.symm⟩

/-- A collected name stands behind the names that occur for the first time before it does. -/
theorem pairwise_names_ofList (pairs : List (String × String)) :
    (ofList pairs).names.Pairwise fun n n' =>
      (pairs.map fun e => fold e.1).idxOf n < (pairs.map fun e => fold e.1).idxOf n' := by
  induction pairs using List.reverseRecOn with
  | nil => exact .nil
  | append_singleton pairs e ih =>
    have hset : ofList (pairs ++ [e]) = (ofList pairs).set e.1 e.2 := by
      rw [ofList, List.foldl_append]
      rfl
    -- One more pair at the end moves no name that has occurred before.
    have hold : (ofList pairs).names.Pairwise fun n n' =>
        ((pairs ++ [e]).map fun e => fold e.1).idxOf n <
          ((pairs ++ [e]).map fun e => fold e.1).idxOf n' := by
      refine ih.imp_of_mem fun {n n'} hn hn' hlt => ?_
      rwa [List.map_append, List.idxOf_append_of_mem (mem_names_ofList_iff.mp hn),
        List.idxOf_append_of_mem (mem_names_ofList_iff.mp hn')]
    rw [hset]
    show ((setEntry e.1 e.2 (ofList pairs).entries).map Prod.fst).Pairwise _
    -- The name of the last pair has occurred before, or it stands behind all the others.
    rcases names_setEntry e.1 e.2 (ofList pairs).entries with hsame | ⟨hnew, habsent⟩
    · rw [hsame]
      exact hold
    · rw [hnew, List.pairwise_append]
      refine ⟨hold, List.pairwise_singleton _ _, fun n hn n' hn' => ?_⟩
      obtain rfl := List.mem_singleton.mp hn'
      have hfresh : fold e.1 ∉ pairs.map fun e => fold e.1 := by
        intro hmem
        obtain ⟨x, hx, heq⟩ := List.mem_map.mp (mem_names_ofList_iff.mpr hmem)
        exact habsent x hx (by rw [heq, fold_fold])
      have hn := mem_names_ofList_iff.mp hn
      rw [List.map_append, List.idxOf_append_of_mem hn, List.idxOf_append_of_notMem hfresh]
      exact Nat.lt_add_right _ (List.idxOf_lt_length_iff.mpr hn)

/-! ### After any changes -/

/-- A folded name has no capital letter of ASCII. -/
theorem isUpper_eq_false_of_fold_eq {s : String} (h : fold s = s) :
    ∀ c ∈ s.toList, c.isUpper = false := by
  intro c hc
  rw [← String.toList_inj, toList_fold] at h
  have hlower : c.toLower = c :=
    List.map_inj_left.mp (h.trans (List.map_id s.toList).symm) c hc
  rw [← Bool.not_eq_true, isUpper_iff_toNat]
  intro hupper
  have hmoved := toNat_toLower c
  rw [if_pos hupper, hlower] at hmoved
  omega

/-- After any changes, with names in whatever case, the stored names have no capital letters and
    differ from each other, and a name is found, in whatever case, with the value that was set last,
    unless it has been removed since. Setting a name that is there changes its value and nothing
    else, and removing it gives this value and takes its entry out from between the others; setting
    a name that is not there appends an entry, and removing it changes nothing. Pairs are collected
    into one entry for each name, with the last value given for it, in the order in which the names
    first occur. -/
theorem after_keyed_by_fold (changes : List AttributeChange) :
    (∀ n ∈ (after changes).names, ∀ c ∈ n.toList, c.isUpper = false) ∧
    (after changes).names.Nodup ∧
    (∀ n v, (after changes).get? n = some v ↔
      IsLast (AttributeChange.told changes) n (some v)) ∧
    (∀ n, (after changes).contains n = true ↔
      ∃ v, IsLast (AttributeChange.told changes) n (some v)) ∧
    (∀ n v w, IsLast (AttributeChange.told changes) n (some v) → ∃ pre post,
      (after changes).entries = pre ++ (fold n, v) :: post ∧
      ((after changes).set n w).entries = pre ++ (fold n, w) :: post ∧
      ((after changes).remove n).1 = some v ∧
      ((after changes).remove n).2.entries = pre ++ post) ∧
    (∀ n w, (∀ v, ¬ IsLast (AttributeChange.told changes) n (some v)) →
      ((after changes).set n w).entries = (after changes).entries ++ [(fold n, w)] ∧
      (after changes).remove n = (none, after changes)) ∧
    ∀ pairs, (∀ n v, (n, v) ∈ (ofList pairs).entries ↔ fold n = n ∧ IsLast pairs n v) ∧
      (ofList pairs).names.Pairwise fun n n' =>
        (pairs.map fun e => fold e.1).idxOf n < (pairs.map fun e => fold e.1).idxOf n' := by
  have hvalue := tracks_after changes
  refine ⟨fun n hn => ?_, (after changes).canonical.nodup, hvalue, fun n => ?_,
    fun n v w hlast => ?_, fun n w hno => ?_,
    fun pairs => ⟨fun n v => mem_ofList_iff, pairwise_names_ofList pairs⟩⟩
  · obtain ⟨e, he, rfl⟩ := List.mem_map.mp hn
    exact isUpper_eq_false_of_fold_eq ((after changes).canonical.fold_eq e he)
  · rw [contains_eq_isSome_get?, Option.isSome_iff_exists]
    exact exists_congr fun v => hvalue n v
  · have hget := (hvalue n v).mpr hlast
    obtain ⟨pre, post, hentries, hset, herase⟩ := exists_split hget w
    rw [remove_eq]
    exact ⟨pre, post, hentries, hset, hget, herase⟩
  · have hget : (after changes).get? n = none :=
      Option.eq_none_iff_forall_ne_some.mpr fun v h => hno v ((hvalue n v).mp h)
    refine ⟨set_of_absent hget w, ?_⟩
    rw [remove_eq, hget, erase_of_absent hget]

end Attributes

end AmpMarkup
