import AmpMarkup.Text.Ascii

namespace AmpMarkup

open AmpMarkup.Text

/-!
# Attributes of an element

An insertion-ordered map from names to values. A name is stored in ASCII lower case and looked up
without regard to case, and no two entries have the same name; the type carries this, and every
change of a map proves it again.

* `Attributes.IsCanonical` — the lists of entries there can be; `IsCanonical.setEntry` and
  `IsCanonical.sublist` for what is set and what is left out.
* `Attributes.set` — a name that is present keeps its position and takes the new value; any other
  name goes to the end.
* `Attributes.get?`, `Attributes.contains`, `Attributes.erase` — by name, in any case.
* `Attributes.ofList` — the pairs set one after the other: first position, last value.
* `Attributes.names`, `Attributes.size` — what is stored, in order.
-/

namespace Attributes

/-! ### Lists of entries -/

/-- The names are in lower case and differ from each other. -/
structure IsCanonical (es : List (String × String)) : Prop where
  fold_eq : ∀ e ∈ es, fold e.1 = e.1
  nodup : (es.map Prod.fst).Nodup

/-- The value of the first entry called `name` in any case. -/
def value? (es : List (String × String)) (name : String) : Option String :=
  (es.find? fun e => sameFold e.1 name).map Prod.snd

/-- Puts `value` into the first entry called `name`, or adds an entry at the end. -/
def setEntry (name value : String) : List (String × String) → List (String × String)
  | [] => [(fold name, value)]
  | e :: rest =>
    if sameFold e.1 name then (e.1, value) :: rest else e :: setEntry name value rest

variable {name value : String} {es es' : List (String × String)}

/-- The names change only by a name that was not there. -/
theorem names_setEntry (name value : String) (es : List (String × String)) :
    (setEntry name value es).map Prod.fst = es.map Prod.fst ∨
      ((setEntry name value es).map Prod.fst = es.map Prod.fst ++ [fold name] ∧
        ∀ e ∈ es, fold e.1 ≠ fold name) := by
  induction es with
  | nil => exact .inr ⟨rfl, fun _ he => absurd he List.not_mem_nil⟩
  | cons e rest ih =>
    rw [setEntry]
    split
    · exact .inl rfl
    · rename_i hne
      rw [sameFold_iff] at hne
      rw [List.map_cons, List.map_cons]
      rcases ih with hsame | ⟨hnew, habsent⟩
      · rw [hsame]
        exact .inl rfl
      · rw [hnew]
        refine .inr ⟨rfl, fun x hx => ?_⟩
        rcases List.mem_cons.mp hx with rfl | hx
        · exact hne
        · exact habsent x hx

/-- An entry is the one that was set, or it was there before. -/
theorem mem_setEntry {e : String × String} (hfold : ∀ x ∈ es, fold x.1 = x.1)
    (h : e ∈ setEntry name value es) : e = (fold name, value) ∨ e ∈ es := by
  induction es with
  | nil => exact .inl (List.mem_singleton.mp h)
  | cons x rest ih =>
    rw [setEntry] at h
    split at h
    · rename_i heq
      rw [sameFold_iff, hfold x List.mem_cons_self] at heq
      rcases List.mem_cons.mp h with rfl | hrest
      · rw [heq]
        exact .inl rfl
      · exact .inr (List.mem_cons_of_mem x hrest)
    · rcases List.mem_cons.mp h with rfl | hrest
      · exact .inr List.mem_cons_self
      · exact (ih (fun y hy => hfold y (List.mem_cons_of_mem x hy)) hrest).imp_right
          (List.mem_cons_of_mem x)

/-- No entries are in canonical form. -/
theorem isCanonical_nil : IsCanonical [] where
  fold_eq _ he := absurd he List.not_mem_nil
  nodup := List.nodup_nil

/-- Setting a value keeps the form: a name is added only where no stored name is equal to it. -/
theorem IsCanonical.setEntry (h : IsCanonical es) (name value : String) :
    IsCanonical (setEntry name value es) where
  fold_eq e he := by
    rcases mem_setEntry h.fold_eq he with rfl | he
    · exact fold_fold name
    · exact h.fold_eq e he
  nodup := by
    rcases names_setEntry name value es with hsame | ⟨hnew, habsent⟩
    · rw [hsame]
      exact h.nodup
    · rw [hnew, List.nodup_append]
      refine ⟨h.nodup, List.pairwise_singleton _ _, fun x hx y hy => ?_⟩
      obtain ⟨e, he, rfl⟩ := List.mem_map.mp hx
      rw [List.mem_singleton.mp hy, ← h.fold_eq e he]
      exact habsent e he

/-- Leaving entries out keeps the form. -/
theorem IsCanonical.sublist (h : IsCanonical es) (hsub : es'.Sublist es) : IsCanonical es' where
  fold_eq e he := h.fold_eq e (hsub.subset he)
  nodup := (hsub.map Prod.fst).nodup h.nodup

end Attributes

/-! ### The map -/

/-- The attributes of one element, in the order in which their names were first set. -/
structure Attributes where
  /-- Names with their values. -/
  entries : List (String × String)
  canonical : Attributes.IsCanonical entries
  deriving DecidableEq, Repr

namespace Attributes

/-- Attributes are given by their entries. -/
@[ext] theorem ext {a b : Attributes} (h : a.entries = b.entries) : a = b := by
  obtain ⟨entries, _⟩ := a
  obtain rfl : entries = b.entries := h
  rfl

/-- No attributes. -/
def empty : Attributes := ⟨[], isCanonical_nil⟩

instance : Inhabited Attributes := ⟨empty⟩

/-- The value of the entry called `name` in any case. -/
def get? (a : Attributes) (name : String) : Option String := value? a.entries name

/-- Is there an entry called `name` in any case? -/
def contains (a : Attributes) (name : String) : Bool :=
  a.entries.any fun e => sameFold e.1 name

/-- `name` now has `value`; a name that was present keeps its position. -/
def set (a : Attributes) (name value : String) : Attributes where
  entries := setEntry name value a.entries
  canonical := a.canonical.setEntry name value

/-- Sets `name` only if it is not yet present. -/
def setIfAbsent (a : Attributes) (name value : String) : Attributes :=
  if a.contains name then a else a.set name value

/-- Deletes the entry called `name` in any case. -/
def erase (a : Attributes) (name : String) : Attributes where
  entries := a.entries.eraseP fun e => sameFold e.1 name
  canonical := a.canonical.sublist List.eraseP_sublist

/-- The pairs set from left to right. -/
def ofList (pairs : List (String × String)) : Attributes :=
  pairs.foldl (fun a e => a.set e.1 e.2) empty

/-- The stored names, in order. -/
def names (a : Attributes) : List String := a.entries.map Prod.fst

/-- The number of entries. -/
def size (a : Attributes) : Nat := a.entries.length

/-- Are there no entries? -/
def isEmpty (a : Attributes) : Bool := a.entries.isEmpty

@[simp] theorem entries_empty : empty.entries = [] := rfl

@[simp] theorem entries_set (a : Attributes) (name value : String) :
    (a.set name value).entries = setEntry name value a.entries := rfl

@[simp] theorem entries_erase (a : Attributes) (name : String) :
    (a.erase name).entries = a.entries.eraseP fun e => sameFold e.1 name := rfl

/-- A name is present exactly when it has a value. -/
theorem contains_eq_isSome_get? (a : Attributes) (name : String) :
    a.contains name = (a.get? name).isSome := by
  simp [contains, get?, value?, Option.isSome_map, List.isSome_find?]

end Attributes

end AmpMarkup
