import AmpMarkup.Document.Attributes

namespace AmpMarkup

open AmpMarkup.Text

/-!
# Histories of attributes

Attributes are collected from pairs, and then set and removed by name. What a name stands for after
that is told by what has been said of it last.

* `Attributes.remove` — deletes an entry and gives the value it had.
* `AttributeChange`, `Attributes.after` — what can be done to attributes, and what several changes,
  one after the other, make of none.
* `AttributeChange.told` — what has been said of each name, in order.
* `IsLast told name x` — the last thing said of `name`, in whatever case, is `x`.
-/

/-- Deletes the entry at a position. -/
def Attributes.eraseIdx (a : Attributes) (i : Nat) : Attributes where
  entries := a.entries.eraseIdx i
  canonical := a.canonical.sublist (List.eraseIdx_sublist a.entries i)

/-- Deletes the entry called `name` in any case, and gives its value. -/
def Attributes.remove (a : Attributes) (name : String) : Option String × Attributes :=
  match a.entries.findIdx? fun e => sameFold e.1 name with
  | none => (none, a)
  | some i => (a.entries[i]?.map Prod.snd, a.eraseIdx i)

/-- Something that is done to attributes. -/
inductive AttributeChange where
  | set (name value : String)
  | remove (name : String)
  /-- Starts anew with attributes collected from pairs. -/
  | collect (pairs : List (String × String))
  deriving DecidableEq, Repr

namespace AttributeChange

/-- The attributes after a change. -/
def run (a : Attributes) : AttributeChange → Attributes
  | set name value => a.set name value
  | remove name => (a.remove name).2
  | collect pairs => .ofList pairs

/-- What has been said of names after a change: that they have a value, or that they have none. -/
def tell (told : List (String × Option String)) : AttributeChange → List (String × Option String)
  | set name value => told ++ [(name, some value)]
  | remove name => told ++ [(name, none)]
  | collect pairs => pairs.map fun e => (e.1, some e.2)

/-- What has been said of names after several changes. -/
def told (changes : List AttributeChange) : List (String × Option String) := changes.foldl tell []

end AttributeChange

/-- The attributes after several changes. -/
def Attributes.after (changes : List AttributeChange) : Attributes :=
  changes.foldl AttributeChange.run .empty

/-- The last thing that is said of `name`, in whatever case, is `x`. -/
def IsLast {α : Type} (told : List (String × α)) (name : String) (x : α) : Prop :=
  ∃ before after m, told = before ++ (m, x) :: after ∧ fold m = fold name ∧
    ∀ e ∈ after, fold e.1 ≠ fold name

end AmpMarkup
