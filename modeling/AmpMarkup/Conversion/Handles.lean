import AmpMarkup.Conversion.History
import AmpMarkup.Conversion.Pass

namespace AmpMarkup

/-!
# Handles over time

A handle may be kept for as long as its document lives. What it refers to never becomes something
else, and once it has been discarded it is out of use for good.

* `NodeKind.bare` — what a node is, its attributes apart.
* `Document.IsDiscarded` — a handle that has been given out and is out of use.
* `Conversion.Action.handles`, `Conversion.Action.Fails` — the handles that an action is given, and
  whether it is refused.
* `Conversion.Forgets d n` — `d` has nothing to do with `n` any more.
-/

/-- What a node is: its kind with its name or its content, but without its attributes. -/
def NodeKind.bare (k : NodeKind) : NodeKind := k.mapAttributes fun _ => .empty

/-- The slot of `n` has been made, and `n` is not live. -/
def Document.IsDiscarded (d : Document) (n : NodeId) : Prop :=
  n.index < d.size ∧ d.contains n = false

instance (d : Document) (n : NodeId) : Decidable (d.IsDiscarded n) :=
  inferInstanceAs (Decidable (_ ∧ _))

/-- `e` ends with an error. -/
def Edit.Fails {α : Type} (e : Edit α) (d : Document) : Prop :=
  ∃ cause d', e.run d = .error cause d'

namespace Conversion

/-- The handles that an action is given. -/
def Action.handles : Action → List NodeId
  | createElement .. | createText _ | createComment _ | convertAudio _ => []
  | appendChild parent child | removeChild parent child => [parent, child]
  | insertBefore parent child before => [parent, child, before]
  | replaceChild parent new old => [parent, new, old]
  | wrapWithFallback source replacement fallback => [source, replacement, fallback]
  | detach n | discard n | cloneNode n _ | setAttribute n .. | setAttributes n _
  | removeAttribute n _ | detachChildren n => [n]

/-- The action ends with an error; a conversion never does. -/
def Action.Fails : Action → Document → Prop
  | createElement name attributes => (Edit.createElement name attributes).Fails
  | createText content => (Edit.createText content).Fails
  | createComment content => (Edit.createComment content).Fails
  | appendChild parent child => (Edit.appendChild parent child).Fails
  | insertBefore parent child before => (Edit.insertBefore parent child before).Fails
  | removeChild parent child => (Edit.removeChild parent child).Fails
  | replaceChild parent new old => (Edit.replaceChild parent new old).Fails
  | detach n => (Edit.detach n).Fails
  | discard n => (Edit.discard n).Fails
  | cloneNode n deep => (Edit.cloneNode n deep).Fails
  | setAttribute n name value => (Edit.setAttribute n name value).Fails
  | setAttributes n attributes => (Edit.setAttributes n attributes).Fails
  | removeAttribute n name => (Edit.removeAttribute n name).Fails
  | detachChildren n => (Edit.detachChildren n).Fails
  | wrapWithFallback source replacement fallback =>
    (Edit.wrapWithFallback source replacement fallback).Fails
  | convertAudio _ => fun _ => False

/-- `n` was visited, or it is what a visited element was replaced by. -/
def Report.Mentions (r : Report) (n : NodeId) : Prop :=
  ∃ e ∈ r.outcomes, e.1 = n ∨ e.2 = .replaced n

/-- `d` has nothing to do with the discarded `n` any more. -/
structure Forgets (d : Document) (n : NodeId) : Prop where
  discarded : d.IsDiscarded n
  not_child (m : NodeId) : n ∉ d.children m
  not_parent (m : NodeId) : d.parent? m ≠ some n
  not_below (m : NodeId) : n ∉ d.descendants m
  /-- A new node gets another handle. -/
  not_created (k : NodeKind) (m : NodeId) (d' : Document) :
    (Edit.create k).run d = .ok m d' → m ≠ n
  not_copied (x : NodeId) (deep : Bool) (m : NodeId) (d' : Document) :
    (Edit.cloneNode x deep).run d = .ok m d' → m ≠ n
  not_reported (p : Pass) (r : PassResult) : p.run d = .ok r → ∀ report ∈ r.reports,
    ¬ report.Mentions n
  /-- Every action that is given the handle is refused; only the list of its children can still be
      asked for, which is empty. -/
  refused (a : Action) : n ∈ a.handles → a.Fails d ∨
    a = .detachChildren n ∧ (Edit.detachChildren n).run d = .ok [] d

end Conversion

end AmpMarkup
