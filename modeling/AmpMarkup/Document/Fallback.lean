import AmpMarkup.Document.Edit

namespace AmpMarkup

open AmpMarkup.Text

/-!
# Fallback islands

Markup for readers without scripts stands inside a `noscript` element, an island that is left
alone.

* `Document.isInFallbackIsland` — directly inside such an element.
* `Edit.detachChildren`, `Edit.restoreChildren` — take all children out of a node, and put back
  those that are still free.
* `Edit.wrapWithFallback` — one node in the place of another, with a fallback inside.
-/

/-- The name of the element that holds a fallback. -/
def fallbackTag : String := "noscript"

/-- Is the parent of `n` a `noscript` element? -/
def Document.isInFallbackIsland (d : Document) (n : NodeId) : Bool :=
  (d.parent? n).any (d.isElementNamed · fallbackTag)

namespace Edit

/-- Takes every child out of `n`, from first to last, and gives them in order. -/
def detachChildren (n : NodeId) : Edit (List NodeId) := do
  ((← get).children n).mapM (removeChild n)

/-- Puts those of the nodes that are live and have no parent back under `n`, if `n` is live. -/
def restoreChildren (n : NodeId) (children : List NodeId) : Edit Unit := do
  if (← get).contains n then
    children.forM fun child => do
      if (← get).contains child && ((← get).parent? child).isNone then
        attempt (appendChild n child)

/-- Puts `replacement` in the place of `source` and `fallback` into a new `noscript` element at the
    end of `replacement`. `source` ends up detached; the `noscript` element is given back. -/
def wrapWithFallback (source replacement fallback : NodeId) : Edit NodeId := do
  match (← get).parent? source with
  | none => throw (.missingNode source)
  | some parent =>
    let island ← createElement fallbackTag
    appendChild replacement island
    let _ ← replaceChild parent replacement source
    appendChild island fallback
    return island

end Edit

end AmpMarkup
