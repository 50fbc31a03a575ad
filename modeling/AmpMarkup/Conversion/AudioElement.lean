import AmpMarkup.Conversion.AttributeRule
import AmpMarkup.Conversion.Report
import AmpMarkup.Document.Fallback
import AmpMarkup.Document.Preorder

namespace AmpMarkup.Conversion

open AmpMarkup.Text

/-!
# Converting audio elements

An `audio` element becomes an `amp-audio` element with the same children and, at its end, a
`noscript` element that holds an `audio` element with copies of them, for readers without scripts.
Sources that may not be loaded are dropped, and an element without any usable source is removed.

* `Attempt` — an edit in the course of a conversion, which fails with the issues found until then.
* `Policy.gatherChild` — decides on one child; `Gathered` is what is known after some of them.
* `Policy.rebuild` — replaces or removes an element whose children have been taken out.
* `Policy.convert` — the conversion of one element; an element inside a fallback island is skipped.
* `Policy.convertAudio` — the conversion of all audio elements, from last to first, which never
  fails.
-/

/-! ### Names -/

/-- The name of the elements that are converted. -/
def audioTag : String := "audio"

/-- The name of the element that takes the place of a converted one. -/
def replacementTag : String := "amp-audio"

/-- The name of an element with one of the sources to choose from. -/
def sourceTag : String := "source"

/-- The name of an element with subtitles or the like. -/
def trackTag : String := "track"

/-- Marks the first child that is shown while the replacement is not supported. -/
def fallbackAttribute : String := "fallback"

/-- The attributes that refer to media; the fallback has exactly those of the replacement. -/
def mediaAttributes : List String := ["src", "poster", "artwork"]

/-! ### Children -/

/-- A part of a conversion. Where an edit fails, the issues that have been found are what is left of
    it for the report. -/
abbrev Attempt (α : Type) := EStateM (List Issue) Document α

/-- What is known after some of the children. -/
structure Gathered where
  /-- The attributes of the replacement. -/
  attributes : Attributes
  /-- The number of usable sources, the attribute of the element itself included. -/
  sources : Nat
  /-- Has a child been marked as fallback? -/
  marked : Bool := false
  /-- The children that stay, in order. -/
  kept : List NodeId := []
  issues : List Issue := []
  deriving Repr

/-- The URL of a `source` element, if it has one. -/
def sourceUrl? (k : NodeKind) : Option String :=
  if k.isNamed sourceTag then k.attributes?.bind (·.get? "src") else none

/-- An element that is neither a source nor a track. -/
def isFallbackContent (k : NodeKind) : Bool :=
  k.tagName?.isSome && !k.isNamed sourceTag && !k.isNamed trackTag

/-- Keeps a child; the first that can be shown as fallback is marked. -/
def keepChild (g : Gathered) (child : NodeId) : Attempt Gathered := do
  let marks := !g.marked && ((← get).kind? child).any isFallbackContent
  if marks then (Edit.setAttribute child fallbackAttribute "").orThrow g.issues
  return { g with marked := g.marked || marks, kept := g.kept ++ [child] }

/-- Decides on one child: a source with a rejected URL is discarded, all others are kept. -/
def Policy.gatherChild (policy : Policy) (g : Gathered) (child : NodeId) : Attempt Gathered := do
  match ((← get).kind? child).bind sourceUrl? with
  | none => keepChild g child
  | some src =>
    match policy.checkUrl .alternateSource src with
    | .ok url =>
      (Edit.setAttribute child "src" url).orThrow g.issues
      keepChild
        { g with
          attributes := policy.filter audioRules g.attributes
          sources := g.sources + 1 } child
    | .error rejection =>
      let issues := g.issues ++ [⟨sourceTag, .insecureSource src rejection⟩]
      (Edit.discard child).orThrow issues
      return { g with issues }

/-! ### One element -/

/-- Puts a child under the replacement and a copy of it under the fallback. -/
def adoptChild (fallback replacement child : NodeId) : Edit Unit := do
  let copy ← Edit.cloneNode child true
  Edit.appendChild fallback copy
  Edit.appendChild replacement child

/-- Gives an attribute of `n` the value that it has on `model`, or removes it. -/
def matchAttribute (model n : NodeId) (name : String) : Edit Unit := do
  match (← get).attribute? model name with
  | some value => Edit.setAttribute n name value
  | none =>
    let _ ← Edit.removeAttribute n name

/-- The last steps for an element without a usable source. -/
def removeElement (n fallback : NodeId) (g : Gathered) : Edit (Outcome × List Issue) := do
  g.kept.forM Edit.discard
  Edit.discard fallback
  Edit.discard n
  return (.removed, g.issues ++ [⟨audioTag, .noValidSource⟩])

/-- The last steps for an element with a usable source. -/
def replaceElement (n fallback : NodeId) (g : Gathered) (attributes : Attributes) :
    Edit (Outcome × List Issue) := do
  let replacement ← Edit.createElement replacementTag attributes
  g.kept.forM (adoptChild fallback replacement)
  mediaAttributes.forM (matchAttribute replacement fallback)
  let _ ← Edit.wrapWithFallback n replacement fallback
  Edit.discard n
  return (.replaced replacement, g.issues)

/-- Replaces or removes `n`, whose children have been taken out. `fallback` is a copy of `n` without
    children and `attributes` are what the rules leave of its attributes. -/
def Policy.rebuild (policy : Policy) (n fallback : NodeId) (attributes : Attributes)
    (children : List NodeId) : Attempt (Outcome × List Issue) := do
  let start : Gathered := { attributes, sources := if attributes.contains "src" then 1 else 0 }
  let g ← children.foldlM policy.gatherChild start
  if g.sources = 0 then (removeElement n fallback g).orThrow g.issues
  else (replaceElement n fallback g (g.attributes.set "width" "auto")).orThrow g.issues

/-- Converts one audio element. If that fails its remaining children are put back. -/
def Policy.convert (policy : Policy) (n : NodeId) : Attempt (Outcome × List Issue) := do
  let d ← get
  if !d.isConnected n || d.isInFallbackIsland n then return (.skipped, [])
  let attributes := policy.filter audioRules ((d.attributes? n).getD .empty)
  let fallback ← (Edit.cloneNode n false).orThrow []
  let children ← (Edit.detachChildren n).orThrow []
  tryCatch (policy.rebuild n fallback attributes children) fun issues => do
    (Edit.restoreChildren n children).orThrow issues
    throw issues

/-! ### All elements -/

/-- Converts one audio element and adds it to the report. An element on which the conversion fails
    counts as skipped; the issues found before are reported all the same. -/
def Policy.convertOne (policy : Policy) (state : Report × Document) (n : NodeId) :
    Report × Document :=
  match (policy.convert n).run state.2 with
  | .ok (outcome, issues) d => (state.1.add n outcome issues, d)
  | .error issues d => (state.1.add n .skipped issues, d)

/-- Converts all connected audio elements, from last to first, so that an element comes after the
    elements inside it. -/
def Policy.convertAudio (policy : Policy) (d : Document) : Report × Document :=
  (d.elementsNamed audioTag).reverse.foldl policy.convertOne ({}, d)

end AmpMarkup.Conversion
