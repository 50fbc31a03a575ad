import AmpMarkup.Conversion.AudioElement
import AmpMarkup.Document.Tree

namespace AmpMarkup.Conversion

/-!
# The conversion of trees

What the conversion of audio elements comes to on trees, from the bottom to the top and without
handles: every audio element outside a fallback island becomes one tree or none.

* `Policy.keepTree?` — what becomes of a child; `markFirst` — the first that can be shown as
  fallback is marked.
* `Policy.replaceTree` — what becomes of one audio element whose children have been converted.
* `Policy.convertTree` — what becomes of a tree.
-/

/-- Is it a source with a URL that may be loaded? -/
def Policy.isUsableSource (policy : Policy) (t : Tree) : Bool :=
  (sourceUrl? t.kind).any fun src => (policy.checkUrl .alternateSource src).isOk

/-- A child as it stays: a source gets the URL to use, and is dropped if there is none. -/
def Policy.keepTree? (policy : Policy) (t : Tree) : Option Tree :=
  match sourceUrl? t.kind with
  | none => some t
  | some src =>
    match policy.checkUrl .alternateSource src with
    | .ok url => some (t.mapAttributes (·.set "src" url))
    | .error _ => none

/-- The trees, of which the first that can be shown as fallback is marked. -/
def markFirst : List Tree → List Tree
  | [] => []
  | t :: rest =>
    if isFallbackContent t.kind then t.mapAttributes (·.set fallbackAttribute "") :: rest
    else t :: markFirst rest

/-- The attributes `a`, of which those that refer to media are as in `model`. -/
def matchMedia (model a : Attributes) : Attributes :=
  mediaAttributes.foldl
    (fun a name =>
      match model.get? name with
      | some value => a.set name value
      | none => a.erase name)
    a

/-- The trees that take the place of an audio element with converted children. -/
def Policy.replaceTree (policy : Policy) (audio : NodeKind) (children : List Tree) : List Tree :=
  let filtered := policy.filter audioRules (audio.attributes?.getD .empty)
  if filtered.contains "src" || children.any policy.isUsableSource then
    let attributes := filtered.set "width" "auto"
    let kept := markFirst (children.filterMap policy.keepTree?)
    let fallback := .node (audio.mapAttributes (matchMedia attributes)) kept
    let island := .node (.ofElement fallbackTag .empty) [fallback]
    [.node (.ofElement replacementTag attributes) (kept ++ [island])]
  else []

mutual

/-- The trees that take the place of a tree, which may stand in an island. -/
def Policy.convertTree (policy : Policy) (inIsland : Bool) : Tree → List Tree
  | .node kind children =>
    let converted := policy.convertTrees (kind.isNamed fallbackTag) children
    if kind.isNamed audioTag && !inIsland then policy.replaceTree kind converted
    else [.node kind converted]

/-- The trees that take the place of the children of one node. -/
def Policy.convertTrees (policy : Policy) (inIsland : Bool) : List Tree → List Tree
  | [] => []
  | t :: rest => policy.convertTree inIsland t ++ policy.convertTrees inIsland rest

end

end AmpMarkup.Conversion
