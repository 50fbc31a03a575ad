import AmpMarkup.Conversion.SourceUrl
import AmpMarkup.Document.Basic

namespace AmpMarkup.Conversion

/-!
# Reports

* `Outcome` — what became of one visited element.
* `Issue` — something that had to be dropped, and why.
* `Report` — all outcomes and issues of one conversion, in the order in which they arose.
-/

/-- What became of a visited element. -/
inductive Outcome where
  | replaced (replacement : NodeId)
  /-- It had no source that could be used. -/
  | removed
  | skipped
  deriving DecidableEq, Repr

/-- Was the document changed? -/
def Outcome.isModified : Outcome → Bool
  | skipped => false
  | replaced _ | removed => true

/-- Why something was dropped. -/
inductive DropReason where
  /-- The element had no source that could be used. -/
  | noValidSource
  /-- The URL of an alternative source was rejected. -/
  | insecureSource (src : String) (rejection : UrlRejection)
  deriving DecidableEq, Repr

/-- An element that was dropped. -/
structure Issue where
  tag : String
  reason : DropReason
  deriving DecidableEq, Repr

/-- What a conversion did. -/
structure Report where
  /-- One entry for every visited element, from the last in the document to the first. -/
  outcomes : List (NodeId × Outcome) := []
  issues : List Issue := []
  deriving DecidableEq, Repr

namespace Report

/-- The report with one more visited element and the issues that came up with it. -/
def add (r : Report) (n : NodeId) (outcome : Outcome) (issues : List Issue) : Report :=
  { outcomes := r.outcomes ++ [(n, outcome)], issues := r.issues ++ issues }

/-- The number of elements with such an outcome. -/
def count (r : Report) (p : Outcome → Bool) : Nat := r.outcomes.countP fun e => p e.2

/-- Was the document changed? -/
def isModified (r : Report) : Bool := r.outcomes.any fun e => e.2.isModified

end Report

end AmpMarkup.Conversion
