import AmpMarkup.Conversion.AudioElement

namespace AmpMarkup.Conversion

/-!
# Verdicts on audio elements

What becomes of an audio element, and what has to be reported about it, can be read off the
document before anything has been converted.

* `isConvertible` — an audio element that is not skipped.
* `Policy.usableUrl?`, `Policy.sourceIssue?` — the verdict on one child.
* `Policy.hasUsableSource` — is there anything to play?
* `Policy.verdict`, `Policy.issuesOf` — what becomes of an element, and the issues that come up.
-/

/-- Is `n` an audio element outside of fallback islands? -/
def isConvertible (d : Document) (n : NodeId) : Bool :=
  d.isElementNamed n audioTag && !d.isInFallbackIsland n

/-- The URL to use for a child, if it is a source with one that may be loaded. -/
def Policy.usableUrl? (policy : Policy) (k : NodeKind) : Option String :=
  (sourceUrl? k).bind fun src => (policy.checkUrl .alternateSource src).toOption

/-- What has to be reported about a child, if it is a source with a URL that may not be loaded. -/
def Policy.sourceIssue? (policy : Policy) (k : NodeKind) : Option Issue :=
  (sourceUrl? k).bind fun src =>
    match policy.checkUrl .alternateSource src with
    | .ok _ => none
    | .error rejection => some ⟨sourceTag, .insecureSource src rejection⟩

/-- Do the rules leave a URL to the element, or does it have a child with one? -/
def Policy.hasUsableSource (policy : Policy) (d : Document) (n : NodeId) : Bool :=
  (policy.filter audioRules ((d.attributes? n).getD .empty)).contains "src" ||
    (d.children n).any fun c => (d.kind? c).any fun k => (policy.usableUrl? k).isSome

/-- What becomes of an audio element. -/
inductive Verdict where
  /-- It stands in a fallback island and stays. -/
  | skip
  | replace
  /-- It has no source that can be used. -/
  | remove
  deriving DecidableEq, Repr

/-- An outcome, whatever the replacement is. -/
def Outcome.verdict : Outcome → Verdict
  | skipped => .skip
  | replaced _ => .replace
  | removed => .remove

/-- What becomes of the audio element `n`. -/
def Policy.verdict (policy : Policy) (d : Document) (n : NodeId) : Verdict :=
  if d.isInFallbackIsland n then .skip
  else if policy.hasUsableSource d n then .replace
  else .remove

/-- What has to be reported about the audio element `n`: its rejected sources, in order, and then
    the element itself if it is removed. -/
def Policy.issuesOf (policy : Policy) (d : Document) (n : NodeId) : List Issue :=
  if policy.verdict d n = .skip then []
  else
    (d.children n).filterMap (fun c => (d.kind? c).bind policy.sourceIssue?) ++
      if policy.verdict d n = .remove then [⟨audioTag, .noValidSource⟩] else []

end AmpMarkup.Conversion
