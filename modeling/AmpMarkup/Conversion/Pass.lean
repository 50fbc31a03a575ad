import AmpMarkup.Conversion.AudioElement

namespace AmpMarkup.Conversion

/-!
# Passes over a document

A pass runs its conversions one after the other, each once, on the same document. The content of
the document never makes it fail.

* `Pass` — the conversions, each with its policy; `Pass.default` has one of each kind.
* `Pass.names`, `Pass.targets` — what they are called, and which elements they turn into which.
* `Pass.run` — their reports and the document that they leave.
-/

/-- The conversions that are run, in order; every one of them converts audio elements. -/
structure Pass where
  policies : List Policy := []
  deriving DecidableEq, Repr

/-- Why a pass is not run. -/
inductive PassError where
  /-- There is nothing to run. -/
  | noConversions
  deriving DecidableEq, Repr

/-- The text of an error. -/
def PassError.message : PassError → String
  | noConversions => "no sanitizers registered"

/-- What a pass did. -/
structure PassResult where
  /-- One report for every conversion, in order. -/
  reports : List Report
  document : Document
  deriving Repr

/-- Was the document changed? -/
def PassResult.isModified (r : PassResult) : Bool := r.reports.any (·.isModified)

namespace Pass

/-- One conversion of every kind. -/
def default (policy : Policy) : Pass := ⟨[policy]⟩

/-- The pass with one more conversion at the end. -/
def register (p : Pass) (policy : Policy) : Pass := ⟨p.policies ++ [policy]⟩

/-- The number of conversions. -/
def size (p : Pass) : Nat := p.policies.length

/-- Is there nothing to run? -/
def isEmpty (p : Pass) : Bool := p.policies.isEmpty

/-- The name of every conversion. -/
def names (p : Pass) : List String := p.policies.map fun _ => audioTag

/-- The elements that are converted, each with the elements that it may become. -/
def targets (p : Pass) : List (String × List String) :=
  if p.isEmpty then [] else [(audioTag, [replacementTag])]

/-- Runs the conversions from first to last, adding their reports to `reports`. -/
def runFrom (reports : List Report) (d : Document) : List Policy → PassResult
  | [] => ⟨reports, d⟩
  | policy :: rest =>
    let (report, d) := policy.convertAudio d
    runFrom (reports ++ [report]) d rest

/-- Runs all conversions once. -/
def run (p : Pass) (d : Document) : Except PassError PassResult :=
  if p.isEmpty then .error .noConversions else .ok (runFrom [] d p.policies)

end Pass

end AmpMarkup.Conversion
