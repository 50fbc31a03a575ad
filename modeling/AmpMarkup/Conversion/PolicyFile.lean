import AmpMarkup.Conversion.Policy
import AmpMarkup.Toml.Decode
import AmpMarkup.Toml.Document

namespace AmpMarkup.Conversion

open AmpMarkup.Toml

/-!
# Policies from text

* `policyFields` — the keys that a policy may have; those that are missing keep their defaults.
* `Policy.ofTable` — the policy of a table; its keys are checked in order.
* `Policy.ofText` — the policy of a document, and `policyErrorPrefix` for messages about it.
-/

/-- The keys of a policy. -/
def policyFields : List String := ["require_https_src", "content_max_width"]

/-- The policy with one more key set. -/
def Policy.setField (policy : Policy) (entry : String × Value) : Decoded Policy := do
  match entry with
  | ("require_https_src", v) => return { policy with requireHttps := ← v.asBoolean }
  | ("content_max_width", v) => return { policy with contentMaxWidth? := some (← v.asWord32) }
  | (name, _) => throw (.unknownField name policyFields)

/-- The policy of a table. -/
def Policy.ofTable (entries : Table) : Decoded Policy := entries.foldlM Policy.setField {}

/-- The policy of a document. -/
def Policy.ofText (text : String) : Except ReadError Policy :=
  match readDocument? text with
  | none => .error .malformed
  | some entries => (Policy.ofTable entries).mapError .decoding

/-- What messages about such a document begin with. -/
def policyErrorPrefix : String := "invalid sanitizer configuration: "

end AmpMarkup.Conversion
