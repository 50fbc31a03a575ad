import AmpMarkup.Conversion.Pass
import AmpMarkup.Conversion.PolicyFile
import AmpMarkup.Document.Html
import AmpMarkup.Document.Outline
import AmpMarkup.Markup.Reader
import AmpMarkup.Text.LineDiff
import AmpMarkup.Toml.Writer

namespace AmpMarkup.Conversion

open AmpMarkup.Toml AmpMarkup.Markup

/-!
# Worked examples

A document may list examples of conversions: markup, what becomes of it, and under which policy.

* `Example` — one of them; `examplesOfText` — those of a document.
* `Example.policy` — the policy, as it is written into the example.
* `Example.run` — the conversion carried out, and where its outcome parts from the expected one.
-/

/-- Markup with what is expected to become of it. -/
structure Example where
  name : String
  input : String
  expected : String
  /-- Is the conversion expected to change anything? -/
  modified? : Option Bool := none
  /-- The policy, not yet decoded. -/
  args : Table := []
  deriving Repr

/-! ### Reading -/

/-- The keys of an example; the first three are required. -/
def exampleFields : List String := ["name", "input", "expected", "modified", "args"]

/-- What an example is called in messages. -/
def exampleKind : String := "struct FixtureCase"

/-- The fields of an example that have been read. -/
structure ExampleFields where
  name? : Option String := none
  input? : Option String := none
  expected? : Option String := none
  modified? : Option Bool := none
  args : Table := []

/-- One more field. -/
def ExampleFields.set (f : ExampleFields) (entry : String × Value) : Decoded ExampleFields := do
  match entry with
  | ("name", v) => return { f with name? := some (← v.asString) }
  | ("input", v) => return { f with input? := some (← v.asString) }
  | ("expected", v) => return { f with expected? := some (← v.asString) }
  | ("modified", v) => return { f with modified? := some (← v.asBoolean) }
  | ("args", v) => return { f with args := ← v.asEntries }
  | (name, _) => throw (.unknownField name exampleFields)

/-- The example, if no field is missing; `missing` is the error for a field, given with its
    place. -/
def ExampleFields.complete (f : ExampleFields) (missing : Nat → String → DecodeError) :
    Decoded Example := do
  let required (place : Nat) (name : String) (field? : Option String) : Decoded String :=
    match field? with
    | some s => .ok s
    | none => .error (missing place name)
  return {
    name := ← required 0 "name" f.name?
    input := ← required 1 "input" f.input?
    expected := ← required 2 "expected" f.expected?
    modified? := f.modified?
    args := f.args }

/-- The example of a value: a table, or an array with the fields in order, of which further items do
    not count. -/
def Example.ofValue (v : Value) : Decoded Example := do
  match v, v.asEntries? with
  | .array items, _ =>
    let fields ← (exampleFields.zip items).foldlM ExampleFields.set {}
    fields.complete fun place _ => .tooShort place (exampleKind ++ " with 5 elements")
  | _, some entries =>
    let fields ← entries.foldlM ExampleFields.set {}
    fields.complete fun _ name => .missingField name
  | v, none => throw (.wrongType v exampleKind)

/-- The examples of a table, under the key `case`; other keys do not count. -/
def examplesOfTable (entries : Table) : Decoded (List Example) := do
  match entries.find? fun e => e.1 == "case" with
  | none => return []
  | some (_, v) => (← v.asItems).mapM Example.ofValue

/-- The examples of a document. -/
def examplesOfText (text : String) : Except ReadError (List Example) :=
  match readDocument? text with
  | none => .error .malformed
  | some entries => (examplesOfTable entries).mapError .decoding

/-! ### Running -/

/-- The policy of an example as text. -/
def Example.argsText (e : Example) : String := writeDocument e.args

/-- The policy of an example. -/
def Example.policy (e : Example) : Except ReadError Policy := Policy.ofText e.argsText

/-- What came out of an example. -/
structure ExampleResult where
  html : String
  isModified : Bool
  /-- How the outline of what came out differs from the expected one. -/
  diff : String
  deriving DecidableEq, Repr

/-- Converts the input once under the given policy. -/
def Example.run (e : Example) (policy : Policy) : ExampleResult :=
  let (report, document) := policy.convertAudio (readMarkup e.input)
  { html := document.toHtml Document.root
    isModified := report.isModified
    diff := Text.lineDiff ((readMarkup e.expected).outline Document.root)
      (document.outline Document.root) }

end AmpMarkup.Conversion
