import AmpMarkup.Text.Shown
import AmpMarkup.Toml.Value

namespace AmpMarkup.Toml

open AmpMarkup.Text

/-!
# Decoding values

* `DecodeError` — why a value does not have the form that is asked for, with its wording in
  `DecodeError.message`.
* `Value.asBoolean`, `Value.asString`, `Value.asWord32`, `Value.asItems`, `Value.asEntries` — the
  content of a value of a certain form.
* `ReadError` — why a document cannot be used.
-/

/-- Why a value does not have the form that is asked for. -/
inductive DecodeError where
  | unknownField (name : String) (known : List String)
  | missingField (name : String)
  /-- The value is of another kind. -/
  | wrongType (found : Value) (expected : String)
  /-- The integer is out of range. -/
  | wrongInteger (n : Int) (expected : String)
  /-- There are only so many items. -/
  | tooShort (length : Nat) (expected : String)
  deriving Repr

/-- A value in a message. -/
def Value.shown : Value → String
  | .string s => "string " ++ Text.shown s
  | .integer n => "integer `" ++ toString n ++ "`"
  | .float x =>
    let digits := x.positional.getD (match x with
      | .infinite true => "-inf"
      | .infinite false => "inf"
      | _ => "NaN")
    "floating point `" ++ digits ++ "`"
  | .boolean b => "boolean `" ++ toString b ++ "`"
  | .array _ => "sequence"
  | .table _ | .dateTime _ => "map"

/-- Names to choose from. -/
def choices (names : List String) : String :=
  match names.map fun name => "`" ++ name ++ "`" with
  | [a] => a
  | [a, b] => a ++ " or " ++ b
  | all => "one of " ++ ", ".intercalate all

/-- The text of an error. -/
def DecodeError.message : DecodeError → String
  | unknownField name known => "unknown field `" ++ name ++ "`, expected " ++ choices known
  | missingField name => "missing field `" ++ name ++ "`"
  | wrongType found expected => "invalid type: " ++ found.shown ++ ", expected " ++ expected
  | wrongInteger n expected =>
    "invalid value: integer `" ++ toString n ++ "`, expected " ++ expected
  | tooShort length expected =>
    "invalid length " ++ toString length ++ ", expected " ++ expected

/-- Why a document cannot be used. -/
inductive ReadError where
  /-- The text is not a document. -/
  | malformed
  | decoding (e : DecodeError)
  deriving Repr

/-- The result of a decoder. -/
abbrev Decoded (α : Type) := Except DecodeError α

namespace Value

/-- A boolean. -/
def asBoolean : Value → Decoded Bool
  | .boolean b => .ok b
  | v => .error (.wrongType v "a boolean")

/-- A text. -/
def asString : Value → Decoded String
  | .string s => .ok s
  | v => .error (.wrongType v "a string")

/-- A natural number of 32 bits. -/
def asWord32 : Value → Decoded UInt32
  | .integer n =>
    if 0 ≤ n ∧ n ≤ 4294967295 then .ok (.ofNat n.toNat) else .error (.wrongInteger n "u32")
  | v => .error (.wrongType v "u32")

/-- The items of an array. -/
def asItems : Value → Decoded (List Value)
  | .array items => .ok items
  | v => .error (.wrongType v "a sequence")

/-- The key under which a date or time is given where entries are asked for. -/
def dateTimeKey : String := "$__toml_private_datetime"

/-- The entries of a table; a date or time counts as a table with a single entry. -/
def asEntries? : Value → Option Table
  | .table entries => some entries
  | .dateTime t => some [(dateTimeKey, .string t.write)]
  | _ => none

/-- The entries of a table, or of what counts as one. -/
def asEntries (v : Value) : Decoded Table :=
  match v.asEntries? with
  | some entries => .ok entries
  | none => .error (.wrongType v "a map")

end Value

end AmpMarkup.Toml
