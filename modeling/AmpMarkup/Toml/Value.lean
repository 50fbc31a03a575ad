import AmpMarkup.Binary64.Shortest
import AmpMarkup.Toml.DateTime

namespace AmpMarkup.Toml

/-!
# Values

* `Float` — a binary64 number of either sign, an infinity, or no number; `Float.positional` is its
  text without exponent.
* `Value` — scalars, arrays, and tables with their entries in order.
-/

/-- A binary64 number. -/
inductive Float where
  | finite (negative : Bool) (magnitude : Binary64)
  | infinite (negative : Bool)
  | notANumber
  deriving DecidableEq, Repr

/-- The shortest decimal that reads back, without exponent; a natural number gets a zero after the
    point. -/
def Float.positional : Float → Option String
  | finite negative x =>
    some ((if negative then "-" else "") ++ x.toDecimalString ++ if x.isNatural then ".0" else "")
  | infinite _ | notANumber => none

/-- Something that a document says about a key. -/
inductive Value where
  | string (s : String)
  | integer (n : Int)
  | float (x : Float)
  | boolean (b : Bool)
  | dateTime (t : DateTime)
  | array (items : List Value)
  | table (entries : List (String × Value))
  deriving Repr

/-- The entries of a table, in the order of the document. -/
abbrev Table := List (String × Value)

end AmpMarkup.Toml
