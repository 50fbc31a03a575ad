import AmpMarkup.Toml.Quoted
import AmpMarkup.Toml.Value

namespace AmpMarkup.Toml

/-!
# Writing documents

Keys stand in the order of their code points. A table is written with its plain entries first, one
a line; the tables in it follow, each under a header of its own. A table that holds nothing but
tables has no header. Inside an array everything stands on one line.

* `Value.sorted` — the entries of all tables put in order.
* `writeValue` — a value on one line.
* `Section`, `sections` — a header with the lines below it; the sections of a table.
* `writeDocument` — the text of a table, with an empty line before every header but the first.
-/

/-! ### Values on one line -/

/-- A float: its digits, or a word where it has none. -/
def writeFloat (x : Float) : String :=
  match x, x.positional with
  | _, some digits => digits
  | .infinite true, none => "-inf"
  | .infinite false, none => "inf"
  | _, none => "nan"

mutual

/-- A value on one line. -/
def writeValue : Value → String
  | .string s => writeString s
  | .integer n => toString n
  | .float x => writeFloat x
  | .boolean b => if b then "true" else "false"
  | .dateTime t => t.write
  | .array items => "[" ++ ", ".intercalate (writeItems items) ++ "]"
  | .table [] => "\x7b\x7d"
  | .table entries => "\x7b " ++ ", ".intercalate (writeEntries entries) ++ " \x7d"

/-- The items of an array, each on its own. -/
def writeItems : List Value → List String
  | [] => []
  | v :: rest => writeValue v :: writeItems rest

/-- The entries of a table, each on its own. -/
def writeEntries : List (String × Value) → List String
  | [] => []
  | (key, v) :: rest => (writeKey key ++ " = " ++ writeValue v) :: writeEntries rest

end

/-! ### Order -/

mutual

/-- The value with the entries of its tables in the order of their keys. -/
def Value.sorted : Value → Value
  | .array items => .array (sortedItems items)
  | .table entries => .table ((sortedEntries entries).mergeSort fun a b => a.1 ≤ b.1)
  | v => v

/-- The items, each with its tables in order. -/
def sortedItems : List Value → List Value
  | [] => []
  | v :: rest => v.sorted :: sortedItems rest

/-- The entries as they stand, each with the tables of its value in order. -/
def sortedEntries : List (String × Value) → List (String × Value)
  | [] => []
  | (key, v) :: rest => (key, v.sorted) :: sortedEntries rest

end

/-! ### Sections -/

/-- A header with the lines below it. -/
structure Section where
  header? : Option String
  lines : List String

/-- How a table is introduced. -/
inductive HeaderKind where
  /-- The document itself, which has no header. -/
  | document
  | single
  /-- One of the tables of a list. -/
  | listed
  deriving DecidableEq

/-- Is the value a table, or an array of nothing but tables? -/
def isTableLike : Value → Bool
  | .table _ => true
  | .array items =>
    !items.isEmpty && items.all fun v => match v with
      | .table _ => true
      | _ => false
  | _ => false

/-- The lines of the entries that are no tables. -/
def plainLines (entries : List (String × Value)) : List String :=
  (entries.filter fun e => !isTableLike e.2).map fun e => writeKey e.1 ++ " = " ++ writeValue e.2

/-- The header of a table. A table with entries, all of which are tables, does without one. -/
def headerOf? (kind : HeaderKind) (path : String) (entries : List (String × Value)) :
    Option String :=
  match kind with
  | .document => none
  | .listed => some ("[[" ++ path ++ "]]")
  | .single =>
    if !entries.isEmpty && (plainLines entries).isEmpty then none else some ("[" ++ path ++ "]")

/-- The path of a key in a table. -/
def subPath (path key : String) : String :=
  if path = "" then writeKey key else path ++ "." ++ writeKey key

mutual

/-- The section of a table and those of the tables in it. -/
def tableSections (kind : HeaderKind) (path : String) : Value → List Section
  | .table entries =>
    ⟨headerOf? kind path entries, plainLines entries⟩ :: entriesSections path entries
  | _ => []

/-- The sections of those entries that are tables. -/
def entriesSections (path : String) : List (String × Value) → List Section
  | [] => []
  | (key, v) :: rest => valueSections (subPath path key) v ++ entriesSections path rest

/-- The sections of a value that is a table or a list of tables. -/
def valueSections (path : String) : Value → List Section
  | .table entries =>
    ⟨headerOf? .single path entries, plainLines entries⟩ :: entriesSections path entries
  | .array items => if isTableLike (.array items) then itemsSections path items else []
  | _ => []

/-- The sections of the tables of a list. -/
def itemsSections (path : String) : List Value → List Section
  | [] => []
  | v :: rest => tableSections .listed path v ++ itemsSections path rest

end

/-- The text of a section. -/
def Section.write (s : Section) : String :=
  String.join ((s.header?.toList ++ s.lines).map (· ++ "\n"))

/-- The text of a table. -/
def writeDocument (entries : Table) : String :=
  let texts := (tableSections .document "" (Value.table entries).sorted).map Section.write
  "\n".intercalate (texts.filter (· ≠ ""))

end AmpMarkup.Toml
