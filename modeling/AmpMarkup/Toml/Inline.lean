import AmpMarkup.Toml.Number
import AmpMarkup.Toml.Quoted

namespace AmpMarkup.Toml

/-!
# Keys and values

* `Origin`, `Node`, `Entries` — tables under construction: how a table came about decides whether
  more can be said about it.
* `updateTable` — changes the table that a path leads to, creating the tables on the way.
* `keyReader` — a path of keys between dots; `valueReader` — a value.
-/

/-! ### Tables under construction -/

/-- How a table came about. -/
inductive Origin where
  /-- It was written out, by its own header or in braces. -/
  | explicit
  /-- It is on the way to the table of a header. -/
  | onTheWay
  /-- It is on the way to a dotted key. -/
  | dotted
  deriving DecidableEq, Repr

/-- What a key stands for while a document is read. -/
inductive Node where
  | value (v : Value)
  | table (origin : Origin) (entries : List (String × Node))
  /-- The tables of a header in double brackets. -/
  | tables (list : List (List (String × Node)))

/-- The entries of a table under construction. -/
abbrev Entries := List (String × Node)

/-- The entry of a key. -/
def Entries.get? (es : Entries) (key : String) : Option Node :=
  (es.find? fun e => e.1 == key).map Prod.snd

/-- The entry of a key replaced. -/
def Entries.replace (es : Entries) (key : String) (node : Node) : Entries :=
  es.map fun e => if e.1 == key then (key, node) else e

/-- Changes by `f` the table that the path leads to from the table `es`. Missing tables on the way
    are created at the end; the last table of a list of tables stands for the list. A dotted key
    leads only through tables that were not written out. -/
def updateTable (byDots : Bool) (f : Origin → Entries → Option Entries) (origin : Origin)
    (es : Entries) : List String → Option Entries
  | [] => f origin es
  | key :: path =>
    match es.get? key with
    | none => do
      let origin := if byDots then .dotted else .onTheWay
      let inner ← updateTable byDots f origin [] path
      return es ++ [(key, .table origin inner)]
    | some (.value _) => none
    | some (.table origin inner) =>
      if byDots && origin = .explicit then none
      else do
        let inner ← updateTable byDots f origin inner path
        return es.replace key (.table origin inner)
    | some (.tables list) => do
      let inner ← updateTable byDots f .explicit (list.getLastD []) path
      return es.replace key (.tables (list.dropLast ++ [inner]))

/-- Adds a value at the end of a path of keys. All but the last key name tables, and the last of
    these tables has to have come about by dotted keys, if there are any. -/
def addValue (es : Entries) (path : List String) (key : String) (node : Node) : Option Entries :=
  let add (origin : Origin) (es : Entries) : Option Entries :=
    if (origin = .dotted ↔ path = []) ∨ (es.get? key).isSome then none
    else some (es ++ [(key, node)])
  updateTable true add .explicit es path

mutual

/-- The value that a node stands for. -/
def Node.toValue : Node → Value
  | .value v => v
  | .table _ entries => .table (entriesToValues entries)
  | .tables list => .array (tablesToValues list)

/-- The values that the nodes of a table stand for. -/
def entriesToValues : List (String × Node) → List (String × Value)
  | [] => []
  | (key, node) :: rest => (key, node.toValue) :: entriesToValues rest

/-- The tables of a list as values. -/
def tablesToValues : List (List (String × Node)) → List Value
  | [] => []
  | entries :: rest => .table (entriesToValues entries) :: tablesToValues rest

end

/-! ### Keys -/

/-- The greatest number of keys in a path, and of values inside each other. -/
def maxDepth : Nat := 79

/-- A key: letters, digits, hyphens and underscores, or a quoted text of one line. -/
def simpleKey : Reader String :=
  (do return String.ofList (← takeWhile₁ isBareKeyChar)) <|> basicReader <|> literalReader

/-- Keys between dots. -/
def keyReader : Reader (List String) := do
  let keys ← sepBy (do blanks; let key ← simpleKey; blanks; return key) '.'
  if keys.isEmpty || maxDepth < keys.length then failure else return keys

/-- A path of keys with an equals sign, and what `value` reads after it. -/
def entryReader (value : Reader Value) : Reader (List String × String × Value) := do
  let keys ← keyReader
  expect '='
  blanks
  let v ← value
  return (keys.dropLast, keys.getLastD "", v)

/-! ### Values -/

/-- A date, a time or a number. -/
def numberReader : Reader Value :=
  (.dateTime <$> DateTime.reader) <|> (.float <$> floatReader) <|> (.integer <$> integerReader)

/-- A word that is a truth value. -/
def booleanReader : Reader Value :=
  (do expectText "true".toList; return .boolean true)
    <|> (do expectText "false".toList; return .boolean false)

/-- A value that holds no others. -/
def scalarReader : Reader Value :=
  (.string <$> stringReader) <|> booleanReader <|> numberReader

/-- Values between brackets, on any number of lines; a comma may stand after the last one. -/
def arrayReader (value : Reader Value) : Reader Value := do
  expect '['
  let items ← sepBy (do blankLines; let v ← value; blankLines; return v) ','
  if !items.isEmpty then
    let _ ← optionally (expect ',')
  blankLines
  expect ']'
  return .array items

/-- Entries between braces, on one line. -/
def braceReader (value : Reader Value) : Reader Value := do
  expect '\x7b'
  let entries ← sepBy (do let e ← entryReader value; blanks; return e) ','
  blanks
  expect '\x7d'
  let add (es : Entries) (e : List String × String × Value) : Option Entries :=
    addValue es e.1 e.2.1 (.value e.2.2)
  match entries.foldlM add [] with
  | some es => return .table (entriesToValues es)
  | none => failure

/-- A value that may hold others down to the given depth. -/
def valueReader : Nat → Reader Value
  | 0 => scalarReader
  | depth + 1 =>
    scalarReader <|> arrayReader (valueReader depth) <|> braceReader (valueReader depth)

end AmpMarkup.Toml
