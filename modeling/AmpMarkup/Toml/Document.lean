import AmpMarkup.Toml.Inline

namespace AmpMarkup.Toml

/-!
# Documents

A document is a table. Its lines give entries of the table of the last header, which in single
brackets names a table and in double brackets adds one to a list of tables.

* `Line`, `lineReader` — an entry, a header, or a line that says nothing.
* `Reading` — the tables so far; `Reading.add` — one more line.
* `readDocument? s` — the table of a text; none if the text is not a document.
-/

/-- A line of a document. -/
inductive Line where
  | nothing
  | entry (path : List String) (key : String) (v : Value)
  /-- A header, in double brackets if it belongs to a list. -/
  | header (isList : Bool) (path : List String)

/-- A line with a key and its value. -/
def entryLine : Reader Line := do
  let (path, key, v) ← entryReader (valueReader maxDepth)
  lineEnd
  return .entry path key v

/-- A line with nothing but blanks and a comment; it is not empty. -/
def blankLine : Reader Line := do
  let before := (← get).length
  lineEnd
  if (← get).length < before then return .nothing else failure

/-- A line with the name of a table in brackets. -/
def headerLine : Reader Line := do
  blanks
  expect '['
  if ← nextIs '[' then
    expect '['
    let path ← keyReader
    expectText [']', ']']
    lineEnd
    return .header true path
  else
    let path ← keyReader
    expect ']'
    lineEnd
    return .header false path

/-- Any line but an empty one. -/
def lineReader : Reader Line := blankLine <|> headerLine <|> entryLine

/-- The tables of a document so far. The table of the last header is kept apart until the next
    header. -/
structure Reading where
  /-- All other tables. -/
  root : Entries := []
  /-- The entries of the table of the last header. -/
  current : Entries := []
  /-- The path of that header; empty before the first one. -/
  path : List String := []
  isList : Bool := false

/-- Changes the table that holds the last key of a path. -/
def updateParent (root : Entries) (path : List String)
    (f : String → Entries → Option Entries) : Option Entries :=
  updateTable false (fun _ => f (path.getLastD "")) .explicit root path.dropLast

/-- Puts the table of the last header to the others. -/
def Reading.close (r : Reading) : Option Entries :=
  if r.path = [] then some r.current
  else updateParent r.root r.path fun key es =>
    if r.isList then
      match es.get? key with
      | some (.tables list) => some (es.replace key (.tables (list ++ [r.current])))
      | some _ => none
      | none => some (es ++ [(key, .tables [r.current])])
    else
      match es.get? key with
      | some _ => none
      | none => some (es ++ [(key, .table .explicit r.current)])

/-- Opens a further table of a list. -/
def openListed (root : Entries) (path : List String) : Option Reading := do
  let root ← updateParent root path fun key es =>
    match es.get? key with
    | some (.tables _) => some es
    | some _ => none
    | none => some (es ++ [(key, .tables [])])
  return { root, path, isList := true }

/-- The table at the end of a path, if it is there already. -/
def tableAt? (es : Entries) : List String → Option Node
  | [] => none
  | [key] => es.get? key
  | key :: path =>
    match es.get? key with
    | some (.table _ inner) => tableAt? inner path
    | some (.tables list) => tableAt? (list.getLastD []) path
    | _ => none

/-- Opens the table of a header. A table that was only on the way to others may be opened, once, and
    keeps what it has; it moves to the end. -/
def openTable (root : Entries) (path : List String) : Option Reading := do
  let current ←
    match tableAt? root path with
    | none => some []
    | some (.table .onTheWay inner) => some inner
    | some _ => none
  let root ← updateParent root path fun key es => some (es.filter fun e => e.1 != key)
  return { root, current, path, isList := false }

/-- The tables after one more line. -/
def Reading.add (r : Reading) : Line → Option Reading
  | .nothing => some r
  | .entry path key v => do
    return { r with current := ← addValue r.current path key (.value v) }
  | .header isList path => do
    let root ← r.close
    if isList then openListed root path else openTable root path

/-- The lines of a whole text. -/
def linesReader : Reader (List Line) := many lineReader

/-- The table that a text stands for. A byte order mark at the beginning does not count. -/
def readDocument? (s : String) : Option Table := do
  let cs := match s.toList with
    | '\uFEFF' :: rest => rest
    | cs => cs
  let lines ← linesReader.run? cs
  let r ← lines.foldlM Reading.add {}
  return entriesToValues (← r.close)

end AmpMarkup.Toml
