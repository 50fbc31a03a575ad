import AmpMarkup.Url.Host

namespace AmpMarkup

open AmpMarkup.Text AmpMarkup.Url

/-!
# URLs

A text is read as an absolute URL. Control characters and spaces around it do not count, and tabs
and line ends count nowhere. The text is cut at its delimiters: a scheme before the first colon,
then an authority up to the path, a query after the first question mark and a fragment after the
first number sign.

* `SchemeKind` — special schemes always have a host, and take a backslash for a slash; a file may
  do without a host.
* `Authority`, `readAuthority` — user, host and port.
* `readPath` — the segments of a path, without those that are dots.
* `readUrl s` — the URL of a text; `Url.write` — the text of a URL in normal form.
* `Url.withScheme?` — the same URL under another special scheme.
-/

namespace Url

/-! ### Schemes -/

/-- What a scheme says about the rest of the URL. -/
inductive SchemeKind where
  | special
  | file
  | general
  deriving DecidableEq, Repr

/-- The port that a special scheme stands for. -/
def defaultPort? (scheme : List Char) : Option Nat :=
  if scheme = "http".toList ∨ scheme = "ws".toList then some 80
  else if scheme = "https".toList ∨ scheme = "wss".toList then some 443
  else if scheme = "ftp".toList then some 21
  else none

/-- The kind of a scheme in lower case. -/
def schemeKind (scheme : List Char) : SchemeKind :=
  if scheme = "file".toList then .file
  else if (defaultPort? scheme).isSome then .special
  else .general

/-- Letters, digits, plus, minus and dot. -/
def isSchemeChar (c : Char) : Bool := c.isAlphanum || c == '+' || c == '-' || c == '.'

/-- The scheme in lower case, and what follows the colon. -/
def splitScheme? (s : List Char) : Option (List Char × List Char) :=
  match s.head?.any Char.isAlpha, s.dropWhile isSchemeChar with
  | true, ':' :: rest => some ((s.takeWhile isSchemeChar).map Char.toLower, rest)
  | _, _ => none

/-! ### Authorities -/

/-- Who is asked for what a URL names. -/
structure Authority where
  user : List Char
  password : List Char
  host : Host
  /-- The port, unless it is the one that the scheme stands for. -/
  port? : Option Nat
  deriving DecidableEq, Repr

/-- The part before the last `@`, if there is one, and the part after it. -/
def splitUserInfo (s : List Char) : Option (List Char) × List Char :=
  let after := (s.reverse.takeWhile (· ≠ '@')).reverse
  if s.contains '@' then (some (s.take (s.length - after.length - 1)), after) else (none, s)

/-- The part before the first colon outside brackets, and the rest from that colon on. -/
def splitHost (inBrackets : Bool) : List Char → List Char × List Char
  | [] => ([], [])
  | c :: rest =>
    if c = ':' ∧ !inBrackets then ([], c :: rest)
    else
      let inBrackets := if c = '[' then true else if c = ']' then false else inBrackets
      let (host, after) := splitHost inBrackets rest
      (c :: host, after)

/-- A port after its colon; without digits there is none. -/
def readPort (scheme digits : List Char) : Except UrlError (Option Nat) :=
  if digits.all Char.isDigit && numberInBase 10 digits ≤ 65535 then
    let port := numberInBase 10 digits
    .ok (if digits.isEmpty || defaultPort? scheme = some port then none else some port)
  else .error .invalidPort

/-- Is the host missing where there must be one? Only a general scheme may have an empty host, and
    then neither a port nor a user; an `@` by itself is taken for a user if a path, a query or a
    fragment follows. -/
def hostIsMissing (kind : SchemeKind) (userInfo? : Option (List Char))
    (host after rest : List Char) : Bool :=
  host.isEmpty &&
    (kind != .general || !after.isEmpty
      || match userInfo? with
        | none => false
        | some [] => !rest.isEmpty
        | some info => info ≠ [':'])

/-- Reads `s` as an authority; `rest` is what follows it. A backslash ends the port, and belongs to
    what follows. -/
def readAuthority (scheme : List Char) (kind : SchemeKind) (s rest : List Char) :
    Except UrlError (Authority × List Char) := do
  let (userInfo?, hostAndPort) := splitUserInfo s
  let (host, after) := splitHost false hostAndPort
  if hostIsMissing kind userInfo? host after rest then throw .emptyHost
  let host ← if kind = .general then readNamedHost host else readHost host
  let port? ← readPort scheme ((after.drop 1).takeWhile (· ≠ '\\'))
  let info := userInfo?.getD []
  let authority : Authority := {
    user := percentEncode userSet (info.takeWhile (· ≠ ':'))
    password := percentEncode userSet ((info.dropWhile (· ≠ ':')).drop 1)
    host, port? }
  return (authority, after.dropWhile (· ≠ '\\') ++ rest)

/-! ### Paths -/

/-- The segment that stays where it is; a dot may be percent-encoded. -/
def isDot (segment : List Char) : Bool :=
  segment = ['.'] || segment.map Char.toLower = "%2e".toList

/-- The segment that goes one step up. -/
def isDoubleDot (segment : List Char) : Bool :=
  ["..", ".%2e", "%2e.", "%2e%2e"].contains (String.ofList (segment.map Char.toLower))

/-- A letter with a colon or a bar, as some file names begin. -/
def isDriveLetter (s : List Char) : Bool :=
  match s with
  | [a, b] => a.isAlpha && (b = ':' || b = '|')
  | _ => false

/-- The segments but for the last, which is given first. A drive letter is not left, whatever the
    scheme; a backslash may follow it where that is no slash. -/
def stepUp (done : List (List Char)) : List (List Char) :=
  match done with
  | [] => []
  | segment :: before =>
    if isDriveLetter (segment.takeWhile (· ≠ '\\')) then segment :: before else before

/-- Follows the segments, starting from those in `done`, which are given from the last. A dot or
    double dot at the end leaves an empty segment, as does a slash. -/
def followSegments (done : List (List Char)) : List (List Char) → List (List Char)
  | [] => done.reverse
  | segment :: rest =>
    let next :=
      if isDoubleDot segment then stepUp done
      else if isDot segment then done
      else percentEncode pathSet segment :: done
    if rest.isEmpty && (isDoubleDot segment || isDot segment) then ([] :: next).reverse
    else followSegments next rest

/-- The segments of a path without its leading slash. In a URL with a special scheme a backslash is
    a slash. -/
def readPath (kind : SchemeKind) (s : List Char) : List (List Char) :=
  let s := if kind = .general then s else s.map fun c => if c = '\\' then '/' else c
  followSegments [] (splitOnChar '/' s)

/-- The path of a URL. -/
inductive Path where
  | segments (list : List (List Char))
  /-- A text that is not made of segments. -/
  | plain (content : List Char)
  deriving DecidableEq, Repr

end Url

/-! ### URLs -/

/-- An absolute URL in normal form. -/
structure Url where
  scheme : List Char
  authority? : Option Url.Authority
  path : Url.Path
  query? : Option (List Char)
  fragment? : Option (List Char)
  deriving DecidableEq, Repr

namespace Url

/-- Path, query and fragment, in the text that follows the authority. -/
def readTail (scheme : List Char) (kind : SchemeKind) (authority? : Option Authority)
    (readPathText : List Char → Path) (s : List Char) : Url :=
  let beforeFragment := s.takeWhile (· ≠ '#')
  let after (c : Char) (s : List Char) : Option (List Char) :=
    match s.dropWhile (· ≠ c) with
    | [] => none
    | _ :: rest => some rest
  let set := if kind = .general then querySet else specialQuerySet
  { scheme, authority?
    path := readPathText (beforeFragment.takeWhile (· ≠ '?'))
    query? := (after '?' beforeFragment).map (percentEncode set)
    fragment? := (after '#' s).map (percentEncode fragmentSet) }

/-- A slash, or a backslash in a URL with a special scheme. -/
def isSlash (kind : SchemeKind) (c : Char) : Bool := c = '/' || (kind != .general && c = '\\')

/-- Where an authority ends. -/
def endsAuthority (kind : SchemeKind) (c : Char) : Bool := isSlash kind c || c = '?' || c = '#'

/-- The path after an authority; only with a general scheme it may be empty. -/
def readPathAfterAuthority (kind : SchemeKind) (s : List Char) : Path :=
  match s with
  | [] => .segments (if kind = .general then [] else readPath kind [])
  | c :: rest => .segments (readPath kind (if isSlash kind c then rest else c :: rest))

/-- The URL of a text that begins with an authority. -/
def readWithAuthority (scheme : List Char) (kind : SchemeKind) (s : List Char) :
    Except UrlError Url := do
  let text := s.takeWhile fun c => !endsAuthority kind c
  let rest := s.dropWhile fun c => !endsAuthority kind c
  let (authority, rest) ← readAuthority scheme kind text rest
  return readTail scheme kind (some authority) (readPathAfterAuthority kind) rest

/-- The URL of a file, after its colon. A host follows two slashes; it may be empty, and a drive
    letter in its place belongs to the path. -/
def readFile (scheme : List Char) (s : List Char) : Except UrlError Url :=
  let noHost (s : List Char) : Except UrlError Url :=
    .ok (readTail scheme .file (some ⟨[], [], .named [], none⟩) (readPathAfterAuthority .file) s)
  match s with
  | a :: b :: after =>
    if isSlash .file a && isSlash .file b then
      let text := after.takeWhile fun c => !endsAuthority .file c
      if text.isEmpty || isDriveLetter text then noHost after
      else do
        let host ← readHost text
        return readTail scheme .file (some ⟨[], [], host, none⟩) (readPathAfterAuthority .file)
          (after.dropWhile fun c => !endsAuthority .file c)
    else noHost s
  | _ => noHost s

/-- The URL of a text after the colon of a general scheme. -/
def readGeneral (scheme : List Char) (s : List Char) : Except UrlError Url :=
  match s with
  | '/' :: '/' :: after => readWithAuthority scheme .general after
  | '/' :: after => .ok (readTail scheme .general none (.segments ∘ readPath .general) after)
  | _ => .ok (readTail scheme .general none (.plain ∘ percentEncode controlSet) s)

/-- A control character of ASCII or a space. -/
def isControlOrSpace (c : Char) : Bool := c.toNat ≤ 32

/-- A tab or a line end. -/
def isTabOrLineEnd (c : Char) : Bool := c = '\t' || c = '\n' || c = '\r'

/-- The characters of a text that count. -/
def significant (s : List Char) : List Char :=
  (trim isControlOrSpace s).filter fun c => !isTabOrLineEnd c

end Url

/-- The absolute URL that a text stands for. -/
def readUrl (s : List Char) : Except UrlError Url :=
  match splitScheme? (significant s) with
  | none => .error .noScheme
  | some (scheme, rest) =>
    match schemeKind scheme with
    | .special => readWithAuthority scheme .special (rest.dropWhile (isSlash .special))
    | .file => readFile scheme rest
    | .general => readGeneral scheme rest

namespace Url

/-! ### Writing -/

/-- User and password with what separates them from the host. -/
def Authority.writeUserInfo (a : Authority) : List Char :=
  if a.user.isEmpty && a.password.isEmpty then []
  else a.user ++ (if a.password.isEmpty then [] else ':' :: a.password) ++ ['@']

/-- An authority with the slashes before it. -/
def Authority.write (a : Authority) : List Char :=
  ['/', '/'] ++ a.writeUserInfo ++ a.host.write
    ++ match a.port? with
      | none => []
      | some port => ':' :: decimal port

/-- A path, in which each segment has a slash before it. -/
def Path.write : Path → List Char
  | segments list => list.flatMap ('/' :: ·)
  | plain content => content

/-- The text of a URL. -/
def write (u : Url) : List Char :=
  let part (mark : Char) : Option (List Char) → List Char
    | none => []
    | some content => mark :: content
  u.scheme ++ [':'] ++ (u.authority?.map Authority.write).getD [] ++ u.path.write
    ++ part '?' u.query? ++ part '#' u.fragment?

/-- Is a host named? A file may do without one. -/
def hasHost (u : Url) : Bool := u.authority?.any (·.host ≠ .named [])

/-- The URL under another special scheme; the port that this scheme stands for is left out. -/
def withScheme (u : Url) (scheme : List Char) : Url :=
  let dropDefault (a : Authority) : Authority :=
    if a.port? = defaultPort? scheme then { a with port? := none } else a
  { u with scheme, authority? := u.authority?.map dropDefault }

/-- The URL under another special scheme, which only takes the place of a special one and asks for a
    host. -/
def withScheme? (u : Url) (scheme : List Char) : Option Url :=
  if schemeKind u.scheme ≠ .general ∧ u.hasHost then some (u.withScheme scheme) else none

end Url

end AmpMarkup
