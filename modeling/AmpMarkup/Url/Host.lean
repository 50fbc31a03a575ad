import AmpMarkup.Url.Address
import AmpMarkup.Url.Percent

namespace AmpMarkup.Url

open AmpMarkup.Text

/-!
# Hosts

* `UrlError` — why a text is not a URL.
* `Host` — a domain name, an address, or a name without structure.
* `readHost` — the host of a URL with a special scheme; `readNamedHost` — of any other.
* `Host.write` — the normal form.
-/

/-- Why a text is not a URL. -/
inductive UrlError where
  /-- There is no scheme, so the text could only be read relative to another URL. -/
  | noScheme
  | emptyHost
  | invalidPort
  | invalidIpv4
  | invalidIpv6
  /-- The host is not a domain name. -/
  | invalidDomain
  /-- The host holds a character that delimits parts of a URL. -/
  | forbiddenHostCharacter
  deriving DecidableEq, Repr

/-- The part of a URL that names a machine. -/
inductive Host where
  /-- A domain name in its ASCII form. -/
  | domain (name : List Char)
  | ipv4 (address : UInt32)
  | ipv6 (groups : List Nat)
  /-- A percent-encoded name, possibly empty. -/
  | named (name : List Char)
  deriving DecidableEq, Repr

namespace Host

/-- How a host is written. -/
def write : Host → List Char
  | domain name => name
  | ipv4 address => writeIpv4 address
  | ipv6 groups => '[' :: writeIpv6 groups ++ [']']
  | named name => name

end Host

/-- An address in brackets, of which `inside` follows the first. -/
def readBracketed (inside : List Char) : Except UrlError Host :=
  if inside.getLast? = some ']' then
    match readIpv6? inside.dropLast with
    | some groups => .ok (.ipv6 groups)
    | none => .error .invalidIpv6
  else .error .invalidIpv6

/-- The host that a domain name in its ASCII form stands for: an address if it looks like one. -/
def hostOfDomain (name : List Char) : Except UrlError Host :=
  if name.isEmpty then .error .emptyHost
  else if looksLikeIpv4 name then
    match readIpv4? name with
    | some address => .ok (.ipv4 address)
    | none => .error .invalidIpv4
  else .ok (.domain name)

/-- The host of a URL with a special scheme. -/
def readHost (s : List Char) : Except UrlError Host :=
  match s with
  | '[' :: inside => readBracketed inside
  | _ =>
    match (percentDecode? s).bind domainToAscii? with
    | some name => hostOfDomain name
    | none => .error .invalidDomain

/-- Characters that no host without structure has. -/
def forbiddenInHost (c : Char) : Bool :=
  ['\x00', '\t', '\n', '\r', ' ', '#', '/', ':', '<', '>', '?', '@', '[', '\\', ']', '^',
    '|'].contains c

/-- The host of a URL whose scheme is not special. -/
def readNamedHost (s : List Char) : Except UrlError Host :=
  match s with
  | '[' :: inside => readBracketed inside
  | _ =>
    if s.any forbiddenInHost then .error .forbiddenHostCharacter
    else .ok (.named (percentEncode controlSet s))

end AmpMarkup.Url
