import AmpMarkup.Conversion.Policy
import AmpMarkup.Url.Basic

namespace AmpMarkup.Conversion

open AmpMarkup.Text AmpMarkup.Url

/-!
# Source URLs

Whether a resource may be loaded is decided by its URL alone. A page is served over a secure
transport, so a URL that leaves the scheme out is secure.

* `UrlSite` — where a URL was found. One of several alternative sources can be upgraded to a secure
  scheme.
* `UrlRejection` — why a URL is not used.
* `Policy.checkUrl` — the URL to use, without the blanks around it, or why there is none.
-/

/-- Where a URL was found. -/
inductive UrlSite where
  /-- The attribute of the element itself. -/
  | attribute
  /-- One of the sources to choose from. -/
  | alternateSource
  deriving DecidableEq, Repr

/-- Why a URL is not used. -/
inductive UrlRejection where
  | empty
  | insecure
  | notHttps
  | malformed
  deriving DecidableEq, Repr

/-- The reason in words. -/
def UrlRejection.message : UrlRejection → String
  | empty => "empty url"
  | insecure => "insecure http url"
  | notHttps => "url is not served over https"
  | malformed => "malformed url"

/-- The secure scheme. -/
def secureScheme : List Char := "https".toList

/-- The same scheme without security. -/
def insecureScheme : List Char := "http".toList

/-- The secure variant of the URL `u`, which was read from `text`: the scheme in the text is
    replaced where it stands at the beginning, else the URL is written anew, if it can have the
    secure scheme. -/
def upgrade? (text : List Char) (u : Url) : Option (List Char) :=
  if sameFoldChars (text.take 5) (insecureScheme ++ [':']) then
    some (secureScheme ++ [':'] ++ text.drop 5)
  else (u.withScheme? secureScheme).map write

/-- The check of a text without blanks around it. -/
def Policy.checkTrimmed (policy : Policy) (site : UrlSite) (text : List Char) :
    Except UrlRejection (List Char) :=
  if text.isEmpty then .error .empty
  else if ['/', '/'].isPrefixOf text then
    match readUrl (secureScheme ++ [':'] ++ text) with
    | .ok _ => .ok text
    | .error _ => .error .malformed
  else match readUrl text with
  | .ok u =>
    if u.scheme = secureScheme then .ok text
    else if u.scheme = insecureScheme then
      if policy.requireHttps then .error .insecure
      else match site with
      | .attribute => .ok text
      | .alternateSource =>
        match upgrade? text u with
        | some url => .ok url
        | none => .error .malformed
    else if policy.requireHttps then .error .notHttps else .ok text
  | .error .noScheme => if policy.requireHttps then .error .notHttps else .ok text
  | .error _ => .error .malformed

/-- The URL to use for `raw`, or why it is not used. -/
def Policy.checkUrl (policy : Policy) (site : UrlSite) (raw : String) :
    Except UrlRejection String :=
  (policy.checkTrimmed site (trim isAsciiBlank raw.toList)).map String.ofList

end AmpMarkup.Conversion
