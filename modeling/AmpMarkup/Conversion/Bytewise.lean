import AmpMarkup.Conversion.Length
import AmpMarkup.Conversion.SourceUrl
import AmpMarkup.Text.Bytes

namespace AmpMarkup.Conversion

open AmpMarkup.Text AmpMarkup.Url

/-!
# Lengths and URLs cut at bytes

The unit of a length and the scheme of a URL are taken off where a number of bytes has been counted
from one end. Each function gives nothing if the text is cut inside a character. To ask first
whether a part is there gives an answer in any case.

* `dropSuffixBytewise?` — a text without a suffix; `Policy.normalizeLengthBytewise?` — lengths.
* `upgradeBytewise?` — a URL with the secure scheme; `Policy.checkUrlBytewise?` — the check of URLs.
-/

/-! ### Lengths -/

/-- `s` without the suffix `tail`, which has as many bytes; the inner option says whether the suffix
    is there. -/
def dropSuffixBytewise? (tail s : List Char) : Option (Option (List Char)) :=
  if byteLength s < byteLength tail then some none
  else
    let split := byteLength s - byteLength tail
    match sliceFrom? s split with
    | some unit => if sameFoldChars unit tail then (slice? s 0 split).map some else some none
    | none => some none

/-- The normal form of a trimmed length. -/
def Policy.normalizeTrimmedBytewise? (policy : Policy) (axis : Axis) (s : List Char) :
    Option (Option String) :=
  if sameFoldChars s "auto".toList then some (some "auto")
  else match readNumber? s with
  | some x => some (pixels? x)
  | none =>
    (dropSuffixBytewise? "px".toList s).map fun
    | some number => (readNumber? (trimEnd isBlank number)).bind wholePixels?
    | none =>
      match axis, policy.contentMaxWidth?, readSuffixed? ['%'] s with
      | .width, some contentWidth, some x? => x?.bind (percentPixels? · contentWidth)
      | _, _, _ => none

/-- The normal form of a length. -/
def Policy.normalizeLengthBytewise? (policy : Policy) (axis : Axis) (value : String) :
    Option (Option String) :=
  policy.normalizeTrimmedBytewise? axis (trim isBlank value.toList)

/-! ### URLs -/

/-- The secure variant of the URL `u`, which was read from `text`. The scheme in the text is
    replaced if the first five bytes are the insecure one and its colon. -/
def upgradeBytewise? (text : List Char) (u : Url) : Option (Option (List Char)) :=
  let written := (u.withScheme? secureScheme).map write
  match slice? text 0 5 with
  | some start =>
    if sameFoldChars start (insecureScheme ++ [':']) then
      (sliceFrom? text 5).map fun rest => some (secureScheme ++ [':'] ++ rest)
    else some written
  | none => some written

/-- The check of a URL with the insecure scheme. -/
def Policy.checkInsecureBytewise? (policy : Policy) (site : UrlSite) (text : List Char) (u : Url) :
    Option (Except UrlRejection (List Char)) :=
  if policy.requireHttps then some (.error .insecure)
  else match site with
  | .attribute => some (.ok text)
  | .alternateSource => (upgradeBytewise? text u).map fun
    | some url => .ok url
    | none => .error .malformed

/-- The check of a text without blanks around it. -/
def Policy.checkTrimmedBytewise? (policy : Policy) (site : UrlSite) (text : List Char) :
    Option (Except UrlRejection (List Char)) :=
  if text.isEmpty then some (.error .empty)
  else if ['/', '/'].isPrefixOf text then
    match readUrl (secureScheme ++ [':'] ++ text) with
    | .ok _ => some (.ok text)
    | .error _ => some (.error .malformed)
  else match readUrl text with
  | .ok u =>
    if u.scheme = secureScheme then some (.ok text)
    else if u.scheme = insecureScheme then policy.checkInsecureBytewise? site text u
    else if policy.requireHttps then some (.error .notHttps) else some (.ok text)
  | .error .noScheme => if policy.requireHttps then some (.error .notHttps) else some (.ok text)
  | .error _ => some (.error .malformed)

/-- The URL to use for `raw`, or why it is not used. -/
def Policy.checkUrlBytewise? (policy : Policy) (site : UrlSite) (raw : String) :
    Option (Except UrlRejection String) :=
  (policy.checkTrimmedBytewise? site (trim isAsciiBlank raw.toList)).map (·.map String.ofList)

end AmpMarkup.Conversion
