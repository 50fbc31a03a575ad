import AmpMarkup.Text.Replace

namespace AmpMarkup.Markup

open AmpMarkup.Text

/-!
# Entities

Characters that would end a text or an attribute value are written as entities.

* `escapeText` — `&`, `<` and `>` in texts.
* `escapeValue` — `&` and `"` in attribute values, which stand in double quotes.
* `entities` — what is decoded; the ampersand comes last, so that no decoded ampersand starts an
  entity.
* `decodeEntities` — each entity of that list in turn replaced by its character, throughout.
-/

/-- A character of a text. -/
def escapeTextChar (c : Char) : List Char :=
  if c = '&' then "&amp;".toList
  else if c = '<' then "&lt;".toList
  else if c = '>' then "&gt;".toList
  else [c]

/-- A text between tags. -/
def escapeText (s : String) : String := String.ofList (s.toList.flatMap escapeTextChar)

/-- A character of an attribute value. -/
def escapeValueChar (c : Char) : List Char :=
  if c = '&' then "&amp;".toList else if c = '"' then "&quot;".toList else [c]

/-- An attribute value between double quotes. -/
def escapeValue (s : String) : String := String.ofList (s.toList.flatMap escapeValueChar)

/-- The entities that are read, with their characters, in the order in which they are replaced. -/
def entities : List (List Char × Char) :=
  [("&lt;".toList, '<'), ("&gt;".toList, '>'), ("&quot;".toList, '"'), ("&#39;".toList, '\''),
    ("&apos;".toList, '\''), ("&amp;".toList, '&')]

/-- Every entity replaced by its character. -/
def decodeEntities (s : List Char) : List Char :=
  entities.foldl (fun t e => replaceAll e.1 [e.2] t) s

end AmpMarkup.Markup
