namespace AmpMarkup.Markup

/-!
# Elements and characters that markup treats specially

* `isVoid` — elements that never have an end tag.
* `isRawText` — elements whose text is written as it stands.
* `isNameChar` — the characters of element and attribute names.
-/

/-- Elements without content, which have no end tag. -/
def isVoid (name : String) : Bool :=
  ["area", "base", "br", "col", "embed", "hr", "img", "input", "link", "meta", "param", "source",
    "track", "wbr"].contains name

/-- Elements whose text is not escaped. -/
def isRawText (name : String) : Bool := name == "script" || name == "style"

/-- ASCII letters and digits, hyphen, underscore and colon. -/
def isNameChar (c : Char) : Bool := c.isAlphanum || c == '-' || c == '_' || c == ':'

end AmpMarkup.Markup
