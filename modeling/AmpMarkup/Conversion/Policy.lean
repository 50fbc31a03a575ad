namespace AmpMarkup.Conversion

/-!
# Policies

* `Policy` — what a conversion is allowed to keep and how wide the page is. By default sources must
  be served over a secure transport and the width is unknown.
-/

/-- The choices that an author makes for a conversion. -/
structure Policy where
  /-- Sources must be served over a secure transport. -/
  requireHttps : Bool := true
  /-- The width of the page's content, of which widths may be given as percentages. -/
  contentMaxWidth? : Option UInt32 := none
  deriving DecidableEq, Repr, Inhabited

end AmpMarkup.Conversion
