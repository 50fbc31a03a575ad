import AmpMarkup.Conversion.Length
import AmpMarkup.Conversion.SourceUrl
import AmpMarkup.Document.Attributes

namespace AmpMarkup.Conversion

open AmpMarkup.Text

/-!
# Rules for attributes

What becomes of an attribute depends on its name only. A table lists the names that are treated
specially; all others are kept as they are.

* `AttributeRule`, `ruleFor` — the rules, and the rule of a name.
* `audioRules` — the table for audio elements.
* `Policy.filterEntry?` — what becomes of one attribute; `Policy.filter` — of all of them, in order.
-/

/-- What becomes of an attribute. -/
inductive AttributeRule where
  /-- Checked as a URL, and dropped if it is rejected. -/
  | url
  /-- Brought into normal form as a length, and dropped if it has none. -/
  | length (axis : Axis)
  /-- Dropped if the value is `false`; any other value becomes empty. -/
  | boolean
  /-- Kept under another name. -/
  | rename (target : String)
  /-- Kept. -/
  | keep
  deriving DecidableEq, Repr

/-- Names with their rules. -/
abbrev AttributeTable := List (String × AttributeRule)

/-- The rules for audio elements. -/
def audioRules : AttributeTable :=
  [("src", .url), ("width", .length .width), ("height", .length .height), ("class", .keep),
    ("loop", .boolean), ("muted", .boolean), ("autoplay", .boolean),
    ("data-amp-layout", .rename "layout"), ("data-amp-noloading", .rename "noloading")]

/-- The rule of a name, in any case. -/
def ruleFor (table : AttributeTable) (name : String) : AttributeRule :=
  match table.find? fun entry => sameFold entry.1 name with
  | some entry => entry.2
  | none => .keep

/-- The attribute that takes the place of an attribute, if there is one. -/
def Policy.filterEntry? (policy : Policy) (table : AttributeTable) (entry : String × String) :
    Option (String × String) :=
  match ruleFor table entry.1 with
  | .url => (policy.checkUrl .attribute entry.2).toOption.map (entry.1, ·)
  | .length axis => (policy.normalizeLength? axis entry.2).map (entry.1, ·)
  | .boolean => if entry.2 = "false" then none else some (entry.1, "")
  | .rename target => some (target, entry.2)
  | .keep => some entry

/-- The attributes that the rules leave, in order. Where two of them get the same name the later
    value is set at the earlier position. -/
def Policy.filter (policy : Policy) (table : AttributeTable) (a : Attributes) : Attributes :=
  .ofList (a.entries.filterMap (policy.filterEntry? table))

end AmpMarkup.Conversion
