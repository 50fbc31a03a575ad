import AmpMarkup.Conversion.AudioElement

namespace AmpMarkup.Conversion

/-!
# The width of the page

Percentages in the widths of audio elements refer to the width of the page, but every replacement
gets the width `auto` in the end. What is left of the width of the page is the position of that
entry among the attributes.

* `Policy.replacementAttributes` — the attributes of a replacement.
* `Policy.IsReplacementOf` — the same, or with a mark that has come later.
* `MovedEntry` — lists that differ in the position of one entry.
* `SameReplacement` — slots that hold what stands for the same element under two policies.
-/

/-- The attributes of the replacement for an element with the attributes `b`. -/
def Policy.replacementAttributes (policy : Policy) (b : Attributes) : Attributes :=
  (policy.filter audioRules b).set "width" "auto"

/-- `a` are the attributes of the replacement for an element with the attributes `b`, which may have
    been marked as the fallback of a replacement around it. -/
def Policy.IsReplacementOf (policy : Policy) (b a : Attributes) : Prop :=
  a = policy.replacementAttributes b ∨
    a = (policy.replacementAttributes b).set fallbackAttribute ""

/-- The lists hold `e` and are the same apart from that. -/
structure MovedEntry {α : Type} [BEq α] (e : α) (l l' : List α) : Prop where
  mem : e ∈ l
  mem' : e ∈ l'
  erase_eq : l'.erase e = l.erase e

/-- The slots hold replacements for an element with the attributes `b`, or copies of them, which
    differ in the position of the width only. -/
def SameReplacement (policy policy' : Policy) (b : Attributes) (s s' : Slot) : Prop :=
  ∃ a a', s.kind = .ofElement replacementTag a ∧
    s' = { s with kind := .ofElement replacementTag a' } ∧
    policy.IsReplacementOf b a ∧ policy'.IsReplacementOf b a' ∧
    MovedEntry ("width", "auto") a.entries a'.entries

end AmpMarkup.Conversion
