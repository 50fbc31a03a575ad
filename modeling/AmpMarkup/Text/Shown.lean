import AmpMarkup.Unicode.Printable

namespace AmpMarkup.Text

open AmpMarkup.Unicode

/-!
# Text — values shown in messages

* `shown s` — a text in double quotes in which every character can be seen.
-/

/-- A character in lower-case hexadecimal, between braces. -/
def shownCode (c : Char) : String :=
  "\\u\x7b" ++ String.ofList (Nat.toDigits 16 c.toNat) ++ "\x7d"

/-- A character in such a text. -/
def shownChar (c : Char) : String :=
  if c = '\x00' then "\\0"
  else if c = '\t' then "\\t"
  else if c = '\n' then "\\n"
  else if c = '\r' then "\\r"
  else if c = '"' then "\\\""
  else if c = '\\' then "\\\\"
  else if isPrintable c && !isGraphemeExtend c then String.singleton c
  else shownCode c

/-- A text in double quotes; what cannot be seen by itself is given by its code. -/
def shown (s : String) : String := "\"" ++ String.join (s.toList.map shownChar) ++ "\""

end AmpMarkup.Text
