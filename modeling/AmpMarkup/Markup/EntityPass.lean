namespace AmpMarkup.Markup

/-!
# Entities decoded in one pass

* `decodeInOnePass s` — `s` from left to right, where an entity is taken for its character and any
  other character for itself. What has been written is never looked at again.
-/

/-- Reads on behind each entity and each character that begins none. -/
def decodeInOnePass : List Char → List Char
  | [] => []
  | '&' :: 'l' :: 't' :: ';' :: rest => '<' :: decodeInOnePass rest
  | '&' :: 'g' :: 't' :: ';' :: rest => '>' :: decodeInOnePass rest
  | '&' :: 'q' :: 'u' :: 'o' :: 't' :: ';' :: rest => '"' :: decodeInOnePass rest
  | '&' :: '#' :: '3' :: '9' :: ';' :: rest => '\'' :: decodeInOnePass rest
  | '&' :: 'a' :: 'p' :: 'o' :: 's' :: ';' :: rest => '\'' :: decodeInOnePass rest
  | '&' :: 'a' :: 'm' :: 'p' :: ';' :: rest => '&' :: decodeInOnePass rest
  | c :: rest => c :: decodeInOnePass rest

end AmpMarkup.Markup
