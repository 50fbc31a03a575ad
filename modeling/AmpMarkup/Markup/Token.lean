import AmpMarkup.Document.Attributes
import AmpMarkup.Markup.Entity
import AmpMarkup.Markup.Vocabulary

namespace AmpMarkup.Markup

open AmpMarkup.Text

/-!
# Tokens of markup

Markup is cut into tokens from left to right. Every text has tokens: what is not a tag, a comment
or a declaration is text, and a tag or comment that is not closed ends with the input.

* `Token` — a text, a comment, a start tag, an end tag, or something that is skipped.
* `readAttributes` — the attributes of a start tag up to its end.
* `nextToken` — one token and what follows it; `nextToken_length_le`: what follows is shorter.
* `tokens` — all tokens of a text.
-/

/-- One piece of markup. -/
inductive Token where
  /-- Text, with its entities decoded. -/
  | text (content : String)
  | comment (content : String)
  /-- A start tag; its name is in lower case. -/
  | startTag (name : String) (attributes : Attributes) (selfClosing : Bool)
  /-- An end tag; its name is in lower case and may be empty. -/
  | endTag (name : String)
  /-- A declaration such as a document type, which stands for nothing. -/
  | declaration
  deriving DecidableEq, Repr

/-- The part of `s` before the first occurrence of `pat`, and the part after it; without an
    occurrence all of `s`, and nothing. -/
def splitAtFirst (pat : List Char) : List Char → List Char × List Char
  | [] => ([], [])
  | c :: rest =>
    if pat.isPrefixOf (c :: rest) then ([], (c :: rest).drop pat.length)
    else
      let (before, after) := splitAtFirst pat rest
      (c :: before, after)

/-! ### Attributes -/

/-- An attribute value: between quotes of either kind up to the same quote, else up to a blank or
    the end of the tag. Gives what follows the value. -/
def readValue : List Char → List Char × List Char
  | [] => ([], [])
  | q :: rest =>
    if q = '"' ∨ q = '\'' then (rest.takeWhile (· ≠ q), (rest.dropWhile (· ≠ q)).drop 1)
    else
      let inValue (c : Char) : Bool := !isAsciiBlank c && c ≠ '>'
      ((q :: rest).takeWhile inValue, (q :: rest).dropWhile inValue)

/-- The value after an attribute name; empty if there is no equals sign. -/
def readAssignment (s : List Char) : List Char × List Char :=
  match s.dropWhile isAsciiBlank with
  | '=' :: rest => readValue (rest.dropWhile isAsciiBlank)
  | rest => ([], rest)

/-- Skipping characters leaves no more than there were. -/
theorem length_dropWhile_le (p : Char → Bool) (s : List Char) :
    (s.dropWhile p).length ≤ s.length :=
  (List.dropWhile_sublist p).length_le

/-- Reading a value leaves no more than there was. -/
theorem readValue_length_le (s : List Char) : (readValue s).2.length ≤ s.length := by
  cases s with
  | nil => simp [readValue]
  | cons q rest =>
    by_cases h : q = '"' ∨ q = '\''
    · have := length_dropWhile_le (· ≠ q) rest
      simp only [readValue, if_pos h, List.length_drop, List.length_cons]
      omega
    · simp only [readValue, if_neg h]
      exact length_dropWhile_le _ _

/-- Reading an assignment leaves no more than there was. -/
theorem readAssignment_length_le (s : List Char) :
    (readAssignment s).2.length ≤ s.length := by
  have hs := length_dropWhile_le isAsciiBlank s
  unfold readAssignment
  split
  · rename_i rest heq
    have h₁ := readValue_length_le (rest.dropWhile isAsciiBlank)
    have h₂ := length_dropWhile_le isAsciiBlank rest
    rw [heq, List.length_cons] at hs
    omega
  · exact hs

/-- What the inside of a start tag says, and what follows the tag. -/
structure TagBody where
  attributes : Attributes
  /-- Does the tag end in a slash? -/
  selfClosing : Bool
  rest : List Char

/-- Reads attributes up to the end of a start tag, adding them to `found`; of two attributes with
    the same name the first counts. Characters that belong to no attribute are skipped. -/
def readAttributes (found : Attributes) (s : List Char) : TagBody :=
  match s with
  | [] => ⟨found, false, []⟩
  | '>' :: rest => ⟨found, false, rest⟩
  | '/' :: '>' :: rest => ⟨found, true, rest⟩
  | c :: rest =>
    if isNameChar c then
      readAttributes
        (found.setIfAbsent (String.ofList ((c :: rest).takeWhile isNameChar))
          (String.ofList (decodeEntities (readAssignment (rest.dropWhile isNameChar)).1)))
        (readAssignment (rest.dropWhile isNameChar)).2
    else readAttributes found rest
termination_by s.length
decreasing_by
  · have h₁ := readAssignment_length_le (rest.dropWhile isNameChar)
    have h₂ := length_dropWhile_le isNameChar rest
    simp only [List.length_cons]
    omega
  · simp

/-- Reading attributes leaves no more than there was. -/
theorem readAttributes_length_le (found : Attributes) (s : List Char) :
    (readAttributes found s).rest.length ≤ s.length := by
  fun_induction readAttributes found s with
  | case1 => simp
  | case2 => simp
  | case3 => simp only [List.length_cons]; omega
  | case4 found c rest _ _ _ ih =>
    have h₁ := readAssignment_length_le (rest.dropWhile isNameChar)
    have h₂ := length_dropWhile_le isNameChar rest
    simp only [List.length_cons]
    omega
  | case5 found c rest _ _ _ ih => simp only [List.length_cons]; omega

/-! ### Tokens -/

/-- The first token of the nonempty text `c :: rest`, and what follows it. -/
def nextToken (c : Char) (rest : List Char) : Token × List Char :=
  if c ≠ '<' then
    (.text (String.ofList (decodeEntities (c :: rest.takeWhile (· ≠ '<')))),
      rest.dropWhile (· ≠ '<'))
  else
    match rest with
    | '!' :: '-' :: '-' :: body =>
      let (content, after) := splitAtFirst "-->".toList body
      (.comment (String.ofList content), after)
    | '!' :: body => (.declaration, (body.dropWhile (· ≠ '>')).drop 1)
    | '/' :: body =>
      (.endTag (fold (String.ofList (body.takeWhile isNameChar))),
        ((body.dropWhile isNameChar).dropWhile (· ≠ '>')).drop 1)
    | body =>
      if (body.takeWhile isNameChar).isEmpty then (.text "<", body)
      else
        let tag := readAttributes .empty (body.dropWhile isNameChar)
        (.startTag (fold (String.ofList (body.takeWhile isNameChar))) tag.attributes
          tag.selfClosing, tag.rest)

/-- What is left after the first occurrence of a pattern is no more than there was. -/
theorem splitAtFirst_length_le (pat s : List Char) :
    (splitAtFirst pat s).2.length ≤ s.length := by
  induction s with
  | nil => simp [splitAtFirst]
  | cons c rest ih =>
    unfold splitAtFirst
    split
    · simp only [List.length_drop]; omega
    · simp only [List.length_cons]; omega

/-- Reading a token leaves less to read. -/
theorem nextToken_length_le (c : Char) (rest : List Char) :
    (nextToken c rest).2.length ≤ rest.length := by
  unfold nextToken
  split
  · exact length_dropWhile_le _ _
  · split
    · rename_i body
      have := splitAtFirst_length_le "-->".toList body
      simp only [List.length_cons]
      omega
    · rename_i body _
      have := length_dropWhile_le (· ≠ '>') body
      simp only [List.length_drop, List.length_cons]
      omega
    · rename_i body
      have h₁ := length_dropWhile_le isNameChar body
      have h₂ := length_dropWhile_le (· ≠ '>') (body.dropWhile isNameChar)
      simp only [List.length_drop, List.length_cons]
      omega
    · split
      · simp
      · have h₁ := length_dropWhile_le isNameChar rest
        have h₂ := readAttributes_length_le .empty (rest.dropWhile isNameChar)
        simp only
        omega

/-- The tokens of a text, from left to right. -/
def tokens (s : List Char) : List Token :=
  match s with
  | [] => []
  | c :: rest => (nextToken c rest).1 :: tokens (nextToken c rest).2
termination_by s.length
decreasing_by
  have := nextToken_length_le c rest
  simp only [List.length_cons]
  omega

end AmpMarkup.Markup
