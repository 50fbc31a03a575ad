import AmpMarkup.Document.Html
import AmpMarkup.Markup.Token
import AmpMarkup.Proofs.Document.Attributes
import AmpMarkup.Proofs.Markup.Entity
import Mathlib.Data.List.Infix

namespace AmpMarkup.Markup

open AmpMarkup.Text

/-!
# What a tag, a text and a comment are read as

Each piece that is written is read as one token, whatever follows it; only a text ends where the
next tag begins. In the other direction, what tokens hold can always be written again.

* `IsName.fold_eq`, `isLowerNameChar_toLower` — names and the characters they are read from.
* `readAttributes_htmlAttributes` — attributes are read in the order in which they are written.
* `tokens_htmlText`, `tokens_htmlComment`, `tokens_htmlStartTag`, `tokens_htmlEndTag` — one token
  for each piece.
* `Token.IsSpelled`, `isSpelled_of_mem_tokens` — no token holds a name, a comment or an empty text
  that could not have been written.
-/

variable {c : Char} {s rest : List Char} {name : String}

/-! ### Names -/

/-- Capitals are compared by their code points. -/
theorem isUpper_iff : c.isUpper = true ↔ c.val ≥ 'A'.val ∧ c.val ≤ 'Z'.val := decide_eq_true_iff

/-- Small letters are compared by their code points. -/
theorem isLower_iff : c.isLower = true ↔ c.val ≥ 'a'.val ∧ c.val ≤ 'z'.val := by
  show (decide (c.val ≥ 'a'.val) && decide (c.val ≤ 'z'.val)) = true ↔ _
  rw [Bool.and_eq_true, decide_eq_true_iff, decide_eq_true_iff]

theorem isAlphanum_eq (c : Char) : c.isAlphanum = (c.isUpper || c.isLower || c.isDigit) := rfl

/-- A lower-case character of a name is a character of a name. -/
theorem isNameChar_of_isLowerNameChar (h : isLowerNameChar c = true) : isNameChar c = true := by
  simp only [isLowerNameChar, isNameChar, isAlphanum_eq, Bool.or_eq_true] at *
  tauto

/-- Reading a name character folds it. -/
theorem isLowerNameChar_toLower (h : isNameChar c = true) : isLowerNameChar c.toLower = true := by
  by_cases hupper : c.val ≥ 'A'.val ∧ c.val ≤ 'Z'.val
  -- A capital letter becomes the letter 32 places further on.
  · have hlower : c.toLower.isLower = true := by
      rw [isLower_iff, val_toLower hupper]
      simp only [ge_iff_le, UInt32.le_iff_toNat_le, UInt32.toNat_add] at hupper ⊢
      have hA : 'A'.val.toNat = 65 := rfl
      have hZ : 'Z'.val.toNat = 90 := rfl
      have ha : 'a'.val.toNat = 97 := rfl
      have hz : 'z'.val.toNat = 122 := rfl
      have hstep : ('a'.val - 'A'.val).toNat = 32 := rfl
      omega
    simp [isLowerNameChar, hlower]
  · have hnot : c.isUpper = false := by
      rw [Bool.eq_false_iff]
      exact fun hup => hupper (isUpper_iff.mp hup)
    rw [toLower_of_not hupper]
    simpa [isLowerNameChar, isNameChar, isAlphanum_eq, hnot] using h

/-- A lower-case character of a name stays as it is in lower case. -/
theorem toLower_of_isLowerNameChar (h : isLowerNameChar c = true) : c.toLower = c := by
  refine toLower_of_not fun hupper => ?_
  simp only [isLowerNameChar, isLower_iff, Char.isDigit, ge_iff_le, UInt32.le_iff_toNat_le,
    Bool.or_eq_true, Bool.and_eq_true, decide_eq_true_eq, beq_iff_eq] at h hupper
  have hA : 'A'.val.toNat = 65 := rfl
  have hZ : 'Z'.val.toNat = 90 := rfl
  have ha : 'a'.val.toNat = 97 := rfl
  have h9 : '9'.val.toNat = 57 := rfl
  rcases h with (((h | h) | h) | h) | h
  · omega
  · omega
  · subst h; revert hupper; decide
  · subst h; revert hupper; decide
  · subst h; revert hupper; decide

/-- A name is stored as it is written. -/
theorem IsName.fold_eq (h : IsName name) : fold name = name := by
  apply String.ext
  rw [toList_fold]
  conv_rhs => rw [← List.map_id name.toList]
  exact List.map_congr_left fun c hc => toLower_of_isLowerNameChar (h.2 c hc)

/-- A name has only characters of names. -/
theorem IsName.isNameChar (h : IsName name) : ∀ c ∈ name.toList, isNameChar c = true :=
  fun c hc => isNameChar_of_isLowerNameChar (h.2 c hc)

/-- A name is not empty. -/
theorem IsName.toList_ne_nil (h : IsName name) : name.toList ≠ [] :=
  fun hnil => h.1 (String.ext hnil)

/-- A name that is read from name characters. -/
theorem isName_fold (hne : s ≠ []) (h : ∀ c ∈ s, isNameChar c = true) :
    IsName (fold (String.ofList s)) := by
  refine ⟨fun hnil => hne ?_, fun c hc => ?_⟩
  · have := congrArg String.toList hnil
    simpa using this
  · rw [toList_fold, String.toList_ofList] at hc
    obtain ⟨x, hx, rfl⟩ := List.mem_map.mp hc
    exact isLowerNameChar_toLower (h x hx)

/-- What is read as a name ends before the first other character. -/
theorem takeWhile_name (h : ∀ c ∈ s, isNameChar c = true)
    (hrest : ∀ c ∈ rest.head?, isNameChar c = false) :
    (s ++ rest).takeWhile isNameChar = s ∧ (s ++ rest).dropWhile isNameChar = rest := by
  rw [List.takeWhile_append_of_pos h, List.dropWhile_append_of_pos h]
  cases rest with
  | nil => simp
  | cons x xs =>
    have hx : isNameChar x = false := hrest x rfl
    simp [List.takeWhile, List.dropWhile, hx]

/-! ### Attributes -/

section Attributes

variable {found : Attributes} {es : List (String × String)}

/-- Attributes end at the end of the tag. -/
theorem readAttributes_end (found : Attributes) (rest : List Char) :
    readAttributes found ('>' :: rest) = ⟨found, false, rest⟩ := by
  rw [readAttributes]

/-- A blank ends a name. -/
theorem isNameChar_of_isAsciiBlank (h : isAsciiBlank c = true) : isNameChar c = false := by
  simp only [isAsciiBlank, Bool.or_eq_true, beq_iff_eq] at h
  rcases h with (((rfl | rfl) | rfl) | rfl) | rfl <;> decide

/-- Blanks before an attribute do not count. -/
theorem readAttributes_blank (hc : isAsciiBlank c = true) (found : Attributes) (rest : List Char) :
    readAttributes found (c :: rest) = readAttributes found rest := by
  rw [readAttributes]
  · rw [if_neg (by simp [isNameChar_of_isAsciiBlank hc])]
  · rintro rfl; exact absurd hc (by decide)
  · rintro r rfl; exact absurd hc (by decide)

/-- Blanks before the attributes are skipped. -/
theorem readAttributes_dropWhile_blank (found : Attributes) (s : List Char) :
    readAttributes found (s.dropWhile isAsciiBlank) = readAttributes found s := by
  induction s with
  | nil => rfl
  | cons c rest ih =>
    by_cases hc : isAsciiBlank c = true
    · rw [List.dropWhile_cons_of_pos hc, ih, readAttributes_blank hc]
    · rw [List.dropWhile_cons_of_neg hc]

/-- A name with the value that is assigned to it is one attribute. -/
theorem readAttributes_name (hne : s ≠ []) (h : ∀ c ∈ s, isNameChar c = true)
    (hrest : ∀ c ∈ rest.head?, isNameChar c = false) (found : Attributes) :
    readAttributes found (s ++ rest) =
      readAttributes (found.setIfAbsent (String.ofList s)
        (String.ofList (decodeEntities (readAssignment rest).1))) (readAssignment rest).2 := by
  cases s with
  | nil => exact absurd rfl hne
  | cons c tail =>
    have hc := h c List.mem_cons_self
    have htail := takeWhile_name (fun x hx => h x (List.mem_cons_of_mem c hx)) hrest
    rw [List.cons_append, readAttributes]
    · rw [if_pos hc, List.takeWhile_cons_of_pos hc, htail.1, htail.2]
    · rintro rfl; exact absurd hc (by decide)
    · rintro r rfl; exact absurd hc (by decide)

/-- A value in double quotes is read up to the closing quote. -/
theorem readAssignment_quoted (hs : '"' ∉ s) (rest : List Char) :
    readAssignment ('=' :: '"' :: (s ++ '"' :: rest)) = (s, rest) := by
  have hpos : ∀ c ∈ s, decide (c ≠ '"') = true := by
    intro c hc
    rw [decide_eq_true_iff]
    rintro rfl
    exact hs hc
  have hblank : isAsciiBlank '=' = false := by decide
  have hquote : isAsciiBlank '"' = false := by decide
  rw [readAssignment, List.dropWhile_cons_of_neg (by simp [hblank])]
  show readValue (('"' :: (s ++ '"' :: rest)).dropWhile isAsciiBlank) = (s, rest)
  rw [List.dropWhile_cons_of_neg (by simp [hquote]), readValue, if_pos (.inl rfl),
    List.takeWhile_append_of_pos hpos, List.dropWhile_append_of_pos hpos]
  simp

/-- Without an equals sign the value is empty. -/
theorem readAssignment_bare (h : (s.dropWhile isAsciiBlank).head? ≠ some '=') :
    readAssignment s = ([], s.dropWhile isAsciiBlank) := by
  rw [readAssignment]
  split
  · rename_i heq
    rw [heq] at h
    exact absurd rfl h
  · rfl

/-- The attributes of a start tag and its end. -/
def htmlAttributes (es : List (String × String)) (rest : List Char) : List Char :=
  es.flatMap (fun e => (Document.htmlAttribute e).toList) ++ '>' :: rest

/-- The attributes are written one after the other. -/
theorem htmlAttributes_cons (e : String × String) (es : List (String × String)) (rest : List Char) :
    htmlAttributes (e :: es) rest =
      (Document.htmlAttribute e).toList ++ htmlAttributes es rest := by
  rw [htmlAttributes, List.flatMap_cons, List.append_assoc, ← htmlAttributes]

/-- An attribute is written as its name, with an equals sign and a quoted value unless that is
    empty. -/
theorem toList_htmlAttribute (e : String × String) :
    (Document.htmlAttribute e).toList = ' ' :: (e.1.toList ++
      if e.2.isEmpty then [] else '=' :: '"' :: ((escapeValue e.2).toList ++ ['"'])) := by
  rw [Document.htmlAttribute]
  split <;> simp

/-- What follows an attribute begins with a blank or ends the tag. -/
theorem head?_htmlAttributes (es : List (String × String)) (rest : List Char) :
    ∀ c ∈ (htmlAttributes es rest).head?, isNameChar c = false := by
  cases es with
  | nil => simp [htmlAttributes]; decide
  | cons e es => rw [htmlAttributes_cons, toList_htmlAttribute]; simp; decide

/-- After a bare name no equals sign follows. -/
theorem head?_dropWhile_htmlAttributes (hnames : ∀ e ∈ es, IsName e.1) (rest : List Char) :
    ((htmlAttributes es rest).dropWhile isAsciiBlank).head? ≠ some '=' := by
  have hend : isAsciiBlank '>' = false := by decide
  have hspace : isAsciiBlank ' ' = true := by decide
  cases es with
  | nil => simp [htmlAttributes, hend]
  | cons e es =>
    obtain ⟨c, tail, hname⟩ :=
      List.exists_cons_of_ne_nil (hnames e List.mem_cons_self).toList_ne_nil
    have hc : isNameChar c = true :=
      (hnames e List.mem_cons_self).isNameChar c (hname ▸ List.mem_cons_self)
    have hblank : isAsciiBlank c = false := by
      rw [Bool.eq_false_iff]
      intro hb
      simp only [isAsciiBlank, Bool.or_eq_true, beq_iff_eq] at hb
      rcases hb with (((rfl | rfl) | rfl) | rfl) | rfl <;> exact absurd hc (by decide)
    rw [htmlAttributes_cons, toList_htmlAttribute, hname]
    simp only [List.cons_append, List.dropWhile, hspace, hblank, List.head?_cons, ne_eq,
      Option.some.injEq]
    rintro rfl
    exact absurd hc (by decide)

/-- A new name goes to the end. -/
theorem setIfAbsent_of_canonical {e : String × String}
    (h : Attributes.IsCanonical (found.entries ++ e :: es)) :
    (found.setIfAbsent e.1 e.2).entries = found.entries ++ [e] := by
  have hnot : found.contains e.1 = false := by
    rw [Attributes.contains, List.any_eq_false]
    intro x hx
    rw [sameFold_iff]
    exact h.fold_ne x hx
  rw [Attributes.setIfAbsent, if_neg (by simp [hnot]), Attributes.set_of_canonical h]

/-- Attributes are read in the order in which they are written. -/
theorem readAttributes_htmlAttributes {a : Attributes} (ha : a.entries = found.entries ++ es)
    (hnames : ∀ e ∈ es, IsName e.1) (rest : List Char) :
    readAttributes found (htmlAttributes es rest) = ⟨a, false, rest⟩ := by
  induction es generalizing found with
  | nil =>
    obtain rfl : a = found := Attributes.ext (ha.trans (List.append_nil _))
    exact readAttributes_end a rest
  | cons e es ih =>
    have hname := hnames e List.mem_cons_self
    have hrest := fun x hx => hnames x (List.mem_cons_of_mem e hx)
    have hset := setIfAbsent_of_canonical (ha ▸ a.canonical)
    rw [List.append_cons, ← hset] at ha
    -- The other attributes are read after the first, blanks between them or not.
    have ih := ih ha hrest
    rw [htmlAttributes_cons, toList_htmlAttribute, List.cons_append,
      readAttributes_blank (by decide), List.append_assoc]
    cases hvalue : e.2.isEmpty with
    | true =>
      have hbare := readAssignment_bare (head?_dropWhile_htmlAttributes hrest rest)
      rw [if_pos rfl, List.nil_append,
        readAttributes_name hname.toList_ne_nil hname.isNameChar (head?_htmlAttributes es rest),
        hbare]
      have hnil : String.ofList (decodeEntities []) = e.2 := by
        rw [decodeEntities_nil, String.isEmpty_iff.mp hvalue, String.ofList_nil]
      rw [String.ofList_toList, hnil, readAttributes_dropWhile_blank, ih]
    | false =>
      rw [if_neg Bool.false_ne_true, List.cons_append, List.cons_append, List.append_assoc,
        readAttributes_name hname.toList_ne_nil hname.isNameChar (by simp; decide),
        List.singleton_append, readAssignment_quoted (not_mem_escapeValue e.2),
        decodeEntities_escapeValue, String.ofList_toList, String.ofList_toList, ih]

end Attributes

/-! ### One token for each piece -/

/-- The tokens are the next one and those of what is left. -/
theorem tokens_cons (c : Char) (rest : List Char) :
    tokens (c :: rest) = (nextToken c rest).1 :: tokens (nextToken c rest).2 := by
  rw [tokens]

@[simp] theorem tokens_nil : tokens [] = [] := by rw [tokens]

/-- A character that opens no tag begins a text up to the next opening angle bracket. -/
theorem nextToken_text (hc : c ≠ '<') (rest : List Char) :
    nextToken c rest = (.text (String.ofList (decodeEntities (c :: rest.takeWhile (· ≠ '<')))),
      rest.dropWhile (· ≠ '<')) := by
  unfold nextToken
  exact if_pos hc

theorem nextToken_comment (body : List Char) :
    nextToken '<' ('!' :: '-' :: '-' :: body) =
      (.comment (String.ofList (splitAtFirst "-->".toList body).1),
        (splitAtFirst "-->".toList body).2) := rfl

theorem nextToken_endTag (body : List Char) :
    nextToken '<' ('/' :: body) = (.endTag (fold (String.ofList (body.takeWhile isNameChar))),
      ((body.dropWhile isNameChar).dropWhile (· ≠ '>')).drop 1) := rfl

/-- A tag that begins with a name. -/
theorem nextToken_startTag (hne : s ≠ []) (h : ∀ c ∈ s, isNameChar c = true)
    (hrest : ∀ c ∈ rest.head?, isNameChar c = false) :
    nextToken '<' (s ++ rest) =
      (.startTag (fold (String.ofList s)) (readAttributes .empty rest).attributes
        (readAttributes .empty rest).selfClosing, (readAttributes .empty rest).rest) := by
  obtain ⟨htake, hdrop⟩ := takeWhile_name h hrest
  have hstart : ∀ x, isNameChar x = false → ∀ body, s ++ rest ≠ x :: body := by
    intro x hx body heq
    cases s with
    | nil => exact hne rfl
    | cons c tail =>
      rw [List.cons_append, List.cons.injEq] at heq
      rw [← heq.1, h c List.mem_cons_self] at hx
      cases hx
  unfold nextToken
  rw [if_neg (by simp)]
  split
  · rename_i heq; exact absurd heq (hstart '!' (by decide) _)
  · rename_i heq; exact absurd heq (hstart '!' (by decide) _)
  · rename_i heq; exact absurd heq (hstart '/' (by decide) _)
  · rw [htake, hdrop, if_neg (by simpa using hne)]

/-- Nothing follows, or the next tag does. -/
def IsAtTag (rest : List Char) : Prop := ∀ c ∈ rest.head?, c = '<'

/-- A text ends where the next tag begins. -/
theorem tokens_text (hne : s ≠ []) (hs : '<' ∉ s) (hrest : IsAtTag rest) :
    tokens (s ++ rest) = .text (String.ofList (decodeEntities s)) :: tokens rest := by
  cases s with
  | nil => exact absurd rfl hne
  | cons c tail =>
    have hc : c ≠ '<' := fun heq => hs (heq ▸ List.mem_cons_self)
    have htail : ∀ x ∈ tail, decide (x ≠ '<') = true := by
      intro x hx
      rw [decide_eq_true_iff]
      rintro rfl
      exact hs (List.mem_cons_of_mem c hx)
    have hstop : rest.takeWhile (· ≠ '<') = [] ∧ rest.dropWhile (· ≠ '<') = rest := by
      cases rest with
      | nil => exact ⟨rfl, rfl⟩
      | cons x xs => simp [hrest x rfl]
    rw [List.cons_append, tokens_cons, nextToken_text hc, List.takeWhile_append_of_pos htail,
      List.dropWhile_append_of_pos htail, hstop.1, hstop.2, List.append_nil]

/-- The token of a text, if there is one. -/
def textTokens (content : String) : List Token :=
  if content.isEmpty then [] else [.text content]

/-- A written text is read back; in a raw text nothing is an entity or a tag. -/
theorem tokens_htmlText {raw : Bool} {content : String} (h : raw = true → IsPlainText content)
    (hrest : IsAtTag rest) :
    tokens ((Document.htmlText raw content).toList ++ rest) =
      textTokens content ++ tokens rest := by
  rw [textTokens]
  split
  · rename_i hempty
    rw [String.isEmpty_iff.mp hempty]
    cases raw <;> rfl
  · rename_i hne
    have hnil : content.toList ≠ [] := by simpa using hne
    -- What is written is not empty either, since it is decoded to the text.
    have hwritten : ∀ s : List Char, decodeEntities s = content.toList → '<' ∉ s →
        tokens (s ++ rest) = .text content :: tokens rest := by
      intro s hs hlt
      have hsne : s ≠ [] := fun heq => hnil (by rw [← hs, heq, decodeEntities_nil])
      rw [tokens_text hsne hlt hrest, hs, String.ofList_toList]
    cases raw with
    | true =>
      obtain ⟨hlt, hamp⟩ := h rfl
      exact hwritten _ (decodeEntities_of_plain hamp) hlt
    | false => exact hwritten _ (decodeEntities_escapeText content) (not_mem_escapeText content)

/-- A pattern that comes first leaves nothing before it. -/
theorem splitAtFirst_self {pat : List Char} (hpat : pat ≠ []) (rest : List Char) :
    splitAtFirst pat (pat ++ rest) = ([], rest) := by
  cases pat with
  | nil => exact absurd rfl hpat
  | cons c tail =>
    have hstart : (c :: tail).isPrefixOf (c :: (tail ++ rest)) = true :=
      List.isPrefixOf_iff_prefix.mpr (List.prefix_append (c :: tail) rest)
    rw [List.cons_append, splitAtFirst, if_pos hstart]
    simp

/-- The end of a comment is found behind a text in which it does not occur: it cannot begin with the
    last characters of that text, since its own third character differs from its first two. -/
theorem splitAtFirst_comment (h : ¬ "-->".toList <:+: s) (rest : List Char) :
    splitAtFirst "-->".toList (s ++ ("-->".toList ++ rest)) = (s, rest) := by
  induction s with
  | nil => exact splitAtFirst_self (by decide) rest
  | cons c tail ih =>
    have htail : ¬ "-->".toList <:+: tail := fun hin =>
      h (hin.trans (List.suffix_cons c tail).isInfix)
    have hstart : "-->".toList.isPrefixOf (c :: (tail ++ ("-->".toList ++ rest))) = false := by
      rw [Bool.eq_false_iff, Ne, List.isPrefixOf_iff_prefix, ← List.cons_append]
      intro hprefix
      rcases prefix_append_cases hprefix with hin | hover
      · exact h hin.isInfix
      -- At most two hyphens are left before the end that was written.
      · match tail, hover, hprefix with
        | [], _, hp => simp [List.cons_prefix_cons] at hp
        | [_], _, hp => simp [List.cons_prefix_cons] at hp
        | x :: y :: more, hover, _ =>
          have hall : c :: x :: y :: more = "-->".toList := hover.eq_of_length_le (by simp)
          exact h (hall ▸ List.infix_rfl)
    rw [List.cons_append, splitAtFirst, if_neg (by rw [hstart]; exact Bool.false_ne_true), ih htail]

/-- A written comment is read back. -/
theorem tokens_htmlComment {content : String} (h : IsCommentText content) (rest : List Char) :
    tokens ((Document.htmlComment content).toList ++ rest) = .comment content :: tokens rest := by
  have hhtml : (Document.htmlComment content).toList ++ rest =
      '<' :: '!' :: '-' :: '-' :: (content.toList ++ ("-->".toList ++ rest)) := by
    simp [Document.htmlComment]
  rw [hhtml, tokens_cons, nextToken_comment, splitAtFirst_comment h, String.ofList_toList]

/-- A written start tag is read back. -/
theorem tokens_htmlStartTag {a : Attributes} (hname : IsName name)
    (hnames : ∀ x ∈ a.names, IsName x) (rest : List Char) :
    tokens ((Document.htmlStartTag name a).toList ++ rest) =
      .startTag name a false :: tokens rest := by
  have hhtml : (Document.htmlStartTag name a).toList ++ rest =
      '<' :: (name.toList ++ htmlAttributes a.entries rest) := by
    simp [Document.htmlStartTag, htmlAttributes, List.flatMap_map]
  have hattributes : readAttributes .empty (htmlAttributes a.entries rest) = ⟨a, false, rest⟩ :=
    readAttributes_htmlAttributes rfl (fun e he => hnames e.1 (List.mem_map_of_mem he)) rest
  rw [hhtml, tokens_cons, nextToken_startTag hname.toList_ne_nil hname.isNameChar
    (head?_htmlAttributes a.entries rest), hattributes, String.ofList_toList, hname.fold_eq]

/-- A written end tag is read back. -/
theorem tokens_htmlEndTag (hname : IsName name) (rest : List Char) :
    tokens ((Document.htmlEndTag name).toList ++ rest) = .endTag name :: tokens rest := by
  have hhtml : (Document.htmlEndTag name).toList ++ rest =
      '<' :: '/' :: (name.toList ++ '>' :: rest) := by
    simp [Document.htmlEndTag]
  have hend : ∀ c ∈ ('>' :: rest).head?, isNameChar c = false := by simp; decide
  obtain ⟨htake, hdrop⟩ := takeWhile_name hname.isNameChar hend
  rw [hhtml, tokens_cons, nextToken_endTag, htake, hdrop, String.ofList_toList, hname.fold_eq]
  simp

/-! ### What tokens hold -/

/-- A token that could have been written: names that can stand in a tag, a comment that does not
    hold its own end, and no empty text. -/
def Token.IsSpelled : Token → Prop
  | text content => content ≠ ""
  | comment content => IsCommentText content
  | startTag name a _ => IsName name ∧ ∀ x ∈ a.names, IsName x
  | endTag _ | declaration => True

/-- What is before the first occurrence of a pattern is a beginning of the text. -/
theorem splitAtFirst_fst_prefix (pat s : List Char) : (splitAtFirst pat s).1 <+: s := by
  induction s with
  | nil => exact List.prefix_rfl
  | cons c rest ih =>
    rw [splitAtFirst]
    split
    · exact List.nil_prefix
    · exact List.cons_prefix_cons.mpr ⟨rfl, ih⟩

/-- Before the first occurrence there is none. -/
theorem not_infix_splitAtFirst {pat : List Char} (hpat : pat ≠ []) (s : List Char) :
    ¬ pat <:+: (splitAtFirst pat s).1 := by
  induction s with
  | nil => simpa [splitAtFirst] using hpat
  | cons c rest ih =>
    rw [splitAtFirst]
    split
    · simpa using hpat
    · rename_i hstart
      dsimp only
      rw [List.infix_cons_iff, not_or]
      refine ⟨fun hprefix => hstart ?_, ih⟩
      rw [List.isPrefixOf_iff_prefix]
      exact hprefix.trans (List.cons_prefix_cons.mpr ⟨rfl, splitAtFirst_fst_prefix pat rest⟩)

/-- An attribute that is set has a name like the others. -/
theorem names_setIfAbsent {a : Attributes} {value : String} (hname : IsName (fold name))
    (h : ∀ x ∈ a.names, IsName x) : ∀ x ∈ (a.setIfAbsent name value).names, IsName x := by
  rw [Attributes.setIfAbsent]
  split
  · exact h
  · intro x hx
    rcases Attributes.names_setEntry name value a.entries with hsame | ⟨hnew, -⟩
    · rw [Attributes.names, Attributes.entries_set, hsame] at hx
      exact h x hx
    · rw [Attributes.names, Attributes.entries_set, hnew, List.mem_append, List.mem_singleton] at hx
      rcases hx with hx | rfl
      · exact h x hx
      · exact hname

/-- What starts with a character of a name has a name in front. -/
theorem takeWhile_isNameChar_ne_nil (hc : isNameChar c = true) (rest : List Char) :
    (c :: rest).takeWhile isNameChar ≠ [] := by
  rw [List.takeWhile_cons_of_pos hc]
  exact List.cons_ne_nil _ _

/-- Attributes of a tag have names that can stand in it. -/
theorem isName_readAttributes {found : Attributes} (hnames : ∀ x ∈ found.names, IsName x)
    (s : List Char) : ∀ x ∈ (readAttributes found s).attributes.names, IsName x := by
  fun_induction readAttributes found s with
  | case1 => exact hnames
  | case2 => exact hnames
  | case3 => exact hnames
  | case4 found c rest _ _ hc ih =>
    refine ih (names_setIfAbsent ?_ hnames)
    exact isName_fold (takeWhile_isNameChar_ne_nil hc rest) fun x hx => List.mem_takeWhile_imp hx
  | case5 found c rest _ _ _ ih => exact ih hnames

/-- Every token that is read is one that can be written. -/
theorem isSpelled_nextToken (c : Char) (rest : List Char) : (nextToken c rest).1.IsSpelled := by
  by_cases hc : c = '<'
  · subst hc
    unfold nextToken
    rw [if_neg (by simp)]
    split
    · rename_i body
      have hin : ¬ "-->".toList <:+: (splitAtFirst "-->".toList body).1 :=
        not_infix_splitAtFirst (by decide) body
      rwa [← String.toList_ofList (l := (splitAtFirst "-->".toList body).1)] at hin
    · trivial
    · trivial
    · split
      · show "<" ≠ ""
        decide
      · rename_i hne
        refine ⟨isName_fold (by simpa using hne) fun x hx => List.mem_takeWhile_imp hx, ?_⟩
        exact isName_readAttributes (fun x hx => absurd hx List.not_mem_nil) _
  · rw [nextToken_text hc]
    intro hempty
    have hnil := congrArg String.toList hempty
    rw [String.toList_ofList] at hnil
    exact decodeEntities_ne_nil (List.cons_ne_nil _ _) hnil

/-- No token holds what could not have been written. -/
theorem isSpelled_of_mem_tokens {t : Token} (h : t ∈ tokens s) : t.IsSpelled := by
  fun_induction tokens s with
  | case1 => exact absurd h List.not_mem_nil
  | case2 c rest ih =>
    rcases List.mem_cons.mp h with rfl | h
    · exact isSpelled_nextToken c rest
    · exact ih h

end AmpMarkup.Markup
