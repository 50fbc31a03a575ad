import AmpMarkup.Markup.Bytewise
import AmpMarkup.Proofs.Markup.Token
import AmpMarkup.Proofs.Text.Bytes

namespace AmpMarkup.Markup

open AmpMarkup.Text

/-!
# Reading byte by byte is reading character by character

Each function with a cursor over bytes is compared with the one over characters. From a boundary on,
where the text goes on with `rest`, it succeeds, gives what the other one gives for `rest`, and
stops at the boundary where the text goes on with what the other one leaves. Only inside a start
tag does the cursor go through a character: all bytes of a character that is passed over are passed
over.

* `exists_valueAt?`, `exists_assignmentAt?` — the value of an attribute.
* `IsJunk`, `tagAt?_junk` — what is passed over; `exists_tagAt?` — the inside of a start tag.
* `offsetOf?_cases` — searching for the end of a comment or a declaration.
* `exists_textAt?` and its like, `exists_tokenAt?` — one token; `tokenAt?_advances` — the cursor
  moves on with each of them.
* `readMarkupBytewise?_eq` — a whole text.
-/

variable {s rest body pat : List Char} {i k : Nat} {c : Char} {found : Attributes}

/-! ### Tests -/

/-- The characters of names are characters of ASCII. -/
theorem isAscii_of_isNameChar (h : isNameChar c = true) : isAscii c = true := by
  simp only [isNameChar, Char.isAlphanum, Bool.or_eq_true, beq_iff_eq] at h
  rcases h with (((h | h) | rfl) | rfl) | rfl
  · rw [isAlpha_iff_toNat] at h
    exact isAscii_iff.mpr (by omega)
  · rw [isDigit_iff_toNat] at h
    exact isAscii_iff.mpr (by omega)
  all_goals decide

/-- A character of a name can be told from a single byte. -/
theorem isAsciiTest_isNameChar : IsAsciiTest isNameChar :=
  IsAsciiTest.of_isAscii fun _ => isAscii_of_isNameChar

/-- A quote can be told from a single byte. -/
theorem isAsciiTest_isQuote : IsAsciiTest isQuote :=
  (IsAsciiTest.eq (by decide)).or (IsAsciiTest.eq (by decide))

/-- A character of an unquoted value can be told from a single byte. -/
theorem isAsciiTest_isValueChar : IsAsciiTest isValueChar :=
  IsAsciiTest.isAsciiBlank.not.and (IsAsciiTest.ne (by decide))

/-! ### Values -/

/-- A quoted value ends at the same quote. -/
theorem readValue_of_isQuote (hc : isQuote c = true) (rest : List Char) :
    readValue (c :: rest) = (rest.takeWhile (· ≠ c), (rest.dropWhile (· ≠ c)).drop 1) := by
  rw [readValue, if_pos (by simpa [isQuote] using hc)]

/-- An unquoted value goes on as long as its characters do. -/
theorem readValue_of_not_isQuote (hc : isQuote c = false) (rest : List Char) :
    readValue (c :: rest) =
      ((c :: rest).takeWhile isValueChar, (c :: rest).dropWhile isValueChar) := by
  rw [readValue, if_neg (by simpa [isQuote] using hc)]
  rfl

/-- A value without quotes. -/
theorem valueAt?_of_not_isQuote (h : IsRest s k rest) (htest : testAt? isQuote s k = some false) :
    valueAt? s k =
      some (rest.takeWhile isValueChar, k + byteLength (rest.takeWhile isValueChar)) := by
  simp only [valueAt?, htest, h.skipWhile? isAsciiTest_isValueChar, h.slice?_takeWhile,
    Option.bind_eq_bind, Option.bind_some, Bool.false_eq_true, if_false, Option.pure_def]

/-- A value is read from a boundary to a boundary. -/
theorem exists_valueAt? (h : IsRest s k rest) : ∃ next,
    valueAt? s k = some ((readValue rest).1, next) ∧ IsRest s next (readValue rest).2 := by
  cases rest with
  | nil => exact ⟨k, valueAt?_of_not_isQuote h (h.testAt?_nil _), h⟩
  | cons c rest =>
    have htest := h.testAt? isAsciiTest_isQuote
    cases hc : isQuote c with
    | false =>
      rw [hc] at htest
      rw [readValue_of_not_isQuote hc]
      exact ⟨_, valueAt?_of_not_isQuote h htest, h.dropWhile _⟩
    | true =>
      rw [hc] at htest
      have hascii : isAscii c = true := by
        rw [isQuote, Bool.or_eq_true, decide_eq_true_iff, decide_eq_true_iff] at hc
        rcases hc with rfl | rfl <;> decide
      have hbody := h.tail hascii
      rw [readValue_of_isQuote hc]
      refine ⟨_, ?_, (hbody.dropWhile (· ≠ c)).drop_one hascii⟩
      simp only [valueAt?, htest, h.byteAt?_of_isAscii hascii,
        hbody.skipWhile? (IsAsciiTest.ne hascii), hbody.slice?_takeWhile, Option.bind_eq_bind,
        Option.bind_some, if_true, Option.pure_def]

/-- Without an equals sign the cursor stays behind the blanks. -/
theorem assignmentAt?_bare (h : IsRest s k rest)
    (htest : testAt? (· = '=') s (k + byteLength (rest.takeWhile isAsciiBlank)) = some false) :
    assignmentAt? s k = some ([], k + byteLength (rest.takeWhile isAsciiBlank)) := by
  simp only [assignmentAt?, h.skipWhile? IsAsciiTest.isAsciiBlank, htest, Option.bind_eq_bind,
    Option.bind_some, Bool.false_eq_true, if_false, Option.pure_def]

/-- The value after a name is read from a boundary to a boundary. -/
theorem exists_assignmentAt? (h : IsRest s k rest) : ∃ next,
    assignmentAt? s k = some ((readAssignment rest).1, next) ∧
      IsRest s next (readAssignment rest).2 := by
  have hrest := h.dropWhile isAsciiBlank
  cases hdrop : rest.dropWhile isAsciiBlank with
  | nil =>
    rw [readAssignment_bare (by simp [hdrop])]
    rw [hdrop] at hrest
    exact ⟨_, assignmentAt?_bare h (hrest.testAt?_nil _), hdrop ▸ hrest⟩
  | cons c body =>
    have htest := (hdrop ▸ hrest).testAt? (IsAsciiTest.eq (by decide : isAscii '=' = true))
    by_cases hc : c = '='
    · subst hc
      rw [decide_eq_true rfl] at htest
      have hbody := (hdrop ▸ hrest).tail (by decide)
      obtain ⟨next, hnext, hat⟩ := exists_valueAt? (hbody.dropWhile isAsciiBlank)
      have hread : readAssignment rest = readValue (body.dropWhile isAsciiBlank) := by
        rw [readAssignment, hdrop]
        rfl
      rw [hread]
      refine ⟨next, ?_, hat⟩
      simp only [assignmentAt?, h.skipWhile? IsAsciiTest.isAsciiBlank, htest,
        hbody.skipWhile? IsAsciiTest.isAsciiBlank, Option.bind_eq_bind, Option.bind_some, if_true,
        hnext]
    · rw [decide_eq_false hc] at htest
      rw [readAssignment_bare (by simp [hdrop, hc])]
      exact ⟨_, assignmentAt?_bare h htest, hrest⟩

/-! ### Start tags -/

/-- A character that is passed over inside a start tag: it is no blank, ends nothing and begins no
    name. -/
structure IsJunk (c : Char) : Prop where
  not_blank : isAsciiBlank c = false
  ne_close : c ≠ '>'
  ne_slash : c ≠ '/'
  not_name : isNameChar c = false

/-- The bytes of such a character are passed over as well. -/
theorem IsJunk.byte (h : IsJunk c) {b : UInt8} (hb : b ∈ String.utf8EncodeChar c) :
    IsJunk (Char.ofUInt8 b) where
  not_blank := (IsAsciiTest.isAsciiBlank.apply_byte hb).trans h.not_blank
  ne_close := by
    have heq := (IsAsciiTest.eq (by decide : isAscii '>' = true)).apply_byte hb
    simpa [h.ne_close] using heq
  ne_slash := by
    have heq := (IsAsciiTest.eq (by decide : isAscii '/' = true)).apply_byte hb
    simpa [h.ne_slash] using heq
  not_name := (isAsciiTest_isNameChar.apply_byte hb).trans h.not_name

/-- There is a byte to be read as long as there are some left. -/
theorem lt_of_drop_eq_cons {b : UInt8} {bs : List UInt8} (hdrop : (bytes s).drop k = b :: bs) :
    k < byteLength s := by
  refine Nat.not_le.mp fun hle => ?_
  rw [List.drop_of_length_le hle] at hdrop
  cases hdrop

/-- Nothing is skipped where the test fails at once. -/
theorem skipWhile?_of_neg {p : Char → Bool} {b : UInt8} {bs : List UInt8}
    (hdrop : (bytes s).drop k = b :: bs) (hb : p (Char.ofUInt8 b) = false) :
    skipWhile? p s k = some k := by
  rw [skipWhile?_eq, hdrop, List.takeWhile_cons_of_neg (by simp [hb]), List.length_nil,
    Nat.add_zero]

/-- Such a byte is passed over in one round, wherever it stands. -/
theorem tagRound?_junk {b : UInt8} {bs : List UInt8} (hdrop : (bytes s).drop k = b :: bs)
    (hb : IsJunk (Char.ofUInt8 b)) (found : Attributes) :
    tagRound? s found k = some (.more found (k + 1)) := by
  have hlt := lt_of_drop_eq_cons hdrop
  obtain ⟨x, hx, hdrop'⟩ := exists_byteAt? hlt
  rw [hdrop, List.cons.injEq] at hdrop'
  rw [← hdrop'.1] at hx
  simp only [tagRound?, skipWhile?_of_neg hdrop hb.not_blank, tagItem?, if_neg (Nat.not_le.mpr hlt),
    hx, if_neg hb.ne_close, if_neg hb.ne_slash, skipWhile?_of_neg hdrop hb.not_name,
    Option.bind_eq_bind, Option.bind_some, if_true, Option.pure_def]

/-- Such bytes are passed over one by one. -/
theorem tagAt?_junk {bs tail : List UInt8} (hdrop : (bytes s).drop k = bs ++ tail)
    (hbs : ∀ b ∈ bs, IsJunk (Char.ofUInt8 b)) (found : Attributes) :
    tagAt? s found k = tagAt? s found (k + bs.length) := by
  induction bs generalizing k with
  | nil => rfl
  | cons b bs ih =>
    have hlt := lt_of_drop_eq_cons hdrop
    have hnext : (bytes s).drop (k + 1) = bs ++ tail := by
      rw [← List.drop_drop, hdrop]
      rfl
    rw [tagAt?, tagRound?_junk hdrop (hbs b List.mem_cons_self)]
    dsimp only
    rw [if_pos ⟨Nat.lt_succ_self k, hlt⟩, ih hnext fun x hx => hbs x (List.mem_cons_of_mem b hx),
      List.length_cons, Nat.add_assoc, Nat.add_comm 1]

/-- A blank is passed over together with what follows. -/
theorem tagAt?_blank {r : Attributes × Bool × Nat} (h : IsRest s k (c :: rest))
    (hc : isAsciiBlank c = true) (hr : tagAt? s found (k + 1) = some r) :
    tagAt? s found k = some r := by
  have hascii : isAscii c = true := isAscii_of_isAsciiBlank hc
  have hround : tagRound? s found k = tagRound? s found (k + 1) := by
    rw [tagRound?, tagRound?, h.skipWhile? IsAsciiTest.isAsciiBlank,
      (h.tail hascii).skipWhile? IsAsciiTest.isAsciiBlank, List.takeWhile_cons_of_pos hc,
      byteLength_cons, utf8Size_of_isAscii hascii, Nat.add_assoc]
  rw [tagAt?] at hr ⊢
  rw [hround]
  split at hr
  · exact hr
  · rw [Option.ite_none_right_eq_some] at hr
    rw [if_pos ⟨by omega, hr.1.2⟩]
    exact hr.2
  · cases hr

/-- A round that leaves less to read is followed by the next one. -/
theorem tagAt?_more {found' : Attributes} {next : Nat} {rest' : List Char}
    (hround : tagRound? s found k = some (.more found' next)) (h : IsRest s k rest)
    (h' : IsRest s next rest') (hlt : rest'.length < rest.length) :
    tagAt? s found k = tagAt? s found' next := by
  have hle := h'.add_byteLength
  rw [tagAt?, hround]
  exact if_pos ⟨h.lt_of_length_lt h' hlt, by omega⟩

/-- Without a blank in front the round is what is there. -/
theorem tagRound?_of_not_blank (h : IsRest s k (c :: rest)) (hc : isAsciiBlank c = false)
    (found : Attributes) : tagRound? s found k = tagItem? s found k := by
  rw [tagRound?, h.skipWhile? IsAsciiTest.isAsciiBlank,
    List.takeWhile_cons_of_neg (by simp [hc]), byteLength_nil, Nat.add_zero]
  rfl

/-- At the end of the text a tag stops. -/
theorem tagRound?_nil (h : IsRest s k []) (found : Attributes) :
    tagRound? s found k = some (.stop false k) := by
  have hskip := h.skipWhile? IsAsciiTest.isAsciiBlank
  rw [List.takeWhile_nil, byteLength_nil, Nat.add_zero] at hskip
  simp only [tagRound?, hskip, tagItem?, if_pos h.eq_byteLength.ge, Option.bind_eq_bind,
    Option.bind_some, Option.pure_def]

/-- A tag stops behind its closing angle bracket. -/
theorem tagRound?_close (h : IsRest s k ('>' :: rest)) (found : Attributes) :
    tagRound? s found k = some (.stop false (k + 1)) := by
  rw [tagRound?_of_not_blank h (by decide)]
  simp only [tagItem?, if_neg (Nat.not_le.mpr h.lt_byteLength), h.byteAt?_of_isAscii (by decide),
    Option.bind_eq_bind, Option.bind_some, if_true, Option.pure_def]

/-- What follows a slash decides whether it ends the tag. -/
theorem tagRound?_slash {close : Bool} (h : IsRest s k ('/' :: rest))
    (htest : testAt? (· = '>') s (k + 1) = some close) (found : Attributes) :
    tagRound? s found k =
      some (if close = true then .stop true (k + 2) else .more found (k + 1)) := by
  rw [tagRound?_of_not_blank h (by decide)]
  simp only [tagItem?, if_neg (Nat.not_le.mpr h.lt_byteLength), h.byteAt?_of_isAscii (by decide),
    Option.bind_eq_bind, Option.bind_some, if_neg (by decide : ¬ '/' = '>'), if_true, htest,
    Option.pure_def, apply_ite some]

/-- A name is read with the value that is assigned to it. -/
theorem exists_tagRound?_name (h : IsRest s k (c :: rest)) (hc : isNameChar c = true)
    (found : Attributes) : ∃ next, tagRound? s found k =
      some (.more (found.setIfAbsent (String.ofList ((c :: rest).takeWhile isNameChar))
        (String.ofList (decodeEntities (readAssignment (rest.dropWhile isNameChar)).1))) next) ∧
      IsRest s next (readAssignment (rest.dropWhile isNameChar)).2 := by
  have hblank : isAsciiBlank c = false := by
    rw [← Bool.not_eq_true]
    intro hblank
    rw [isNameChar_of_isAsciiBlank hblank] at hc
    cases hc
  have hclose : c ≠ '>' := by rintro rfl; exact absurd hc (by decide)
  have hslash : c ≠ '/' := by rintro rfl; exact absurd hc (by decide)
  have hrest := h.dropWhile isNameChar
  rw [List.dropWhile_cons_of_pos hc] at hrest
  obtain ⟨next, hnext, hat⟩ := exists_assignmentAt? hrest
  refine ⟨next, ?_, hat⟩
  -- The name has at least one byte.
  have hmoved : ¬ k + byteLength ((c :: rest).takeWhile isNameChar) = k := by
    have hpos := byteLength_pos c (rest.takeWhile isNameChar)
    rw [List.takeWhile_cons_of_pos hc]
    omega
  rw [tagRound?_of_not_blank h hblank]
  simp only [tagItem?, if_neg (Nat.not_le.mpr h.lt_byteLength),
    h.byteAt?_of_isAscii (isAscii_of_isNameChar hc), if_neg hclose, if_neg hslash,
    h.skipWhile? isAsciiTest_isNameChar, if_neg hmoved, h.slice?_takeWhile, hnext,
    Option.bind_eq_bind, Option.bind_some, Option.pure_def]

/-- The inside of a start tag is read from a boundary to a boundary. -/
theorem exists_tagAt? (h : IsRest s k rest) (found : Attributes) : ∃ next,
    tagAt? s found k = some ((readAttributes found rest).attributes,
      (readAttributes found rest).selfClosing, next) ∧
    IsRest s next (readAttributes found rest).rest := by
  fun_induction readAttributes found rest generalizing k with
  | case1 found =>
    refine ⟨k, ?_, h⟩
    rw [tagAt?, tagRound?_nil h]
  | case2 found rest =>
    refine ⟨k + 1, ?_, h.tail (by decide)⟩
    rw [tagAt?, tagRound?_close h]
  | case3 found rest =>
    have hrest := h.tail (by decide)
    refine ⟨k + 2, ?_, hrest.tail (by decide)⟩
    rw [tagAt?, tagRound?_slash h (hrest.testAt? (IsAsciiTest.eq (by decide)))]
    rfl
  | case4 found c rest hclose hslash hname ih =>
    obtain ⟨next, hround, hnext⟩ := exists_tagRound?_name h hname found
    obtain ⟨last, hlast, hat⟩ := ih hnext
    have hle := readAssignment_length_le (rest.dropWhile isNameChar)
    have hdrop := length_dropWhile_le isNameChar rest
    refine ⟨last, ?_, hat⟩
    rw [tagAt?_more hround h hnext (by rw [List.length_cons]; omega), hlast]
  | case5 found c rest hclose hslash hname ih =>
    have hc : isNameChar c = false := Bool.not_eq_true _ ▸ hname
    cases hblank : isAsciiBlank c with
    | true =>
      obtain ⟨last, hlast, hat⟩ := ih (h.tail (isAscii_of_isAsciiBlank hblank))
      exact ⟨last, tagAt?_blank h hblank hlast, hat⟩
    | false =>
      by_cases hc' : c = '/'
      · subst hc'
        have hrest := h.tail (by decide)
        have htest : testAt? (· = '>') s (k + 1) = some false := by
          cases rest with
          | nil => exact hrest.testAt?_nil _
          | cons x rest =>
            rw [hrest.testAt? (IsAsciiTest.eq (by decide)), decide_eq_false]
            rintro rfl
            exact hslash rest rfl rfl
        obtain ⟨last, hlast, hat⟩ := ih hrest
        refine ⟨last, ?_, hat⟩
        rw [tagAt?_more (tagRound?_slash h htest found) h hrest (Nat.lt_succ_self _), hlast]
      · have hjunk : IsJunk c := ⟨hblank, hclose, hc', hc⟩
        have hrest : IsRest s (k + byteLength [c]) rest := IsRest.add h
        obtain ⟨last, hlast, hat⟩ := ih hrest
        refine ⟨last, ?_, hat⟩
        -- The cursor goes through the bytes of the character one by one.
        have hdrop := h.bytes_drop
        rw [bytes_cons] at hdrop
        rw [tagAt?_junk hdrop (fun _ hb => hjunk.byte hb), String.length_utf8EncodeChar]
        rwa [byteLength_cons] at hlast

/-! ### Searching -/

/-- Where a pattern is found, and that the text is split there. -/
theorem offsetOf?_cases (hpat : pat ≠ []) (s : List Char) :
    (offsetOf? pat s = none ∧ splitAtFirst pat s = (s, [])) ∨
    ∃ before after, s = before ++ (pat ++ after) ∧ offsetOf? pat s = some (byteLength before) ∧
      splitAtFirst pat s = (before, after) := by
  induction s with
  | nil => exact .inl ⟨if_neg hpat, rfl⟩
  | cons c s ih =>
    by_cases hstart : pat.isPrefixOf (c :: s) = true
    · obtain ⟨after, hafter⟩ := List.isPrefixOf_iff_prefix.mp hstart
      refine .inr ⟨[], after, hafter.symm, if_pos hstart, ?_⟩
      rw [splitAtFirst, if_pos hstart, ← hafter, List.drop_left]
    · have hoffset : offsetOf? pat (c :: s) = (offsetOf? pat s).map (c.utf8Size + ·) :=
        if_neg hstart
      have hsplit : splitAtFirst pat (c :: s) =
          (c :: (splitAtFirst pat s).1, (splitAtFirst pat s).2) := by
        rw [splitAtFirst, if_neg hstart]
      rw [hoffset, hsplit]
      rcases ih with ⟨hnone, hall⟩ | ⟨before, after, rfl, hsome, hsplit'⟩
      · exact .inl ⟨by rw [hnone]; rfl, by rw [hall]⟩
      · refine .inr ⟨c :: before, after, rfl, ?_, by rw [hsplit']⟩
        rw [hsome, byteLength_cons]
        rfl

/-- To split at a character is to search for it. -/
theorem splitAtFirst_singleton (x : Char) (s : List Char) :
    splitAtFirst [x] s = (s.takeWhile (· ≠ x), (s.dropWhile (· ≠ x)).drop 1) := by
  induction s with
  | nil => rfl
  | cons c s ih =>
    rw [splitAtFirst, ih]
    by_cases hc : c = x
    · simp [hc]
    · simp [hc, Ne.symm hc]

/-! ### Tokens -/

/-- A text is read on bytes as on characters, and no access fails. -/
theorem exists_textAt? (h : IsRest s i (c :: rest)) (hc : c ≠ '<') : ∃ next,
    textAt? s i = some ((nextToken c rest).1, next) ∧ IsRest s next (nextToken c rest).2 := by
  have hpos : decide (c ≠ '<') = true := decide_eq_true hc
  have hskip := h.skipWhile? (IsAsciiTest.ne (by decide : isAscii '<' = true))
  have hslice := h.slice?_takeWhile (· ≠ '<')
  rw [nextToken_text hc, ← List.dropWhile_cons_of_pos (p := (· ≠ '<')) hpos,
    ← List.takeWhile_cons_of_pos (p := (· ≠ '<')) hpos]
  refine ⟨_, ?_, h.dropWhile (· ≠ '<')⟩
  simp only [textAt?, hskip, hslice, Option.bind_eq_bind, Option.bind_some, Option.pure_def]

/-- A comment is read on bytes as on characters, and no access fails. -/
theorem exists_commentAt? (h : IsRest s i ('<' :: '!' :: '-' :: '-' :: body)) : ∃ next,
    commentAt? s i = some ((nextToken '<' ('!' :: '-' :: '-' :: body)).1, next) ∧
      IsRest s next (nextToken '<' ('!' :: '-' :: '-' :: body)).2 := by
  have hbody : IsRest s (i + 4) body :=
    (((h.tail (by decide)).tail (by decide)).tail (by decide)).tail (by decide)
  rw [nextToken_comment]
  rcases offsetOf?_cases (by decide : "-->".toList ≠ []) body with
    ⟨hnone, hsplit⟩ | ⟨before, after, rfl, hsome, hsplit⟩
  · rw [hsplit]
    refine ⟨_, ?_, IsRest.stop s⟩
    simp only [commentAt?, hbody.sliceFrom?, hnone, Option.bind_eq_bind, Option.bind_some,
      Option.pure_def]
  · rw [hsplit]
    refine ⟨_, ?_, hbody.add.add⟩
    simp only [commentAt?, hbody.sliceFrom?, hsome, hbody.slice?, Option.bind_eq_bind,
      Option.bind_some, Option.pure_def]
    rfl

/-- A declaration that is no comment is skipped up to its closing angle bracket. -/
theorem nextToken_declaration (hcomment : ∀ rest, body ≠ '-' :: '-' :: rest) :
    nextToken '<' ('!' :: body) = (.declaration, (body.dropWhile (· ≠ '>')).drop 1) := by
  rw [nextToken, if_neg (by decide)]
  exact hcomment

/-- A declaration is skipped on bytes as on characters, and no access fails. -/
theorem exists_declarationAt? (h : IsRest s i ('<' :: '!' :: body))
    (hcomment : ∀ rest, body ≠ '-' :: '-' :: rest) : ∃ next,
    declarationAt? s i = some ((nextToken '<' ('!' :: body)).1, next) ∧
      IsRest s next (nextToken '<' ('!' :: body)).2 := by
  have hclose : (body.dropWhile (· ≠ '>')).drop 1 =
      (splitAtFirst ['>'] ('<' :: '!' :: body)).2 := by
    rw [splitAtFirst_singleton]
    rfl
  rw [nextToken_declaration hcomment, hclose]
  rcases offsetOf?_cases (List.cons_ne_nil '>' []) ('<' :: '!' :: body) with
    ⟨hnone, hsplit⟩ | ⟨before, after, heq, hsome, hsplit⟩
  · rw [hsplit]
    refine ⟨_, ?_, IsRest.stop s⟩
    simp only [declarationAt?, h.sliceFrom?, hnone, Option.bind_eq_bind, Option.bind_some,
      Option.pure_def]
  · rw [hsplit]
    refine ⟨_, ?_, (heq ▸ h).add.tail (by decide)⟩
    simp only [declarationAt?, h.sliceFrom?, hsome, Option.bind_eq_bind, Option.bind_some,
      Option.pure_def]

/-- An end tag is read on bytes as on characters, and no access fails. -/
theorem exists_endTagAt? (h : IsRest s i ('<' :: '/' :: body)) : ∃ next,
    endTagAt? s i = some ((nextToken '<' ('/' :: body)).1, next) ∧
      IsRest s next (nextToken '<' ('/' :: body)).2 := by
  have hbody : IsRest s (i + 2) body := (h.tail (by decide)).tail (by decide)
  have hname := hbody.dropWhile isNameChar
  have hend := hname.dropWhile (· ≠ '>')
  have hclose := hname.skipWhile? (IsAsciiTest.ne (by decide : isAscii '>' = true))
  have hmin : ∀ j ≤ byteLength s,
      min (j + 1) (byteLength s) = if j < byteLength s then j + 1 else j := by
    intro j hj
    split <;> omega
  have hle := hend.isBoundary.le_byteLength
  rw [nextToken_endTag]
  refine ⟨_, ?_, hend.drop_one (by decide)⟩
  simp only [endTagAt?, hbody.skipWhile? isAsciiTest_isNameChar, hbody.slice?_takeWhile, hclose,
    hmin _ hle, Option.bind_eq_bind, Option.bind_some, Option.pure_def]

/-- An opening angle bracket that begins nothing else begins a start tag, or is a text of its
    own. -/
theorem nextToken_open (hbang : body.head? ≠ some '!') (hslash : body.head? ≠ some '/') :
    nextToken '<' body =
      if (body.takeWhile isNameChar).isEmpty then (.text "<", body)
      else
        (.startTag (fold (String.ofList (body.takeWhile isNameChar)))
          (readAttributes .empty (body.dropWhile isNameChar)).attributes
          (readAttributes .empty (body.dropWhile isNameChar)).selfClosing,
          (readAttributes .empty (body.dropWhile isNameChar)).rest) := by
  rw [nextToken, if_neg (by decide)]
  · rintro rest rfl
    exact hbang rfl
  · rintro rest rfl
    exact hbang rfl
  · rintro rest rfl
    exact hslash rfl

/-- A start tag is read on bytes as on characters, and no access fails. -/
theorem exists_startTagAt? (h : IsRest s i ('<' :: body)) (hbang : body.head? ≠ some '!')
    (hslash : body.head? ≠ some '/') : ∃ next,
    startTagAt? s i = some ((nextToken '<' body).1, next) ∧
      IsRest s next (nextToken '<' body).2 := by
  have hbody := h.tail (by decide)
  have hskip := hbody.skipWhile? isAsciiTest_isNameChar
  have hslice := hbody.slice?_takeWhile isNameChar
  obtain ⟨next, hnext, hat⟩ := exists_tagAt? (hbody.dropWhile isNameChar) .empty
  rw [nextToken_open hbang hslash]
  cases htake : body.takeWhile isNameChar with
  | nil =>
    rw [htake, byteLength_nil, Nat.add_zero] at hskip
    refine ⟨i + 1, ?_, hbody⟩
    simp only [startTagAt?, hskip, if_true, Option.bind_eq_bind, Option.bind_some, Option.pure_def,
      List.isEmpty_nil]
  | cons c cs =>
    rw [htake] at hskip hslice hnext
    -- The name has at least one byte.
    have hmoved : ¬ i + 1 + byteLength (c :: cs) = i + 1 := by
      have hpos := byteLength_pos c cs
      omega
    refine ⟨next, ?_, hat⟩
    simp only [startTagAt?, hskip, if_neg hmoved, hslice, hnext, Option.bind_eq_bind,
      Option.bind_some, Option.pure_def, List.isEmpty_cons, Bool.false_eq_true, if_false]

/-- Neither a comment nor a declaration begins here. -/
theorem not_isPrefixOf_of_head? (hbang : body.head? ≠ some '!') :
    ¬ "<!--".toList.isPrefixOf ('<' :: body) = true ∧
      ¬ "<!".toList.isPrefixOf ('<' :: body) = true := by
  cases body with
  | nil => decide
  | cons c body =>
    have hc : c ≠ '!' := by simpa using hbang
    simp [List.isPrefixOf, Ne.symm hc]

/-- What follows an opening angle bracket decides which token begins there. -/
theorem tokenAt?_open (h : IsRest s i ('<' :: body)) :
    tokenAt? s i =
      if "<!--".toList.isPrefixOf ('<' :: body) = true then commentAt? s i
      else if "<!".toList.isPrefixOf ('<' :: body) = true then declarationAt? s i
      else if body.head? = some '/' then endTagAt? s i
      else startTagAt? s i := by
  have hopen : ¬ '<' ≠ '<' := by decide
  have htest : testAt? (· = '/') s (i + 1) = some (decide (body.head? = some '/')) := by
    have hbody := h.tail (by decide)
    cases body with
    | nil => exact hbody.testAt?_nil _
    | cons c body =>
      rw [hbody.testAt? (IsAsciiTest.eq (by decide)), List.head?_cons]
      simp
  simp only [tokenAt?, h.byteAt?_of_isAscii (by decide), if_neg hopen, h.sliceFrom?, htest,
    Option.bind_eq_bind, Option.bind_some, decide_eq_true_eq]

/-- A token is read from a boundary to a boundary. -/
theorem exists_tokenAt? (h : IsRest s i (c :: rest)) : ∃ next,
    tokenAt? s i = some ((nextToken c rest).1, next) ∧ IsRest s next (nextToken c rest).2 := by
  by_cases hc : c = '<'
  · subst hc
    rw [tokenAt?_open h]
    by_cases hbang : rest.head? = some '!'
    · obtain ⟨body, rfl⟩ := List.head?_eq_some_iff.mp hbang
      by_cases hcomment : ∃ content, body = '-' :: '-' :: content
      · obtain ⟨content, rfl⟩ := hcomment
        have hyes : "<!--".toList.isPrefixOf ('<' :: '!' :: '-' :: '-' :: content) = true := rfl
        rw [if_pos hyes]
        exact exists_commentAt? h
      · have hno : ¬ "<!--".toList.isPrefixOf ('<' :: '!' :: body) = true := by
          rw [List.isPrefixOf_iff_prefix]
          rintro ⟨content, hcontent⟩
          injection hcontent with _ hcontent
          injection hcontent with _ hcontent
          exact hcomment ⟨content, hcontent.symm⟩
        have hyes : "<!".toList.isPrefixOf ('<' :: '!' :: body) = true := rfl
        rw [if_neg hno, if_pos hyes]
        exact exists_declarationAt? h (not_exists.mp hcomment)
    · obtain ⟨hcomment, hdeclaration⟩ := not_isPrefixOf_of_head? hbang
      rw [if_neg hcomment, if_neg hdeclaration]
      by_cases hslash : rest.head? = some '/'
      · rw [if_pos hslash]
        obtain ⟨body, rfl⟩ := List.head?_eq_some_iff.mp hslash
        exact exists_endTagAt? h
      · rw [if_neg hslash]
        exact exists_startTagAt? h hbang hslash
  · obtain ⟨b, hb, htest⟩ := h.byteAt?
    have hne : b ≠ '<' := by
      simpa [hc] using htest _ (IsAsciiTest.ne (by decide : isAscii '<' = true))
    have htext : tokenAt? s i = textAt? s i := by
      simp only [tokenAt?, hb, if_pos hne, Option.bind_eq_bind, Option.bind_some]
    rw [htext]
    exact exists_textAt? h hc

/-! ### Whole texts -/

/-- Each round of the main loop begins between two characters and moves the cursor on, to another
    place between two characters. -/
theorem tokenAt?_advances (h : IsBoundary s i) (hi : i < byteLength s) : ∃ token next,
    tokenAt? s i = some (token, next) ∧ i < next ∧ next ≤ byteLength s ∧ IsBoundary s next := by
  obtain ⟨rest, hrest⟩ := isBoundary_iff_isRest.mp h
  cases rest with
  | nil =>
    exact absurd hi hrest.eq_byteLength.not_lt
  | cons c rest =>
    obtain ⟨next, htoken, hnext⟩ := exists_tokenAt? hrest
    have hlt := Nat.lt_succ_of_le (nextToken_length_le c rest)
    have hlen := hnext.add_byteLength
    exact ⟨_, next, htoken, hrest.lt_of_length_lt hnext hlt, by omega, hnext.isBoundary⟩

/-- From a boundary on the tokens are added one by one. -/
theorem readFrom?_eq (h : IsRest s i rest) (r : Reading) :
    readFrom? s r i = some ((tokens rest).foldl Reading.add r) := by
  fun_induction tokens rest generalizing i r with
  | case1 =>
    rw [readFrom?, if_neg h.eq_byteLength.not_lt]
    rfl
  | case2 c rest ih =>
    obtain ⟨next, htoken, hnext⟩ := exists_tokenAt? h
    have hlt := h.lt_of_length_lt hnext (Nat.lt_succ_of_le (nextToken_length_le c rest))
    rw [readFrom?, if_pos h.lt_byteLength, htoken]
    dsimp only
    rw [if_pos hlt, ih hnext, List.foldl_cons]

/-- Read byte by byte, a text is read as the same document. -/
theorem readMarkupBytewise?_eq (s : String) : readMarkupBytewise? s = some (readMarkup s) := by
  rw [readMarkupBytewise?, readFrom?_eq (IsRest.start s.toList), Option.map_some, readMarkup]

end AmpMarkup.Markup
