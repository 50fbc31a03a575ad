import AmpMarkup.Proofs.Document.Html
import AmpMarkup.Proofs.Markup.Token

namespace AmpMarkup.Tree

open AmpMarkup.Markup

/-!
# The tokens of a written tree

A tree that markup can say is written as the tokens of its merged form: an empty text leaves no
token, and neighbouring texts leave a single one.

* `Tree.Readable raw t` — markup can say `t`; `raw` tells whether `t` stands directly in an element
  whose text is not escaped.
* `Tree.tokens t` — a start tag, the tokens of the children and an end tag, or one token.
* `tokens_toHtml` — what is written has these tokens.
* `readable_merge`, `toHtml_merge` — merging stays within what markup can say and writes the same.
-/

mutual

/-- Markup can say the tree: its names can stand in tags, its comments do not end early, void
    elements, texts and comments have no children, and text that is not escaped is plain. -/
def Readable (raw : Bool) : Tree → Prop
  | node .document _ => False
  | node (.element name a) children =>
    IsName name ∧ (∀ x ∈ a.names, IsName x) ∧
      (isVoid name = true → children = []) ∧ AllReadable (isRawText name) children
  | node (.text content) children => (raw = true → IsPlainText content) ∧ children = []
  | node (.comment content) children => IsCommentText content ∧ children = []

/-- The same of the children of one node. -/
def AllReadable (raw : Bool) : List Tree → Prop
  | [] => True
  | t :: rest => t.Readable raw ∧ AllReadable raw rest

end

mutual

/-- The tokens of a tree. -/
def tokens : Tree → List Token
  | node .document children => listTokens children
  | node (.element name a) children =>
    .startTag name a false :: if isVoid name then [] else listTokens children ++ [.endTag name]
  | node (.text content) _ => [.text content]
  | node (.comment content) _ => [.comment content]

/-- The tokens of trees, one after the other. -/
def listTokens : List Tree → List Token
  | [] => []
  | t :: rest => t.tokens ++ listTokens rest

end

variable {raw : Bool} {s : String} {t : Tree} {ts : List Tree} {rest : List Char}

/-- Trees can be read back if each of them can. -/
theorem allReadable_iff : AllReadable raw ts ↔ ∀ t ∈ ts, t.Readable raw := by
  induction ts with
  | nil => simp [AllReadable]
  | cons t rest ih => simp [AllReadable, ih]

/-- Trees that can be read back can be so one after the other. -/
theorem allReadable_append {us : List Tree} (h₁ : AllReadable raw ts) (h₂ : AllReadable raw us) :
    AllReadable raw (ts ++ us) := by
  rw [allReadable_iff] at *
  intro t ht
  exact (List.mem_append.mp ht).elim (h₁ t) (h₂ t)

/-- Is the node at the top a text? -/
def isText : Tree → Bool
  | node (.text _) _ => true
  | _ => false

/-- A tree that is a text has one on top. -/
theorem eq_text_of_isText (h : t.isText = true) :
    ∃ content children, t = node (.text content) children := by
  match t, h with
  | node (.text content) children, _ => exact ⟨content, children, rfl⟩

/-- The empty text is plain. -/
theorem isPlainText_empty : IsPlainText "" := by decide

/-- Plain texts make a plain text. -/
theorem isPlainText_append {content : String} (h₁ : IsPlainText s) (h₂ : IsPlainText content) :
    IsPlainText (s ++ content) := by
  simp only [IsPlainText, String.toList_append, List.mem_append, not_or] at *
  exact ⟨⟨h₁.1, h₂.1⟩, h₁.2, h₂.2⟩

/-! ### Text in front -/

theorem joinText_text (s content : String) (children ts : List Tree) :
    joinText s (node (.text content) children :: ts) = node (.text (s ++ content)) [] :: ts := rfl

/-- In front of anything else than a text there is nothing to join. -/
theorem joinText_of_not_text (h : ∀ t ∈ ts.head?, t.isText = false) (s : String) :
    joinText s ts = if s.isEmpty then ts else node (.text s) [] :: ts := by
  match ts, h with
  | [], _ => rfl
  | node .document _ :: _, _ | node (.element ..) _ :: _, _ | node (.comment _) _ :: _, _ => rfl
  | node (.text content) children :: _, h => exact absurd (h _ rfl) Bool.noConfusion

/-- Trees begin with a text or they do not. -/
theorem head_cases (ts : List Tree) :
    (∃ content children rest, ts = node (.text content) children :: rest) ∨
      ∀ t ∈ ts.head?, t.isText = false := by
  match ts with
  | [] => exact .inr fun t ht => absurd ht (by simp)
  | node (.text content) children :: rest => exact .inl ⟨_, _, _, rfl⟩
  | node .document _ :: _ | node (.element ..) _ :: _ | node (.comment _) _ :: _ =>
    refine .inr fun t ht => ?_
    rw [← Option.some.inj ht]
    rfl

/-- Two texts in front of trees are one. -/
theorem joinText_joinText (s t : String) (ts : List Tree) :
    joinText s (joinText t ts) = joinText (s ++ t) ts := by
  rcases head_cases ts with ⟨content, children, rest, rfl⟩ | hhead
  · rw [joinText_text, joinText_text, joinText_text, String.append_assoc]
  · rw [joinText_of_not_text hhead t, joinText_of_not_text hhead (s ++ t)]
    by_cases ht : t = ""
    · rw [ht, if_pos (by rfl), String.append_empty, joinText_of_not_text hhead]
    · have hst : s ++ t ≠ "" := by simp [ht]
      rw [if_neg (by simpa using ht), joinText_text, if_neg (by simpa using hst)]

/-- What is written for a text in front. -/
theorem listTokens_joinText_of_not_text (h : ∀ t ∈ ts.head?, t.isText = false) (s : String) :
    listTokens (joinText s ts) = textTokens s ++ listTokens ts := by
  rw [joinText_of_not_text h, textTokens]
  split
  · rfl
  · rw [listTokens, tokens]

/-- An empty text in front gives no token. -/
theorem listTokens_joinText_empty (ts : List Tree) :
    listTokens (joinText "" ts) = listTokens ts := by
  rcases head_cases ts with ⟨content, children, rest, rfl⟩ | hhead
  · rw [joinText_text, String.empty_append, listTokens, listTokens, tokens, tokens]
  · rw [listTokens_joinText_of_not_text hhead]
    rfl

/-- A text is joined to what is merged behind it. -/
theorem mergeAll_text (content : String) (children ts : List Tree) :
    mergeAll (node (.text content) children :: ts) = joinText content (mergeAll ts) := by
  rw [mergeAll]

/-- What is no text is merged on its own. -/
theorem mergeAll_of_not_text (h : t.isText = false) (ts : List Tree) :
    mergeAll (t :: ts) = t.merge :: mergeAll ts := by
  match t, h with
  | node .document _, _ | node (.element ..) _, _ | node (.comment _) _, _ =>
    rw [mergeAll, merge]
    rintro s ⟨⟩
  | node (.text content) children, h => exact absurd h Bool.noConfusion

/-- A tree is a text after merging exactly if it has been one before. -/
theorem isText_merge (t : Tree) : t.merge.isText = t.isText := by
  match t with
  | node .document _ | node (.element ..) _ | node (.comment _) _ | node (.text _) _ => rfl

/-! ### What is written -/

/-- What is written for anything but a text begins like a tag. -/
theorem isAtTag_toHtml (h : t.Readable raw) (ht : t.isText = false) :
    IsAtTag ((t.toHtml raw).toList ++ rest) := by
  match t, h, ht with
  | node (.element name a) children, _, _ => simp [toHtml, Document.htmlStartTag, IsAtTag]
  | node (.comment content) _, _, _ => simp [toHtml, Document.htmlComment, IsAtTag]
  | node (.text _) _, _, ht => exact absurd ht Bool.noConfusion

mutual

/-- The tokens of a written tree are those of its merged form. -/
theorem tokens_toHtml {raw : Bool} : ∀ t : Tree, t.isText = false → t.Readable raw → ∀ rest,
    Markup.tokens ((t.toHtml raw).toList ++ rest) = t.merge.tokens ++ Markup.tokens rest
  | node .document _, _, h, _ => absurd h (by simp [Readable])
  | node (.text _) _, ht, _, _ => absurd ht Bool.noConfusion
  | node (.comment content) _, _, h, rest => by
    rw [Readable] at h
    rw [toHtml, tokens_htmlComment h.1, merge, tokens, List.singleton_append]
  | node (.element name a) children, _, h, rest => by
    rw [Readable] at h
    obtain ⟨hname, hnames, hvoid, hchildren⟩ := h
    rw [toHtml, String.toList_append, List.append_assoc, tokens_htmlStartTag hname hnames,
      merge, tokens, List.cons_append]
    congr 1
    cases hv : isVoid name with
    | true =>
      rw [hvoid hv]
      rfl
    | false =>
      -- The end tag stops the last text among the children.
      have hend : IsAtTag ((Document.htmlEndTag name).toList ++ rest) := by
        simp [Document.htmlEndTag, IsAtTag]
      have hinside := tokens_listToHtml children hchildren "" (fun _ => isPlainText_empty) _ hend
      rw [listTokens_joinText_empty, tokens_htmlEndTag hname] at hinside
      rw [Document.htmlText_empty] at hinside
      simpa using hinside

/-- A text and the trees behind it, up to the next tag. -/
theorem tokens_listToHtml {raw : Bool} : ∀ ts, AllReadable raw ts →
    ∀ s, (raw = true → IsPlainText s) → ∀ rest, IsAtTag rest →
    Markup.tokens ((Document.htmlText raw s).toList ++ ((listToHtml raw ts).toList ++ rest)) =
      listTokens (joinText s (mergeAll ts)) ++ Markup.tokens rest
  | [], _, s, hs, rest, hrest => by
    rw [listToHtml, mergeAll, listTokens_joinText_of_not_text (by simp), listTokens,
      List.append_nil]
    exact tokens_htmlText hs hrest
  | t :: ts, h, s, hs, rest, hrest => by
    rw [AllReadable] at h
    cases ht : t.isText with
    | true =>
      -- The text is joined to what stands in front.
      obtain ⟨content, children, rfl⟩ := eq_text_of_isText ht
      obtain ⟨⟨hplain, -⟩, hts⟩ : ((raw = true → IsPlainText content) ∧ children = []) ∧ _ := h
      have hjoined := fun hraw => isPlainText_append (hs hraw) (hplain hraw)
      have ih := tokens_listToHtml ts hts (s ++ content) hjoined rest hrest
      rw [listToHtml, toHtml, mergeAll_text, joinText_joinText, ← ih, Document.htmlText_append]
      simp
    | false =>
      -- The text ends where the tag begins.
      have hhead : ∀ u ∈ (t.merge :: mergeAll ts).head?, u.isText = false := by
        simp [isText_merge, ht]
      have ih := tokens_listToHtml ts h.2 "" (fun _ => isPlainText_empty) rest hrest
      rw [Document.htmlText_empty, listTokens_joinText_empty] at ih
      rw [listToHtml, String.toList_append, List.append_assoc,
        tokens_htmlText hs (isAtTag_toHtml h.1 ht), tokens_toHtml t ht h.1,
        mergeAll_of_not_text ht, listTokens_joinText_of_not_text hhead, listTokens]
      simpa using ih

end

/-! ### Merged trees -/

/-- A text in front stays within what markup can say. -/
theorem allReadable_joinText (hs : raw = true → IsPlainText s) (h : AllReadable raw ts) :
    AllReadable raw (joinText s ts) := by
  rcases head_cases ts with ⟨content, children, rest, rfl⟩ | hhead
  · rw [joinText_text, AllReadable]
    rw [AllReadable, Readable] at h
    exact ⟨⟨fun hraw => isPlainText_append (hs hraw) (h.1.1 hraw), rfl⟩, h.2⟩
  · rw [joinText_of_not_text hhead]
    split
    · exact h
    · exact ⟨⟨hs, rfl⟩, h⟩

mutual

/-- Markup can say the merged form of what it can say. -/
theorem readable_merge {raw : Bool} : ∀ t : Tree, t.Readable raw → t.merge.Readable raw
  | node .document _, h => absurd h (by simp [Readable])
  | node (.text content) children, h => by
    rw [Readable] at h
    rw [h.2, merge, mergeAll, Readable]
    exact ⟨h.1, rfl⟩
  | node (.comment content) children, h => by
    rw [Readable] at h
    rw [h.2, merge, mergeAll, Readable]
    exact ⟨h.1, rfl⟩
  | node (.element name a) children, h => by
    rw [Readable] at h
    obtain ⟨hname, hnames, hvoid, hchildren⟩ := h
    rw [merge, Readable]
    refine ⟨hname, hnames, fun hv => ?_, allReadable_mergeAll children hchildren⟩
    rw [hvoid hv, mergeAll]

/-- Trees that can be read back can be so after merging. -/
theorem allReadable_mergeAll {raw : Bool} : ∀ ts : List Tree, AllReadable raw ts →
    AllReadable raw (mergeAll ts)
  | [], _ => by rw [mergeAll, AllReadable]; trivial
  | t :: ts, h => by
    rw [AllReadable] at h
    have ih := allReadable_mergeAll ts h.2
    cases ht : t.isText with
    | true =>
      obtain ⟨content, children, rfl⟩ := eq_text_of_isText ht
      rw [mergeAll_text]
      exact allReadable_joinText h.1.1 ih
    | false =>
      rw [mergeAll_of_not_text ht, AllReadable]
      exact ⟨readable_merge t h.1, ih⟩

end

mutual

/-- Merging changes nothing of what is written. -/
theorem toHtml_merge {raw : Bool} : ∀ t : Tree, t.Readable raw → t.merge.toHtml raw = t.toHtml raw
  | node .document _, h => absurd h (by simp [Readable])
  | node (.text content) children, _ => by rw [merge, toHtml, toHtml]
  | node (.comment content) children, _ => by rw [merge, toHtml, toHtml]
  | node (.element name a) children, h => by
    rw [Readable] at h
    obtain ⟨-, -, hvoid, hchildren⟩ := h
    rw [merge, toHtml, toHtml, listToHtml_mergeAll children hchildren]
    -- Only for void elements does it matter whether there are children.
    cases hv : isVoid name with
    | true =>
      rw [hvoid hv, mergeAll]
    | false => rfl

/-- Merged trees are written as the trees are. -/
theorem listToHtml_mergeAll {raw : Bool} : ∀ ts : List Tree, AllReadable raw ts →
    listToHtml raw (mergeAll ts) = listToHtml raw ts
  | [], _ => by rw [mergeAll]
  | t :: ts, h => by
    rw [AllReadable] at h
    have ih := listToHtml_mergeAll ts h.2
    cases ht : t.isText with
    | true =>
      obtain ⟨content, children, rfl⟩ := eq_text_of_isText ht
      rw [mergeAll_text, listToHtml_joinText, ih, listToHtml, toHtml]
    | false => rw [mergeAll_of_not_text ht, listToHtml, listToHtml, toHtml_merge t h.1, ih]

end

end AmpMarkup.Tree
