import AmpMarkup.Proofs.Conversion.ConvertedTree
import AmpMarkup.Proofs.Conversion.Survival
import AmpMarkup.Proofs.Url.Scheme

namespace AmpMarkup

open Text Url
open Document (root WellFormed)

/-!
# Insecure URLs inside replacements

Where a secure transport is required, the URL of an audio element is checked, and so are those of
the sources directly inside it. Nothing else is: an image, a track or a source further down keeps
the URL that it has. Here it is said exactly which insecure URLs get into a replacement.

* `isInsecureUrl`, `Document.isInsecure` — URLs of the insecure scheme, and nodes that have one.
* `isInsecureUrl_of_checkUrl` — no such URL is accepted.
* `Tree.Has p` — a node of the kind `p` is found in a tree; `has_tree` — in terms of the document.
* `Policy.Guards d m y` — the conversion of `m` checks the URL of `y` or drops `y`.
* `Policy.Escapes d x y` — the node `y` below `x` has an insecure URL and nobody guards it.
* `exists_exposed_converted` — the trees that a node becomes have insecure URLs just if some escape.
* `reachable_insecure_iff` — so it is with the replacements that a conversion leaves.
-/

/-! ### Insecure URLs -/

namespace Conversion

/-- Does the text begin like a URL of the insecure scheme? -/
def isInsecureUrl (url : String) : Bool := (insecureScheme ++ [':']).isPrefixOf url.toList

end Conversion

namespace Url

/-- The scheme of a URL is the one with which its text begins. -/
theorem scheme_readUrl_insecure {s : List Char} {u : Url}
    (h : readUrl (Conversion.insecureScheme ++ [':'] ++ s) = .ok u) :
    u.scheme = Conversion.insecureScheme := by
  have hlower : Conversion.insecureScheme.map Char.toLower = Conversion.insecureScheme := by decide
  rw [List.append_assoc, List.singleton_append,
    readUrl_of_scheme (by decide) (by decide) s (by decide), hlower] at h
  exact scheme_readWithAuthority h

end Url

namespace Conversion

variable {policy : Policy}

/-- A text with the insecure scheme in front is rejected, whether the rest can be read or not. -/
theorem checkTrimmed_insecure (hhttps : policy.requireHttps = true) (s : List Char) :
    ∃ rejection, policy.checkTrimmed .attribute (insecureScheme ++ [':'] ++ s) =
      .error rejection := by
  have hempty : (insecureScheme ++ [':'] ++ s).isEmpty = false := rfl
  have hrelative : ['/', '/'].isPrefixOf (insecureScheme ++ [':'] ++ s) = false := rfl
  rw [Policy.checkTrimmed, hempty, hrelative]
  cases hread : readUrl (insecureScheme ++ [':'] ++ s) with
  | error e => cases e <;> simp [hhttps]
  | ok u =>
    have hne : insecureScheme ≠ secureScheme := by decide
    simp [scheme_readUrl_insecure hread, hne, hhttps]

/-- Where a secure transport is required no insecure URL is accepted. -/
theorem isInsecureUrl_of_checkUrl (hhttps : policy.requireHttps = true) {site : UrlSite}
    {raw url : String} (h : policy.checkUrl site raw = .ok url) : isInsecureUrl url = false := by
  rw [checkUrl_eq_attribute hhttps] at h
  have hurl : url.toList = trim isAsciiBlank raw.toList := by
    rw [checkUrl_attribute h, String.toList_ofList]
  rw [Policy.checkUrl, ← hurl] at h
  rw [Bool.eq_false_iff]
  intro hinsecure
  obtain ⟨s, hs⟩ := List.isPrefixOf_iff_prefix.mp hinsecure
  obtain ⟨rejection, hrejected⟩ := checkTrimmed_insecure hhttps s
  rw [← hs, hrejected] at h
  cases h

end Conversion

/-! ### Nodes with insecure URLs -/

/-- Is the node an element with an insecure URL as its source? -/
def NodeKind.isInsecure (k : NodeKind) : Bool :=
  (k.attributes?.bind (·.get? "src")).any Conversion.isInsecureUrl

/-- Is `n` an element with an insecure URL as its source? -/
def Document.isInsecure (d : Document) (n : NodeId) : Bool :=
  (d.attribute? n "src").any Conversion.isInsecureUrl

/-- A node is judged by its kind, and one that is gone is not insecure. -/
theorem Document.isInsecure_eq (d : Document) (n : NodeId) :
    d.isInsecure n = ((d.kind? n).getD .document).isInsecure := by
  rw [isInsecure, attribute?, attributes?, NodeKind.isInsecure]
  cases d.kind? n <;> rfl

/-- Other attributes do not matter. -/
theorem NodeKind.isInsecure_set (k : NodeKind) {name : String} (value : String)
    (h : fold "src" ≠ fold name) :
    (k.mapAttributes (·.set name value)).isInsecure = k.isInsecure := by
  cases k with
  | element tag a => simp [isInsecure, mapAttributes, attributes?, Attributes.get?_set, h]
  | document => rfl
  | text content => rfl
  | comment content => rfl

/-- Without a URL, or with a secure one, an element is not insecure. -/
theorem NodeKind.isInsecure_element (tag : String) {a : Attributes}
    (h : ∀ url, a.get? "src" = some url → Conversion.isInsecureUrl url = false) :
    (NodeKind.element tag a).isInsecure = false := by
  rw [isInsecure, attributes?, Option.bind_some]
  cases hsrc : a.get? "src" with
  | none => rfl
  | some url => exact h url hsrc

namespace Tree

/-- One of the nodes of the tree is of a kind with `p`. -/
inductive Has (p : NodeKind → Prop) : Tree → Prop where
  | here {k : NodeKind} {ts : List Tree} : p k → Has p (.node k ts)
  | inside {k : NodeKind} {ts : List Tree} {t : Tree} : t ∈ ts → Has p t → Has p (.node k ts)

variable {p : NodeKind → Prop} {k : NodeKind} {t : Tree} {ts : List Tree}

/-- The property holds at the top, or in one of the trees below it. -/
theorem has_node : (Tree.node k ts).Has p ↔ p k ∨ ∃ t ∈ ts, t.Has p := by
  constructor
  · intro h
    cases h with
    | here hk => exact .inl hk
    | inside ht h => exact .inr ⟨_, ht, h⟩
  · rintro (hk | ⟨t, ht, h⟩)
    · exact .here hk
    · exact .inside ht h

/-- The same for a tree that has not been taken apart. -/
theorem has_iff (t : Tree) : t.Has p ↔ p t.kind ∨ ∃ u ∈ t.children, u.Has p := by
  cases t with
  | node k ts => exact has_node

/-- Attributes that do not bear on the property may be changed at the top. -/
theorem has_mapAttributes {f : Attributes → Attributes}
    (h : p (t.kind.mapAttributes f) ↔ p t.kind) : (t.mapAttributes f).Has p ↔ t.Has p := by
  cases t with
  | node k ts => rw [mapAttributes, has_node, has_node, show p (k.mapAttributes f) ↔ p k from h]

/-- There is a node with an insecure URL in the tree. -/
def Exposed (t : Tree) : Prop := t.Has fun k => k.isInsecure = true

end Tree

/-- What the tree of a node has is found below the node. -/
theorem Document.has_tree {d : Document} (h : d.WellFormed) {p : NodeKind → Prop} (x : NodeId) :
    (d.tree x).Has p ↔ ∃ y, d.Below y x ∧ p ((d.kind? y).getD .document) := by
  induction x using h.induction_down with
  | _ x ih =>
    rw [tree_eq h, Tree.has_node]
    constructor
    · rintro (hx | ⟨t, ht, hhas⟩)
      · exact ⟨x, below_refl d x, hx⟩
      · obtain ⟨c, hc, rfl⟩ := List.mem_map.mp ht
        obtain ⟨y, hy, hp⟩ := (ih c hc).mp hhas
        exact ⟨y, below_of_mem_children h hc hy, hp⟩
    · rintro ⟨y, hy, hp⟩
      rcases hy.cases_child h with rfl | ⟨c, hc, hyc⟩
      · exact .inl hp
      · exact .inr ⟨d.tree c, List.mem_map_of_mem hc, (ih c hc).mpr ⟨y, hyc, hp⟩⟩

namespace Conversion

variable {policy : Policy} {d : Document} {k : NodeKind} {t : Tree} {ts : List Tree}
  {c m n r x y : NodeId}

/-! ### Children and replacements -/

/-- A mark is no URL. -/
theorem isInsecure_mark (k : NodeKind) :
    (k.mapAttributes (·.set fallbackAttribute "")).isInsecure = k.isInsecure :=
  k.isInsecure_set "" (fold_ne (by decide))

/-- A mark exposes nothing and hides nothing. -/
theorem exposed_mark (t : Tree) :
    (t.mapAttributes (·.set fallbackAttribute "")).Exposed ↔ t.Exposed :=
  Tree.has_mapAttributes (by rw [isInsecure_mark])

/-- Hence marking the first of some trees exposes none of them. -/
theorem exists_exposed_markFirst (ts : List Tree) :
    (∃ t ∈ markFirst ts, t.Exposed) ↔ ∃ t ∈ ts, t.Exposed := by
  induction ts with
  | nil => rfl
  | cons t rest ih =>
    rw [markFirst]
    split
    · simp [exposed_mark]
    · simp [ih]

/-- A tree that stays, and is exposed then: if it is a source, its own URL has been checked. -/
def Policy.StaysExposed (policy : Policy) (t : Tree) : Prop :=
  policy.sourceIssue? t.kind = none ∧
    ((t.kind.isInsecure = true ∧ t.kind.isNamed sourceTag = false) ∨
      ∃ u ∈ t.children, u.Exposed)

/-- A source that stays has a URL that has been accepted. -/
theorem isInsecure_sourceAttributes (hhttps : policy.requireHttps = true)
    (hissue : policy.sourceIssue? k = none) :
    (k.mapAttributes (policy.sourceAttributes k)).isInsecure = true ↔
      k.isInsecure = true ∧ k.isNamed sourceTag = false := by
  cases hnamed : k.isNamed sourceTag with
  | false =>
    have hsource : sourceUrl? k = none := sourceUrl?_eq_none hnamed
    simp [Policy.sourceAttributes, usableUrl?_eq_none hsource]
  | true =>
    obtain ⟨tag, a, rfl⟩ := NodeKind.eq_element_of_isNamed hnamed
    have hsource : sourceUrl? (.element tag a) = a.get? "src" := by
      rw [sourceUrl?, if_pos hnamed]
      rfl
    cases hsrc : a.get? "src" with
    | none =>
      have husable : policy.usableUrl? (.element tag a) = none :=
        usableUrl?_eq_none (hsource.trans hsrc)
      simp [Policy.sourceAttributes, husable, NodeKind.isInsecure, NodeKind.attributes?, hsrc]
    | some src =>
      rw [Policy.sourceIssue?, hsource, hsrc, Option.bind_some] at hissue
      cases hcheck : policy.checkUrl .alternateSource src with
      | error rejection => simp [hcheck] at hissue
      | ok url =>
        have husable : policy.usableUrl? (.element tag a) = some url := by
          rw [Policy.usableUrl?, hsource, hsrc, Option.bind_some, hcheck]
          rfl
        have hsecure := isInsecureUrl_of_checkUrl hhttps hcheck
        simp [Policy.sourceAttributes, husable, NodeKind.isInsecure, NodeKind.mapAttributes,
          NodeKind.attributes?, Attributes.get?_set, hsecure]

/-- Whether a tree that is kept shows an insecure URL can be read off the tree as it was. -/
theorem exposed_keepTree?_iff (hhttps : policy.requireHttps = true) :
    (∃ u, policy.keepTree? t = some u ∧ u.Exposed) ↔ policy.StaysExposed t := by
  obtain ⟨k, us⟩ := t
  rw [Policy.StaysExposed, keepTree?_eq, Tree.kind, Tree.children]
  by_cases hissue : policy.sourceIssue? k = none
  · have hexposed : ((Tree.node k us).mapAttributes (policy.sourceAttributes k)).Exposed ↔
        (k.isInsecure = true ∧ k.isNamed sourceTag = false) ∨ ∃ u ∈ us, u.Exposed := by
      rw [← isInsecure_sourceAttributes hhttps hissue]
      exact Tree.has_node
    simpa [hissue] using hexposed
  · simp [hissue]

/-- The children that stay are exposed if some child stays so. -/
theorem exists_exposed_kept (hhttps : policy.requireHttps = true) (ts : List Tree) :
    (∃ t ∈ markFirst (ts.filterMap policy.keepTree?), t.Exposed) ↔
      ∃ t ∈ ts, policy.StaysExposed t := by
  rw [exists_exposed_markFirst]
  simp only [List.mem_filterMap, ← exposed_keepTree?_iff hhttps]
  constructor
  · rintro ⟨u, ⟨t, ht, hkeep⟩, hexposed⟩
    exact ⟨t, ht, u, hkeep, hexposed⟩
  · rintro ⟨t, ht, u, hkeep, hexposed⟩
    exact ⟨u, ⟨t, ht, hkeep⟩, hexposed⟩

/-- The URL of a replacement has been checked, and so has that of its fallback. -/
theorem Replacement.exposed_tree (s : Replacement policy) (hhttps : policy.requireHttps = true) :
    s.tree.Exposed ↔ ∃ t ∈ s.kept, t.Exposed := by
  have hsecure : ∀ url, s.attributes.get? "src" = some url → isInsecureUrl url = false :=
    fun url hurl => isInsecureUrl_of_checkUrl hhttps (s.secure hhttps url (.inl hurl) .attribute)
  have htop : (NodeKind.ofElement replacementTag s.attributes).isInsecure = false :=
    NodeKind.isInsecure_element _ hsecure
  have hfallback : (NodeKind.element s.tag s.fallback).isInsecure = false := by
    refine NodeKind.isInsecure_element _ fun url hurl => hsecure url ?_
    rw [← s.media "src" (by decide), hurl]
  have hempty : (NodeKind.ofElement fallbackTag .empty).isInsecure = false := rfl
  have hisland : (Tree.node (.ofElement fallbackTag .empty)
      [.node (.element s.tag s.fallback) s.kept]).Exposed ↔ ∃ t ∈ s.kept, t.Exposed := by
    simp [Tree.Exposed, Tree.has_node, hempty, hfallback]
  have htree : s.tree.Exposed ↔ ∃ t ∈ s.kept ++ [.node (.ofElement fallbackTag .empty)
      [.node (.element s.tag s.fallback) s.kept]], t.Exposed := by
    simp only [Replacement.tree, Tree.Exposed, Tree.has_node, htop, Bool.false_eq_true, false_or]
  rw [htree]
  constructor
  · rintro ⟨t, ht, hexposed⟩
    rcases List.mem_append.mp ht with ht | ht
    · exact ⟨t, ht, hexposed⟩
    · rw [List.mem_singleton.mp ht] at hexposed
      exact hisland.mp hexposed
  · rintro ⟨t, ht, hexposed⟩
    exact ⟨t, List.mem_append_left _ ht, hexposed⟩

/-- What takes the place of an audio element is exposed if the element is replaced at all and one of
    its children stays exposed. -/
theorem exists_exposed_replaceTree (hhttps : policy.requireHttps = true)
    (hk : k.isNamed audioTag = true) :
    (∃ t ∈ policy.replaceTree k ts, t.Exposed) ↔
      ((policy.filter audioRules (k.attributes?.getD .empty)).contains "src" ||
        ts.any policy.isUsableSource) = true ∧ ∃ t ∈ ts, policy.StaysExposed t := by
  cases husable : ((policy.filter audioRules (k.attributes?.getD .empty)).contains "src" ||
      ts.any policy.isUsableSource) with
  | false => simp [Policy.replaceTree, husable]
  | true =>
    obtain ⟨t, ht⟩ : ∃ t, policy.replaceTree k ts = [t] := by
      rw [Policy.replaceTree, if_pos husable]
      exact ⟨_, rfl⟩
    obtain ⟨s, rfl, hkept⟩ := exists_replacement hk (ht ▸ List.mem_singleton_self t)
    rw [ht, ← exists_exposed_kept hhttps, ← hkept, ← s.exposed_tree hhttps]
    simp

/-! ### Guarded nodes -/

/-- The conversion of `m` checks the URL of `y`, which is `m` or a source directly inside it, or
    discards `y`. -/
def Policy.Guards (policy : Policy) (d : Document) (m y : NodeId) : Prop :=
  y = m ∨ (y ∈ d.children m ∧ d.isElementNamed y sourceTag = true) ∨ policy.Engulfs d m y

/-- The insecure URL of `y`, a node below `x`, is guarded by no element that is converted there. -/
structure Policy.Escapes (policy : Policy) (d : Document) (x y : NodeId) : Prop where
  below : d.Below y x
  insecure : d.isInsecure y = true
  unguarded (m : NodeId) : d.Below m x → isConvertible d m = true → ¬ policy.Guards d m y

/-- An element guards nothing that is not inside it. -/
theorem Policy.Guards.below (h : policy.Guards d m y) (hwf : d.WellFormed) : d.Below y m := by
  rcases h with rfl | ⟨hy, -⟩ | hengulfs
  · exact Document.below_refl d y
  · exact Document.below_of_parent (hwf.parent_of_mem hy)
  · exact hengulfs.below hwf

/-- A node is guarded by itself or not at all. -/
theorem escapes_self (h : d.WellFormed) :
    policy.Escapes d x x ↔ d.isInsecure x = true ∧ isConvertible d x = false := by
  constructor
  · intro he
    refine ⟨he.insecure, ?_⟩
    by_contra hx
    exact he.unguarded x (Document.below_refl d x) (by simpa using hx) (.inl rfl)
  · rintro ⟨hinsecure, hx⟩
    refine ⟨Document.below_refl d x, hinsecure, fun m hm hconv hguards => ?_⟩
    rw [hm.antisymm h (hguards.below h), hx] at hconv
    exact Bool.noConfusion hconv

/-- What is below a child is guarded there or by the node itself. -/
theorem escapes_of_child (h : d.WellFormed) (hc : c ∈ d.children x) (hy : d.Below y c) :
    policy.Escapes d x y ↔
      policy.Escapes d c y ∧ (isConvertible d x = true → ¬ policy.Guards d x y) := by
  have hcx : d.Below c x := Document.below_of_parent (h.parent_of_mem hc)
  constructor
  · intro he
    exact ⟨⟨hy, he.insecure, fun m hm => he.unguarded m (hm.trans hcx)⟩,
      he.unguarded x (Document.below_refl d x)⟩
  · rintro ⟨he, hx⟩
    refine ⟨hy.trans hcx, he.insecure, fun m hm hconv hguards => ?_⟩
    rcases hm.cases_child h with rfl | ⟨c', hc', hmc⟩
    · exact hx hconv hguards
    · -- The node is below one child only.
      obtain rfl := Document.eq_of_below_children h hc' hc ((hguards.below h).trans hmc) hy
      exact he.unguarded m hmc hconv hguards

/-- Hence it is decided from the bottom to the top whether something escapes. -/
theorem exists_escapes_iff (h : d.WellFormed) :
    (∃ y, policy.Escapes d x y) ↔
      (d.isInsecure x = true ∧ isConvertible d x = false) ∨ ∃ c ∈ d.children x, ∃ y,
        policy.Escapes d c y ∧ (isConvertible d x = true → ¬ policy.Guards d x y) := by
  constructor
  · rintro ⟨y, he⟩
    rcases he.below.cases_child h with rfl | ⟨c, hc, hy⟩
    · exact .inl ((escapes_self h).mp he)
    · exact .inr ⟨c, hc, y, (escapes_of_child h hc hy).mp he⟩
  · rintro (hx | ⟨c, hc, y, he⟩)
    · exact ⟨x, (escapes_self h).mpr hx⟩
    · exact ⟨y, (escapes_of_child h hc he.1.below).mpr he⟩

/-- Of what is below a child, an element that is replaced guards the child if it is a source, and
    all of it if it is dropped. -/
theorem guards_of_child (h : d.WellFormed) (hverdict : policy.verdict d x = .replace)
    (hc : c ∈ d.children x) (hy : d.Below y c) :
    policy.Guards d x y ↔
      (y = c ∧ d.isElementNamed c sourceTag = true) ∨ policy.keeps d c = false := by
  have hpar := h.parent_of_mem hc
  have hxc : ¬ d.Below x c := h.not_below_of_parent hpar
  constructor
  · rintro (rfl | ⟨hmem, hnamed⟩ | ⟨hremove, -⟩ | ⟨-, c', hc', hdrop, hyc'⟩)
    · exact absurd hy hxc
    · obtain rfl := Document.eq_of_below_children h hmem hc (Document.below_refl d y) hy
      exact .inl ⟨rfl, hnamed⟩
    · rw [hverdict] at hremove
      cases hremove
    · obtain rfl := Document.eq_of_below_children h hc' hc hyc' hy
      exact .inr hdrop
  · rintro (⟨rfl, hnamed⟩ | hdrop)
    · exact .inr (.inl ⟨hc, hnamed⟩)
    · refine .inr (.inr (.inr ⟨?_, c, hc, hdrop, hy⟩))
      rw [hverdict]
      exact fun heq => Verdict.noConfusion heq

/-- Of what is inside an audio element outside of islands nothing escapes if the element is removed,
    else what escapes below a child that stays, apart from the URLs of the sources among the
    children. -/
theorem exists_escapes_of_convertible (h : d.WellFormed) (hconv : isConvertible d x = true) :
    (∃ y, policy.Escapes d x y) ↔ policy.hasUsableSource d x = true ∧
      ∃ c ∈ d.children x, policy.keeps d c = true ∧ ∃ y, policy.Escapes d c y ∧
        ¬ (y = c ∧ d.isElementNamed c sourceTag = true) := by
  have hisland : d.isInFallbackIsland x = false := by
    rw [isConvertible, Bool.and_eq_true, Bool.not_eq_true'] at hconv
    exact hconv.2
  have hverdict : policy.verdict d x =
      if policy.hasUsableSource d x then .replace else .remove := by
    rw [Policy.verdict, if_neg (by simp [hisland])]
  have hself : ¬ (d.isInsecure x = true ∧ isConvertible d x = false) := by simp [hconv]
  rw [exists_escapes_iff h, or_iff_right hself]
  cases husable : policy.hasUsableSource d x with
  | false =>
    rw [husable] at hverdict
    constructor
    · rintro ⟨c, hc, y, he, hguards⟩
      -- The element discards all that is below it.
      have hy : d.Below y x := Document.below_of_mem_children h hc he.below
      exact absurd (.inr (.inr (.inl ⟨hverdict, hy⟩))) (hguards hconv)
    · rintro ⟨hfalse, -⟩
      exact Bool.noConfusion hfalse
  | true =>
    rw [husable] at hverdict
    constructor
    · rintro ⟨c, hc, y, he, hguards⟩
      have hnot := hguards hconv
      rw [guards_of_child h hverdict hc he.below, not_or, Bool.not_eq_false] at hnot
      exact ⟨rfl, c, hc, hnot.2, y, he, hnot.1⟩
    · rintro ⟨-, c, hc, hkeep, y, he, hsource⟩
      refine ⟨c, hc, y, he, fun _ hguards => ?_⟩
      rcases (guards_of_child h hverdict hc he.below).mp hguards with hs | hdrop
      · exact hsource hs
      · rw [hkeep] at hdrop
        exact Bool.noConfusion hdrop

/-! ### Converted nodes -/

/-- A member with the property in the joined lists is one in some list. -/
theorem exists_mem_flatMap {α β : Type} {l : List α} {f : α → List β} {P : β → Prop} :
    (∃ b ∈ l.flatMap f, P b) ↔ ∃ a ∈ l, ∃ b ∈ f a, P b := by
  simp only [List.mem_flatMap]
  constructor
  · rintro ⟨b, ⟨a, ha, hb⟩, h⟩
    exact ⟨a, ha, b, hb, h⟩
  · rintro ⟨a, ha, b, hb, h⟩
    exact ⟨b, ⟨a, ha, hb⟩, h⟩

/-- Only the URL of a source is checked. -/
theorem staysExposed_iff (ht : t.kind.isNamed sourceTag = false) :
    policy.StaysExposed t ↔ t.Exposed := by
  have hissue : policy.sourceIssue? t.kind = none := sourceIssue?_eq_none (sourceUrl?_eq_none ht)
  rw [Policy.StaysExposed, Tree.Exposed, Tree.has_iff]
  simp [hissue, ht, Tree.Exposed]

/-- A node that is no source becomes none. -/
theorem isNamed_source_of_mem_converted (h : d.WellFormed)
    (hx : d.isElementNamed x sourceTag = false) (ht : t ∈ policy.converted d x) :
    t.kind.isNamed sourceTag = false := by
  rw [converted_eq policy h] at ht
  split at ht
  · obtain ⟨a, ha⟩ := kind_of_mem_replaceTree ht
    rw [ha]
    exact isNamed_eq_false (isNamed_ofElement replacementTag a) (fold_ne (by decide))
  · rw [List.mem_singleton.mp ht, Tree.kind, ← Document.isElementNamed_eq, hx]

/-- What a child becomes stays exposed if the child stays, and something escapes other than the URL
    of a source. -/
theorem exists_staysExposed_iff (h : d.WellFormed)
    (hself : (∃ t ∈ policy.converted d c, t.Exposed) ↔ ∃ y, policy.Escapes d c y)
    (hbelow : ∀ b ∈ d.children c,
      ((∃ t ∈ policy.converted d b, t.Exposed) ↔ ∃ y, policy.Escapes d b y)) :
    (∃ t ∈ policy.converted d c, policy.StaysExposed t) ↔
      policy.keeps d c = true ∧ ∃ y, policy.Escapes d c y ∧
        ¬ (y = c ∧ d.isElementNamed c sourceTag = true) := by
  cases hsource : d.isElementNamed c sourceTag with
  | false =>
    have hkeep : policy.keeps d c = true := by
      rw [Document.isElementNamed_eq] at hsource
      rw [Policy.keeps, ← sourceIssue?_getD, sourceIssue?_eq_none (sourceUrl?_eq_none hsource),
        Option.isNone_none]
    have hstays : (∃ t ∈ policy.converted d c, policy.StaysExposed t) ↔
        ∃ t ∈ policy.converted d c, t.Exposed :=
      exists_congr fun t => and_congr_right fun ht =>
        staysExposed_iff (isNamed_source_of_mem_converted h hsource ht)
    rw [hstays, hself]
    simp [hkeep]
  | true =>
    rw [Document.isElementNamed_eq] at hsource
    have hconv : isConvertible d c = false := by
      rw [isConvertible_eq, isNamed_eq_false hsource (fold_ne (by decide)), Bool.false_and]
    -- The URL of the source itself is checked, and what is below it goes with it or is dropped.
    have hescapes : (∃ y, policy.Escapes d c y ∧ y ≠ c) ↔
        ∃ b ∈ d.children c, ∃ y, policy.Escapes d b y := by
      constructor
      · rintro ⟨y, he, hyc⟩
        rcases he.below.cases_child h with heq | ⟨b, hb, hyb⟩
        · exact absurd heq hyc
        · exact ⟨b, hb, y, ((escapes_of_child h hb hyb).mp he).1⟩
      · rintro ⟨b, hb, y, he⟩
        refine ⟨y, (escapes_of_child h hb he.below).mpr ⟨he, by simp [hconv]⟩, ?_⟩
        rintro rfl
        exact h.not_below_of_parent (h.parent_of_mem hb) he.below
    have hchildren : (∃ t ∈ (d.children c).flatMap (policy.converted d), t.Exposed) ↔
        ∃ b ∈ d.children c, ∃ y, policy.Escapes d b y := by
      rw [exists_mem_flatMap]
      exact exists_congr fun b => and_congr_right fun hb => hbelow b hb
    rw [converted_eq policy h, hconv, Policy.keeps, ← sourceIssue?_getD, Option.isNone_iff_eq_none,
      if_neg (by simp)]
    simp only [List.mem_singleton, exists_eq_left, Policy.StaysExposed, Tree.kind, Tree.children,
      hsource, hchildren, ← hescapes]
    simp

/-- The trees that a node becomes are exposed if the insecure URL of some node below it escapes. -/
theorem exists_exposed_converted (h : d.WellFormed) (hhttps : policy.requireHttps = true)
    (x : NodeId) :
    (∃ t ∈ policy.converted d x, t.Exposed) ↔ ∃ y, policy.Escapes d x y := by
  -- Of a child that is a source it is the children that count, so it is carried up two levels.
  suffices hboth : ((∃ t ∈ policy.converted d x, t.Exposed) ↔ ∃ y, policy.Escapes d x y) ∧
      ∀ c ∈ d.children x,
        ((∃ t ∈ policy.converted d c, t.Exposed) ↔ ∃ y, policy.Escapes d c y) from hboth.1
  induction x using h.induction_down with
  | _ x ih =>
    refine ⟨?_, fun c hc => (ih c hc).1⟩
    cases hconv : isConvertible d x with
    | false =>
      have hchildren : (∃ t ∈ (d.children x).flatMap (policy.converted d), t.Exposed) ↔
          ∃ c ∈ d.children x, ∃ y, policy.Escapes d c y := by
        rw [exists_mem_flatMap]
        exact exists_congr fun c => and_congr_right fun hc => (ih c hc).1
      have hnode : (Tree.node ((d.kind? x).getD .document)
          ((d.children x).flatMap (policy.converted d))).Exposed ↔
          d.isInsecure x = true ∨ ∃ c ∈ d.children x, ∃ y, policy.Escapes d c y := by
        rw [Tree.Exposed, Tree.has_node, ← Document.isInsecure_eq]
        exact or_congr_right hchildren
      rw [converted_eq policy h, exists_escapes_iff h]
      simpa [hconv] using hnode
    | true =>
      obtain ⟨k, hk, hnamed⟩ : ∃ k, d.kind? x = some k ∧ k.isNamed audioTag = true := by
        rw [isConvertible, Bool.and_eq_true] at hconv
        exact Document.kind_of_isElementNamed hconv.1
      have hchildren : (∃ t ∈ (d.children x).flatMap (policy.converted d), policy.StaysExposed t) ↔
          ∃ c ∈ d.children x, policy.keeps d c = true ∧ ∃ y, policy.Escapes d c y ∧
            ¬ (y = c ∧ d.isElementNamed c sourceTag = true) := by
        rw [exists_mem_flatMap]
        exact exists_congr fun c => and_congr_right fun hc =>
          exists_staysExposed_iff h (ih c hc).1 (ih c hc).2
      rw [converted_eq policy h, if_pos hconv, exists_escapes_of_convertible h hconv,
        hasUsableSource_converted policy h, ← hchildren, hk, Option.getD_some]
      exact exists_exposed_replaceTree hhttps hnamed

/-! ### The replacements that are left -/

/-- Marking a child does not change whether it is exposed. -/
theorem keptByMark_exposed (Q : Prop) :
    KeptByMark fun t => sourceUrl? t.kind = none ∧ (t.Exposed ↔ Q) where
  no_source _ ht := ht.1
  mark t ht := by
    refine ⟨?_, (exposed_mark t).trans ht.2⟩
    cases t with
    | node k ts => exact (sourceUrl?_set (fold_ne (by decide))).trans ht.1

/-- Whatever the history of a document, and where a secure transport is required: a replacement that
    a conversion leaves has a node with an insecure URL in it exactly if, in the document before,
    there was such a node inside the replaced element which no converted element there checks or
    drops. -/
theorem reachable_insecure_iff (h : Reachable d) (hhttps : policy.requireHttps = true)
    (hn : (n, .replaced r) ∈ (policy.convertAudio d).1.outcomes)
    (hlive : (policy.convertAudio d).2.contains r = true) :
    (policy.convertAudio d).2.isConnected r = true ∧
    ((∃ z ∈ (policy.convertAudio d).2.subtree r, (policy.convertAudio d).2.isInsecure z = true) ↔
      ∃ y, policy.Escapes d n y) := by
  have hwf := h.wellFormed
  have hwf' := wellFormed_convertAudio policy hwf
  have hcourse := course_convertAudio hwf policy
  obtain ⟨hmem, -⟩ := verdict_of_mem_outcomes hwf hn
  rw [Document.elementsNamed, List.mem_filter, Document.mem_descendants_iff hwf] at hmem
  obtain ⟨⟨hroot, -⟩, hnamed⟩ := hmem
  have hconv : isConvertible d n = true := by
    rw [isConvertible, hnamed, hcourse.isInFallbackIsland_of_mem hn]
    rfl
  have hout := hcourse.outlived_of_mem hn (keptByMark_exposed (∃ y, policy.Escapes d n y)) <| by
    intro t ht
    -- What the element is to become is what the recursion over the nodes makes of it.
    have hconverted : policy.converted d n = [t] := by
      rw [Policy.converted, ← pending_eq_convertTree hwf hroot, ← map_fst_outcomes hwf policy,
        ht]
    refine ⟨?_, ?_⟩
    · rw [converted_eq policy hwf, if_pos hconv] at hconverted
      exact sourceUrl?_of_mem_replaceTree (hconverted ▸ List.mem_singleton_self t)
    · rw [← exists_exposed_converted hwf hhttps, hconverted]
      simp
  refine ⟨(Document.isConnected_iff hwf').mpr (hout.connected hlive), ?_⟩
  rw [← (hout.tree hlive).2, Tree.Exposed, Document.has_tree hwf']
  simp only [Document.mem_subtree_iff hwf', Document.isInsecure_eq]

/-- A source whose URL is rejected, and one further down whose URL is not looked at. -/
theorem reachable_insecure_iff_of_sources :
    let d := Markup.readMarkup <|
      "<audio src=//a.b/c><source src=http://a.b/d><p><audio src=http://a.b/e></audio>" ++
      "<source src=http://a.b/f></p></audio>"
    let policy : Policy := {}
    let r : NodeId := ⟨8⟩
    Reachable d ∧ policy.requireHttps = true ∧
    (⟨1⟩, .replaced r) ∈ (policy.convertAudio d).1.outcomes ∧
    (policy.convertAudio d).2.contains r = true ∧
    (policy.convertAudio d).2.isConnected r = true ∧
    ((∃ z ∈ (policy.convertAudio d).2.subtree r, (policy.convertAudio d).2.isInsecure z = true) ↔
      ∃ y, policy.Escapes d ⟨1⟩ y) := by
  intro d policy r
  have h : Reachable d := .read _
  have hfacts : (⟨1⟩, .replaced r) ∈ (policy.convertAudio d).1.outcomes ∧
      (policy.convertAudio d).2.contains r = true := by decide +kernel
  obtain ⟨hn, hlive⟩ := hfacts
  exact ⟨h, rfl, hn, hlive, reachable_insecure_iff h rfl hn hlive⟩

/-- So a secure transport is not enforced everywhere: an image inside an audio element keeps its URL
    in the replacement. -/
theorem insecure_image_in_replacement :
    let d := Markup.readMarkup
      "<audio src=\"https://x.com/a.mp3\"><img src=\"http://x.com/i.png\"></audio>"
    let policy : Policy := {}
    let r : NodeId := ⟨4⟩
    Reachable d ∧ policy.requireHttps = true ∧
    (⟨1⟩, .replaced r) ∈ (policy.convertAudio d).1.outcomes ∧
    (policy.convertAudio d).2.isConnected r = true ∧
    ∃ z ∈ (policy.convertAudio d).2.subtree r, (policy.convertAudio d).2.isInsecure z = true := by
  intro d policy r
  refine ⟨.read _, rfl, ?_⟩
  decide +kernel

end Conversion

end AmpMarkup
