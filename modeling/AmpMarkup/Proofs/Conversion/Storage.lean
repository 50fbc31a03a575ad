import AmpMarkup.Proofs.Conversion.Settled
import AmpMarkup.Proofs.Markup.CreationOrder
import AmpMarkup.Proofs.Markup.RoundTrip

namespace AmpMarkup

open AmpMarkup.Markup
open Document (root)

/-!
# Conversion and storage as text

What a conversion makes of something that has been read can be written and read again: new elements
and attributes have names that can stand in a tag, and no text is put into a `script` or a `style`
element. Joining neighbouring texts moves no element, so what has been settled stays settled.

* `Attributes.IsWritable` — attributes with names that can stand in a tag; `isWritable_filter` —
  what is made of them.
* `readable_convertTree` — markup can say the conversion of what it can say.
* `isSettled_merge` — settled trees are settled when they are read back.
* `conversion_stable_across_storage` — storing a converted document as text changes nothing, and
  converting it again has nothing to do.
-/

/-! ### Attributes -/

namespace Attributes

variable {a : Attributes} {name : String}

/-- Attributes that can be written and read back. -/
def IsWritable (a : Attributes) : Prop := ∀ x ∈ a.names, IsName x

/-- Without attributes there is nothing to write. -/
theorem isWritable_empty : empty.IsWritable := fun _ hx => absurd hx List.not_mem_nil

/-- Setting an attribute by a name that can be written leaves a list that can be written. -/
theorem IsWritable.set (h : a.IsWritable) (hname : IsName name) (value : String) :
    (a.set name value).IsWritable := by
  intro x hx
  rw [names, entries_set] at hx
  rcases names_setEntry name value a.entries with hsame | ⟨hnew, -⟩
  · rw [hsame] at hx
    exact h x hx
  · rw [hnew, hname.fold_eq, List.mem_append, List.mem_singleton] at hx
    rcases hx with hx | rfl
    · exact h x hx
    · exact hname

/-- So does erasing an attribute. -/
theorem IsWritable.erase (h : a.IsWritable) (name : String) : (a.erase name).IsWritable := by
  intro x hx
  have hsub : (a.erase name).entries.Sublist a.entries := List.eraseP_sublist
  exact h x ((hsub.map Prod.fst).subset hx)

end Attributes

/-! ### Settled trees -/

namespace Tree

mutual

/-- What is settled is settled when neighbouring texts have been joined. -/
theorem isSettled_merge {inIsland : Bool} : ∀ t : Tree, t.isSettled inIsland = true →
    t.merge.isSettled inIsland = true
  | node kind children, h => by
    rw [isSettled, Bool.and_eq_true] at h
    rw [merge, isSettled, Bool.and_eq_true]
    exact ⟨h.1, allSettled_mergeAll children h.2⟩

/-- Merging texts does not bring back anything to convert. -/
theorem allSettled_mergeAll {inIsland : Bool} : ∀ ts : List Tree, allSettled inIsland ts = true →
    allSettled inIsland (mergeAll ts) = true
  | [], _ => by rw [mergeAll, allSettled]
  | t :: rest, h => by
    rw [allSettled, Bool.and_eq_true] at h
    have ih := allSettled_mergeAll rest h.2
    cases ht : t.isText with
    | true =>
      obtain ⟨content, children, rfl⟩ := eq_text_of_isText ht
      rw [mergeAll_text]
      have htext : ∀ s, isSettled inIsland (node (.text s) []) = true := fun s => rfl
      rcases head_cases (mergeAll rest) with ⟨content', children', rest', hrest⟩ | hhead
      · rw [hrest, allSettled, Bool.and_eq_true] at ih
        rw [hrest, joinText_text, allSettled, htext, ih.2]
        rfl
      · rw [joinText_of_not_text hhead]
        split
        · exact ih
        · rw [allSettled, htext, ih]
          rfl
    | false =>
      rw [mergeAll_of_not_text ht, allSettled, isSettled_merge t h.1, ih]
      rfl

end

end Tree

namespace Conversion

open AmpMarkup.Attributes (IsWritable)
open AmpMarkup.Tree (Readable AllReadable allReadable_iff allReadable_append)

variable {a : Attributes}

/-- An attribute keeps its name, or it gets the one that the rules give it. -/
theorem name_of_filterEntry? {policy : Policy} {table : AttributeTable} {e e' : String × String}
    (h : policy.filterEntry? table e = some e') :
    e'.1 = e.1 ∨ ruleFor table e.1 = .rename e'.1 := by
  rw [Policy.filterEntry?] at h
  split at h
  · obtain ⟨url, -, rfl⟩ := Option.map_eq_some_iff.mp h
    exact .inl rfl
  · obtain ⟨length, -, rfl⟩ := Option.map_eq_some_iff.mp h
    exact .inl rfl
  · split at h
    · cases h
    · exact .inl (by rw [← Option.some.inj h])
  · rename_i target hrule
    exact .inr (by rw [hrule, ← Option.some.inj h])
  · exact .inl (by rw [Option.some.inj h])

/-- The names that the rules for audio elements give. -/
theorem isName_of_audioRules {name target : String} (h : ruleFor audioRules name = .rename target) :
    IsName target := by
  have hall : ∀ entry ∈ audioRules, ∀ target, entry.2 = .rename target → IsName target := by
    intro entry hentry target htarget
    have hnames : target = "layout" ∨ target = "noloading" := by
      simp only [audioRules, List.mem_cons, List.not_mem_nil, or_false] at hentry
      rcases hentry with rfl | rfl | rfl | rfl | rfl | rfl | rfl | rfl | rfl <;> simp_all
    rcases hnames with rfl | rfl <;> decide
  rw [ruleFor] at h
  split at h
  · rename_i entry hfind
    exact hall entry (List.mem_of_find?_eq_some hfind) target h
  · cases h

/-- The filter leaves the names that have been there, or new ones that can be written. -/
theorem isWritable_filter (policy : Policy) (h : a.IsWritable) :
    (policy.filter audioRules a).IsWritable := by
  intro x hx
  obtain ⟨e, he, rfl⟩ := List.mem_map.mp hx
  obtain ⟨p, hp, rfl⟩ := Attributes.mem_ofList he
  obtain ⟨q, hq, hfilter⟩ := List.mem_filterMap.mp hp
  have hpname : IsName p.1 := by
    rcases name_of_filterEntry? hfilter with hsame | hrule
    · exact hsame ▸ h q.1 (List.mem_map_of_mem hq)
    · exact isName_of_audioRules hrule
  show IsName (Text.fold p.1)
  rw [hpname.fold_eq]
  exact hpname

/-- The fallback takes on attributes by names that can be written. -/
theorem isWritable_matchMedia (model : Attributes) (h : a.IsWritable) :
    (matchMedia model a).IsWritable := by
  have hnames : ∀ name ∈ mediaAttributes, IsName name := by decide
  rw [matchMedia]
  generalize mediaAttributes = names at hnames
  induction names generalizing a with
  | nil => exact h
  | cons name rest ih =>
    refine ih ?_ fun x hx => hnames x (List.mem_cons_of_mem name hx)
    dsimp only
    split
    · exact h.set (hnames name List.mem_cons_self) _
    · exact h.erase name

/-! ### Trees -/

variable {raw : Bool} {t : Tree} {ts : List Tree}

/-- Other attributes that can be written make no difference. -/
theorem readable_mapAttributes {f : Attributes → Attributes} (h : t.Readable raw)
    (hf : ∀ a, a.IsWritable → (f a).IsWritable) : (t.mapAttributes f).Readable raw := by
  match t, h with
  | .node (.element name a) children, h =>
    obtain ⟨hname, hnames, hrest⟩ := h
    exact ⟨hname, hf a hnames, hrest⟩
  | .node (.text content) children, h => exact h
  | .node (.comment content) children, h => exact h

/-- The children that are kept can be read back, with the mark on one of them. -/
theorem allReadable_kept (policy : Policy) (h : AllReadable raw ts) :
    AllReadable raw (markFirst (ts.filterMap policy.keepTree?)) := by
  have hmark : ∀ us, AllReadable raw us → AllReadable raw (markFirst us) := by
    intro us
    induction us with
    | nil => exact fun h => h
    | cons t rest ih =>
      intro h
      rw [markFirst]
      split
      · exact ⟨readable_mapAttributes h.1 fun a ha => ha.set (by decide) _, h.2⟩
      · exact ⟨h.1, ih h.2⟩
  refine hmark _ ?_
  rw [allReadable_iff] at h ⊢
  intro t ht
  obtain ⟨u, hu, hkeep⟩ := List.mem_filterMap.mp ht
  rw [Policy.keepTree?] at hkeep
  split at hkeep
  · rw [← Option.some.inj hkeep]
    exact h u hu
  · split at hkeep
    · rw [← Option.some.inj hkeep]
      exact readable_mapAttributes (h u hu) fun a ha => ha.set (by decide) _
    · cases hkeep

/-- An audio element that can be written has its name in lower case. -/
theorem eq_audioTag {name : String} (hname : IsName name)
    (h : (NodeKind.element name a).isNamed audioTag = true) : name = audioTag := by
  rw [NodeKind.isNamed, NodeKind.tagName?, Option.any_some, Text.sameFold_iff, hname.fold_eq] at h
  rw [h]
  exact Text.fold_eq_self (by decide)

/-- Markup can say the replacement of an audio element. -/
theorem readable_replaceTree {policy : Policy} (ha : a.IsWritable) (h : AllReadable false ts)
    (ht : t ∈ policy.replaceTree (.element audioTag a) ts) : t.Readable raw := by
  have hkept := allReadable_kept policy h
  have hreplacementName : IsName replacementTag := by decide
  have hislandName : IsName fallbackTag := by decide
  have haudioName : IsName audioTag := by decide
  have hwidthName : IsName "width" := by decide
  have hnames := (isWritable_filter policy ha).set hwidthName "auto"
  rw [Policy.replaceTree] at ht
  dsimp only at ht
  split at ht
  · rw [List.mem_singleton, NodeKind.attributes?, Option.getD_some, NodeKind.mapAttributes,
      Reading.ofElement_of_isName hreplacementName, Reading.ofElement_of_isName hislandName] at ht
    -- The fallback, the island around it, and the replacement.
    have hfallback : (Tree.node (.element audioTag
        (matchMedia ((policy.filter audioRules a).set "width" "auto") a))
        (markFirst (ts.filterMap policy.keepTree?))).Readable false :=
      ⟨haudioName, isWritable_matchMedia _ ha, fun hv => absurd hv (by decide), hkept⟩
    have hisland : (Tree.node (.element fallbackTag .empty) [.node (.element audioTag
        (matchMedia ((policy.filter audioRules a).set "width" "auto") a))
        (markFirst (ts.filterMap policy.keepTree?))]).Readable false :=
      ⟨hislandName, Attributes.isWritable_empty, fun hv => absurd hv (by decide), hfallback,
        trivial⟩
    rw [ht]
    refine ⟨hreplacementName, hnames, fun hv => absurd hv (by decide), ?_⟩
    exact allReadable_append hkept ⟨hisland, trivial⟩
  · exact absurd ht List.not_mem_nil

mutual

/-- Markup can say the conversion of what it can say. -/
theorem readable_convertTree (policy : Policy) (inIsland : Bool) {raw : Bool} :
    ∀ t : Tree, t.Readable raw → ∀ t' ∈ policy.convertTree inIsland t, t'.Readable raw
  | .node .document _, h => absurd h (by simp [Readable])
  | .node (.text content) children, h => by
    obtain ⟨hplain, rfl⟩ := h
    intro t' ht'
    rw [Policy.convertTree, Policy.convertTrees] at ht'
    rw [List.mem_singleton.mp ht']
    exact ⟨hplain, rfl⟩
  | .node (.comment content) children, h => by
    obtain ⟨hcontent, rfl⟩ := h
    intro t' ht'
    rw [Policy.convertTree, Policy.convertTrees] at ht'
    rw [List.mem_singleton.mp ht']
    exact ⟨hcontent, rfl⟩
  | .node (.element name a) children, h => by
    obtain ⟨hname, hnames, hvoid, hchildren⟩ := h
    have hconverted := allReadable_convertTrees policy
      ((NodeKind.element name a).isNamed fallbackTag) children hchildren
    intro t' ht'
    rw [Policy.convertTree] at ht'
    split at ht'
    · rename_i hconvert
      have hnamed := (Bool.and_eq_true _ _ ▸ hconvert).1
      obtain rfl := eq_audioTag hname hnamed
      exact readable_replaceTree hnames hconverted ht'
    · rw [List.mem_singleton.mp ht']
      refine ⟨hname, hnames, fun hv => ?_, hconverted⟩
      rw [hvoid hv, Policy.convertTrees]

/-- Trees that can be read back are converted to such trees, by recursion on the trees. -/
theorem allReadable_convertTrees (policy : Policy) (inIsland : Bool) {raw : Bool} :
    ∀ ts : List Tree, AllReadable raw ts → AllReadable raw (policy.convertTrees inIsland ts)
  | [], _ => by rw [Policy.convertTrees]; trivial
  | t :: rest, h => by
    rw [Policy.convertTrees]
    exact allReadable_append (allReadable_iff.mpr (readable_convertTree policy inIsland t h.1))
      (allReadable_convertTrees policy inIsland rest h.2)

end

/-! ### Storage -/

variable {policy : Policy} {d : Document} {m : String}

/-- Markup can say what the conversion of a document makes of the trees below the root. -/
theorem allReadable_convertAudio (hwf : d.WellFormed)
    (h : AllReadable false ((d.children root).map d.tree)) :
    AllReadable false
      (((policy.convertAudio d).2.children root).map (policy.convertAudio d).2.tree) := by
  have hwf' := wellFormed_convertAudio policy hwf
  have htree := tree_convertAudio hwf policy
  have hroot : (NodeKind.document.isNamed audioTag && !false) = false := rfl
  rw [Document.tree_eq hwf', Document.tree_eq hwf, hwf'.kind_root, hwf.kind_root,
    Option.getD_some, Policy.convertTree] at htree
  rw [hroot, if_neg Bool.false_ne_true, List.cons.injEq, Tree.node.injEq] at htree
  rw [htree.1.2]
  exact allReadable_convertTrees policy _ _ h

/-- What is read from a stored conversion has nothing to be converted. -/
theorem convertAudio_readMarkup (hwf : d.WellFormed)
    (h : AllReadable false ((d.children root).map d.tree)) (policy' : Policy) :
    policy'.convertAudio (readMarkup ((policy.convertAudio d).2.toHtml root)) =
      (idleReport (readMarkup ((policy.convertAudio d).2.toHtml root)),
        readMarkup ((policy.convertAudio d).2.toHtml root)) := by
  have hwf' := wellFormed_convertAudio policy hwf
  have hread := wellFormed_readMarkup ((policy.convertAudio d).2.toHtml root)
  have hsettled : ((policy.convertAudio d).2.tree root).isSettled false = true :=
    isSettled_convertTree policy false _ _
      (tree_convertAudio hwf policy ▸ List.mem_singleton_self _)
  have htree : (readMarkup ((policy.convertAudio d).2.toHtml root)).tree root =
      ((policy.convertAudio d).2.tree root).merge := by
    rw [Document.toHtml_root hwf', Tree.tree_readMarkup (allReadable_convertAudio hwf h),
      Document.tree_eq hwf' root, hwf'.kind_root, Option.getD_some, Tree.merge]
  refine convertAudio_of_islands fun n hn => ?_
  rw [Document.elementsNamed, List.mem_filter, Document.mem_descendants_iff hread] at hn
  refine island_of_settled hread ?_ hn.1.1 hn.2
  have hroot :
      (readMarkup ((policy.convertAudio d).2.toHtml root)).isInFallbackIsland root = false := by
    rw [Document.isInFallbackIsland, hread.parent_root, Option.any_none]
  rw [hroot, htree]
  exact Tree.isSettled_merge _ hsettled

/-- Whatever has been read, with plain text in its `script` and `style` elements: after one pass the
    document can be stored as text. What is read from that text is written in the same way, and a
    pass under the same policy finds nothing to do in it and leaves what is written. -/
theorem conversion_stable_across_storage (hraw : (readMarkup m).HasPlainRawText) (policy : Policy) :
    ∃ r, (Pass.default policy).run (readMarkup m) = .ok r ∧
      (readMarkup (r.document.toHtml root)).toHtml root = r.document.toHtml root ∧
      ∃ r', (Pass.default policy).run (readMarkup (r.document.toHtml root)) = .ok r' ∧
        r'.isModified = false ∧ r'.document.toHtml root = r.document.toHtml root := by
  have hwf := wellFormed_readMarkup m
  have hreadable := Document.allReadable_children hwf (printable_readMarkup hraw)
  have hback : (readMarkup ((policy.convertAudio (readMarkup m)).2.toHtml root)).toHtml root =
      (policy.convertAudio (readMarkup m)).2.toHtml root := by
    rw [Document.toHtml_root (wellFormed_convertAudio policy hwf)]
    exact Tree.toHtml_readMarkup (allReadable_convertAudio hwf hreadable)
  refine ⟨_, run_pass hwf policy [], hback, _,
    run_pass (wellFormed_readMarkup _) policy [], ?_, ?_⟩
  · rw [convertAudio_readMarkup hwf hreadable]
    simp [PassResult.isModified, (isIdle_idleReport _).unmodified]
  · rw [convertAudio_readMarkup hwf hreadable]
    exact hback

/-- Markup with an element that is replaced, with nested ones, and with one that is removed between
    two texts. -/
theorem conversion_stable_across_storage_nested :
    let m := "<audio src=https://a.b/c>x<audio><source src=//a.b/c></audio></audio>" ++
      "y<audio src=http://a.b/c></audio>z<script>f(1)</script>"
    (readMarkup m).HasPlainRawText ∧
    ∃ r, (Pass.default {}).run (readMarkup m) = .ok r ∧
      (readMarkup (r.document.toHtml root)).toHtml root = r.document.toHtml root ∧
      ∃ r', (Pass.default {}).run (readMarkup (r.document.toHtml root)) = .ok r' ∧
        r'.isModified = false ∧ r'.document.toHtml root = r.document.toHtml root :=
  have hprintable : (readMarkup ("<audio src=https://a.b/c>x<audio><source src=//a.b/c></audio>" ++
      "</audio>y<audio src=http://a.b/c></audio>z<script>f(1)</script>")).Printable := by
    decide +kernel
  ⟨hprintable.raw, conversion_stable_across_storage hprintable.raw {}⟩

end Conversion

end AmpMarkup
