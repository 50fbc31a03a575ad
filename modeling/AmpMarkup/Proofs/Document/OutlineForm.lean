import AmpMarkup.Document.OutlineForm
import AmpMarkup.Proofs.Conversion.LinkInvariant
import AmpMarkup.Proofs.Document.Outline
import AmpMarkup.Proofs.Markup.Entity
import AmpMarkup.Proofs.Text.Ascii

namespace AmpMarkup

open AmpMarkup.Text

/-!
# An outline has one line a node

The walk that makes the lines of an outline leaves out what is below a text of blanks. Nothing is
below a text, so the lines are those of the nodes of the subtree, in its order, and the depth at
which a node is met is the number of parent links up to the top.

* `Document.ParentSteps.unique` — one way leads up.
* `NodeKind.outlineEntry?_eq_none_iff`, `NodeKind.showsAs_entry` — which nodes are shown,
  and as what.
* `Document.outline_forall₂` — node by node, the lines of a subtree.
* `Document.writeLines_eq` — lines written one after the other are joined by new lines.
* `Conversion.reachable_outline_lines` — all of it, for every document with a history.
-/

/-! ### One node -/

namespace NodeKind

variable {kind : NodeKind} {entry : String}

/-- Only texts of blanks are left out. -/
theorem outlineEntry?_eq_none_iff : kind.outlineEntry? = none ↔ kind.IsBlankText := by
  cases kind with
  | text content =>
    have hblank : (text content).IsBlankText ↔ ∀ c ∈ content.toList, isBlank c = true :=
      ⟨fun | .text h => h, .text⟩
    rw [hblank, ← List.all_eq_true, outlineEntry?, ite_eq_left_iff]
    simp
  | _ => constructor <;> (intro h; cases h)

/-- Line breaks are replaced one by one. -/
theorem replaceAll_lineBreak (s : List Char) :
    replaceAll ['\n'] ['\\', 'n'] s = s.flatMap fun c => if c = '\n' then ['\\', 'n'] else [c] := by
  have hpieces : replaceAll ['\n'] ['\\', 'n'] (s.flatMap fun c => [c]) = _ :=
    replaceAll_flatMap (List.cons_ne_nil _ _)
      (g := fun c => if c = '\n' then ['\\', 'n'] else [c]) fun c _ => ?_
  · rwa [List.flatMap_singleton'] at hpieces
  by_cases hc : c = '\n'
  · exact .inl ⟨by rw [hc], if_pos hc⟩
  · have hne : ('\n' == c) = false ∧ (c == '\n') = false := by simp [hc, Ne.symm hc]
    refine .inr ⟨(if_neg hc).symm, ?_⟩
    simp [Avoids, List.isPrefixOf, hne]

/-- The entry of a node shows its kind. -/
theorem showsAs_entry (h : kind.outlineEntry? = some entry) :
    kind.ShowsAs entry.toList := by
  cases kind with
  | document =>
    cases h
    exact .document
  | element name attributes =>
    cases h
    have hform := @ShowsAs.element name attributes
    simpa [List.flatMap_map] using hform
  | text content =>
    unfold outlineEntry? at h
    rw [Option.ite_none_left_eq_some, Option.some.injEq] at h
    obtain ⟨-, rfl⟩ := h
    have hform := @ShowsAs.text content
    simpa [replaceAll_lineBreak] using hform
  | comment content =>
    cases h
    have hform := @ShowsAs.comment content
    simpa using hform

end NodeKind

namespace Document

variable {d : Document} {m n r : NodeId} {j k : Nat}

/-! ### The way up -/

/-- Each step up to the root of an outline adds one level. -/
theorem ParentSteps.length_lineage (h : d.WellFormed) (hs : d.ParentSteps r n k) :
    (d.lineage n).length = (d.lineage r).length + k := by
  induction hs with
  | here => rfl
  | up hp _ ih => rw [length_lineage_child h (h.mem_children hp), ih, Nat.add_assoc]

/-- There is only one number of steps from one node up to another. -/
theorem ParentSteps.unique (h : d.WellFormed) (hj : d.ParentSteps r n j)
    (hk : d.ParentSteps r n k) : j = k := by
  have hlen := hj.length_lineage h
  rw [hk.length_lineage h] at hlen
  omega

/-- An indented line starts with two blanks for each level. -/
theorem toList_indented (depth : Nat) (line : String) :
    (indented depth line).toList = List.replicate (2 * depth) ' ' ++ line.toList := by
  rw [indented, String.toList_append, toList_pushn]

/-- The indented entry of a node is the line that the outline needs to have for it. -/
theorem isLineOf_indented {kind : NodeKind} {entry : String} (hk : d.kind? n = some kind)
    (hentry : kind.outlineEntry? = some entry) (hs : d.ParentSteps r n k) :
    d.IsLineOf r n (indented k entry) := by
  have hline := IsLineOf.intro hk (NodeKind.showsAs_entry hentry) hs
  rwa [← toList_indented, String.ofList_toList] at hline

/-! ### The lines of a subtree -/

/-- The nodes that are not left out. -/
def shown (d : Document) (ns : List NodeId) : List NodeId :=
  ns.filter fun n => d.outlineEntry? n |>.isSome

/-- Lists that correspond part by part correspond as a whole. -/
theorem forall₂_flatMap {α β γ : Type} {R : β → γ → Prop} {f : α → List β} {g : α → List γ}
    {l : List α} (h : ∀ a ∈ l, List.Forall₂ R (f a) (g a)) :
    List.Forall₂ R (l.flatMap f) (l.flatMap g) := by
  have hsame : List.Forall₂ (fun a b => a ∈ l ∧ a = b) l l :=
    List.forall₂_same.mpr fun a ha => ⟨ha, rfl⟩
  refine List.rel_flatMap hsame ?_
  rintro a _ ⟨ha, rfl⟩
  exact h a ha

/-- Under a node that is so many steps below `r` each line stands for the node in its place. -/
theorem outline_forall₂ (h : d.WellFormed) (hn : d.contains n = true)
    (hs : d.ParentSteps r n k) :
    List.Forall₂ (d.IsLineOf r) (d.shown (d.subtree n)) ((d.tree n).outline k) := by
  induction n using h.induction_down generalizing k with
  | _ n ih =>
    obtain ⟨kind, hkind⟩ := exists_kind? hn
    have hentry := outlineEntry?_of_kind? hkind
    rw [subtree_eq h, outline_tree h hkind]
    cases hline : kind.outlineEntry? with
    | none =>
      -- A text has no children, so nothing is lost by not going on.
      have hleaf : d.children n = [] := by
        refine h.children_leaf n kind hkind ?_
        cases NodeKind.outlineEntry?_eq_none_iff.mp hline
        rfl
      simp [shown, hleaf, hentry, hline]
    | some entry =>
      have hshown : d.shown (n :: (d.children n).flatMap d.subtree) =
          n :: (d.children n).flatMap fun c => d.shown (d.subtree c) := by
        simp only [shown, List.filter_cons, hentry, hline, Option.isSome_some, if_true,
          List.filter_flatMap]
      rw [hshown]
      refine .cons (isLineOf_indented hkind hline hs) (forall₂_flatMap fun c hc => ?_)
      exact ih c hc (h.contains_child hc) (.up (h.parent_of_mem hc) hs)

/-- The nodes that are not shown are the blank texts. -/
theorem notMem_shown_iff {ns : List NodeId} {kind : NodeKind} (hn : n ∈ ns)
    (hk : d.kind? n = some kind) : n ∉ d.shown ns ↔ kind.IsBlankText := by
  rw [← NodeKind.outlineEntry?_eq_none_iff, ← outlineEntry?_of_kind? hk, shown, List.mem_filter]
  simp [hn]

/-! ### The text -/

/-- From the second line on a new line comes before each. -/
theorem foldl_zipIdx_succ (text : String) (lines : List String) (i : Nat) :
    (lines.zipIdx (i + 1)).foldl
      (fun text (line, i) => (if i ≠ 0 then text ++ "\n" else text) ++ line) text =
      lines.foldl (fun text line => text ++ "\n" ++ line) text := by
  induction lines generalizing text i with
  | nil => rfl
  | cons line lines ih => rw [List.zipIdx_cons, List.foldl_cons, List.foldl_cons, ih]; rfl

/-- Lines that are appended each behind a line break are joined by line breaks. -/
theorem foldl_newline (text : String) (lines : List String) :
    lines.foldl (fun text line => text ++ "\n" ++ line) text =
      "\n".intercalate (text :: lines) := by
  induction lines generalizing text with
  | nil => simp
  | cons line lines ih =>
    rw [List.foldl_cons, ih, String.intercalate_cons_append, String.intercalate_cons_cons]

/-- Writing one line after the other joins them by new lines. -/
theorem writeLines_eq (lines : List String) : writeLines lines = "\n".intercalate lines := by
  cases lines with
  | nil => rfl
  | cons line lines =>
    have hfirst : writeLines (line :: lines) = (lines.zipIdx 1).foldl
        (fun text (line, i) => (if i ≠ 0 then text ++ "\n" else text) ++ line) line := by
      simp [writeLines]
    rw [hfirst, foldl_zipIdx_succ, foldl_newline]

end Document

/-! ### Documents with a history -/

namespace Conversion

open Document (root)

variable {d : Document} {r : NodeId}

/-- The outline of a live node of a document with a history shows, of this node and its descendants
    and in their order, all but the texts of blanks, each of them in one line of its own: the line
    has two spaces for each of the parent links from the node up to the top, of which there is one
    number only, and goes on with what the node itself is. What is displayed is what is rendered,
    the lines joined by new lines. -/
theorem reachable_outline_lines (h : Reachable d) (hr : d.contains r = true) :
    (r :: d.descendants r).Nodup ∧
    (∃ shown : List NodeId, shown.Sublist (r :: d.descendants r) ∧
      (∀ n ∈ r :: d.descendants r,
        n ∉ shown ↔ ∃ kind, d.kind? n = some kind ∧ kind.IsBlankText) ∧
      List.Forall₂ (d.IsLineOf r) shown (d.outline r)) ∧
    (∀ n j k, d.ParentSteps r n j → d.ParentSteps r n k → j = k) ∧
    d.displayOutline r = d.renderOutline r ∧
    d.renderOutline r = "\n".intercalate (d.outline r) := by
  have hwf := h.wellFormed
  have hlines := Document.outline_forall₂ hwf hr .here
  rw [← Document.outline_eq hwf hr] at hlines
  rw [← Document.subtree_eq_cons_descendants hwf]
  refine ⟨Document.nodup_subtree hwf r, ⟨_, List.filter_sublist, fun n hn => ?_, hlines⟩,
    fun n j k hj hk => hj.unique hwf hk, Document.writeLines_eq _, rfl⟩
  obtain ⟨kind, hk⟩ := Document.exists_kind? (Document.contains_of_mem_subtree hwf hr hn)
  rw [← Document.shown, Document.notMem_shown_iff hn hk]
  refine ⟨fun hblank => ⟨kind, hk, hblank⟩, ?_⟩
  rintro ⟨kind', hk', hblank⟩
  rw [hk, Option.some.injEq] at hk'
  exact hk' ▸ hblank

/-- A paragraph with a text of blanks and, one level deeper than its comment, a text of two
    lines. -/
theorem reachable_outline_lines_of_paragraph :
    let d := runAll .empty [.createElement "p" (.ofList [("lang", "en"), ("id", "x")]),
      .createText " \n", .createElement "b" .empty, .createText "a\nb", .createComment "c",
      .appendChild ⟨1⟩ ⟨2⟩, .appendChild ⟨1⟩ ⟨3⟩, .appendChild ⟨3⟩ ⟨4⟩, .appendChild ⟨1⟩ ⟨5⟩,
      .appendChild root ⟨1⟩]
    Reachable d ∧ d.contains ⟨1⟩ = true ∧
    (∃ shown : List NodeId, shown.Sublist [⟨1⟩, ⟨2⟩, ⟨3⟩, ⟨4⟩, ⟨5⟩] ∧ ⟨2⟩ ∉ shown ∧ ⟨4⟩ ∈ shown ∧
      List.Forall₂ (d.IsLineOf ⟨1⟩) shown
        ["<p lang=\"en\" id=\"x\">", "  <b>", "    \"a\\nb\"", "  <!-- c -->"]) ∧
    d.displayOutline ⟨1⟩ = "\n".intercalate
      ["<p lang=\"en\" id=\"x\">", "  <b>", "    \"a\\nb\"", "  <!-- c -->"] := by
  intro d
  have h : Reachable d := Reachable.empty.runAll _
  have hfacts : d.contains ⟨1⟩ = true ∧ d.descendants ⟨1⟩ = [⟨2⟩, ⟨3⟩, ⟨4⟩, ⟨5⟩] ∧
      d.kind? ⟨2⟩ = some (.text " \n") ∧ d.kind? ⟨4⟩ = some (.text "a\nb") ∧
      d.outline ⟨1⟩ = ["<p lang=\"en\" id=\"x\">", "  <b>", "    \"a\\nb\"", "  <!-- c -->"] := by
    decide +kernel
  clear_value d
  obtain ⟨hlive, hbelow, hblank, htext, houtline⟩ := hfacts
  obtain ⟨-, ⟨shown, hsub, hmem, hlines⟩, -, hdisplay, hrender⟩ := reachable_outline_lines h hlive
  rw [hbelow] at hsub hmem
  rw [houtline] at hlines hrender
  refine ⟨h, hlive, ⟨shown, hsub, ?_, ?_, hlines⟩, hdisplay.trans hrender⟩
  · exact (hmem ⟨2⟩ (by decide)).mpr ⟨_, hblank, .text (by decide)⟩
  · by_contra hout
    obtain ⟨kind, hk, hkind⟩ := (hmem ⟨4⟩ (by decide)).mp hout
    rw [htext, Option.some.injEq] at hk
    subst hk
    obtain ⟨hall⟩ := hkind
    exact absurd (hall 'a' (by decide)) (by decide)

end Conversion

end AmpMarkup
