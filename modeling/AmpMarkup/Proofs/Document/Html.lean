import AmpMarkup.Document.HtmlPiece
import AmpMarkup.Document.TreeText
import AmpMarkup.Markup.Printable
import AmpMarkup.Proofs.Document.Subtree
import AmpMarkup.Proofs.Markup.Entity
import Mathlib.Algebra.BigOperators.Ring.List
import Mathlib.Algebra.Ring.Nat

namespace AmpMarkup

open AmpMarkup.Markup

/-!
# HTML by recursion

The text of a document is made with a list of steps that are still to be taken. Every node takes at
most two of them, so in a well-formed document the steps are enough, and the text is that of the
tree.

* `Tree.join_pieces` — the pieces of a tree make up its text.
* `Document.sum_stepCost_writeStep`, `Document.stepPieces_eq` — what one step costs and comes to.
* `Document.writes_flatMap`, `Document.Writes.htmlPieces_eq` — taking all steps comes to an end, and
  with a bound that is high enough the same is written.
* `Document.toHtml_eq`, `Document.innerHtml_eq` — the texts of a node are those of its tree.
* `Tree.listToHtml_joinText` — a text in front of others is written in front of them, also if it is
  joined to the first of them.
-/

/-! ### Pieces of trees -/

namespace Tree

open Document (HtmlPiece)

/-- Trees are written one after the other. -/
theorem listToHtml_eq_join (raw : Bool) (ts : List Tree) :
    listToHtml raw ts = String.join (ts.map (toHtml raw)) := by
  induction ts with
  | nil => rfl
  | cons t rest ih => rw [listToHtml, ih, List.map_cons, String.join_cons]

/-- The pieces of trees stand one after the other. -/
theorem listPieces_eq_flatMap (raw : Bool) (ts : List Tree) :
    listPieces raw ts = ts.flatMap (pieces raw) := by
  induction ts with
  | nil => rfl
  | cons t rest ih => rw [listPieces, ih, List.flatMap_cons]

mutual

/-- The pieces of a tree make up its text. -/
theorem join_pieces (raw : Bool) :
    ∀ t : Tree, String.join ((t.pieces raw).map HtmlPiece.html) = t.toHtml raw
  | node .document children => by rw [pieces, toHtml, join_listPieces]
  | node (.element name a) children => by
    rw [pieces, toHtml]
    split
    · simp [HtmlPiece.html]
    · simp [HtmlPiece.html, join_listPieces]
  | node (.text content) _ => by simp [pieces, toHtml, HtmlPiece.html]
  | node (.comment content) _ => by simp [pieces, toHtml, HtmlPiece.html]

/-- The pieces of trees, joined, are what is written for them. -/
theorem join_listPieces (raw : Bool) :
    ∀ ts : List Tree, String.join ((listPieces raw ts).map HtmlPiece.html) = listToHtml raw ts
  | [] => rfl
  | t :: rest => by
    rw [listPieces, List.map_append, String.join_append, join_pieces, join_listPieces, listToHtml]

end

end Tree

namespace Document

variable {d : Document} {n : NodeId}

/-! ### Steps -/

/-- No more steps than these are taken. -/
def stepCost (d : Document) : HtmlStep → Nat
  | .node n _ => 2 * (d.subtree n).length
  | .endTag _ => 1

/-- What a step comes to. -/
def stepPieces (d : Document) : HtmlStep → List HtmlPiece
  | .node n raw => (d.tree n).pieces raw
  | .endTag name => [.endTag name]

/-- The children of a node and its two tags take two steps for each node of the subtree. -/
theorem sum_stepCost_children (hwf : d.WellFormed) (n : NodeId) (raw : Bool) :
    (((d.children n).map (HtmlStep.node · raw)).map d.stepCost).sum + 2 =
      2 * (d.subtree n).length := by
  rw [subtree_eq hwf, List.length_cons, List.length_flatMap, List.map_map, Nat.mul_add]
  congr 1
  exact List.sum_map_mul_left (d.children n) (fun c => (d.subtree c).length) 2

/-- The children of a node, one after the other, give the pieces of their trees. -/
theorem flatMap_stepPieces_children (d : Document) (n : NodeId) (raw : Bool) :
    ((d.children n).map (HtmlStep.node · raw)).flatMap d.stepPieces =
      Tree.listPieces raw ((d.children n).map d.tree) := by
  rw [Tree.listPieces_eq_flatMap, List.flatMap_map, List.flatMap_map]
  rfl

/-- A step is paid for with what it costs: the steps it leads to cost less. -/
theorem sum_stepCost_writeStep (hwf : d.WellFormed) (step : HtmlStep) :
    ((d.writeStep step).2.map d.stepCost).sum < d.stepCost step := by
  cases step with
  | endTag name => exact Nat.zero_lt_one
  | node n raw =>
    have hsum := sum_stepCost_children hwf n
    have hpos : 0 < 2 * (d.subtree n).length := hsum false ▸ Nat.zero_lt_succ _
    rw [writeStep, stepCost]
    cases d.kind? n with
    | none => exact hpos
    | some k =>
      cases k with
      | document => exact Nat.lt_of_lt_of_eq (Nat.lt_add_of_pos_right Nat.two_pos) (hsum false)
      | element name a =>
        dsimp only
        split
        · exact hpos
        · rw [List.map_append, List.sum_append, ← hsum (isRawText name)]
          exact Nat.lt_succ_self _
      | text content => exact hpos
      | comment content => exact hpos

/-- What a step comes to is what it writes and what the steps come to that it leads to. -/
theorem stepPieces_eq (hwf : d.WellFormed) (step : HtmlStep) :
    d.stepPieces step =
      (d.writeStep step).1 ++ (d.writeStep step).2.flatMap d.stepPieces := by
  cases step with
  | endTag name => rfl
  | node n raw =>
    have hchildren := flatMap_stepPieces_children d n
    rw [stepPieces, tree_eq hwf, writeStep]
    cases hk : d.kind? n with
    | none =>
      have hnil : d.children n = [] :=
        children_eq_nil_of_not_contains (by rw [contains_eq_isSome_kind?, hk, Option.isSome_none])
      rw [hnil]
      rfl
    | some k =>
      cases k with
      | document =>
        dsimp only [Option.getD_some]
        rw [Tree.pieces, hchildren, List.nil_append]
      | element name a =>
        dsimp only [Option.getD_some]
        rw [Tree.pieces, List.isEmpty_map]
        split
        · rfl
        · rw [List.flatMap_append, hchildren]
          rfl
      | text content => rfl
      | comment content => rfl

/-- Taking all steps comes to an end. -/
theorem writes_flatMap (hwf : d.WellFormed) (steps : List HtmlStep) :
    d.Writes steps (steps.flatMap d.stepPieces) := by
  -- The costs of all steps together go down.
  generalize hk : (steps.map d.stepCost).sum = k
  induction k using Nat.strongRecOn generalizing steps with
  | ind k ih =>
    cases steps with
    | nil => exact .done
    | cons step rest =>
      rw [List.flatMap_cons, stepPieces_eq hwf, List.append_assoc, ← List.flatMap_append]
      refine .step (ih _ ?_ _ rfl)
      have hlt := sum_stepCost_writeStep hwf step
      rw [← hk, List.map_append, List.sum_append, List.map_cons, List.sum_cons]
      exact Nat.add_lt_add_right hlt _

/-- One step of the writer with a bound. -/
theorem htmlPieces_cons (d : Document) (fuel : Nat) (step : HtmlStep) (rest : List HtmlStep) :
    d.htmlPieces (fuel + 1) (step :: rest) =
      (d.writeStep step).1.map HtmlPiece.html ++
        d.htmlPieces fuel ((d.writeStep step).2 ++ rest) := by
  cases step with
  | endTag name => rfl
  | node n raw =>
    rw [htmlPieces, writeStep]
    cases d.kind? n with
    | none => rfl
    | some k =>
      cases k with
      | element name a =>
        dsimp only
        split
        · rfl
        · rw [List.append_assoc]
          rfl
      | _ => rfl

/-- With enough steps to go the writer with a bound writes what the one without it writes. -/
theorem Writes.htmlPieces_eq (hwf : d.WellFormed) {steps : List HtmlStep}
    {pieces : List HtmlPiece} (hw : d.Writes steps pieces) {fuel : Nat}
    (hfuel : (steps.map d.stepCost).sum ≤ fuel) :
    d.htmlPieces fuel steps = pieces.map HtmlPiece.html := by
  induction hw generalizing fuel with
  | done => cases fuel <;> rfl
  | @step step rest pieces _ ih =>
    have hlt := sum_stepCost_writeStep hwf step
    rw [List.map_cons, List.sum_cons] at hfuel
    cases fuel with
    | zero => omega
    | succ fuel =>
      rw [htmlPieces_cons, ih, List.map_append]
      rw [List.map_append, List.sum_append]
      omega

/-! ### Nodes -/

/-- The text of a node is the text of its tree. -/
theorem toHtml_eq (hwf : d.WellFormed) (hn : d.contains n = true) :
    d.toHtml n = (d.tree n).toHtml false := by
  have hle := length_subtree_le hwf hn
  rw [toHtml, htmlOfSteps, (writes_flatMap hwf _).htmlPieces_eq hwf (by simp [stepCost]; omega),
    List.flatMap_singleton, stepPieces, Tree.join_pieces]

/-- The text of what is below a node is the text of the trees of its children. -/
theorem innerHtml_eq (hwf : d.WellFormed) (hn : d.contains n = true) :
    d.innerHtml n =
      Tree.listToHtml ((d.tagName? n).any isRawText) ((d.children n).map d.tree) := by
  have hle := length_subtree_le hwf hn
  have hsum := sum_stepCost_children hwf n ((d.tagName? n).any isRawText)
  rw [innerHtml, htmlOfSteps, (writes_flatMap hwf _).htmlPieces_eq hwf (by omega),
    flatMap_stepPieces_children, Tree.join_listPieces]

end Document

/-! ### Joined texts -/

namespace Document

/-- An empty text is written as nothing. -/
theorem htmlText_empty (raw : Bool) : htmlText raw "" = "" := by
  cases raw <;> rfl

/-- Texts are escaped one after the other. -/
theorem htmlText_append (raw : Bool) (s t : String) :
    htmlText raw (s ++ t) = htmlText raw s ++ htmlText raw t := by
  cases raw with
  | true => rfl
  | false => exact escapeText_append s t

end Document

namespace Tree

/-- Text in front of trees is written in front of them. -/
theorem listToHtml_joinText (raw : Bool) (s : String) (ts : List Tree) :
    listToHtml raw (joinText s ts) = Document.htmlText raw s ++ listToHtml raw ts := by
  rw [joinText.eq_def]
  split
  · rw [listToHtml, listToHtml, toHtml, toHtml, Document.htmlText_append, String.append_assoc]
  · split
    · rename_i hempty
      rw [String.isEmpty_iff.mp hempty, Document.htmlText_empty, String.empty_append]
    · rw [listToHtml, toHtml]

end Tree

end AmpMarkup
