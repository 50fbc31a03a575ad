import AmpMarkup.Document.Walk
import AmpMarkup.Proofs.Conversion.LinkInvariant
import AmpMarkup.Proofs.Text.Ascii

namespace AmpMarkup

open AmpMarkup.Text
open Document (root)
open Relation (TransGen)

/-!
# All readings describe the same tree

The way down through lists of children, the way up through parents and the way from sibling to
sibling are three computations. In a well-formed document each of them comes to an end by itself,
and what they meet is the same.

* `visits_flatMap`, `visits_descendants` — the walk down ends, with the subtrees of what waited.
* `walk_lineage`, `climbs_isConnected` — so does the walk up.
* `walk_nextSibling` — the walk from sibling to sibling meets the children.
* `isConnected_iff_mem_descendants`, `mem_elementsNamed_iff` — up and down see the same nodes.
* `reachable_readings_agree` — all of it, for every document with a history.
-/

namespace Document

variable {d : Document} {m n p : NodeId}

/-! ### Down -/

/-- The walk over waiting nodes ends when their subtrees have been gone through. -/
theorem visits_flatMap (h : d.WellFormed) (ns : List NodeId) :
    d.Visits ns (ns.flatMap d.subtree) := by
  -- The number of nodes that are still to be met goes down.
  generalize hk : (ns.flatMap d.subtree).length = k
  induction k using Nat.strongRecOn generalizing ns with
  | ind k ih =>
    cases ns with
    | nil => exact .done
    | cons n rest =>
      have hcons : (n :: rest).flatMap d.subtree =
          n :: (d.children n ++ rest).flatMap d.subtree := by
        rw [List.flatMap_cons, subtree_eq h, List.flatMap_append, List.cons_append]
      rw [hcons] at hk ⊢
      refine .visit (ih _ ?_ _ rfl)
      rw [← hk, List.length_cons]
      exact Nat.lt_succ_self _

/-- The descendants of a node are visited from its first child on. -/
theorem visits_descendants (h : d.WellFormed) (n : NodeId) :
    d.Visits (d.children n) (d.descendants n) := by
  rw [descendants_eq_flatMap h]
  exact visits_flatMap h _

/-- No descendant is visited twice. -/
theorem nodup_descendants (h : d.WellFormed) (n : NodeId) : (d.descendants n).Nodup := by
  have hnd := nodup_subtree h n
  rw [subtree_eq_cons_descendants h] at hnd
  exact (List.nodup_cons.mp hnd).2

/-- The descendants of a node are those from which it is reached by one or more parent links. -/
theorem mem_descendants_iff_transGen (h : d.WellFormed) :
    m ∈ d.descendants n ↔ TransGen d.IsParent m n := by
  rw [mem_descendants_iff h, ← isAncestor_iff_below h, isAncestor_iff h]

/-! ### Up -/

/-- Following parent links from a node comes to an end and meets its lineage. -/
theorem walk_lineage (h : d.WellFormed) (n : NodeId) : Walk d.parent? (some n) (d.lineage n) := by
  induction n using h.induction_up with
  | _ n ih =>
    rw [lineage_eq h]
    refine .step ?_
    cases hp : d.parent? n with
    | none => exact .stop
    | some p => exact ih p hp

/-- The way up that stops at the root as soon as it meets it says whether a node is connected. -/
theorem climbs_isConnected (h : d.WellFormed) (n : NodeId) : d.Climbs n (d.isConnected n) := by
  induction n using h.induction_up with
  | _ n ih =>
    by_cases hroot : n = root
    · have hcon : d.isConnected n = true := (isConnected_iff h).mpr (hroot ▸ below_refl d root)
      rw [hcon, hroot]
      exact .root
    · have hne : ¬ root = n := Ne.symm hroot
      cases hp : d.parent? n with
      | none =>
        have hcon : d.isConnected n = false := by
          rw [isConnected, lineage_eq h, hp]
          simpa using hne
        rw [hcon]
        exact .top hroot hp
      | some p =>
        have hcon : d.isConnected n = d.isConnected p := by
          rw [isConnected, lineage_eq h, hp, isConnected]
          simp [hne]
        rw [hcon]
        exact .up hroot hp (ih p hp)

/-- Going up meets the root exactly from the nodes that are met when going down from it. -/
theorem isConnected_iff_mem_descendants (h : d.WellFormed) :
    d.isConnected n = true ↔ n = root ∨ n ∈ d.descendants root := by
  rw [isConnected_iff h, ← mem_subtree_iff h, subtree_eq_cons_descendants h, List.mem_cons]

/-! ### Sideways -/

/-- The next sibling is the node that follows in the list of the parent. -/
theorem nextSibling?_eq_head? (h : d.WellFormed) {pre post : List NodeId}
    (hl : d.children p = pre ++ n :: post) : d.nextSibling? n = post.head? := by
  have hmem : n ∈ d.children p := hl ▸ List.mem_append_right _ List.mem_cons_self
  -- A child stands in the list only once, so this is where it is found.
  have hnd : (pre ++ n :: post).Nodup := hl ▸ h.nodup_children p
  have hidx : (pre ++ n :: post).idxOf? n = some pre.length :=
    idxOf?_append_cons (not_mem_of_split hnd).1
  have hnext : d.nextSibling? n = (pre ++ n :: post)[pre.length + 1]? := by
    simp [nextSibling?, h.parent_of_mem hmem, hl, hidx]
  rw [hnext, List.getElem?_append_right (Nat.le_add_right _ 1), Nat.add_sub_cancel_left,
    List.getElem?_cons_succ, List.head?_eq_getElem?]

/-- Going on from a child to its next sibling meets the rest of the list. -/
theorem walk_nextSibling_of_suffix (h : d.WellFormed) {pre post : List NodeId}
    (hl : d.children p = pre ++ post) : Walk d.nextSibling? post.head? post := by
  induction post generalizing pre with
  | nil => exact .stop
  | cons c post ih =>
    have hl' : d.children p = pre ++ [c] ++ post := by
      rw [hl, List.append_assoc, List.singleton_append]
    refine .step ?_
    rw [nextSibling?_eq_head? h hl]
    exact ih hl'

/-- Going from the first child to its next sibling and so on meets exactly the children. -/
theorem walk_nextSibling (h : d.WellFormed) (n : NodeId) :
    Walk d.nextSibling? (d.firstChild? n) (d.children n) :=
  walk_nextSibling_of_suffix h (List.nil_append _).symm

/-! ### Elements of a name -/

/-- An element is found by a name exactly if it is connected and has that name, in any case. -/
theorem mem_elementsNamed_iff (h : d.WellFormed) {name : String} :
    n ∈ d.elementsNamed name ↔ d.isConnected n = true ∧
      ∃ tag a, d.kind? n = some (.element tag a) ∧ Text.fold tag = Text.fold name := by
  have hnamed : d.isElementNamed n name = true ↔
      ∃ tag a, d.kind? n = some (.element tag a) ∧ Text.fold tag = Text.fold name := by
    constructor
    · intro hn
      obtain ⟨k, hk, hname⟩ := kind_of_isElementNamed hn
      cases k with
      | element tag a => exact ⟨tag, a, hk, sameFold_iff.mp hname⟩
      | _ => cases hname
    · rintro ⟨tag, a, hk, hfold⟩
      rw [isElementNamed_of_kind? hk]
      exact sameFold_iff.mpr hfold
  rw [elementsNamed, List.mem_filter, hnamed, isConnected_iff_mem_descendants h]
  -- The root is connected as well, but it is no element.
  refine and_congr_left fun ⟨tag, a, hk, _⟩ => ⟨.inr, fun hn => hn.resolve_left ?_⟩
  rintro rfl
  rw [h.kind_root] at hk
  cases hk

end Document

/-! ### Documents with a history -/

namespace Conversion

variable {d : Document}

/-- All ways to look at a document with a history describe the same tree, and each of the walks
    comes to its end. Down: the descendants of a node are met once, each before its own, and they
    are the nodes from which the node is reached by one or more parent links. Sideways: the first
    child and the next siblings after it are the children. Up: a node is connected exactly if it is
    the root or below it. The elements of a name are the connected ones that have it, in the order
    of all. -/
theorem reachable_readings_agree (h : Reachable d) :
    (∀ n, d.Visits (d.children n) (d.descendants n) ∧ (d.descendants n).Nodup ∧
      (∀ m, m ∈ d.descendants n ↔ TransGen d.IsParent m n) ∧
      d.descendants n = ((d.children n).flatMap fun c => c :: d.descendants c) ∧
      Walk d.nextSibling? (d.firstChild? n) (d.children n)) ∧
    (∀ n, Walk d.parent? (some n) (d.lineage n) ∧ d.Climbs n (d.isConnected n) ∧
      (d.isConnected n = true ↔ n = root ∨ n ∈ d.descendants root)) ∧
    ∀ name, (d.elementsNamed name).Sublist (d.descendants root) ∧
      ∀ n, n ∈ d.elementsNamed name ↔ d.isConnected n = true ∧
        ∃ tag a, d.kind? n = some (.element tag a) ∧ Text.fold tag = Text.fold name := by
  have hwf := h.wellFormed
  refine ⟨fun n => ⟨Document.visits_descendants hwf n, Document.nodup_descendants hwf n,
    fun m => Document.mem_descendants_iff_transGen hwf, Document.descendants_eq hwf n,
    Document.walk_nextSibling hwf n⟩, fun n => ⟨Document.walk_lineage hwf n,
    Document.climbs_isConnected hwf n, Document.isConnected_iff_mem_descendants hwf⟩, fun name =>
    ⟨List.filter_sublist, fun n => Document.mem_elementsNamed_iff hwf⟩⟩

/-- A paragraph is not in the tree, nor is its text; elements are looked up in another case. -/
theorem reachable_readings_agree_with_loose :
    let d := runAll .empty [.createElement "b" .empty, .createElement "p" .empty, .createText "x",
      .createElement "i" .empty, .createElement "i" .empty, .appendChild root ⟨1⟩,
      .appendChild ⟨2⟩ ⟨3⟩, .appendChild ⟨1⟩ ⟨4⟩, .appendChild root ⟨5⟩]
    Reachable d ∧
    d.Visits [⟨1⟩, ⟨5⟩] [⟨1⟩, ⟨4⟩, ⟨5⟩] ∧ TransGen d.IsParent ⟨4⟩ root ∧
    d.descendants ⟨2⟩ = [⟨3⟩] ∧ d.Climbs ⟨3⟩ false ∧
    Walk d.nextSibling? (some ⟨1⟩) [⟨1⟩, ⟨5⟩] ∧
    ⟨4⟩ ∈ d.elementsNamed "I" ∧ ⟨3⟩ ∉ d.elementsNamed "I" := by
  intro d
  have h : Reachable d := Reachable.empty.runAll _
  have hfacts : d.children root = [⟨1⟩, ⟨5⟩] ∧ d.descendants root = [⟨1⟩, ⟨4⟩, ⟨5⟩] ∧
      d.descendants ⟨2⟩ = [⟨3⟩] ∧ d.isConnected ⟨3⟩ = false ∧
      d.firstChild? root = some ⟨1⟩ := by decide
  have hkind : d.kind? ⟨4⟩ = some (.ofElement "i" .empty) := rfl
  clear_value d
  obtain ⟨hchildren, hbelow, hloose, hunconnected, hfirst⟩ := hfacts
  obtain ⟨hdown, hup, hnamed⟩ := reachable_readings_agree h
  obtain ⟨hvisits, -, hmem, -, hwalk⟩ := hdown root
  rw [hbelow] at hvisits hmem
  rw [hchildren] at hvisits hwalk
  have hfold : Text.fold (Text.fold "i") = Text.fold "I" := by
    rw [fold_fold, ← String.toList_inj, toList_fold, toList_fold]
    decide
  have hin : (⟨4⟩ : NodeId) ∈ [(⟨1⟩ : NodeId), ⟨4⟩, ⟨5⟩] := by decide
  refine ⟨h, hvisits, (hmem ⟨4⟩).mp hin, hloose, hunconnected ▸ (hup ⟨3⟩).2.1, hfirst ▸ hwalk,
    ?_, fun hn => ?_⟩
  · refine ((hnamed "I").2 ⟨4⟩).mpr ⟨(hup ⟨4⟩).2.2.mpr (.inr (hbelow ▸ hin)), ?_⟩
    exact ⟨_, _, hkind, hfold⟩
  · have hcon := (((hnamed "I").2 ⟨3⟩).mp hn).1
    rw [hunconnected] at hcon
    cases hcon

end Conversion

end AmpMarkup
