import AmpMarkup.Document.LinkWalk
import AmpMarkup.Proofs.Document.Lineage

namespace AmpMarkup.Document

open Relation (ReflTransGen)

/-!
# The check of the links

The check makes sense of every arena, however damaged. It always comes to an end, since each step
marks a slot that had no mark, and it passes exactly if the links of all that hangs below the root
are in order.

* `checks_checkFrom`, `Checks.unique` — the bound on the steps is never reached, and there is one
  answer.
* `exists_visited` — a walk that passes has been to every node once and found nothing wrong.
* `Frontier`, `eq_ok_of_frontier` — where all links are in order the walk meets no node twice.
* `checkIntegrity_eq_ok` — a well-formed document passes.
* `checkIntegrity_decides` — the check as a decision procedure.
-/

variable {d : Document} {m n p c : NodeId} {seen : Array Bool} {stack : List NodeId}
  {r r' : Except EditError Unit}

/-! ### Single steps -/

/-- Identifiers with the same number are the same. -/
theorem index_inj (h : m.index = n.index) : m = n := by
  cases m
  cases n
  exact congrArg NodeId.mk h

/-- A child without a fault is live and leads back to its lister. -/
theorem childFault?_eq_none_iff :
    d.childFault? n c = none ↔ d.contains c = true ∧ d.parent? c = some n := by
  unfold childFault?
  cases hs : d.slot? c with
  | none => simp [contains, hs]
  | some s => by_cases hp : s.parent? = some n <;> simp [contains, Document.parent?, hs, hp]

/-- A slot is without fault exactly if a leaf has no children and all children are live and linked
    back. -/
theorem slotFault?_eq_none_iff {s : Slot} (hs : d.slot? n = some s) :
    d.slotFault? n s = none ↔
      (∀ k, d.kind? n = some k → k.allowsChildren = false → d.children n = []) ∧
      ∀ c ∈ d.children n, d.contains c = true ∧ d.parent? c = some n := by
  have hkind : d.kind? n = some s.kind := by simp [kind?, hs]
  have hchildren : d.children n = s.children := by simp [children, hs]
  simp only [← childFault?_eq_none_iff, hkind, hchildren, Option.some.injEq]
  unfold slotFault?
  cases hk : s.kind.allowsChildren <;> cases hc : s.children <;> simp [hk]

/-- One step of the walk at a live node. -/
theorem checkFrom_cons {s : Slot} (hs : d.slot? n = some s) (fuel : Nat) (rest : List NodeId) :
    d.checkFrom (fuel + 1) seen (n :: rest) =
      if seen.getD n.index false then .error (.integrity n .reachedTwice)
      else match d.slotFault? n s with
      | some fault => .error fault
      | none =>
        d.checkFrom fuel (seen.setIfInBounds n.index true) (s.children.reverse ++ rest) := by
  unfold slotFault?
  rw [checkFrom, hs]
  cases seen.getD n.index false with
  | true => rfl
  | false =>
    simp only [Bool.false_eq_true, if_false]
    cases !s.kind.allowsChildren && !s.children.isEmpty with
    | true => rfl
    | false => cases s.children.findSome? (d.childFault? n) <;> rfl

/-! ### The walk ends -/

/-- A new mark takes one slot from those without. -/
theorem count_false_set {i : Nat} (hi : i < seen.size) (hfresh : seen[i] = false) :
    (seen.set i true hi).count false + 1 = seen.count false := by
  have hpos : 0 < seen.count false := by
    rw [Array.count_pos_iff, ← hfresh]
    exact Array.getElem_mem hi
  rw [Array.count_set, hfresh]
  simp only [beq_self_eq_true, if_true, Bool.true_beq, Bool.false_eq_true, if_false]
  omega

/-- With more steps than there are slots without a mark the bound makes no difference. -/
theorem checks_checkFrom {fuel : Nat} (hsize : seen.size = d.size)
    (hfuel : seen.count false < fuel) : d.Checks seen stack (d.checkFrom fuel seen stack) := by
  induction fuel generalizing seen stack with
  | zero => omega
  | succ fuel ih =>
    cases stack with
    | nil => exact .done
    | cons n rest =>
      cases hs : d.slot? n with
      | none =>
        rw [checkFrom, hs]
        exact .missing hs
      | some s =>
        -- The slot is there, so its mark is.
        have hn : n.index < seen.size := by
          rw [hsize]
          exact index_lt_of_contains (contains_iff.mpr ⟨s, hs⟩)
        have hmark : seen.getD n.index false = seen[n.index] := by
          rw [Array.getD_eq_getD_getElem?, Array.getElem?_eq_getElem hn, Option.getD_some]
        rw [checkFrom_cons hs, hmark]
        cases hseen : seen[n.index] with
        | true => exact .again hs hn hseen
        | false =>
          rw [if_neg Bool.false_ne_true]
          cases hfault : d.slotFault? n s with
          | some fault => exact .faulty hs hn hseen hfault
          | none =>
            have hset : seen.setIfInBounds n.index true = seen.set n.index true hn := by
              simp [Array.setIfInBounds, hn]
            have hleft := count_false_set hn hseen
            refine .visit hs hn hseen hfault ?_
            rw [hset]
            apply ih
            · simpa using hsize
            · omega

/-- The walk has one answer. -/
theorem Checks.unique (h : d.Checks seen stack r) (h' : d.Checks seen stack r') : r = r' := by
  induction h with
  | done =>
    cases h'
    rfl
  | missing hs => cases h' <;> simp_all
  | again hs hn hseen => cases h' <;> simp_all
  | faulty hs hn hseen hfault => cases h' <;> simp_all
  | visit hs hn hseen hfault _ ih =>
    cases h' with
    | visit hs' _ _ _ hrest =>
      rw [hs, Option.some.injEq] at hs'
      subst hs'
      exact ih hrest
    | _ => simp_all

/-! ### What a walk that passes has seen -/

/-- A walk that passes has been to every node of the stack and to every child of a node that it has
    been to, to each of them once, and has found nothing wrong with any. -/
theorem exists_visited (h : d.Checks seen stack (.ok ())) :
    ∃ visited : List NodeId, visited.Nodup ∧
      visited.Perm (stack ++ visited.flatMap d.children) ∧
      ∀ v ∈ visited, seen[v.index]? = some false ∧
        ∃ s, d.slot? v = some s ∧ d.slotFault? v s = none := by
  generalize hr : Except.ok () = r at h
  induction h with
  | done => exact ⟨[], List.nodup_nil, .nil, fun v hv => absurd hv List.not_mem_nil⟩
  | missing hs => cases hr
  | again hs hn hseen => cases hr
  | faulty hs hn hseen hfault => cases hr
  | @visit seen n rest s r hs hn hseen hfault _ ih =>
    obtain ⟨visited, hnd, hperm, hall⟩ := ih hr
    have hchildren : s.children = d.children n := by simp [children, hs]
    refine ⟨n :: visited, ?_, ?_, ?_⟩
    · -- `n` has a mark by now, so the walk does not come back.
      refine List.nodup_cons.mpr ⟨fun hmem => ?_, hnd⟩
      have hmark := (hall n hmem).1
      simp at hmark
    · rw [hchildren] at hperm
      have hrev := (d.children n).reverse_perm
      rw [List.cons_append, List.flatMap_cons]
      refine List.Perm.cons n (hperm.trans ?_)
      rw [List.append_assoc]
      refine (hrev.append_right _).trans ?_
      rw [← List.append_assoc, ← List.append_assoc]
      exact List.perm_append_comm.append_right _
    · intro v hv
      rcases List.mem_cons.mp hv with rfl | hv
      · exact ⟨by rw [Array.getElem?_eq_getElem hn, hseen], s, hs, hfault⟩
      · obtain ⟨hmark, hslot⟩ := hall v hv
        refine ⟨?_, hslot⟩
        rw [Array.getElem?_set] at hmark
        split at hmark
        · cases hmark
        · exact hmark

/-! ### What hangs below the root -/

/-- A live node lists its children. -/
theorem lists_iff (h : d.contains p = true) : d.Lists p c ↔ c ∈ d.children p := by
  obtain ⟨s, hs⟩ := contains_iff.mp h
  have hslot := (slot?_eq_some_iff.mp hs).1
  have hchildren : d.children p = s.children := by simp [children, hs]
  unfold Lists
  rw [hslot, hchildren]
  simp

/-- A child of a node that hangs below the root hangs below it. -/
theorem Hangs.child (h : d.Hangs n) (hc : c ∈ d.children n) : d.Hangs c :=
  ReflTransGen.tail h ((lists_iff (contains_of_mem_children hc)).mpr hc)

/-- If the check passes the links of all that hangs below the root are in order. -/
theorem soundAt_of_checks (h : d.Checks seen [root] (.ok ())) (hn : d.Hangs n) : d.SoundAt n := by
  obtain ⟨visited, hnd, hperm, hall⟩ := exists_visited h
  -- Each list of children is a part of what has been visited once.
  have hparts : ([root] ++ visited.flatMap d.children).Nodup := hperm.nodup_iff.mp hnd
  rw [List.nodup_append] at hparts
  obtain ⟨-, hlists, hroot⟩ := hparts
  have hmem : ∀ v ∈ visited, ∀ c ∈ d.children v, c ∈ visited.flatMap d.children := by
    intro v hv c hc
    exact List.mem_flatMap.mpr ⟨v, hv, hc⟩
  have hvisited : n ∈ visited := by
    induction hn with
    | refl => exact hperm.mem_iff.mpr (List.mem_append_left _ List.mem_cons_self)
    | @tail p c _ hpc ih =>
      obtain ⟨-, s, hs, -⟩ := hall p ih
      rw [lists_iff (contains_iff.mpr ⟨s, hs⟩)] at hpc
      exact hperm.mem_iff.mpr (List.mem_append_right _ (hmem p ih c hpc))
  obtain ⟨-, s, hs, hfault⟩ := hall n hvisited
  obtain ⟨hleaf, hlinked⟩ := (slotFault?_eq_none_iff hs).mp hfault
  refine ⟨contains_iff.mpr ⟨s, hs⟩, hleaf, ?_, hlinked, fun hc => ?_⟩
  · exact (List.nodup_flatMap.mp hlists).1 n hvisited
  · exact hroot root List.mem_cons_self root (hmem n hvisited root hc) rfl

/-- What is known while the walk goes through links that are in order: what is on the stack hangs
    below the root and has no mark, and apart from the root everything met so far has been listed by
    a node with a mark. -/
structure Frontier (d : Document) (seen : Array Bool) (stack : List NodeId) : Prop where
  hangs : ∀ n ∈ stack, d.Hangs n
  nodup : stack.Nodup
  unseen : ∀ n ∈ stack, seen[n.index]? ≠ some true
  lister (n : NodeId) : n ∈ stack ∨ seen[n.index]? = some true → n ≠ root →
    ∃ p, d.parent? n = some p ∧ seen[p.index]? = some true

/-- A step puts the children of a node, which is marked now, on the stack. -/
theorem Frontier.visit {rest : List NodeId} (hn : n.index < seen.size) (hsound : d.SoundAt n)
    (h : Frontier d seen (n :: rest)) :
    Frontier d (seen.set n.index true hn) ((d.children n).reverse ++ rest) := by
  obtain ⟨hmem, hnd⟩ := List.nodup_cons.mp h.nodup
  have hunseen := h.unseen n List.mem_cons_self
  have hmark : ∀ m : NodeId, (seen.set n.index true hn)[m.index]? = some true ↔
      m = n ∨ seen[m.index]? = some true := by
    intro m
    rw [Array.getElem?_set]
    by_cases heq : n.index = m.index
    · simp [index_inj heq]
    · have hne : m ≠ n := fun hmn => heq (hmn ▸ rfl)
      simp [heq, hne]
  -- A child has not been met before, for `n` would have a mark.
  have hnew : ∀ c ∈ d.children n, ¬ (c ∈ n :: rest ∨ seen[c.index]? = some true) := by
    intro c hc hmet
    have hne : c ≠ root := fun heq => hsound.not_root (heq ▸ hc)
    obtain ⟨p, hp, hseen⟩ := h.lister c hmet hne
    rw [(hsound.linked c hc).2, Option.some.injEq] at hp
    rw [← hp] at hseen
    exact hunseen hseen
  -- Whatever has been met before still has a marked lister.
  have hold : ∀ m, (m ∈ n :: rest ∨ seen[m.index]? = some true) → m ≠ root →
      ∃ p, d.parent? m = some p ∧ (seen.set n.index true hn)[p.index]? = some true := by
    intro m hmet hroot
    obtain ⟨p, hp, hseen⟩ := h.lister m hmet hroot
    exact ⟨p, hp, (hmark p).mpr (.inr hseen)⟩
  exact {
    hangs m hm := by
      rcases List.mem_append.mp hm with hc | hrest
      · exact (h.hangs n List.mem_cons_self).child (List.mem_reverse.mp hc)
      · exact h.hangs m (List.mem_cons_of_mem n hrest)
    nodup := by
      rw [List.nodup_append]
      refine ⟨List.nodup_reverse.mpr hsound.nodup, hnd, fun c hc x hx heq => ?_⟩
      refine hnew c (List.mem_reverse.mp hc) (.inl ?_)
      rw [heq]
      exact List.mem_cons_of_mem n hx
    unseen m hm := by
      rw [Ne, hmark]
      rcases List.mem_append.mp hm with hc | hrest
      · rintro (heq | hseen)
        · exact hnew m (List.mem_reverse.mp hc) (.inl (heq ▸ List.mem_cons_self))
        · exact hnew m (List.mem_reverse.mp hc) (.inr hseen)
      · rintro (heq | hseen)
        · exact hmem (heq ▸ hrest)
        · exact h.unseen m (List.mem_cons_of_mem n hrest) hseen
    lister m hm hroot := by
      rw [hmark] at hm
      rcases hm with hm | heq | hseen
      · rcases List.mem_append.mp hm with hc | hrest
        · exact ⟨n, (hsound.linked m (List.mem_reverse.mp hc)).2, (hmark n).mpr (.inl rfl)⟩
        · exact hold m (.inl (List.mem_cons_of_mem n hrest)) hroot
      · exact hold m (.inl (heq ▸ List.mem_cons_self)) hroot
      · exact hold m (.inr hseen) hroot }

/-- Where the links of all that hangs below the root are in order the walk passes. -/
theorem eq_ok_of_frontier (hsound : ∀ n, d.Hangs n → d.SoundAt n) (h : d.Checks seen stack r)
    (hstack : Frontier d seen stack) : r = .ok () := by
  induction h with
  | done => rfl
  | @missing seen n rest hs =>
    have hlive := (hsound n (hstack.hangs n List.mem_cons_self)).live
    rw [not_contains_iff.mpr hs] at hlive
    cases hlive
  | @again seen n rest s hs hn hseen =>
    refine absurd ?_ (hstack.unseen n List.mem_cons_self)
    rw [Array.getElem?_eq_getElem hn, hseen]
  | @faulty seen n rest s fault hs hn hseen hfault =>
    have hn := hsound n (hstack.hangs n List.mem_cons_self)
    rw [(slotFault?_eq_none_iff hs).mpr ⟨hn.leaf, hn.linked⟩] at hfault
    cases hfault
  | @visit seen n rest s r hs hn hseen hfault _ ih =>
    have hchildren : s.children = d.children n := by simp [children, hs]
    apply ih
    rw [hchildren]
    exact hstack.visit hn (hsound n (hstack.hangs n List.mem_cons_self))

/-! ### The check as a whole -/

/-- The integrity check is the walk from the root without any marks. -/
theorem checks_checkIntegrity (d : Document) :
    d.Checks (Array.replicate d.size false) [root] d.checkIntegrity := by
  apply checks_checkFrom
  · exact Array.size_replicate
  · simp

/-- The integrity check passes exactly if the links of all that hangs below the root are in
    order. -/
theorem checkIntegrity_eq_ok_iff :
    d.checkIntegrity = .ok () ↔ ∀ n, d.Hangs n → d.SoundAt n := by
  have hchecks := checks_checkIntegrity d
  constructor
  · intro hok n hn
    rw [hok] at hchecks
    exact soundAt_of_checks hchecks hn
  · intro hsound
    -- At the start nothing has a mark.
    have hfresh : ∀ i : Nat, (Array.replicate d.size false)[i]? ≠ some true := by
      intro i
      rw [Array.getElem?_replicate]
      split <;> simp
    refine eq_ok_of_frontier hsound hchecks ⟨?_, List.nodup_singleton root, ?_, ?_⟩
    · intro n hn
      rw [List.mem_singleton.mp hn]
      exact .refl
    · exact fun n _ => hfresh n.index
    · rintro n (hn | hn) hroot
      · exact absurd (List.mem_singleton.mp hn) hroot
      · exact absurd hn (hfresh n.index)

/-- Nothing is wrong with a well-formed document. -/
theorem checkIntegrity_eq_ok (h : d.WellFormed) : d.checkIntegrity = .ok () := by
  rw [checkIntegrity_eq_ok_iff]
  intro n hn
  have hlive : d.contains n = true := by
    induction hn with
    | refl => exact h.contains_root
    | tail _ hc ih => exact h.contains_child ((lists_iff ih).mp hc)
  refine ⟨hlive, h.children_leaf n, h.nodup_children n, fun c hc => ?_, fun hc => ?_⟩
  · exact ⟨h.contains_child hc, h.parent_of_mem hc⟩
  · exact h.ne_root_of_parent (h.parent_of_mem hc) rfl

/-- The check decides about every arena, in whatever state its links are: the walk from the root
    always comes to an end, with one answer and without a look at a mark that is not there, and
    the answer is that all is well exactly if the root is live and the links of every node that is
    reached from the root along lists of children are in order. -/
theorem checkIntegrity_decides (d : Document) :
    (∀ r, d.Checks (Array.replicate d.size false) [root] r ↔ r = d.checkIntegrity) ∧
    (d.checkIntegrity = .ok () ↔
      d.contains root = true ∧ ∀ n, d.Hangs n → d.SoundAt n) := by
  refine ⟨fun r => ⟨fun h => h.unique (checks_checkIntegrity d), ?_⟩, ?_⟩
  · rintro rfl
    exact checks_checkIntegrity d
  · rw [checkIntegrity_eq_ok_iff]
    constructor
    · intro hsound
      exact ⟨(hsound root .refl).live, hsound⟩
    · exact fun h => h.2

/-- A node that is listed by one of its own children, which is not its parent. -/
example : (Document.mk #[{ kind := .document, children := [⟨1⟩] },
    { kind := .ofElement "p" .empty, parent? := some root, children := [⟨2⟩] },
    { kind := .ofElement "b" .empty, parent? := some ⟨1⟩, children := [⟨1⟩] }]).checkIntegrity =
    .error (.integrity ⟨1⟩ (.parentMismatch (some root) ⟨2⟩)) := by
  decide +kernel

end AmpMarkup.Document
