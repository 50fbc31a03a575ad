import AmpMarkup.Proofs.Document.Running
import AmpMarkup.Proofs.Document.Subtree
import Mathlib.Data.List.InsertIdx

namespace AmpMarkup

open Document (root)
open Relation (TransGen)

/-!
# Well-formedness under single changes

Each change that edits are made of leaves a well-formed document well-formed, under the conditions
that the edits check.

* `WellFormed.push`, `WellFormed.mapAttributes` — a new node; other attributes.
* `WellFormed.attach` — a link made; the check that the child is not above the parent rules cycles
  out (`below_attach`).
* `WellFormed.unlink` — a link undone.
* `keeps_wellFormed_appendChild` and its like — hence the edits that make or undo one link.
-/

variable {d d' : Document} {m n p c : NodeId}

/-- Other attributes make no difference to whether a node takes children. -/
@[simp] theorem NodeKind.allowsChildren_mapAttributes (f : Attributes → Attributes)
    (k : NodeKind) : (k.mapAttributes f).allowsChildren = k.allowsChildren := by
  cases k <;> rfl

namespace Document

/-! ### Discarded slots -/

/-- A discarded slot keeps no links. -/
def Emptied (d : Document) : Prop :=
  ∀ s ∈ d.slots, s.live = false → s.parent? = none ∧ s.children = []

/-- A new slot has no links and is live. -/
theorem Emptied.push (h : d.Emptied) (k : NodeKind) : (d.push k).Emptied := by
  intro s hs hdead
  rcases Array.mem_push.mp hs with hs | rfl
  · exact h s hs hdead
  · exact Bool.noConfusion hdead

/-- A live slot is changed into another one, or is emptied. -/
theorem Emptied.modifySlot (h : d.Emptied) (hn : d.contains n = true) {f : Slot → Slot}
    (hf : ∀ s, s.live = true → (f s).live = true ∨ (f s).parent? = none ∧ (f s).children = []) :
    (d.modifySlot n f).Emptied := by
  intro s hs hdead
  obtain ⟨i, hi⟩ := Array.mem_iff_getElem?.mp hs
  rw [Document.modifySlot, Array.getElem?_modify] at hi
  by_cases hni : n.index = i
  · obtain ⟨s₀, hs₀⟩ := contains_iff.mp hn
    obtain ⟨hget, hlive⟩ := slot?_eq_some_iff.mp hs₀
    rw [if_pos hni, ← hni, hget, Option.map_some, Option.some.injEq] at hi
    subst hi
    rcases hf s₀ hlive with hl | hempty
    · rw [hl] at hdead
      exact Bool.noConfusion hdead
    · exact hempty
  · rw [if_neg hni] at hi
    exact h s (Array.mem_of_getElem? hi) hdead

/-- A link between two live nodes leaves the discarded slots empty. -/
theorem Emptied.attach (h : d.Emptied) (hp : d.contains p = true) (hc : d.contains c = true)
    (g : List NodeId → List NodeId) : (d.attach p c g).Emptied := by
  have h₁ : (d.mapChildren p g).Emptied := h.modifySlot hp fun _ hl => .inl hl
  exact h₁.modifySlot (by simpa using hc) fun _ hl => .inl hl

/-- Taking out a child leaves the discarded slots empty. -/
theorem Emptied.unlink (h : d.Emptied) (hp : d.contains p = true) (hc : d.contains c = true) :
    (d.unlink p c).Emptied := by
  have h₁ : (d.mapChildren p (·.filter (· ≠ c))).Emptied := h.modifySlot hp fun _ hl => .inl hl
  exact h₁.modifySlot (by simpa using hc) fun _ hl => .inl hl

/-- The discarded slots of a well-formed document are empty. -/
theorem WellFormed.emptied (h : d.WellFormed) : d.Emptied := h.discarded

/-! ### New nodes and other attributes -/

/-- A new node hangs nowhere. -/
theorem WellFormed.push (h : d.WellFormed) (k : NodeKind) : (d.push k).WellFormed where
  kind_root := by
    rw [kind?_push, if_neg (ne_nextId_of_contains h.contains_root)]
    exact h.kind_root
  parent_root := by rw [parent?_push]; exact h.parent_root
  nodup_children n := by rw [children_push]; exact h.nodup_children n
  mem_children_iff n p := by
    rw [children_push, IsParent, parent?_push]
    exact h.mem_children_iff n p
  children_leaf n k' hk hleaf := by
    rw [children_push]
    by_cases hn : n = d.nextId
    · rw [hn]
      exact children_nextId
    · rw [kind?_push, if_neg hn] at hk
      exact h.children_leaf n k' hk hleaf
  acyclic n hn := by
    refine h.acyclic n (TransGen.mono (fun a b hab => ?_) n n hn)
    rwa [IsParent, parent?_push] at hab
  discarded := h.emptied.push k

/-- Links do not depend on attributes. -/
theorem WellFormed.mapAttributes (h : d.WellFormed) (hn : d.contains n = true)
    (f : Attributes → Attributes) : (d.mapKind n (·.mapAttributes f)).WellFormed where
  kind_root := by
    rw [kind?_mapKind]
    by_cases hr : root = n
    · rw [if_pos hr, ← hr, h.kind_root]
      rfl
    · rw [if_neg hr]
      exact h.kind_root
  parent_root := by rw [parent?_mapKind]; exact h.parent_root
  nodup_children m := by rw [children_mapKind]; exact h.nodup_children m
  mem_children_iff m p := by
    rw [children_mapKind, IsParent, parent?_mapKind]
    exact h.mem_children_iff m p
  children_leaf m k hk hleaf := by
    rw [children_mapKind]
    rw [kind?_mapKind] at hk
    by_cases hm : m = n
    · rw [if_pos hm, Option.map_eq_some_iff] at hk
      obtain ⟨k₀, hk₀, rfl⟩ := hk
      rw [NodeKind.allowsChildren_mapAttributes] at hleaf
      exact h.children_leaf m k₀ (hm ▸ hk₀) hleaf
    · rw [if_neg hm] at hk
      exact h.children_leaf m k hk hleaf
  acyclic m hm := by
    refine h.acyclic m (TransGen.mono (fun a b hab => ?_) m m hm)
    rwa [IsParent, parent?_mapKind] at hab
  discarded := h.emptied.modifySlot hn fun _ hl => .inl hl

/-! ### Links made -/

/-- A path in the document with a further link either does without that link or ends with it and
    what is above its upper end. -/
theorem below_attach (hc : d.contains c = true) (hdet : d.parent? c = none)
    {g : List NodeId → List NodeId} (h : (d.attach p c g).Below m n) :
    d.Below m n ∨ d.Below m c ∧ d.Below p n := by
  induction h using Relation.ReflTransGen.head_induction_on with
  | refl => exact .inl (below_refl d n)
  | @head a b hab _ ih =>
    rw [IsParent, parent?_attach hc] at hab
    by_cases hac : a = c
    · rw [if_pos hac, Option.some.injEq] at hab
      subst hac hab
      rcases ih with hbn | ⟨-, hbn⟩
      · exact .inr ⟨below_refl d a, hbn⟩
      · exact .inr ⟨below_refl d a, hbn⟩
    · rw [if_neg hac] at hab
      rcases ih with hbn | ⟨hbc, hpn⟩
      · exact .inl ((below_of_parent hab).trans hbn)
      · exact .inr ⟨(below_of_parent hab).trans hbc, hpn⟩

end Document

namespace Edit

/-- Nothing attachable is above the place where it is put. -/
theorem Attachable.not_below (h : Attachable d p c) (hwf : d.WellFormed) : ¬ d.Below p c := by
  intro hb
  rcases Relation.reflTransGen_iff_eq_or_transGen.mp hb with heq | habove
  · exact h.ne heq.symm
  · rw [← Document.isAncestor_iff hwf, h.not_above] at habove
    exact Bool.noConfusion habove

/-- In a well-formed document the check for cycles is one about paths. -/
theorem attachable_of_not_below (hwf : d.WellFormed)
    (hallows : ∃ k, d.kind? p = some k ∧ k.allowsChildren = true) (hroot : c ≠ root)
    (hc : d.contains c = true) (hdet : d.parent? c = none) (hnb : ¬ d.Below p c) :
    Attachable d p c where
  allows := hallows
  ne_root := hroot
  contains := hc
  detached := hdet
  ne heq := hnb (heq ▸ Document.below_refl d p)
  not_above := by
    rw [Bool.eq_false_iff]
    intro habove
    exact hnb (TransGen.to_reflTransGen ((Document.isAncestor_iff hwf).mp habove))

end Edit

namespace Document

/-- A checked link does no harm, wherever the child is put among its siblings. -/
theorem WellFormed.attach (h : d.WellFormed) (ha : Edit.Attachable d p c)
    {g : List NodeId → List NodeId} (hg : (g (d.children p)).Perm (c :: d.children p)) :
    (d.attach p c g).WellFormed where
  kind_root := by rw [kind?_attach]; exact h.kind_root
  parent_root := by
    rw [parent?_attach ha.contains, if_neg (Ne.symm ha.ne_root)]
    exact h.parent_root
  nodup_children n := by
    rw [children_attach ha.contains_parent]
    by_cases hn : n = p
    · rw [if_pos hn, hg.nodup_iff, List.nodup_cons]
      refine ⟨fun hmem => ?_, h.nodup_children p⟩
      have := h.parent_of_mem hmem
      rw [ha.detached] at this
      cases this
    · rw [if_neg hn]
      exact h.nodup_children n
  mem_children_iff n q := by
    rw [children_attach ha.contains_parent, IsParent, parent?_attach ha.contains]
    by_cases hq : q = p
    · subst hq
      rw [if_pos rfl, hg.mem_iff, List.mem_cons]
      by_cases hn : n = c
      · simp [hn]
      · rw [if_neg hn, h.mem_children_iff n q]
        exact or_iff_right hn
    · rw [if_neg hq, h.mem_children_iff n q, IsParent]
      by_cases hn : n = c
      · rw [if_pos hn, hn, ha.detached]
        simp [Ne.symm hq]
      · rw [if_neg hn]
  children_leaf n k hk hleaf := by
    rw [kind?_attach] at hk
    rw [children_attach ha.contains_parent, if_neg]
    · exact h.children_leaf n k hk hleaf
    · rintro rfl
      obtain ⟨k', hk', hallows⟩ := ha.allows
      rw [hk, Option.some.injEq] at hk'
      rw [← hk', hleaf] at hallows
      exact Bool.noConfusion hallows
  acyclic n hn := by
    -- A cycle would use the new link, so its upper end would be below its lower end.
    obtain ⟨q, hq, hb⟩ := TransGen.head'_iff.mp hn
    have hnb := ha.not_below h
    rw [IsParent, parent?_attach ha.contains] at hq
    by_cases hnc : n = c
    · rw [if_pos hnc, Option.some.injEq] at hq
      subst hnc hq
      rcases below_attach ha.contains ha.detached hb with hpc | ⟨hpc, -⟩
      · exact hnb hpc
      · exact hnb hpc
    · rw [if_neg hnc] at hq
      rcases below_attach ha.contains ha.detached hb with hqn | ⟨hqc, hpn⟩
      · exact h.not_below_of_parent hq hqn
      · exact hnb (hpn.trans ((below_of_parent hq).trans hqc))
  discarded := h.emptied.attach ha.contains_parent ha.contains g

/-! ### Links undone -/

/-- No parent link is new when a child is taken out. -/
theorem isParent_of_unlink (hc : d.contains c = true)
    (h : (d.unlink p c).IsParent m n) : d.IsParent m n := by
  rw [IsParent, parent?_unlink hc] at h
  by_cases hm : m = c
  · rw [if_pos hm] at h
    cases h
  · rwa [if_neg hm] at h

/-- Nothing gets below another node when a child is taken out. -/
theorem below_of_unlink (hc : d.contains c = true) (h : (d.unlink p c).Below m n) :
    d.Below m n :=
  Relation.ReflTransGen.mono (fun _ _ => isParent_of_unlink hc) m n h

/-- A child that is taken out leaves a well-formed document behind. -/
theorem WellFormed.unlink (h : d.WellFormed) (hp : d.parent? c = some p) :
    (d.unlink p c).WellFormed where
  kind_root := by rw [kind?_unlink]; exact h.kind_root
  parent_root := by
    rw [parent?_unlink (contains_of_parent? hp), if_neg (Ne.symm (h.ne_root_of_parent hp))]
    exact h.parent_root
  nodup_children n := by
    rw [children_unlink]
    by_cases hn : n = p
    · rw [if_pos hn]
      exact (h.nodup_children p).filter _
    · rw [if_neg hn]
      exact h.nodup_children n
  mem_children_iff n q := by
    rw [children_unlink, IsParent, parent?_unlink (contains_of_parent? hp)]
    by_cases hq : q = p
    · subst hq
      rw [if_pos rfl, List.mem_filter, h.mem_children_iff n q, IsParent]
      by_cases hn : n = c <;> simp [hn]
    · rw [if_neg hq, h.mem_children_iff n q, IsParent]
      by_cases hn : n = c
      · rw [if_pos hn, hn, hp]
        simp [Ne.symm hq]
      · rw [if_neg hn]
  children_leaf n k hk hleaf := by
    rw [kind?_unlink] at hk
    rw [children_unlink]
    by_cases hn : n = p
    · rw [if_pos hn, ← hn, h.children_leaf n k hk hleaf]
      rfl
    · rw [if_neg hn]
      exact h.children_leaf n k hk hleaf
  acyclic n hn :=
    h.acyclic n (TransGen.mono (fun _ _ => isParent_of_unlink (contains_of_parent? hp)) n n hn)
  discarded := h.emptied.unlink (h.contains_parent hp) (contains_of_parent? hp)

end Document

/-! ### One node in the place of another -/

/-- In a list without repetitions a member stands in one place only. -/
theorem not_mem_of_split {pre post : List NodeId} (hnd : (pre ++ c :: post).Nodup) :
    c ∉ pre ∧ c ∉ post := by
  obtain ⟨-, hcons, hdisj⟩ := List.nodup_append.mp hnd
  exact ⟨fun hm => hdisj c hm c List.mem_cons_self rfl, (List.nodup_cons.mp hcons).1⟩

/-- The first occurrence of `c` is where the list has been cut. -/
theorem idxOf?_append_cons {pre post : List NodeId} (hpre : c ∉ pre) :
    (pre ++ c :: post).idxOf? c = some pre.length := by
  rw [List.idxOf?_eq_some_iff]
  refine ⟨by simp, by simp, fun j hj => ?_⟩
  rw [List.getElem_append_left hj]
  intro heq
  exact hpre (heq ▸ List.getElem_mem hj)

/-- Without its only occurrence of `c` a list is what stands before and behind. -/
theorem filter_ne_append_cons {pre post : List NodeId} (hpre : c ∉ pre) (hpost : c ∉ post) :
    (pre ++ c :: post).filter (· ≠ c) = pre ++ post := by
  have hkeep : ∀ l : List NodeId, c ∉ l → l.filter (· ≠ c) = l := fun l hl =>
    List.filter_eq_self.mpr fun x hx => by simpa using fun heq : x = c => hl (heq ▸ hx)
  rw [List.filter_append, List.filter_cons_of_neg (by simp), hkeep pre hpre, hkeep post hpost]

/-- A list without repetitions around one of its members. -/
theorem exists_split_of_mem {l : List NodeId} (hnd : l.Nodup) (h : c ∈ l) :
    ∃ pre post, l = pre ++ c :: post ∧ l.idxOf? c = some pre.length ∧
      l.filter (· ≠ c) = pre ++ post ∧ ∀ b, l.set pre.length b = pre ++ b :: post := by
  obtain ⟨pre, post, rfl⟩ := List.append_of_mem h
  obtain ⟨hpre, hpost⟩ := not_mem_of_split hnd
  exact ⟨pre, post, rfl, idxOf?_append_cons hpre, filter_ne_append_cons hpre hpost,
    fun b => by simp⟩

/-- An element that is inserted after a beginning stands between that and the rest. -/
theorem insertIdx_length_append {α : Type} (pre post : List α) (b : α) :
    (pre ++ post).insertIdx pre.length b = pre ++ b :: post := by
  induction pre with
  | nil => rfl
  | cons a pre ih => simp [ih]

namespace Document

/-- The document with `new` in the place of the child `old` of `p`. -/
def swap (d : Document) (p new old : NodeId) (i : Nat) : Document :=
  (d.attach p new (·.set i new)).setParent old none

@[simp] theorem kind?_swap (i : Nat) : (d.swap p n c i).kind? m = d.kind? m := by
  rw [swap, kind?_setParent, kind?_attach]

@[simp] theorem contains_swap (i : Nat) : (d.swap p n c i).contains m = d.contains m := by
  rw [swap, contains_setParent, contains_attach]

/-- After the exchange `c` has no parent and that of `n` is `p`. -/
theorem parent?_swap (hn : d.contains n = true) (hc : d.contains c = true) (i : Nat) :
    (d.swap p n c i).parent? m =
      if m = c then none else if m = n then some p else d.parent? m := by
  rw [swap]
  by_cases hm : m = c
  · rw [if_pos hm, hm, parent?_setParent_self (by rw [contains_attach, hc])]
  · rw [if_neg hm, parent?_setParent_of_ne hm, parent?_attach hn]

/-- After the exchange `n` stands at the place of `c`, and no other list has changed. -/
theorem children_swap (hp : d.contains p = true) (i : Nat) :
    (d.swap p n c i).children m =
      if m = p then (d.children p).set i n else d.children m := by
  rw [swap, children_setParent, children_attach hp]

/-- An exchange concerns the parent, the new child and the old one only. -/
theorem sameAt_swap (hp : m ≠ p) (hn : m ≠ n) (hc : m ≠ c) (i : Nat) :
    SameAt d (d.swap p n c i) m := by
  refine (sameAt_attach hp hn (·.set i n)).trans ?_
  rw [SameAt, swap, slot?_setParent, if_neg hc]

@[simp] theorem size_swap (i : Nat) : (d.swap p n c i).size = d.size := by
  rw [swap, size_setParent, size_attach]

/-- Changes of different slots may be made in either order. -/
theorem modifySlot_comm (h : m ≠ n) (f g : Slot → Slot) :
    (d.modifySlot m f).modifySlot n g = (d.modifySlot n g).modifySlot m f := by
  obtain ⟨i⟩ := m
  obtain ⟨j⟩ := n
  have hij : i ≠ j := fun heq => h (congrArg NodeId.mk heq)
  simp only [modifySlot, Document.mk.injEq]
  apply Array.ext_getElem?
  intro k
  simp only [Array.getElem?_modify]
  by_cases hi : i = k
  · subst hi
    rw [if_neg (Ne.symm hij), if_pos rfl, if_pos rfl, if_neg (Ne.symm hij)]
  · rw [if_neg hi, if_neg hi]

/-- Two changes of one slot that come to the same as a single one. -/
theorem modifySlot_modifySlot {f g k : Slot → Slot}
    (h : ∀ s, d.slots[n.index]? = some s → g (f s) = k s) :
    (d.modifySlot n f).modifySlot n g = d.modifySlot n k := by
  simp only [modifySlot, Document.mk.injEq]
  apply Array.ext_getElem?
  intro j
  simp only [Array.getElem?_modify]
  by_cases hj : n.index = j
  · subst hj
    rw [if_pos rfl, if_pos rfl, if_pos rfl, Option.map_map]
    cases hs : d.slots[n.index]? with
    | none => rfl
    | some s => exact congrArg some (h s hs)
  · rw [if_neg hj, if_neg hj, if_neg hj]

/-- Replacing a child is removing it and putting the new child at its place. -/
theorem swap_eq_attach_unlink (h : d.WellFormed) (ha : Edit.Attachable d p n)
    (hp : d.parent? c = some p) {i : Nat} (hi : (d.children p).idxOf? c = some i) :
    d.swap p n c i = (d.unlink p c).attach p n (·.insertIdx i n) := by
  have hcn : c ≠ n := (ne_of_parent? ha.detached hp).symm
  have hcp : c ≠ p := (h.parent_ne hp).symm
  obtain ⟨pre, post, hl, hidx, hfilter, hset⟩ :=
    exists_split_of_mem (h.nodup_children p) (h.mem_children hp)
  rw [hidx, Option.some.injEq] at hi
  subst hi
  simp only [swap, unlink, attach, mapChildren, setParent]
  rw [modifySlot_comm (Ne.symm hcn), modifySlot_comm (Ne.symm hcp),
    modifySlot_comm (Ne.symm hcp)]
  congr 1
  -- What is left are the two ways of changing the list of `p`.
  refine (modifySlot_modifySlot fun s hs => ?_).symm
  obtain ⟨sp, hsp⟩ := contains_iff.mp (h.contains_parent hp)
  have hsp' : (d.setParent c none).slot? p = some sp := by
    rw [slot?_setParent, if_neg (Ne.symm hcp), hsp]
  have hget : (d.setParent c none).slots[p.index]? = some sp := (slot?_eq_some_iff.mp hsp').1
  have hs' : s = sp := Option.some.inj (hs.symm.trans hget)
  have hch : s.children = d.children p := by rw [hs', children, hsp]; rfl
  rw [hch, hfilter, hset, insertIdx_length_append]

/-- A checked exchange does no harm. -/
theorem WellFormed.swap (h : d.WellFormed) (ha : Edit.Attachable d p n)
    (hp : d.parent? c = some p) {i : Nat} (hi : (d.children p).idxOf? c = some i) :
    (d.swap p n c i).WellFormed := by
  rw [swap_eq_attach_unlink h ha hp hi]
  have hc : d.contains c = true := contains_of_parent? hp
  have hu := h.unlink hp
  have hnc : n ≠ c := ne_of_parent? ha.detached hp
  have ha' : Edit.Attachable (d.unlink p c) p n := by
    refine Edit.attachable_of_not_below hu ?_ ha.ne_root (by simpa using ha.contains) ?_ ?_
    · simpa using ha.allows
    · rw [parent?_unlink hc, if_neg hnc]
      exact ha.detached
    · exact fun hb => ha.not_below h (below_of_unlink hc hb)
  refine hu.attach ha' ?_
  obtain ⟨pre, post, -, hidx, hfilter, -⟩ :=
    exists_split_of_mem (h.nodup_children p) (h.mem_children hp)
  rw [hidx, Option.some.injEq] at hi
  subst hi
  rw [children_unlink, if_pos rfl, hfilter]
  exact List.perm_insertIdx _ _ (by simp)

end Document

/-! ### The empty document -/

namespace Document

/-- The empty document has one slot, which is that of the root. -/
theorem slot?_empty (n : NodeId) :
    empty.slot? n = if n = root then some { kind := .document } else none := by
  obtain ⟨i⟩ := n
  cases i with
  | zero => rfl
  | succ i => simp [empty, slot?, root]

/-- The empty document has no link that could be wrong. -/
theorem wellFormed_empty : empty.WellFormed := by
  -- The root stands alone: there is no link at all.
  have hparent : ∀ n, empty.parent? n = none := by
    intro n
    rw [parent?, slot?_empty]
    split <;> rfl
  have hchildren : ∀ n, empty.children n = [] := by
    intro n
    rw [children, slot?_empty]
    split <;> rfl
  exact {
    kind_root := rfl
    parent_root := rfl
    nodup_children n := by
      rw [hchildren]
      exact List.nodup_nil
    mem_children_iff n p := by
      rw [hchildren, IsParent, hparent]
      exact iff_of_false List.not_mem_nil (by simp)
    children_leaf n _ _ _ := hchildren n
    acyclic n hn := by
      obtain ⟨p, hp, -⟩ := TransGen.head'_iff.mp hn
      rw [IsParent, hparent] at hp
      cases hp
    discarded s hs hdead := by
      simp only [empty, Array.mem_def, List.mem_singleton] at hs
      subst hs
      exact Bool.noConfusion hdead }

end Document

/-! ### The edits that make or undo one link -/

namespace Edit

/-- Making a node keeps the links in order. -/
theorem keeps_wellFormed_create (k : NodeKind) : Keeps Document.WellFormed (create k) :=
  fun _ h => h.push k

/-- Changing attributes keeps the links in order. -/
theorem keeps_wellFormed_modifyAttributes (n : NodeId) (f : Attributes → Attributes) :
    Keeps Document.WellFormed (modifyAttributes n f) := by
  intro d h
  rcases modifyAttributes_cases d n f with ⟨⟨name, a, hk⟩, hrun⟩ | ⟨e, hrun⟩
  · rw [exec_of_ok hrun]
    exact h.mapAttributes (Document.contains_of_kind? hk) f
  · rwa [exec_of_error hrun]

/-- Appending a child keeps the links in order. -/
theorem keeps_wellFormed_appendChild (p c : NodeId) :
    Keeps Document.WellFormed (appendChild p c) := by
  intro d h
  rcases appendChild_cases d p c with ⟨ha, hrun⟩ | ⟨-, e, hrun⟩
  · rw [exec_of_ok hrun]
    exact h.attach ha List.perm_append_comm
  · rwa [exec_of_error hrun]

/-- Inserting a child keeps the links in order. -/
theorem keeps_wellFormed_insertBefore (p c before : NodeId) :
    Keeps Document.WellFormed (insertBefore p c before) := by
  intro d h
  rcases insertBefore_cases d p c before with ⟨i, ha, hi, hrun⟩ | ⟨e, hrun⟩
  · rw [exec_of_ok hrun]
    obtain ⟨hlt, -⟩ := List.idxOf?_eq_some_iff.mp hi
    exact h.attach ha (List.perm_insertIdx _ _ (Nat.le_of_lt hlt))
  · rwa [exec_of_error hrun]

/-- Removing a child keeps the links in order. -/
theorem keeps_wellFormed_removeChild (p c : NodeId) :
    Keeps Document.WellFormed (removeChild p c) := by
  intro d h
  rcases removeChild_cases d p c with ⟨hp, -, hrun⟩ | ⟨e, hrun⟩
  · rw [exec_of_ok hrun]
    exact h.unlink hp
  · rwa [exec_of_error hrun]

/-- Detaching a node keeps the links in order. -/
theorem keeps_wellFormed_detach (n : NodeId) : Keeps Document.WellFormed (detach n) := by
  intro d h
  rcases detach_cases d n with ⟨-, -, -, hrun⟩ | ⟨p, -, hp, -, hrun⟩ | ⟨e, hrun⟩
  · rwa [exec_of_ok hrun]
  · rw [exec_of_ok hrun]
    exact h.unlink hp
  · rwa [exec_of_error hrun]

/-- Replacing a child keeps the links in order. -/
theorem keeps_wellFormed_replaceChild (p new old : NodeId) :
    Keeps Document.WellFormed (replaceChild p new old) := by
  intro d h
  rcases replaceChild_cases d p new old with ⟨i, hp, ha, hi, hrun⟩ | ⟨e, hrun⟩
  · rw [exec_of_ok hrun]
    exact h.swap ha hp hi
  · rwa [exec_of_error hrun]

end Edit

end AmpMarkup
