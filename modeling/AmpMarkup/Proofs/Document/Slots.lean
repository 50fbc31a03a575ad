import AmpMarkup.Document.Edit
import AmpMarkup.Document.WellFormed

namespace AmpMarkup.Document

/-!
# Changing single slots

Every edit is made of a few changes of single slots. This file names them and says what each does
to every reading of the document, so that nothing below looks into the array of slots again.

* `slot?_modifySlot`, `slot?_push` — the two ways in which the array changes.
* `mapChildren`, `setParent`, `mapKind` — one part of a live slot changed; `free` — a slot given up.
* `attach`, `unlink` — both sides of a link made or undone.
* `SameAt d d' n` — the two documents hold the same slot for `n`.
-/

variable {d d' : Document} {n m p c : NodeId}

/-! ### Slots -/

/-- A node has a slot exactly if there is one at its place and the slot is live. -/
theorem slot?_eq_some_iff {s : Slot} :
    d.slot? n = some s ↔ d.slots[n.index]? = some s ∧ s.live = true := by
  simp [slot?, Option.filter_eq_some_iff]

/-- A node is live exactly if it has a slot. -/
theorem contains_iff : d.contains n = true ↔ ∃ s, d.slot? n = some s := by
  simp [contains, Option.isSome_iff_exists]

/-- What stands in the place of a live node is its slot. -/
theorem slot?_of_slots (h : d.contains n = true) {s : Slot} (hs : d.slots[n.index]? = some s) :
    d.slot? n = some s := by
  obtain ⟨s', hs'⟩ := contains_iff.mp h
  rw [hs', ← hs]
  exact (slot?_eq_some_iff.mp hs').1.symm

/-- A node is not live exactly if it has no slot. -/
theorem not_contains_iff : d.contains n = false ↔ d.slot? n = none := by
  simp [contains]

/-- Only a slot of the arena holds a live node. -/
theorem index_lt_of_contains (h : d.contains n = true) : n.index < d.size := by
  obtain ⟨s, hs⟩ := contains_iff.mp h
  exact (Array.getElem?_eq_some_iff.mp (slot?_eq_some_iff.mp hs).1).1

/-- A node is live exactly if it has a kind. -/
theorem contains_eq_isSome_kind? : d.contains n = (d.kind? n).isSome := by
  rw [contains, kind?, Option.isSome_map]

/-- A node of some kind is live. -/
theorem contains_of_kind? {k : NodeKind} (h : d.kind? n = some k) : d.contains n = true := by
  rw [kind?, Option.map_eq_some_iff] at h
  obtain ⟨s, hs, -⟩ := h
  exact contains_iff.mpr ⟨s, hs⟩

/-- A node that is an element of this name has such a kind. -/
theorem kind_of_isElementNamed {name : String} (h : d.isElementNamed n name = true) :
    ∃ k, d.kind? n = some k ∧ k.isNamed name = true := by
  cases hk : d.kind? n with
  | none => simp [isElementNamed, hk] at h
  | some k => exact ⟨k, rfl, by rwa [isElementNamed, hk, Option.any_some] at h⟩

/-- An element of a name is told by its kind; a node that is not live counts as one without a
    name. -/
theorem isElementNamed_eq (d : Document) (n : NodeId) (name : String) :
    d.isElementNamed n name = ((d.kind? n).getD .document).isNamed name := by
  rw [isElementNamed]
  cases d.kind? n <;> rfl

/-- The attributes of an element are read off its kind. -/
theorem attributes?_of_kind? {tag : String} {a : Attributes}
    (h : d.kind? n = some (.element tag a)) : d.attributes? n = some a := by
  rw [attributes?, h]
  rfl

/-- An attribute of an element is read off its kind. -/
theorem attribute?_of_kind? {tag : String} {a : Attributes}
    (h : d.kind? n = some (.element tag a)) (name : String) :
    d.attribute? n name = a.get? name := by
  rw [attribute?, attributes?_of_kind? h, Option.bind_some]

/-- A node has the attributes that have a value. -/
theorem hasAttribute_eq (d : Document) (n : NodeId) (name : String) :
    d.hasAttribute n name = (d.attribute? n name).isSome := by
  rw [hasAttribute, attribute?]
  cases d.attributes? n with
  | none => rfl
  | some a => rw [Option.any_some, Option.bind_some, Attributes.contains_eq_isSome_get?]

/-- Whether a node is an element of this name is read off its kind. -/
theorem isElementNamed_of_kind? {k : NodeKind} (h : d.kind? n = some k) (name : String) :
    d.isElementNamed n name = k.isNamed name := by
  rw [isElementNamed, h, Option.any_some]

/-- A live node has a kind. -/
theorem exists_kind? (h : d.contains n = true) : ∃ k, d.kind? n = some k := by
  obtain ⟨s, hs⟩ := contains_iff.mp h
  exact ⟨s.kind, by rw [kind?, hs, Option.map_some]⟩

/-- A node with a parent is live. -/
theorem contains_of_parent? (h : d.parent? n = some p) : d.contains n = true := by
  rw [parent?, Option.bind_eq_some_iff] at h
  obtain ⟨s, hs, -⟩ := h
  exact contains_iff.mpr ⟨s, hs⟩

/-- A node with children is live. -/
theorem contains_of_mem_children (h : c ∈ d.children n) : d.contains n = true := by
  cases hs : d.slot? n with
  | none => simp [children, hs] at h
  | some s => exact contains_iff.mpr ⟨s, hs⟩

/-- A node that is not live has no children. -/
theorem children_eq_nil_of_not_contains (h : d.contains n = false) : d.children n = [] := by
  simp [children, not_contains_iff.mp h]

/-- A node that is not live has no parent. -/
theorem parent?_eq_none_of_not_contains (h : d.contains n = false) : d.parent? n = none := by
  simp [parent?, not_contains_iff.mp h]

/-- A node that is not live is no live node. -/
theorem ne_of_contains (hm : d.contains m = false) (hn : d.contains n = true) : m ≠ n := by
  rintro rfl
  rw [hm] at hn
  exact Bool.noConfusion hn

/-- A node without a parent is none with a parent. -/
theorem ne_of_parent? (hm : d.parent? m = none) (hn : d.parent? n = some p) : m ≠ n := by
  rintro rfl
  rw [hm] at hn
  cases hn

/-- The slot of a live node is put together from its readings. -/
theorem slot?_eq_of_kind? {k : NodeKind} (h : d.kind? n = some k) :
    d.slot? n = some { kind := k, parent? := d.parent? n, children := d.children n } := by
  rw [kind?, Option.map_eq_some_iff] at h
  obtain ⟨s, hs, rfl⟩ := h
  have hlive : s.live = true := (slot?_eq_some_iff.mp hs).2
  obtain ⟨kind, parent?, children, live⟩ := s
  simp_all [Document.parent?, Document.children]

@[simp] theorem size_modifySlot (f : Slot → Slot) : (d.modifySlot n f).size = d.size := by
  simp [size, modifySlot]

@[simp] theorem size_push (k : NodeKind) : (d.push k).size = d.size + 1 := by
  simp [size, push]

/-- Changing one slot leaves the array alone at all other places. -/
theorem slots_modifySlot (d : Document) (m n : NodeId) (f : Slot → Slot) :
    (d.modifySlot n f).slots[m.index]? =
      if m = n then d.slots[m.index]?.map f else d.slots[m.index]? := by
  rw [modifySlot, Array.getElem?_modify]
  by_cases h : m = n
  · rw [if_pos h, if_pos (congrArg NodeId.index h.symm)]
  · rw [if_neg h, if_neg fun heq => h (congrArg NodeId.mk heq.symm)]

/-- A change that neither frees nor revives a slot. -/
theorem slot?_modifySlot {f : Slot → Slot} (hf : ∀ s, (f s).live = s.live) :
    (d.modifySlot n f).slot? m = if m = n then (d.slot? n).map f else d.slot? m := by
  obtain ⟨i⟩ := n
  obtain ⟨j⟩ := m
  simp only [slot?, modifySlot, Array.getElem?_modify, NodeId.mk.injEq]
  by_cases h : i = j
  · subst h
    cases hs : d.slots[i]? with
    | none => simp
    | some s => by_cases hl : s.live = true <;> simp [Option.filter, hf, hl]
  · rw [if_neg h, if_neg (Ne.symm h)]

/-- A new slot at the end of the arena. -/
theorem slot?_push (k : NodeKind) :
    (d.push k).slot? m = if m = d.nextId then some { kind := k } else d.slot? m := by
  obtain ⟨j⟩ := m
  simp only [slot?, push, nextId, size, Array.getElem?_push, NodeId.mk.injEq]
  by_cases h : j = d.slots.size <;> simp [h, Option.filter]

/-! ### The changes that edits are made of -/

/-- The children of `n` changed by `g`. -/
def mapChildren (d : Document) (n : NodeId) (g : List NodeId → List NodeId) : Document :=
  d.modifySlot n fun s => { s with children := g s.children }

/-- The parent of `n` set to `p?`. -/
def setParent (d : Document) (n : NodeId) (p? : Option NodeId) : Document :=
  d.modifySlot n fun s => { s with parent? := p? }

/-- The kind of `n` changed by `g`. -/
def mapKind (d : Document) (n : NodeId) (g : NodeKind → NodeKind) : Document :=
  d.modifySlot n fun s => { s with kind := g s.kind }

/-- The slot of `n` given up, with its links. -/
def free (d : Document) (n : NodeId) : Document :=
  d.modifySlot n fun s => { s with live := false, parent? := none, children := [] }

/-- `c` put under `p`, at the place in the list of children that `g` chooses. -/
def attach (d : Document) (p c : NodeId) (g : List NodeId → List NodeId) : Document :=
  (d.mapChildren p g).setParent c (some p)

/-- `c` taken out of its parent `p`. -/
def unlink (d : Document) (p c : NodeId) : Document :=
  (d.mapChildren p (·.filter (· ≠ c))).setParent c none

/-- Changing a list of children changes that slot only. -/
theorem slot?_mapChildren (g : List NodeId → List NodeId) :
    (d.mapChildren n g).slot? m =
      if m = n then (d.slot? n).map fun s => { s with children := g s.children }
      else d.slot? m :=
  slot?_modifySlot fun _ => rfl

/-- Setting a parent link changes that slot only. -/
theorem slot?_setParent (p? : Option NodeId) :
    (d.setParent n p?).slot? m =
      if m = n then (d.slot? n).map fun s => { s with parent? := p? } else d.slot? m :=
  slot?_modifySlot fun _ => rfl

/-- Changing a kind changes that slot only. -/
theorem slot?_mapKind (g : NodeKind → NodeKind) :
    (d.mapKind n g).slot? m =
      if m = n then (d.slot? n).map fun s => { s with kind := g s.kind } else d.slot? m :=
  slot?_modifySlot fun _ => rfl

/-- A node that has been freed has no slot, and all others keep theirs. -/
theorem slot?_free : (d.free n).slot? m = if m = n then none else d.slot? m := by
  obtain ⟨i⟩ := n
  obtain ⟨j⟩ := m
  simp only [slot?, free, modifySlot, Array.getElem?_modify, NodeId.mk.injEq]
  by_cases h : i = j
  · subst h
    cases hs : d.slots[i]? <;> simp [Option.filter]
  · rw [if_neg h, if_neg (Ne.symm h)]

@[simp] theorem size_mapChildren (g : List NodeId → List NodeId) :
    (d.mapChildren n g).size = d.size := size_modifySlot _

@[simp] theorem size_setParent (p? : Option NodeId) : (d.setParent n p?).size = d.size :=
  size_modifySlot _

@[simp] theorem size_mapKind (g : NodeKind → NodeKind) : (d.mapKind n g).size = d.size :=
  size_modifySlot _

@[simp] theorem size_free : (d.free n).size = d.size := size_modifySlot _

@[simp] theorem size_attach (g : List NodeId → List NodeId) : (d.attach p c g).size = d.size := by
  simp [attach]

@[simp] theorem size_unlink : (d.unlink p c).size = d.size := by simp [unlink]

/-! ### Readings that a change leaves alone -/

/-- A reading of slots that the change of a slot leaves alone is the same afterwards. -/
theorem map_slot?_modifySlot {α : Type} {f : Slot → Slot} (r : Slot → α)
    (hf : ∀ s, (f s).live = s.live) (hr : ∀ s, r (f s) = r s) :
    ((d.modifySlot n f).slot? m).map r = (d.slot? m).map r := by
  rw [slot?_modifySlot hf]
  by_cases h : m = n
  · rw [if_pos h, h, Option.map_map]
    congr 1
    funext s
    exact hr s
  · rw [if_neg h]

/-- Liveness only depends on whether there is a slot. -/
theorem contains_eq_isSome_map : d.contains n = ((d.slot? n).map fun _ => ()).isSome := by
  simp [contains]

/-- The parent link is a part of the slot. -/
theorem parent?_eq_join_map : d.parent? n = ((d.slot? n).map (·.parent?)).join := by
  cases hs : d.slot? n <;> simp [parent?, hs]

@[simp] theorem contains_mapChildren (g : List NodeId → List NodeId) :
    (d.mapChildren n g).contains m = d.contains m := by
  rw [contains_eq_isSome_map, contains_eq_isSome_map]
  exact congrArg _ (map_slot?_modifySlot _ (fun _ => rfl) fun _ => rfl)

@[simp] theorem contains_setParent (p? : Option NodeId) :
    (d.setParent n p?).contains m = d.contains m := by
  rw [contains_eq_isSome_map, contains_eq_isSome_map]
  exact congrArg _ (map_slot?_modifySlot _ (fun _ => rfl) fun _ => rfl)

@[simp] theorem contains_mapKind (g : NodeKind → NodeKind) :
    (d.mapKind n g).contains m = d.contains m := by
  rw [contains_eq_isSome_map, contains_eq_isSome_map]
  exact congrArg _ (map_slot?_modifySlot _ (fun _ => rfl) fun _ => rfl)

@[simp] theorem kind?_mapChildren (g : List NodeId → List NodeId) :
    (d.mapChildren n g).kind? m = d.kind? m :=
  map_slot?_modifySlot _ (fun _ => rfl) fun _ => rfl

@[simp] theorem kind?_setParent (p? : Option NodeId) :
    (d.setParent n p?).kind? m = d.kind? m :=
  map_slot?_modifySlot _ (fun _ => rfl) fun _ => rfl

@[simp] theorem parent?_mapChildren (g : List NodeId → List NodeId) :
    (d.mapChildren n g).parent? m = d.parent? m := by
  rw [parent?_eq_join_map, parent?_eq_join_map]
  exact congrArg _ (map_slot?_modifySlot _ (fun _ => rfl) fun _ => rfl)

@[simp] theorem parent?_mapKind (g : NodeKind → NodeKind) :
    (d.mapKind n g).parent? m = d.parent? m := by
  rw [parent?_eq_join_map, parent?_eq_join_map]
  exact congrArg _ (map_slot?_modifySlot _ (fun _ => rfl) fun _ => rfl)

@[simp] theorem children_setParent (p? : Option NodeId) :
    (d.setParent n p?).children m = d.children m :=
  congrArg (Option.getD · []) (map_slot?_modifySlot _ (fun _ => rfl) fun _ => rfl)

@[simp] theorem children_mapKind (g : NodeKind → NodeKind) :
    (d.mapKind n g).children m = d.children m :=
  congrArg (Option.getD · []) (map_slot?_modifySlot _ (fun _ => rfl) fun _ => rfl)

/-! ### Readings that a change is about -/

/-- A live node gets the changed list of children. -/
theorem children_mapChildren_self (h : d.contains n = true) (g : List NodeId → List NodeId) :
    (d.mapChildren n g).children n = g (d.children n) := by
  obtain ⟨s, hs⟩ := contains_iff.mp h
  simp [children, slot?_mapChildren, hs]

/-- All other nodes keep their lists of children. -/
theorem children_mapChildren_of_ne (h : m ≠ n) (g : List NodeId → List NodeId) :
    (d.mapChildren n g).children m = d.children m := by
  simp [children, slot?_mapChildren, h]

/-- A live node gets the parent link. -/
theorem parent?_setParent_self (h : d.contains n = true) (p? : Option NodeId) :
    (d.setParent n p?).parent? n = p? := by
  obtain ⟨s, hs⟩ := contains_iff.mp h
  simp [parent?, slot?_setParent, hs]

/-- All other nodes keep their parent links. -/
theorem parent?_setParent_of_ne (h : m ≠ n) (p? : Option NodeId) :
    (d.setParent n p?).parent? m = d.parent? m := by
  simp [parent?, slot?_setParent, h]

/-- The changed kind is the only one that changes. -/
theorem kind?_mapKind (g : NodeKind → NodeKind) :
    (d.mapKind n g).kind? m = if m = n then (d.kind? n).map g else d.kind? m := by
  by_cases h : m = n
  · subst h; cases hs : d.slot? m <;> simp [kind?, slot?_mapKind, hs]
  · simp [kind?, slot?_mapKind, h]

/-! ### Readings of a link made or undone -/

@[simp] theorem kind?_attach (g : List NodeId → List NodeId) :
    (d.attach p c g).kind? m = d.kind? m := by simp [attach]

@[simp] theorem contains_attach (g : List NodeId → List NodeId) :
    (d.attach p c g).contains m = d.contains m := by simp [attach]

/-- After attaching `c` under `p` its parent is `p`, and no other parent link has changed. -/
theorem parent?_attach (h : d.contains c = true) (g : List NodeId → List NodeId) :
    (d.attach p c g).parent? m = if m = c then some p else d.parent? m := by
  by_cases hm : m = c
  · subst hm; simp [attach, parent?_setParent_self, h]
  · simp [attach, parent?_setParent_of_ne hm, hm]

/-- After attaching `c` under `p` the list of `p` has changed, and no other one. -/
theorem children_attach (h : d.contains p = true) (g : List NodeId → List NodeId) :
    (d.attach p c g).children m = if m = p then g (d.children p) else d.children m := by
  by_cases hm : m = p
  · subst hm; simp [attach, children_mapChildren_self h]
  · simp [attach, children_mapChildren_of_ne hm, hm]

@[simp] theorem kind?_unlink : (d.unlink p c).kind? m = d.kind? m := by simp [unlink]

@[simp] theorem contains_unlink : (d.unlink p c).contains m = d.contains m := by simp [unlink]

/-- After unlinking `c` it has no parent, and no other parent link has changed. -/
theorem parent?_unlink (h : d.contains c = true) :
    (d.unlink p c).parent? m = if m = c then none else d.parent? m := by
  by_cases hm : m = c
  · subst hm; simp [unlink, parent?_setParent_self, h]
  · simp [unlink, parent?_setParent_of_ne hm, hm]

/-- After unlinking `c` from `p` it is not in the list of `p`, and no other list has changed. -/
theorem children_unlink :
    (d.unlink p c).children m =
      if m = p then (d.children p).filter (· ≠ c) else d.children m := by
  by_cases hm : m = p
  · subst hm
    by_cases h : d.contains m = true
    · simp [unlink, children_mapChildren_self h]
    · have h : d.contains m = false := by simpa using h
      rw [if_pos rfl, children_eq_nil_of_not_contains (by simpa using h),
        children_eq_nil_of_not_contains h]
      rfl
  · simp [unlink, children_mapChildren_of_ne hm, hm]

/-! ### Readings of a new slot -/

/-- A new node has the kind it was made with, and all others keep theirs. -/
theorem kind?_push (k : NodeKind) :
    (d.push k).kind? m = if m = d.nextId then some k else d.kind? m := by
  by_cases h : m = d.nextId <;> simp [kind?, slot?_push, h]

@[simp] theorem kind?_nextId_push (k : NodeKind) : (d.push k).kind? d.nextId = some k := by
  rw [kind?_push, if_pos rfl]

/-- The next identifier is not live yet. -/
theorem not_contains_nextId : d.contains d.nextId = false := by
  rw [Bool.eq_false_iff]
  intro h
  exact absurd (index_lt_of_contains h) (Nat.lt_irrefl d.size)

/-- The next identifier names no node yet, so there are no children. -/
theorem children_nextId : d.children d.nextId = [] :=
  children_eq_nil_of_not_contains not_contains_nextId

/-- What has a place in the array is not the next identifier. -/
theorem ne_nextId_of_lt (h : n.index < d.size) : n ≠ d.nextId := by
  rintro rfl
  exact absurd h (Nat.lt_irrefl d.size)

/-- A live node is not the next identifier. -/
theorem ne_nextId_of_contains (h : d.contains n = true) : n ≠ d.nextId :=
  ne_nextId_of_lt (index_lt_of_contains h)

/-- After making a node it is live, together with those that were live before. -/
theorem contains_push (k : NodeKind) :
    (d.push k).contains m = (decide (m = d.nextId) || d.contains m) := by
  by_cases h : m = d.nextId <;> simp [contains, slot?_push, h]

@[simp] theorem parent?_push (k : NodeKind) : (d.push k).parent? m = d.parent? m := by
  by_cases h : m = d.nextId
  · rw [h, parent?_eq_none_of_not_contains not_contains_nextId]
    simp [parent?, slot?_push]
  · simp [parent?, slot?_push, h]

@[simp] theorem children_push (k : NodeKind) : (d.push k).children m = d.children m := by
  by_cases h : m = d.nextId
  · rw [h, children_nextId]
    simp [children, slot?_push]
  · simp [children, slot?_push, h]

/-! ### Readings of a slot given up -/

/-- After freeing a node all others are as live as before. -/
theorem contains_free : (d.free n).contains m = (!decide (m = n) && d.contains m) := by
  by_cases h : m = n <;> simp [contains, slot?_free, h]

/-! ### Agreement of two documents -/

/-- The two documents hold the same slot for `n`. -/
def SameAt (d d' : Document) (n : NodeId) : Prop := d'.slot? n = d.slot? n

namespace SameAt

/-- The same slot shows the same kind. -/
theorem kind? (h : SameAt d d' n) : d'.kind? n = d.kind? n := by
  rw [Document.kind?, h, Document.kind?]

/-- The same slot shows the same parent. -/
theorem parent? (h : SameAt d d' n) : d'.parent? n = d.parent? n := by
  rw [Document.parent?, h, Document.parent?]

/-- The same slot shows the same list of children. -/
theorem children (h : SameAt d d' n) : d'.children n = d.children n := by
  rw [Document.children, h, Document.children]

/-- The same slot is as live as before. -/
theorem contains (h : SameAt d d' n) : d'.contains n = d.contains n := by
  rw [Document.contains, h, Document.contains]

/-- Slots that have been kept twice have been kept. -/
theorem trans {d'' : Document} (h₁ : SameAt d d' n) (h₂ : SameAt d' d'' n) : SameAt d d'' n :=
  Eq.trans h₂ h₁

end SameAt

/-- A link concerns its two ends only. -/
theorem sameAt_attach (hp : m ≠ p) (hc : m ≠ c) (g : List NodeId → List NodeId) :
    SameAt d (d.attach p c g) m := by
  rw [SameAt, attach, slot?_setParent, if_neg hc, slot?_mapChildren, if_neg hp]

/-- Taking out a child concerns the child and its parent only. -/
theorem sameAt_unlink (hp : m ≠ p) (hc : m ≠ c) : SameAt d (d.unlink p c) m := by
  rw [SameAt, unlink, slot?_setParent, if_neg hc, slot?_mapChildren, if_neg hp]

/-- A change of a kind concerns that node only. -/
theorem sameAt_mapKind (hn : m ≠ n) (g : NodeKind → NodeKind) : SameAt d (d.mapKind n g) m := by
  rw [SameAt, slot?_mapKind, if_neg hn]

/-- A new node leaves all slots alone that have been there before. -/
theorem sameAt_push (h : m.index < d.size) (k : NodeKind) : SameAt d (d.push k) m := by
  rw [SameAt, slot?_push, if_neg (ne_nextId_of_lt h)]

end AmpMarkup.Document
