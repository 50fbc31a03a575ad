import AmpMarkup.Document.Fallback
import AmpMarkup.Document.Refusal
import AmpMarkup.Proofs.Document.Slots

namespace AmpMarkup.Edit

open Document (root)

/-!
# Running edits

What an edit does is said by one lemma for each way in which it can end; nothing below looks into
the monad again. How parts are put together does not depend on what the errors are, since a
conversion fails with the issues it has found until then.

* `run_bind_ok`, `run_bind_error` — how the parts of an edit are put together.
* `run_orThrow`, `exec_orThrow` — an edit with another error does the same.
* `Attachable d p c` — all that is checked before `c` is put under `p`.
* `appendChild_cases` and its like — an edit ends well, with a document that is written down here,
  or it fails and changes nothing.
* `Keeps P e` — what `e` does, and be it a failure, leaves `P` true; it holds of every edit that is
  put together from edits of which it holds.
-/

variable {ε α β : Type} {d d' : Document} {n p c : NodeId}

/-! ### Parts of edits -/

/-- After a first part that ends well the second part goes on from its document. -/
theorem run_bind_ok {x : EStateM ε Document α} {f : α → EStateM ε Document β} {a : α}
    (h : x.run d = .ok a d') : (x >>= f).run d = (f a).run d' := by
  rw [EStateM.run_bind, h]

/-- A first part that fails decides how the whole ends. -/
theorem run_bind_error {x : EStateM ε Document α} {f : α → EStateM ε Document β} {e : ε}
    (h : x.run d = .error e d') : (x >>= f).run d = .error e d' := by
  rw [EStateM.run_bind, h]

/-- An edit that fails does not end well. -/
theorem run_ne_ok {x : EStateM ε Document α} {e : ε} (h : x.run d = .error e d') {a : α}
    {d'' : Document} : x.run d ≠ .ok a d'' := by
  rw [h]
  exact nofun

/-- Two edits that end well, one after the other. -/
theorem run_bind_eq_ok {x : EStateM ε Document α} {f : α → EStateM ε Document β} {b : β}
    (h : (x >>= f).run d = .ok b d') :
    ∃ a d₁, x.run d = .ok a d₁ ∧ (f a).run d₁ = .ok b d' := by
  cases hx : x.run d with
  | ok a d₁ =>
    rw [run_bind_ok hx] at h
    exact ⟨a, d₁, rfl, h⟩
  | error e d₁ =>
    rw [run_bind_error hx] at h
    cases h

@[simp] theorem run_throw (e : ε) : (throw e : EStateM ε Document α).run d = .error e d := rfl

/-- A failed edit leaves its document to the handler. -/
theorem run_tryCatch (x : EStateM ε Document α) (f : ε → EStateM ε Document α) (d : Document) :
    (tryCatch x f).run d = match x.run d with
      | .ok a d' => .ok a d'
      | .error e d' => (f e).run d' := by
  show EStateM.tryCatch x f d = _
  delta EStateM.tryCatch EStateM.run
  cases x d <;> rfl

/-- The handler has no part in an edit that ends well. -/
theorem run_tryCatch_ok {x : EStateM ε Document α} {f : ε → EStateM ε Document α} {a : α}
    (h : x.run d = .ok a d') : (tryCatch x f).run d = .ok a d' := by
  rw [run_tryCatch, h]

/-- The handler goes on from the document that a failed edit leaves behind. -/
theorem run_tryCatch_error {x : EStateM ε Document α} {f : ε → EStateM ε Document α} {e : ε}
    (h : x.run d = .error e d') : (tryCatch x f).run d = (f e).run d' := by
  rw [run_tryCatch, h]

/-- Only the error is another one. -/
theorem run_orThrow (x : Edit α) (error : ε) (d : Document) :
    (x.orThrow error).run d = match x.run d with
      | .ok a d' => .ok a d'
      | .error _ d' => .error error d' := by
  show EStateM.adaptExcept _ x d = _
  delta EStateM.adaptExcept EStateM.run
  cases x d <;> rfl

/-- An edit that ends well does so whatever error it would have had. -/
theorem run_orThrow_ok {x : Edit α} {a : α} (h : x.run d = .ok a d') (error : ε) :
    (x.orThrow error).run d = .ok a d' := by
  rw [run_orThrow, h]

/-- What ends well with another error ends well with its own. -/
theorem run_orThrow_eq_ok {x : Edit α} {error : ε} {a : α}
    (h : (x.orThrow error).run d = .ok a d') : x.run d = .ok a d' := by
  rw [run_orThrow] at h
  cases hx : x.run d with
  | ok b d₁ =>
    rw [hx] at h
    cases h
    rfl
  | error e d₁ =>
    rw [hx] at h
    cases h

/-- What an edit that ends well leaves behind is its document. -/
theorem exec_of_ok {x : EStateM ε Document α} {a : α} (h : x.run d = .ok a d') :
    x.exec d = d' := by
  simp [EStateM.exec, h]

/-- What an edit that fails leaves behind is its document. -/
theorem exec_of_error {x : EStateM ε Document α} {e : ε} (h : x.run d = .error e d') :
    x.exec d = d' := by
  simp [EStateM.exec, h]

/-- Another error does not change what is left behind. -/
theorem exec_orThrow (x : Edit α) (error : ε) (d : Document) :
    (x.orThrow error).exec d = x.exec d := by
  rw [EStateM.exec, run_orThrow, EStateM.exec]
  cases x.run d <;> rfl

/-! ### Single slots -/

/-- Reading the slot of a live node gives it. -/
theorem run_slot {s : Slot} (h : d.slot? n = some s) : (slot n).run d = .ok s d := by
  simp [slot, h]

/-- Reading a slot that is not there fails. -/
theorem run_slot_of_none (h : d.slot? n = none) : (slot n).run d = .error (.missingNode n) d := by
  simp [slot, h]

/-- Changing the slot of a live node changes the document at that place. -/
theorem run_modifySlot (h : d.contains n = true) (f : Slot → Slot) :
    (modifySlot n f).run d = .ok () (d.modifySlot n f) := by
  simp [modifySlot, h]

/-- Changing a slot that is not there fails. -/
theorem run_modifySlot_of_not_contains (h : d.contains n = false) (f : Slot → Slot) :
    (modifySlot n f).run d = .error (.missingNode n) d := by
  simp [modifySlot, h]

/-- A list of children is changed through its slot. -/
theorem run_mapChildren (h : d.contains n = true) (g : List NodeId → List NodeId) :
    (modifySlot n fun s => { s with children := g s.children }).run d =
      .ok () (d.mapChildren n g) :=
  run_modifySlot h _

/-- A parent link is changed through its slot. -/
theorem run_setParent (h : d.contains n = true) (p? : Option NodeId) :
    (modifySlot n fun s => { s with parent? := p? }).run d = .ok () (d.setParent n p?) :=
  run_modifySlot h _

/-- A link is a new last child together with its parent link. -/
theorem run_link (hp : d.contains p = true) (hc : d.contains c = true) :
    (link p c).run d = .ok () (d.attach p c (· ++ [c])) := by
  rw [link, run_bind_ok (run_mapChildren hp (· ++ [c])), run_setParent (by simpa using hc),
    Document.attach]

theorem run_create (k : NodeKind) : (create k).run d = .ok d.nextId (d.push k) := rfl

/-! ### Causes of failure -/

@[simp] theorem firstCause?_nil : firstCause? [] = none := rfl

@[simp] theorem firstCause?_cons (b : Bool) (cause : EditError) (rest : List (Bool × EditError)) :
    firstCause? ((b, cause) :: rest) = if b then some cause else firstCause? rest := by
  cases b <;> rfl

/-- Nothing of a list holds if the first cause does not hold and none of the others does. -/
theorem firstCause?_cons_eq_none_iff {b : Bool} {cause : EditError}
    {rest : List (Bool × EditError)} :
    firstCause? ((b, cause) :: rest) = none ↔ b = false ∧ firstCause? rest = none := by
  cases b <;> simp

/-- Of two lists the causes of the first come first. -/
theorem firstCause?_append (l l' : List (Bool × EditError)) :
    firstCause? (l ++ l') = (firstCause? l).or (firstCause? l') := by
  rw [firstCause?, List.find?_append, Option.map_or, firstCause?, firstCause?]

/-! ### Attributes -/

/-- The attributes of an element can be changed. -/
theorem run_modifyAttributes {tag : String} {a : Attributes}
    (h : d.kind? n = some (.element tag a)) (f : Attributes → Attributes) :
    (modifyAttributes n f).run d = .ok () (d.mapKind n (·.mapAttributes f)) := by
  rw [modifyAttributes, run_bind_ok (run_slot (Document.slot?_eq_of_kind? h))]
  exact run_modifySlot (Document.contains_of_kind? h) _

/-- The attributes of an element are changed; on anything else the edit fails. -/
theorem modifyAttributes_cases (d : Document) (n : NodeId) (f : Attributes → Attributes) :
    ((∃ name a, d.kind? n = some (.element name a)) ∧
      (modifyAttributes n f).run d = .ok () (d.mapKind n (·.mapAttributes f))) ∨
    ∃ e, (modifyAttributes n f).run d = .error e d := by
  cases hs : d.slot? n with
  | none => exact .inr ⟨_, run_bind_error (run_slot_of_none hs)⟩
  | some s =>
    have hk : d.kind? n = some s.kind := by simp [Document.kind?, hs]
    cases hkind : s.kind with
    | element name a =>
      rw [hkind] at hk
      exact .inl ⟨⟨name, a, hk⟩, run_modifyAttributes hk f⟩
    | _ =>
      refine .inr ⟨.wrongNodeKind n, ?_⟩
      rw [modifyAttributes, run_bind_ok (run_slot hs), hkind]
      rfl

/-- An attribute of an element can be set. -/
theorem run_setAttribute {tag : String} {a : Attributes}
    (h : d.kind? n = some (.element tag a)) (name value : String) :
    (setAttribute n name value).run d =
      .ok () (d.mapKind n (·.mapAttributes (·.set name value))) :=
  run_modifyAttributes h _

/-! ### Attaching -/

/-- All that is checked before `c` is put under `p`. -/
structure Attachable (d : Document) (p c : NodeId) : Prop where
  /-- `p` is a live node that takes children. -/
  allows : ∃ k, d.kind? p = some k ∧ k.allowsChildren = true
  ne_root : c ≠ root
  /-- `c` is a live node. -/
  contains : d.contains c = true
  /-- `c` hangs nowhere. -/
  detached : d.parent? c = none
  ne : p ≠ c
  /-- `c` is not above `p`. -/
  not_above : d.isAncestor c p = false

/-- What can be attached is attached to a live node. -/
theorem Attachable.contains_parent (h : Attachable d p c) : d.contains p = true := by
  obtain ⟨k, hk, -⟩ := h.allows
  exact Document.contains_of_kind? hk

/-- Nothing forbids to put `c` under `p` exactly if all of it holds. -/
theorem firstCause?_attachCauses_eq_none_iff :
    firstCause? (d.attachCauses p c) = none ↔ Attachable d p c := by
  simp only [Document.attachCauses, firstCause?_cons_eq_none_iff, firstCause?_nil, and_true,
    Bool.not_eq_false', decide_eq_false_iff_not, Option.isSome_eq_false_iff,
    Option.isNone_iff_eq_none, not_or, Bool.not_eq_true]
  rw [Option.any_eq_true]
  constructor
  · rintro ⟨-, hallows, hroot, hc, hdetached, hne, habove⟩
    exact ⟨hallows, hroot, hc, hdetached, hne, habove⟩
  · intro h
    exact ⟨h.contains_parent, h.allows, h.ne_root, h.contains, h.detached, h.ne, h.not_above⟩

/-- The check ends with the first cause that holds, and never changes the document. -/
theorem run_ensureAttachable_eq (d : Document) (p c : NodeId) :
    (ensureAttachable p c).run d = match firstCause? (d.attachCauses p c) with
      | some cause => .error cause d
      | none => .ok () d := by
  simp only [Document.attachCauses, firstCause?_cons, firstCause?_nil]
  cases hp : d.slot? p with
  | none =>
    have hcp : d.contains p = false := Document.not_contains_iff.mpr hp
    simp [ensureAttachable, run_bind_error (run_slot_of_none hp), hcp]
  | some sp =>
    have hcp : d.contains p = true := Document.contains_iff.mpr ⟨sp, hp⟩
    have hkp : d.kind? p = some sp.kind := by simp [Document.kind?, hp]
    rw [ensureAttachable, run_bind_ok (run_slot hp)]
    cases hallow : sp.kind.allowsChildren with
    | false => simp [hcp, hkp, hallow]
    | true =>
      by_cases hroot : c = root
      · simp [hcp, hkp, hallow, hroot]
      cases hc : d.slot? c with
      | none =>
        have hcc : d.contains c = false := Document.not_contains_iff.mpr hc
        simp [hcp, hkp, hallow, hroot, run_slot_of_none hc, hcc]
      | some sc =>
        have hcc : d.contains c = true := Document.contains_iff.mpr ⟨sc, hc⟩
        have hpc : d.parent? c = sc.parent? := by simp [Document.parent?, hc]
        cases hpar : sc.parent? with
        | some q => simp [hcp, hkp, hallow, hroot, run_slot hc, hcc, hpc, hpar]
        | none =>
          by_cases hcycle : p = c ∨ d.isAncestor c p = true <;>
            simp [hcp, hkp, hallow, hroot, run_slot hc, hcc, hpc, hpar, hcycle]

/-- The check fails with the first cause that holds. -/
theorem run_ensureAttachable_error {cause : EditError}
    (h : firstCause? (d.attachCauses p c) = some cause) :
    (ensureAttachable p c).run d = .error cause d := by
  rw [run_ensureAttachable_eq, h]

/-- The check ends well exactly if all that is to be checked holds. -/
theorem ensureAttachable_cases (d : Document) (p c : NodeId) :
    (Attachable d p c ∧ (ensureAttachable p c).run d = .ok () d) ∨
    (¬ Attachable d p c ∧ ∃ e, (ensureAttachable p c).run d = .error e d) := by
  rw [← firstCause?_attachCauses_eq_none_iff, run_ensureAttachable_eq]
  cases firstCause? (d.attachCauses p c) with
  | none => exact .inl ⟨rfl, rfl⟩
  | some cause => exact .inr ⟨by simp, cause, rfl⟩

/-- The check ends well if all that is to be checked holds. -/
theorem run_ensureAttachable (h : Attachable d p c) : (ensureAttachable p c).run d = .ok () d :=
  (ensureAttachable_cases d p c).elim (·.2) fun hn => absurd h hn.1

/-- `c` becomes the last child of `p`, or nothing happens. -/
theorem appendChild_cases (d : Document) (p c : NodeId) :
    (Attachable d p c ∧ (appendChild p c).run d = .ok () (d.attach p c (· ++ [c]))) ∨
    (¬ Attachable d p c ∧ ∃ e, (appendChild p c).run d = .error e d) := by
  rcases ensureAttachable_cases d p c with ⟨h, hrun⟩ | ⟨h, e, hrun⟩
  · refine .inl ⟨h, ?_⟩
    rw [appendChild, run_bind_ok hrun, run_link h.contains_parent h.contains]
  · exact .inr ⟨h, e, run_bind_error hrun⟩

/-- What can be attached is appended. -/
theorem run_appendChild (h : Attachable d p c) :
    (appendChild p c).run d = .ok () (d.attach p c (· ++ [c])) :=
  (appendChild_cases d p c).elim (·.2) fun hn => absurd h hn.1

/-- What can be attached is inserted at the place of the child that is to follow. -/
theorem run_insertBefore {before : NodeId} {i : Nat} (h : Attachable d p c)
    (hi : (d.children p).idxOf? before = some i) :
    (insertBefore p c before).run d = .ok () (d.attach p c (·.insertIdx i c)) := by
  obtain ⟨s, hs⟩ := Document.contains_iff.mp h.contains_parent
  have hch : d.children p = s.children := by simp [Document.children, hs]
  rw [insertBefore, run_bind_ok (run_ensureAttachable h), run_bind_ok (run_slot hs), ← hch, hi]
  dsimp only
  rw [run_bind_ok (run_mapChildren h.contains_parent (·.insertIdx i c)),
    run_setParent (by simpa using h.contains), Document.attach]

/-- `c` is put before the child `before` of `p`, or nothing happens. -/
theorem insertBefore_cases (d : Document) (p c before : NodeId) :
    (∃ i, Attachable d p c ∧ (d.children p).idxOf? before = some i ∧
      (insertBefore p c before).run d = .ok () (d.attach p c (·.insertIdx i c))) ∨
    ∃ e, (insertBefore p c before).run d = .error e d := by
  rcases ensureAttachable_cases d p c with ⟨h, hrun⟩ | ⟨-, e, hrun⟩
  · cases hi : (d.children p).idxOf? before with
    | some i => exact .inl ⟨i, h, rfl, run_insertBefore h hi⟩
    | none =>
      obtain ⟨s, hs⟩ := Document.contains_iff.mp h.contains_parent
      have hch : d.children p = s.children := by simp [Document.children, hs]
      refine .inr ⟨.notAChild p before, ?_⟩
      rw [insertBefore, run_bind_ok hrun, run_bind_ok (run_slot hs), ← hch, hi]
      rfl
  · exact .inr ⟨e, run_bind_error hrun⟩

/-- What can be attached is put at the place of the old child, which is left without a parent. -/
theorem run_replaceChild {new old : NodeId} {i : Nat} (hp : d.parent? old = some p)
    (h : Attachable d p new) (hi : (d.children p).idxOf? old = some i) :
    (replaceChild p new old).run d =
      .ok old ((d.attach p new (·.set i new)).setParent old none) := by
  have hold : d.contains old = true := Document.contains_of_parent? hp
  obtain ⟨so, ho⟩ := Document.contains_iff.mp hold
  obtain ⟨s, hs⟩ := Document.contains_iff.mp h.contains_parent
  have hpar : so.parent? = some p := by simpa [Document.parent?, ho] using hp
  have hch : d.children p = s.children := by simp [Document.children, hs]
  rw [replaceChild, run_bind_ok (run_slot ho), if_neg (not_not_intro hpar)]
  dsimp only
  rw [run_bind_ok (run_ensureAttachable h), run_bind_ok (run_slot hs), ← hch, hi]
  dsimp only
  rw [run_bind_ok (run_mapChildren h.contains_parent (·.set i new)),
    run_bind_ok (run_setParent (by simpa using h.contains) _),
    run_bind_ok (run_setParent (by simpa using hold) _), Document.attach]
  rfl

/-- `new` takes the place of the child `old` of `p`, or nothing happens. -/
theorem replaceChild_cases (d : Document) (p new old : NodeId) :
    (∃ i, d.parent? old = some p ∧ Attachable d p new ∧ (d.children p).idxOf? old = some i ∧
      (replaceChild p new old).run d =
        .ok old ((d.attach p new (·.set i new)).setParent old none)) ∨
    ∃ e, (replaceChild p new old).run d = .error e d := by
  cases ho : d.slot? old with
  | none => exact .inr ⟨_, run_bind_error (run_slot_of_none ho)⟩
  | some so =>
    have hpo : d.parent? old = so.parent? := by simp [Document.parent?, ho]
    by_cases hpar : so.parent? = some p
    · rcases ensureAttachable_cases d p new with ⟨h, hrun⟩ | ⟨-, e, hrun⟩
      · cases hi : (d.children p).idxOf? old with
        | some i =>
          exact .inl ⟨i, hpo.trans hpar, h, rfl, run_replaceChild (hpo.trans hpar) h hi⟩
        | none =>
          obtain ⟨s, hs⟩ := Document.contains_iff.mp h.contains_parent
          have hch : d.children p = s.children := by simp [Document.children, hs]
          rw [hch] at hi
          exact .inr ⟨.notAChild p old, by
            simp [replaceChild, run_slot ho, hpar, hrun, run_slot hs, hi]⟩
      · exact .inr ⟨e, by simp [replaceChild, run_slot ho, hpar, hrun]⟩
    · exact .inr ⟨.notAChild p old, by simp [replaceChild, run_slot ho, hpar]⟩

/-! ### Detaching -/

/-- A child is taken out of the list of its live parent. -/
theorem run_removeChild (h : d.parent? c = some p) (hp : d.contains p = true) :
    (removeChild p c).run d = .ok c (d.unlink p c) := by
  obtain ⟨s, hs⟩ := Document.contains_iff.mp (Document.contains_of_parent? h)
  have hpar : s.parent? = some p := by simpa [Document.parent?, hs] using h
  rw [removeChild, run_bind_ok (run_slot hs), if_neg (not_not_intro hpar)]
  dsimp only
  rw [run_bind_ok (run_mapChildren hp (·.filter (· ≠ c))),
    run_bind_ok (run_setParent (by simpa using Document.contains_of_parent? h) _),
    Document.unlink]
  rfl

/-- `c` is taken out of its parent `p`, or nothing happens. -/
theorem removeChild_cases (d : Document) (p c : NodeId) :
    (d.parent? c = some p ∧ d.contains p = true ∧
      (removeChild p c).run d = .ok c (d.unlink p c)) ∨
    ∃ e, (removeChild p c).run d = .error e d := by
  cases hc : d.slot? c with
  | none => exact .inr ⟨_, run_bind_error (run_slot_of_none hc)⟩
  | some s =>
    have hpc : d.parent? c = s.parent? := by simp [Document.parent?, hc]
    by_cases hpar : s.parent? = some p
    · cases hp : d.contains p with
      | true => exact .inl ⟨hpc.trans hpar, rfl, run_removeChild (hpc.trans hpar) hp⟩
      | false =>
        rw [removeChild, run_bind_ok (run_slot hc), if_neg (not_not_intro hpar)]
        exact .inr ⟨_, run_bind_error (run_modifySlot_of_not_contains hp _)⟩
    · exact .inr ⟨.notAChild p c, by simp [removeChild, run_slot hc, hpar]⟩

/-- A live node other than the root is taken out of its parent if it has one. -/
theorem detach_cases (d : Document) (n : NodeId) :
    (n ≠ root ∧ d.contains n = true ∧ d.parent? n = none ∧ (detach n).run d = .ok () d) ∨
    (∃ p, n ≠ root ∧ d.parent? n = some p ∧ d.contains p = true ∧
      (detach n).run d = .ok () (d.unlink p n)) ∨
    ∃ e, (detach n).run d = .error e d := by
  by_cases hroot : n = root
  · exact .inr (.inr ⟨.rootImmovable, by simp [detach, hroot]⟩)
  rw [detach, if_neg hroot]
  dsimp only
  cases hs : d.slot? n with
  | none => exact .inr (.inr ⟨_, run_bind_error (run_slot_of_none hs)⟩)
  | some s =>
    have hpar : d.parent? n = s.parent? := by simp [Document.parent?, hs]
    rw [run_bind_ok (run_slot hs), hpar]
    cases hp : s.parent? with
    | none => exact .inl ⟨hroot, Document.contains_iff.mpr ⟨s, hs⟩, rfl, rfl⟩
    | some p =>
      rcases removeChild_cases d p n with ⟨-, hcon, hrun⟩ | ⟨e, hrun⟩
      · exact .inr (.inl ⟨p, hroot, rfl, hcon, by rw [run_bind_ok hrun]; rfl⟩)
      · exact .inr (.inr ⟨e, run_bind_error hrun⟩)

/-! ### What edits keep -/

/-- Whatever `e` does, and be it a failure, leaves `P` true. -/
def Keeps (P : Document → Prop) (e : EStateM ε Document α) : Prop := ∀ d, P d → P (e.exec d)

namespace Keeps

variable {P : Document → Prop}

/-- To give a result at once changes nothing. -/
theorem pure (a : α) : Keeps P (pure a : EStateM ε Document α) := fun _ h => h

/-- To fail at once changes nothing. -/
theorem throw (e : ε) : Keeps P (throw e : EStateM ε Document α) := fun _ h => h

/-- The second part may rely on what the first part gives. -/
theorem bind_of_ok {x : EStateM ε Document α} {f : α → EStateM ε Document β} {I : α → Prop}
    (hx : Keeps P x) (hI : ∀ d a d', x.run d = .ok a d' → I a) (hf : ∀ a, I a → Keeps P (f a)) :
    Keeps P (x >>= f) := by
  intro d hd
  have h₁ := hx d hd
  cases hrun : x.run d with
  | ok a d₁ =>
    rw [exec_of_ok hrun] at h₁
    have h₂ := hf a (hI d a d₁ hrun) d₁ h₁
    simpa [EStateM.exec, hrun] using h₂
  | error e d₁ =>
    rw [exec_of_error hrun] at h₁
    rwa [exec_of_error (run_bind_error hrun)]

/-- What both parts keep the whole keeps. -/
theorem bind {x : EStateM ε Document α} {f : α → EStateM ε Document β} (hx : Keeps P x)
    (hf : ∀ a, Keeps P (f a)) : Keeps P (x >>= f) :=
  bind_of_ok hx (fun _ _ _ _ => trivial) fun a _ => hf a

/-- A computation that only reads the document. -/
theorem get_bind {f : Document → EStateM ε Document β} (hf : ∀ d, P d → P ((f d).exec d)) :
    Keeps P (get >>= f) := hf

/-- What an edit and its handler keep is kept however the edit ends. -/
theorem tryCatch {x : EStateM ε Document α} {f : ε → EStateM ε Document α} (hx : Keeps P x)
    (hf : ∀ e, Keeps P (f e)) : Keeps P (tryCatch x f) := by
  intro d hd
  have h₁ := hx d hd
  cases hrun : x.run d with
  | ok a d₁ =>
    rw [exec_of_ok hrun] at h₁
    rwa [exec_of_ok (run_tryCatch_ok hrun)]
  | error e d₁ =>
    rw [exec_of_error hrun] at h₁
    have h₂ := hf e d₁ h₁
    simpa [EStateM.exec, run_tryCatch_error hrun] using h₂

/-- What is kept does not depend on the error. -/
theorem orThrow {x : Edit α} (hx : Keeps P x) (error : ε) : Keeps P (x.orThrow error) := by
  intro d hd
  rw [exec_orThrow]
  exact hx d hd

/-- What every step keeps, all of them keep. -/
theorem forM {l : List β} {f : β → EStateM ε Document PUnit} (hf : ∀ b ∈ l, Keeps P (f b)) :
    Keeps P (l.forM f) := by
  induction l with
  | nil => exact pure _
  | cons b rest ih =>
    show Keeps P (f b >>= fun _ => rest.forM f)
    exact bind (hf b List.mem_cons_self) fun _ =>
      ih fun b' hb' => hf b' (List.mem_cons_of_mem _ hb')

/-- What every step keeps, all of them keep, whatever they give. -/
theorem mapM {l : List β} {f : β → EStateM ε Document α} (hf : ∀ b ∈ l, Keeps P (f b)) :
    Keeps P (l.mapM f) := by
  induction l with
  | nil => exact pure _
  | cons b rest ih =>
    rw [List.mapM_cons]
    refine bind (hf b List.mem_cons_self) fun _ => bind ?_ fun _ => pure _
    exact ih fun b' hb' => hf b' (List.mem_cons_of_mem _ hb')

/-- What every step keeps, all of them keep, whatever they pass on. -/
theorem foldlM {l : List β} {f : α → β → EStateM ε Document α} {a : α}
    (hf : ∀ a, ∀ b ∈ l, Keeps P (f a b)) : Keeps P (l.foldlM f a) := by
  induction l generalizing a with
  | nil => exact pure _
  | cons b rest ih =>
    rw [List.foldlM_cons]
    exact bind (hf a b List.mem_cons_self) fun a' =>
      ih fun a b' hb' => hf a b' (List.mem_cons_of_mem _ hb')

end Keeps

end AmpMarkup.Edit
