import AmpMarkup.Proofs.Document.Running

namespace AmpMarkup.Edit

/-!
# What changes of single slots keep

The edits of links, discarding and copying are put together from new slots and from changes of a
slot that do not touch its kind. Whatever these keep is kept by all of them, whether they succeed or
fail; nothing has to be known about the links.

* `KeptBySlots P` — `P` is kept by new slots and by changes of single slots.
* `KeptBySlots.appendChild`, `KeptBySlots.discard`, `KeptBySlots.cloneNode` and their like.
-/

variable {α : Type} {P : Document → Prop}

/-- `P` is kept by a new slot, and by a change of a slot that neither touches its kind nor revives
    it. -/
structure KeptBySlots (P : Document → Prop) : Prop where
  create (k : NodeKind) : Keeps P (create k)
  modifySlot (n : NodeId) {f : Slot → Slot} :
    (∀ s, (f s).kind = s.kind ∧ ((f s).live = true → s.live = true)) → Keeps P (modifySlot n f)

/-- A check changes nothing. -/
theorem keeps_ensureAttachable (p c : NodeId) : Keeps P (ensureAttachable p c) := by
  intro d h
  rcases ensureAttachable_cases d p c with ⟨-, hrun⟩ | ⟨-, e, hrun⟩
  · rwa [exec_of_ok hrun]
  · rwa [exec_of_error hrun]

/-- If there is no slot to go on with, nothing happens. -/
theorem keeps_slot_bind (n : NodeId) {f : Slot → Edit α} (hf : ∀ s, Keeps P (f s)) :
    Keeps P (slot n >>= f) := by
  intro d h
  cases hs : d.slot? n with
  | none => rwa [exec_of_error (run_bind_error (run_slot_of_none hs))]
  | some s =>
    have hkept := hf s d h
    rwa [EStateM.exec, run_bind_ok (run_slot hs), ← EStateM.exec]

namespace KeptBySlots

variable (hP : KeptBySlots P)
include hP

/-! ### Links -/

/-- A change of the links of a slot. -/
theorem relink (n : NodeId) (f : Slot → Slot)
    (hf : ∀ s, (f s).kind = s.kind ∧ (f s).live = s.live) : Keeps P (Edit.modifySlot n f) := by
  apply hP.modifySlot
  intro s
  obtain ⟨hkind, hlive⟩ := hf s
  exact ⟨hkind, fun h => hlive ▸ h⟩

/-- A link is made in two slots that exist. -/
theorem link (p c : NodeId) : Keeps P (link p c) :=
  Keeps.bind (hP.relink p _ fun _ => ⟨rfl, rfl⟩) fun _ => hP.relink c _ fun _ => ⟨rfl, rfl⟩

/-- Appending a child is a check and a link. -/
theorem appendChild (p c : NodeId) : Keeps P (appendChild p c) :=
  Keeps.bind (keeps_ensureAttachable p c) fun _ => hP.link p c

/-- Inserting a child is a check and two changes of slots. -/
theorem insertBefore (p c before : NodeId) : Keeps P (insertBefore p c before) := by
  refine Keeps.bind (keeps_ensureAttachable p c) fun _ => keeps_slot_bind p fun s => ?_
  split
  · exact Keeps.throw _
  · exact Keeps.bind (hP.relink p _ fun _ => ⟨rfl, rfl⟩) fun _ =>
      hP.relink c _ fun _ => ⟨rfl, rfl⟩

/-- Removing a child is two changes of slots. -/
theorem removeChild (p c : NodeId) : Keeps P (removeChild p c) := by
  refine keeps_slot_bind c fun s => ?_
  dsimp only
  split
  · exact Keeps.throw _
  · exact Keeps.bind (hP.relink p _ fun _ => ⟨rfl, rfl⟩) fun _ =>
      Keeps.bind (hP.relink c _ fun _ => ⟨rfl, rfl⟩) fun _ => Keeps.pure _

/-- Replacing a child is a check and three changes of slots. -/
theorem replaceChild (p new old : NodeId) : Keeps P (replaceChild p new old) := by
  refine keeps_slot_bind old fun s => ?_
  dsimp only
  split
  · exact Keeps.throw _
  · refine Keeps.bind (keeps_ensureAttachable p new) fun _ => keeps_slot_bind p fun s => ?_
    split
    · exact Keeps.throw _
    · exact Keeps.bind (hP.relink p _ fun _ => ⟨rfl, rfl⟩) fun _ =>
        Keeps.bind (hP.relink new _ fun _ => ⟨rfl, rfl⟩) fun _ =>
          Keeps.bind (hP.relink old _ fun _ => ⟨rfl, rfl⟩) fun _ => Keeps.pure _

/-- Detaching is removing from the parent, if there is one. -/
theorem detach (n : NodeId) : Keeps P (detach n) := by
  unfold Edit.detach
  dsimp only
  split
  · exact Keeps.throw _
  · refine keeps_slot_bind n fun s => ?_
    split
    · exact Keeps.bind (hP.removeChild _ n) fun _ => Keeps.pure _
    · exact Keeps.pure _

/-! ### Discarding -/

/-- Giving up slots revives none. -/
theorem freeAll (fuel : Nat) (ns : List NodeId) : Keeps P (freeAll fuel ns) := by
  induction fuel generalizing ns with
  | zero => exact Keeps.pure _
  | succ fuel ih =>
    cases ns with
    | nil => exact Keeps.pure _
    | cons n rest =>
      refine keeps_slot_bind n fun s => Keeps.bind (hP.modifySlot n fun s => ?_) fun _ => ih _
      exact ⟨rfl, fun hlive => absurd hlive Bool.false_ne_true⟩

/-- Discarding is detaching and giving up slots. -/
theorem discard (n : NodeId) : Keeps P (discard n) :=
  Keeps.bind (hP.detach n) fun _ => Keeps.get_bind fun d h => hP.freeAll d.size [n] d h

/-! ### Copying -/

/-- Copies of children are new slots and links to them. -/
theorem copyChildren (copy : NodeId) (children : List NodeId) :
    Keeps P (copyChildren copy children) := by
  induction children with
  | nil => exact Keeps.pure _
  | cons child rest ih =>
    exact keeps_slot_bind child fun s => Keeps.bind (hP.create s.kind) fun _ =>
      Keeps.bind (hP.link _ _) fun _ => Keeps.bind ih fun _ => Keeps.pure _

/-- Copying a subtree goes on until no child is left. -/
theorem copyBelow (fuel : Nat) (pending : List (NodeId × NodeId)) :
    Keeps P (copyBelow fuel pending) := by
  induction fuel generalizing pending with
  | zero => exact Keeps.pure _
  | succ fuel ih =>
    cases pending with
    | nil => exact Keeps.pure _
    | cons e rest =>
      exact keeps_slot_bind e.1 fun s => Keeps.bind (hP.copyChildren e.2 s.children) fun _ => ih _

/-- A copy is a new slot, and the copies of what is below. -/
theorem cloneNode (n : NodeId) (deep : Bool) : Keeps P (cloneNode n deep) := by
  refine Keeps.get_bind fun d h => ?_
  refine keeps_slot_bind n (fun s => ?_) d h
  refine Keeps.bind (hP.create s.kind) fun copy => ?_
  cases deep with
  | false => exact Keeps.pure _
  | true => exact Keeps.bind (hP.copyBelow _ _) fun _ => Keeps.pure _

end KeptBySlots

end AmpMarkup.Edit
