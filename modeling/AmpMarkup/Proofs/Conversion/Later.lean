import AmpMarkup.Conversion.Handles
import AmpMarkup.Proofs.Conversion.LinkInvariant

namespace AmpMarkup

/-!
# What no action undoes

Slots are never given back, a slot that is out of use never comes into use again, and what stands in
it never becomes something else, its attributes apart. Changes of single slots keep this, so all
actions do, in whatever state the links are.

* `Document.Later d d'` — `d'` may have come about from `d`.
* `Later.isDiscarded`, `Later.bare_eq`, `Later.size_le` — what that means for a handle.
* `keptByEdits_later` — every edit leads to a later document.
* `later_runAll` — so do all actions, one after the other.
-/

variable {d d' d₁ : Document} {n : NodeId}

namespace Document

/-- Every slot of `d` is still there in `d'`. It holds what it held, with attributes that may be
    others, and it is in use only if it was. -/
def Later (d d' : Document) : Prop :=
  ∀ (i : Nat) (s : Slot), d.slots[i]? = some s → ∃ s', d'.slots[i]? = some s' ∧
    s'.kind.bare = s.kind.bare ∧ (s'.live = true → s.live = true)

namespace Later

/-- Every document is later than itself. -/
theorem refl (d : Document) : Later d d := fun _ s hs => ⟨s, hs, rfl, id⟩

/-- What is later than a later document is later. -/
theorem trans (h : Later d d₁) (h' : Later d₁ d') : Later d d' := by
  intro i s hs
  obtain ⟨s₁, hs₁, hbare₁, hlive₁⟩ := h i s hs
  obtain ⟨s', hs', hbare', hlive'⟩ := h' i s₁ hs₁
  exact ⟨s', hs', hbare'.trans hbare₁, fun hl => hlive₁ (hlive' hl)⟩

/-- Slots are never taken away. -/
theorem size_le (h : Later d d') : d.size ≤ d'.size := by
  by_contra hlt
  rw [Nat.not_le] at hlt
  obtain ⟨s', hs', -⟩ := h d'.size _ (Array.getElem?_eq_getElem hlt)
  have := (Array.getElem?_eq_some_iff.mp hs').1
  exact absurd this (Nat.lt_irrefl d'.size)

/-- The slot of a node that is live later was that of a live node. -/
theorem slot? (h : Later d d') (hn : n.index < d.size) {s' : Slot} (hs' : d'.slot? n = some s') :
    ∃ s, d.slot? n = some s ∧ s'.kind.bare = s.kind.bare := by
  obtain ⟨hget', hlive'⟩ := slot?_eq_some_iff.mp hs'
  obtain ⟨s'', hs'', hbare, hlive⟩ := h n.index _ (Array.getElem?_eq_getElem hn)
  rw [hget', Option.some.injEq] at hs''
  subst hs''
  exact ⟨_, slot?_eq_some_iff.mpr ⟨Array.getElem?_eq_getElem hn, hlive hlive'⟩, hbare⟩

/-- What has been discarded stays so. -/
theorem isDiscarded (h : Later d d') (hn : d.IsDiscarded n) : d'.IsDiscarded n := by
  refine ⟨Nat.lt_of_lt_of_le hn.1 h.size_le, ?_⟩
  by_contra hlive
  rw [Bool.not_eq_false] at hlive
  obtain ⟨s', hs'⟩ := contains_iff.mp hlive
  obtain ⟨s, hs, -⟩ := h.slot? hn.1 hs'
  have hdead := hn.2
  rw [contains_iff.mpr ⟨s, hs⟩] at hdead
  cases hdead

/-- What a live node is does not change. -/
theorem bare_eq (h : Later d d') {k k' : NodeKind} (hk : d.kind? n = some k)
    (hk' : d'.kind? n = some k') : k'.bare = k.bare := by
  rw [kind?, Option.map_eq_some_iff] at hk'
  obtain ⟨s', hs', rfl⟩ := hk'
  obtain ⟨s, hs, hbare⟩ := h.slot? (index_lt_of_contains (contains_of_kind? hk)) hs'
  rw [kind?, hs, Option.map_some, Option.some.injEq] at hk
  rw [hbare, hk]

end Later

/-- A new slot leaves the others as they were. -/
theorem later_push (d : Document) (k : NodeKind) : Later d (d.push k) := by
  intro i s hs
  refine ⟨s, ?_, rfl, id⟩
  have hi := (Array.getElem?_eq_some_iff.mp hs).1
  rw [push, Array.getElem?_push, if_neg (Nat.ne_of_lt hi), hs]

/-- A change of one slot that keeps what is in it, and does not put it to use again, leads on. -/
theorem later_modifySlot (d : Document) (n : NodeId) {f : Slot → Slot}
    (hf : ∀ s, (f s).kind.bare = s.kind.bare ∧ ((f s).live = true → s.live = true)) :
    Later d (d.modifySlot n f) := by
  intro i s hs
  rw [modifySlot, Array.getElem?_modify, hs]
  by_cases hi : n.index = i
  · exact ⟨f s, by rw [if_pos hi, Option.map_some], hf s⟩
  · exact ⟨s, by rw [if_neg hi], rfl, id⟩

end Document

namespace Edit

open Document (Later)

/-- Changes of single slots lead to a later document. -/
theorem keptBySlots_later (d : Document) : KeptBySlots (Later d) where
  create k d₁ h := h.trans (Document.later_push d₁ k)
  modifySlot n f hf d₁ h := by
    cases hn : d₁.contains n with
    | false => rwa [exec_of_error (run_modifySlot_of_not_contains hn f)]
    | true =>
      rw [exec_of_ok (run_modifySlot hn f)]
      refine h.trans (Document.later_modifySlot d₁ n fun s => ?_)
      obtain ⟨hkind, hlive⟩ := hf s
      exact ⟨congrArg NodeKind.bare hkind, hlive⟩

/-- So do changes of attributes, whatever they are. -/
theorem keeps_later_modifyAttributes (d : Document) (n : NodeId) (f : Attributes → Attributes) :
    Keeps (Later d) (modifyAttributes n f) := by
  intro d₁ h
  rcases modifyAttributes_cases d₁ n f with ⟨-, hrun⟩ | ⟨e, hrun⟩
  · rw [exec_of_ok hrun]
    refine h.trans (Document.later_modifySlot d₁ n fun s => ⟨?_, id⟩)
    show (s.kind.mapAttributes f).bare = s.kind.bare
    cases s.kind <;> rfl
  · rwa [exec_of_error hrun]

/-- Edits lead to a later document, those of attributes among them. -/
theorem keptByEdits_later (d : Document) : KeptByEdits (Later d) :=
  (keptBySlots_later d).keptByEdits (keeps_later_modifyAttributes d)

end Edit

namespace Conversion

open Edit

/-- Every action leads to a later document. -/
theorem later_run (a : Action) (d : Document) : d.Later (a.run d) :=
  (keptByEdits_later d).run a (.refl d)

/-- A run of actions leads to a later document. -/
theorem later_runAll (d : Document) (actions : List Action) : d.Later (runAll d actions) := by
  induction actions generalizing d with
  | nil => exact .refl d
  | cons a rest ih => exact (later_run a d).trans (ih (a.run d))

end Conversion

end AmpMarkup
