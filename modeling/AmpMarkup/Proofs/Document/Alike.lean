import AmpMarkup.Document.Fallback
import AmpMarkup.Proofs.Document.Copy
import Mathlib.Data.Set.Insert

namespace AmpMarkup

open Document (root)

/-!
# The same edits on documents that are alike

Two documents are alike if they have the same slots up to the attributes of some elements. Edits of
links do not look at attributes, so on documents that are alike they give the same handles, and the
documents are alike afterwards.

* `NodeKind.Alike T`, `Document.Alike E T` — up to attributes that `T` relates, and in the slots of
  `E` not even that; `Alike.contains_eq` and its like — what is read off both.
* `Edit.Follows P e e' d d'` — if `e` ends well from `d`, so does `e'` from `d'`, and `P` holds
  then; `Edit.Tracks R V e e'` — this with the invariant `R` of the documents.
* `Tracks.bind`, `Tracks.forM`, `Tracks.foldlM` — put together as edits are.
* `tracks_appendChild`, `tracks_discard`, `tracks_cloneNode` and their like — the single edits.
-/

variable {ε α β γ δ : Type} {T T' : String → Attributes → Attributes → Prop} {E E' : Set Nat}
  {d d' d₁ d₁' : Document} {n p c : NodeId} {k k' : NodeKind}

/-! ### Kinds -/

/-- The same kinds, up to the attributes of elements. -/
inductive NodeKind.Alike (T : String → Attributes → Attributes → Prop) :
    NodeKind → NodeKind → Prop where
  | same (k : NodeKind) : Alike T k k
  | element {name : String} {a a' : Attributes} : T name a a' →
    Alike T (.element name a) (.element name a')

namespace NodeKind.Alike

/-- Kinds that are alike are so when more attributes may differ. -/
theorem mono (h : k.Alike T k') (hT : ∀ name a a', T name a a' → T' name a a') :
    k.Alike T' k' := by
  cases h with
  | same k => exact .same k
  | element ha => exact .element (hT _ _ _ ha)

/-- Only the attributes of an element may differ, so the names agree. -/
theorem tagName?_eq (h : k.Alike T k') : k'.tagName? = k.tagName? := by
  cases h with
  | same k => rfl
  | element _ => rfl

/-- Kinds that are alike have the same name, if any. -/
theorem isNamed_eq (h : k.Alike T k') (name : String) : k'.isNamed name = k.isNamed name := by
  rw [NodeKind.isNamed, h.tagName?_eq, NodeKind.isNamed]

/-- Kinds that are alike take children or not alike. -/
theorem allowsChildren_eq (h : k.Alike T k') : k'.allowsChildren = k.allowsChildren := by
  cases h with
  | same k => rfl
  | element _ => rfl

end NodeKind.Alike

/-! ### Documents -/

namespace Document

/-- The same slots, up to kinds that are alike; in the slots of `E` the kinds are the same too. -/
structure Alike (E : Set Nat) (T : String → Attributes → Attributes → Prop) (d d' : Document) :
    Prop where
  size_eq : d'.size = d.size
  lt_size : ∀ i ∈ E, i < d.size
  slot (i : Nat) (s : Slot) : d.slots[i]? = some s → ∃ k, d'.slots[i]? = some { s with kind := k } ∧
    s.kind.Alike T k ∧ (i ∈ E → k = s.kind)

/-- A document is like itself at all of its slots. -/
theorem alike_refl (T : String → Attributes → Attributes → Prop) (d : Document) :
    Alike {i | i < d.size} T d d where
  size_eq := rfl
  lt_size _ hi := hi
  slot _ s hs := ⟨s.kind, hs, .same s.kind, fun _ => rfl⟩

namespace Alike

/-- Documents that are alike are so when less has to be the same and more may differ. -/
theorem mono (h : Alike E T d d') (hE : E' ⊆ E)
    (hT : ∀ name a a', T name a a' → T' name a a') : Alike E' T' d d' where
  size_eq := h.size_eq
  lt_size i hi := h.lt_size i (hE hi)
  slot i s hs := by
    obtain ⟨k, hk, halike, hsame⟩ := h.slot i s hs
    exact ⟨k, hk, halike.mono hT, fun hi => hsame (hE hi)⟩

/-- A slot that is the same in both documents may be added to `E`. -/
theorem insert (h : Alike E T d d') {s : Slot} (hs : d.slots[n.index]? = some s)
    (hs' : d'.slots[n.index]? = some s) : Alike (insert n.index E) T d d' where
  size_eq := h.size_eq
  lt_size i hi := by
    rcases hi with rfl | hi
    · exact (Array.getElem?_eq_some_iff.mp hs).1
    · exact h.lt_size i hi
  slot i t ht := by
    obtain ⟨k, hk, halike, hsame⟩ := h.slot i t ht
    refine ⟨k, hk, halike, fun hi => ?_⟩
    rcases hi with rfl | hi
    · rw [hs, Option.some.injEq] at ht
      rw [hs', ht, Option.some.injEq] at hk
      exact congrArg Slot.kind hk.symm
    · exact hsame hi

/-- Making nodes of kinds that are alike keeps documents alike. -/
theorem push (h : Alike E T d d') (hk : k.Alike T k') : Alike E T (d.push k) (d'.push k') where
  size_eq := by rw [size_push, size_push, h.size_eq]
  lt_size i hi := by
    rw [size_push]
    exact Nat.lt_succ_of_lt (h.lt_size i hi)
  slot i s hs := by
    have hsize : d'.slots.size = d.slots.size := h.size_eq
    rw [Document.push, Array.getElem?_push] at hs ⊢
    rw [hsize]
    by_cases hi : i = d.slots.size
    · rw [if_pos hi] at hs ⊢
      obtain rfl := Option.some.inj hs
      refine ⟨k', rfl, hk, fun hE => ?_⟩
      exact absurd (h.lt_size i hE) (hi ▸ Nat.lt_irrefl _)
    · rw [if_neg hi] at hs ⊢
      exact h.slot i s hs

/-- Changes of one slot that do the same up to kinds that are alike. -/
theorem modifySlot (h : Alike E T d d') {f f' : Slot → Slot}
    (hf : ∀ s k, d.slots[n.index]? = some s → s.kind.Alike T k → (n.index ∈ E → k = s.kind) →
      ∃ k', f' { s with kind := k } = { f s with kind := k' } ∧ (f s).kind.Alike T k' ∧
        (n.index ∈ E → k' = (f s).kind)) :
    Alike E T (d.modifySlot n f) (d'.modifySlot n f') where
  size_eq := by rw [size_modifySlot, size_modifySlot, h.size_eq]
  lt_size i hi := by
    rw [size_modifySlot]
    exact h.lt_size i hi
  slot i s hs := by
    rw [Document.modifySlot, Array.getElem?_modify] at hs ⊢
    by_cases hi : n.index = i
    · rw [if_pos hi, Option.map_eq_some_iff] at hs
      obtain ⟨t, ht, rfl⟩ := hs
      obtain ⟨k, hk, halike, hsame⟩ := h.slot i t ht
      subst hi
      obtain ⟨k', heq, halike', hsame'⟩ := hf t k ht halike hsame
      exact ⟨k', by rw [if_pos rfl, hk, Option.map_some, heq], halike', hsame'⟩
    · rw [if_neg hi] at hs ⊢
      exact h.slot i s hs

/-! ### Readings -/

variable (h : Alike E T d d')
include h

/-- Where there is no slot there is none in the other document. -/
theorem slot?_eq_none (hs : d.slot? n = none) : d'.slot? n = none := by
  rw [slot?, Option.filter_eq_none_iff] at hs ⊢
  intro s' hs'
  have hlt : n.index < d.slots.size := by
    have hlt' := (Array.getElem?_eq_some_iff.mp hs').1
    have hsize : d'.slots.size = d.slots.size := h.size_eq
    omega
  obtain ⟨k, hk, -, -⟩ := h.slot n.index _ (Array.getElem?_eq_getElem hlt)
  rw [hk, Option.some.injEq] at hs'
  subst hs'
  exact fun hlive => hs _ (Array.getElem?_eq_getElem hlt) hlive

/-- Where there is a slot there is one in the other document, which differs in its kind at most. -/
theorem slot?_eq_some {s : Slot} (hs : d.slot? n = some s) :
    ∃ k, d'.slot? n = some { s with kind := k } ∧ s.kind.Alike T k ∧
      (n.index ∈ E → k = s.kind) := by
  obtain ⟨hget, hlive⟩ := slot?_eq_some_iff.mp hs
  obtain ⟨k, hk, halike, hsame⟩ := h.slot n.index s hget
  exact ⟨k, slot?_eq_some_iff.mpr ⟨hk, hlive⟩, halike, hsame⟩

/-- Whatever does not depend on the attributes is read off both. -/
theorem map_slot? {f : Slot → α} (hf : ∀ s k, s.kind.Alike T k → f { s with kind := k } = f s)
    (n : NodeId) : (d'.slot? n).map f = (d.slot? n).map f := by
  cases hs : d.slot? n with
  | none => rw [h.slot?_eq_none hs]
  | some s =>
    obtain ⟨k, hk, halike, -⟩ := h.slot?_eq_some hs
    rw [hk, Option.map_some, Option.map_some, hf s k halike]

/-- The same nodes are live. -/
theorem contains_eq (n : NodeId) : d'.contains n = d.contains n := by
  rw [contains_eq_isSome_map, contains_eq_isSome_map, h.map_slot? fun _ _ _ => rfl]

/-- The same nodes are parents. -/
theorem parent?_eq (n : NodeId) : d'.parent? n = d.parent? n := by
  rw [parent?_eq_join_map, parent?_eq_join_map, h.map_slot? fun _ _ _ => rfl]

/-- The same nodes are children, in the same order. -/
theorem children_eq (n : NodeId) : d'.children n = d.children n := by
  rw [children, children, h.map_slot? fun _ _ _ => rfl]

/-- A kind corresponds to one that is like it, and to the same one where the slots agree. -/
theorem kind?_eq_some (hk : d.kind? n = some k) :
    ∃ k', d'.kind? n = some k' ∧ k.Alike T k' ∧ (n.index ∈ E → k' = k) := by
  obtain ⟨s, hs, rfl⟩ := Option.map_eq_some_iff.mp hk
  obtain ⟨k', hk', halike, hsame⟩ := h.slot?_eq_some hs
  exact ⟨k', by rw [kind?, hk', Option.map_some], halike, hsame⟩

/-- Where the slots agree the kinds do. -/
theorem kind?_eq_of_mem (hn : n.index ∈ E) : d'.kind? n = d.kind? n := by
  cases hs : d.slot? n with
  | none => rw [kind?, kind?, h.slot?_eq_none hs, hs]
  | some s =>
    obtain ⟨k, hk, -, hsame⟩ := h.slot?_eq_some hs
    rw [kind?, kind?, hk, hs, Option.map_some, Option.map_some, hsame hn]

/-- A node is live in both documents, with kinds that are alike, or in none. -/
theorem kind?_cases (n : NodeId) : (d.kind? n = none ∧ d'.kind? n = none) ∨
    ∃ k k', d.kind? n = some k ∧ d'.kind? n = some k' ∧ k.Alike T k' := by
  cases hk : d.kind? n with
  | none =>
    refine .inl ⟨rfl, ?_⟩
    rw [kind?, Option.map_eq_none_iff] at hk ⊢
    exact h.slot?_eq_none hk
  | some k =>
    obtain ⟨k', hk', halike, -⟩ := h.kind?_eq_some hk
    exact .inr ⟨k, k', rfl, hk', halike⟩

/-- The same nodes are elements of a name. -/
theorem isElementNamed_eq (n : NodeId) (name : String) :
    d'.isElementNamed n name = d.isElementNamed n name := by
  rcases h.kind?_cases n with ⟨hk, hk'⟩ | ⟨k, k', hk, hk', halike⟩
  · rw [isElementNamed, isElementNamed, hk, hk']
  · rw [isElementNamed_of_kind? hk, isElementNamed_of_kind? hk', halike.isNamed_eq]

/-- The same nodes are directly inside a fallback island. -/
theorem isInFallbackIsland_eq (n : NodeId) : d'.isInFallbackIsland n = d.isInFallbackIsland n := by
  simp only [isInFallbackIsland, h.parent?_eq, h.isElementNamed_eq]

/-- The same nodes are above a node. -/
theorem lineage_eq (n : NodeId) : d'.lineage n = d.lineage n := by
  have hclimb : ∀ fuel m, d'.climb fuel m = d.climb fuel m := by
    intro fuel
    induction fuel with
    | zero => exact fun _ => rfl
    | succ fuel ih =>
      intro m
      rw [climb, climb, h.parent?_eq]
      cases d.parent? m with
      | none => rfl
      | some q => exact congrArg (m :: ·) (ih q)
  rw [lineage, lineage, h.size_eq, hclimb]

/-- The same nodes are connected. -/
theorem isConnected_eq (n : NodeId) : d'.isConnected n = d.isConnected n := by
  rw [isConnected, isConnected, h.lineage_eq]

/-- The same nodes are ancestors of a node. -/
theorem isAncestor_eq (a n : NodeId) : d'.isAncestor a n = d.isAncestor a n := by
  rw [isAncestor, isAncestor, h.lineage_eq]

/-- The next node has the same identifier. -/
theorem nextId_eq : d'.nextId = d.nextId := by
  rw [nextId, nextId, h.size_eq]

end Alike

end Document

namespace Edit

/-! ### Edits side by side -/

/-- If `e` ends well from `d`, so does `e'` from `d'`, and `P` holds of the results and of the
    documents that they leave. -/
def Follows (P : α → β → Document → Document → Prop) (e : EStateM ε Document α)
    (e' : EStateM ε Document β) (d d' : Document) : Prop :=
  ∀ a d₁, e.run d = .ok a d₁ → ∃ b d₁', e'.run d' = .ok b d₁' ∧ P a b d₁ d₁'

/-- Where `R` holds `e'` follows `e`, with results that `V` relates, and `R` holds again. -/
def Tracks (R : Document → Document → Prop) (V : α → β → Prop) (e : EStateM ε Document α)
    (e' : EStateM ε Document β) : Prop :=
  ∀ d d', R d d' → Follows (fun a b d₁ d₁' => V a b ∧ R d₁ d₁') e e' d d'

section Combinators

variable {R : Document → Document → Prop} {V : α → β → Prop} {W : γ → δ → Prop}
  {x : EStateM ε Document α} {x' : EStateM ε Document β}

namespace Follows

variable {P : α → β → Document → Document → Prop} {Q : γ → δ → Document → Document → Prop}

/-- What follows from the results of both runs may be concluded instead. -/
theorem mono {P' : α → β → Document → Document → Prop} (h : Follows P x x' d d')
    (hP : ∀ a b d d', P a b d d' → P' a b d d') : Follows P' x x' d d' := by
  intro a d₁ hrun
  obtain ⟨b, d₁', hrun', hpost⟩ := h a d₁ hrun
  exact ⟨b, d₁', hrun', hP _ _ _ _ hpost⟩

/-- A result that is given at once is followed by one that corresponds to it. -/
theorem pure {a : α} {b : β} (h : P a b d d') :
    Follows P (pure a : EStateM ε Document α) (pure b : EStateM ε Document β) d d' := by
  intro a' d₁ hrun
  cases hrun
  exact ⟨b, d', rfl, h⟩

/-- Two runs follow each other if their parts do, whatever the first parts have in common. -/
theorem bind {f : α → EStateM ε Document γ} {f' : β → EStateM ε Document δ}
    (hx : Follows P x x' d d')
    (hf : ∀ a b d₁ d₁', P a b d₁ d₁' → Follows Q (f a) (f' b) d₁ d₁') :
    Follows Q (x >>= f) (x' >>= f') d d' := by
  intro c d₂ hrun
  obtain ⟨a, d₁, hfirst, hrest⟩ := run_bind_eq_ok hrun
  obtain ⟨b, d₁', hfirst', hab⟩ := hx a d₁ hfirst
  obtain ⟨c', d₂', hrest', hpost⟩ := hf a b d₁ d₁' hab c d₂ hrest
  exact ⟨c', d₂', by rw [run_bind_ok hfirst', hrest'], hpost⟩

/-- A computation that only reads the document. -/
theorem get_bind {f : Document → EStateM ε Document α} {f' : Document → EStateM ε Document β}
    (hf : Follows P (f d) (f' d') d d') : Follows P (get >>= f) (get >>= f') d d' := hf

/-- A handler that ends with an error does not matter. -/
theorem tryCatch {f : ε → EStateM ε Document α} {f' : ε → EStateM ε Document β}
    (hx : Follows P x x' d d') (hf : ∀ e d a d₁, (f e).run d ≠ .ok a d₁) :
    Follows P (tryCatch x f) (tryCatch x' f') d d' := by
  intro a d₁ hrun
  rw [run_tryCatch] at hrun
  cases hbody : x.run d with
  | ok b d₂ =>
    rw [hbody] at hrun
    cases hrun
    obtain ⟨b', d₂', hbody', hpost⟩ := hx a d₁ hbody
    exact ⟨b', d₂', run_tryCatch_ok hbody', hpost⟩
  | error e d₂ =>
    rw [hbody] at hrun
    exact absurd hrun (hf e d₂ a d₁)

/-- Edits that end well do so whatever their errors would be. -/
theorem orThrow {e : Edit α} {e' : Edit β} (h : Follows P e e' d d') (error error' : ε) :
    Follows P (e.orThrow error) (e'.orThrow error') d d' := by
  intro a d₁ hrun
  obtain ⟨b, d₁', hrun', hpost⟩ := h a d₁ (run_orThrow_eq_ok hrun)
  exact ⟨b, d₁', run_orThrow_ok hrun' error', hpost⟩

end Follows

namespace Tracks

/-- Results that correspond, given at once, track each other. -/
theorem pure {a : α} {b : β} (h : V a b) :
    Tracks R V (pure a : EStateM ε Document α) (pure b : EStateM ε Document β) :=
  fun _ _ hR => Follows.pure ⟨h, hR⟩

/-- An edit that fails is followed by every edit. -/
theorem throw (e : ε) (x' : EStateM ε Document β) :
    Tracks R V (throw e : EStateM ε Document α) x' := by
  intro d d' _ a d₁ hrun
  cases hrun

/-- Two computations track each other if their parts do, for all results that correspond. -/
theorem bind {f : α → EStateM ε Document γ} {f' : β → EStateM ε Document δ}
    (hx : Tracks R V x x') (hf : ∀ a b, V a b → Tracks R W (f a) (f' b)) :
    Tracks R W (x >>= f) (x' >>= f') :=
  fun d d' hR => (hx d d' hR).bind fun a b d₁ d₁' ⟨hab, hR'⟩ => hf a b hab d₁ d₁' hR'

/-- The most common case: both give the same. -/
theorem bind_eq {x x' : EStateM ε Document α} {f : α → EStateM ε Document γ}
    {f' : α → EStateM ε Document δ} (hx : Tracks R Eq x x') (hf : ∀ a, Tracks R W (f a) (f' a)) :
    Tracks R W (x >>= f) (x' >>= f') :=
  bind hx fun a _ hab => hab ▸ hf a

/-- Two computations that first read the document need to correspond on documents that are
    related. -/
theorem get_bind {f : Document → EStateM ε Document α} {f' : Document → EStateM ε Document β}
    (hf : ∀ d d', R d d' → Follows (fun a b d₁ d₁' => V a b ∧ R d₁ d₁') (f d) (f' d') d d') :
    Tracks R V (get >>= f) (get >>= f') := hf

/-- What is done for each entry tracks what is done for the same entry. -/
theorem forM {l : List γ} {f f' : γ → EStateM ε Document PUnit}
    (hf : ∀ c ∈ l, Tracks R Eq (f c) (f' c)) :
    Tracks R Eq (l.forM f) (l.forM f') := by
  induction l with
  | nil => exact pure rfl
  | cons c rest ih =>
    show Tracks R Eq (f c >>= fun _ => rest.forM f) (f' c >>= fun _ => rest.forM f')
    exact bind_eq (hf c List.mem_cons_self) fun _ =>
      ih fun c' hc' => hf c' (List.mem_cons_of_mem _ hc')

/-- What is given for each entry is the same if each step tracks its counterpart. -/
theorem mapM {l : List γ} {f f' : γ → EStateM ε Document α}
    (hf : ∀ c ∈ l, Tracks R Eq (f c) (f' c)) :
    Tracks R Eq (l.mapM f) (l.mapM f') := by
  induction l with
  | nil => exact pure rfl
  | cons c rest ih =>
    rw [List.mapM_cons, List.mapM_cons]
    refine bind_eq (hf c List.mem_cons_self) fun a => bind_eq ?_ fun as => pure rfl
    exact ih fun c' hc' => hf c' (List.mem_cons_of_mem _ hc')

/-- What is carried along stays related. -/
theorem foldlM {l : List γ} {f : α → γ → EStateM ε Document α} {f' : β → γ → EStateM ε Document β}
    (hf : ∀ a b, V a b → ∀ c ∈ l, Tracks R V (f a c) (f' b c)) {a : α} {b : β} (hab : V a b) :
    Tracks R V (l.foldlM f a) (l.foldlM f' b) := by
  induction l generalizing a b with
  | nil => exact pure hab
  | cons c rest ih =>
    rw [List.foldlM_cons, List.foldlM_cons]
    refine bind (hf a b hab c List.mem_cons_self) fun a' b' hab' => ?_
    exact ih (fun a b hab c' hc' => hf a b hab c' (List.mem_cons_of_mem _ hc')) hab'

/-- Whatever the errors are, edits that track each other still do. -/
theorem orThrow {e : Edit α} {e' : Edit β} (h : Tracks R V e e') (error error' : ε) :
    Tracks R V (e.orThrow error) (e'.orThrow error') :=
  fun d d' hR => (h d d' hR).orThrow error error'

end Tracks

end Combinators

/-! ### Single slots -/

section Edits

open Document (Alike)

variable {V : α → β → Prop}

/-- What is done with a slot may be done with the slot of the other document, which has a kind that
    is alike. -/
theorem tracks_slot_bind {f : Slot → Edit α} {f' : Slot → Edit β}
    (hf : ∀ s k, s.kind.Alike T k → Tracks (Alike E T) V (f s) (f' { s with kind := k })) :
    Tracks (Alike E T) V (slot n >>= f) (slot n >>= f') := by
  intro d d' h
  cases hs : d.slot? n with
  | none =>
    intro a d₁ hrun
    rw [run_bind_error (run_slot_of_none hs)] at hrun
    cases hrun
  | some s =>
    intro a d₁ hrun
    obtain ⟨k, hk, halike, -⟩ := h.slot?_eq_some hs
    rw [run_bind_ok (run_slot hs)] at hrun
    obtain ⟨b, d₁', hrun', hresult⟩ := hf s k halike d d' h a d₁ hrun
    exact ⟨b, d₁', by rw [run_bind_ok (run_slot hk), hrun'], hresult⟩

/-- A change of a slot that does not look at its kind. -/
theorem tracks_modifySlot (n : NodeId) {f : Slot → Slot}
    (hf : ∀ s k, f { s with kind := k } = { f s with kind := k }) :
    Tracks (Alike E T) Eq (modifySlot n f) (modifySlot n f) := by
  intro d d' h a d₁ hrun
  cases hn : d.contains n with
  | false =>
    rw [run_modifySlot_of_not_contains hn] at hrun
    cases hrun
  | true =>
    rw [run_modifySlot hn] at hrun
    cases hrun
    refine ⟨(), d'.modifySlot n f, run_modifySlot ((h.contains_eq n).trans hn) f, rfl, ?_⟩
    refine h.modifySlot fun s k _ halike hsame => ⟨k, hf s k, ?_, fun hE => ?_⟩
    · rwa [congrArg Slot.kind (hf s s.kind)]
    · rw [congrArg Slot.kind (hf s s.kind), hsame hE]

/-- Nodes of kinds that are alike are made under the same identifier. -/
theorem tracks_create (hk : k.Alike T k') : Tracks (Alike E T) Eq (create k) (create k') := by
  intro d d' h a d₁ hrun
  cases hrun
  exact ⟨d'.nextId, d'.push k', rfl, h.nextId_eq.symm, h.push hk⟩

/-- A change of the attributes in a slot of `E`, or one that keeps them related. -/
theorem follows_modifyAttributes (h : Alike E T d d') {f : Attributes → Attributes}
    (hf : ∀ name a a', d.kind? n = some (.element name a) → n.index ∉ E → T name a a' →
      T name (f a) (f a')) :
    Follows (fun a b d₁ d₁' => a = b ∧ Alike E T d₁ d₁') (modifyAttributes n f)
      (modifyAttributes n f) d d' := by
  intro _ d₁ hrun
  rcases modifyAttributes_cases d n f with ⟨⟨name, a, hk⟩, hok⟩ | ⟨e, herror⟩
  · rw [hok] at hrun
    cases hrun
    obtain ⟨k', hk', halike, -⟩ := h.kind?_eq_some hk
    obtain ⟨a', rfl⟩ : ∃ a', k' = .element name a' := by
      cases halike with
      | same _ => exact ⟨a, rfl⟩
      | @element _ _ a' _ => exact ⟨a', rfl⟩
    refine ⟨(), _, run_modifyAttributes hk' f, rfl, h.modifySlot fun s k hs halike hsame => ?_⟩
    refine ⟨k.mapAttributes f, rfl, ?_, fun hE => by rw [hsame hE]⟩
    have hkind : s.kind = .element name a := by
      have hslot := (Document.slot?_eq_some_iff.mp (Document.slot?_eq_of_kind? hk)).1
      rw [hs, Option.some.injEq] at hslot
      rw [hslot]
    show (s.kind.mapAttributes f).Alike T (k.mapAttributes f)
    by_cases hE : n.index ∈ E
    · rw [hsame hE]
      exact .same _
    · rw [hkind] at halike ⊢
      cases halike with
      | same _ => exact .same _
      | element ha => exact .element (hf _ _ _ hk hE ha)
  · exact absurd hrun (run_ne_ok herror)

/-! ### Links -/

/-- The checks before attaching depend on names and links only. -/
theorem tracks_ensureAttachable (p c : NodeId) :
    Tracks (Alike E T) Eq (ensureAttachable p c) (ensureAttachable p c) := by
  intro d d' h a d₁ hrun
  rcases ensureAttachable_cases d p c with ⟨ha, hok⟩ | ⟨-, e, herror⟩
  · rw [hok] at hrun
    cases hrun
    obtain ⟨k, hk, hallows⟩ := ha.allows
    obtain ⟨k', hk', halike, -⟩ := h.kind?_eq_some hk
    have ha' : Attachable d' p c :=
      { allows := ⟨k', hk', halike.allowsChildren_eq.trans hallows⟩
        ne_root := ha.ne_root
        contains := (h.contains_eq c).trans ha.contains
        detached := (h.parent?_eq c).trans ha.detached
        ne := ha.ne
        not_above := (h.isAncestor_eq c p).trans ha.not_above }
    exact ⟨(), d', run_ensureAttachable ha', rfl, h⟩
  · exact absurd hrun (run_ne_ok herror)

/-- Links are made in the same slots. -/
theorem tracks_link (p c : NodeId) : Tracks (Alike E T) Eq (link p c) (link p c) :=
  Tracks.bind_eq (tracks_modifySlot p fun _ _ => rfl) fun _ =>
    tracks_modifySlot c fun _ _ => rfl

/-- A child is appended to both documents, or to neither. -/
theorem tracks_appendChild (p c : NodeId) :
    Tracks (Alike E T) Eq (appendChild p c) (appendChild p c) :=
  Tracks.bind_eq (tracks_ensureAttachable p c) fun _ => tracks_link p c

/-- A child is removed from both documents, or from neither. -/
theorem tracks_removeChild (p c : NodeId) :
    Tracks (Alike E T) Eq (removeChild p c) (removeChild p c) := by
  refine tracks_slot_bind fun s k _ => ?_
  dsimp only
  split
  · exact Tracks.throw _ _
  · exact Tracks.bind_eq (tracks_modifySlot p fun _ _ => rfl) fun _ =>
      Tracks.bind_eq (tracks_modifySlot c fun _ _ => rfl) fun _ => Tracks.pure rfl

/-- A child is replaced in both documents, or in neither. -/
theorem tracks_replaceChild (p new old : NodeId) :
    Tracks (Alike E T) Eq (replaceChild p new old) (replaceChild p new old) := by
  refine tracks_slot_bind fun s k _ => ?_
  dsimp only
  split
  · exact Tracks.throw _ _
  · refine Tracks.bind_eq (tracks_ensureAttachable p new) fun _ => tracks_slot_bind fun s k _ => ?_
    dsimp only
    split
    · exact Tracks.throw _ _
    · exact Tracks.bind_eq (tracks_modifySlot p fun _ _ => rfl) fun _ =>
        Tracks.bind_eq (tracks_modifySlot new fun _ _ => rfl) fun _ =>
          Tracks.bind_eq (tracks_modifySlot old fun _ _ => rfl) fun _ => Tracks.pure rfl

/-- A node is detached in both documents, or in neither. -/
theorem tracks_detach (n : NodeId) : Tracks (Alike E T) Eq (detach n) (detach n) := by
  unfold detach
  dsimp only
  split
  · exact Tracks.throw _ _
  · refine tracks_slot_bind fun s k _ => ?_
    dsimp only
    split
    · exact Tracks.bind_eq (tracks_removeChild _ n) fun _ => Tracks.pure rfl
    · exact Tracks.pure rfl

/-- The children of a node are taken out of both documents. -/
theorem tracks_detachChildren (n : NodeId) :
    Tracks (Alike E T) Eq (detachChildren n) (detachChildren n) := by
  refine Tracks.get_bind fun d d' h => ?_
  rw [h.children_eq]
  exact Tracks.mapM (fun c _ => tracks_removeChild n c) d d' h

/-- A node gets its replacement in both documents, or in neither. -/
theorem tracks_wrapWithFallback (source replacement fallback : NodeId) :
    Tracks (Alike E T) Eq (wrapWithFallback source replacement fallback)
      (wrapWithFallback source replacement fallback) := by
  refine Tracks.get_bind fun d d' h => ?_
  rw [h.parent?_eq]
  split
  · exact Tracks.throw _ _ d d' h
  · refine Tracks.bind_eq (tracks_create (.same _)) (fun island => ?_) d d' h
    exact Tracks.bind_eq (tracks_appendChild _ _) fun _ =>
      Tracks.bind_eq (tracks_replaceChild _ _ _) fun _ =>
        Tracks.bind_eq (tracks_appendChild _ _) fun _ => Tracks.pure rfl

/-! ### Discarding -/

/-- The same slots are given up. -/
theorem tracks_freeAll (fuel : Nat) (ns : List NodeId) :
    Tracks (Alike E T) Eq (freeAll fuel ns) (freeAll fuel ns) := by
  induction fuel generalizing ns with
  | zero => exact Tracks.pure rfl
  | succ fuel ih =>
    cases ns with
    | nil => exact Tracks.pure rfl
    | cons n rest =>
      exact tracks_slot_bind fun s k _ =>
        Tracks.bind_eq (tracks_modifySlot n fun _ _ => rfl) fun _ => ih _

/-- A node is discarded in both documents, or in neither. -/
theorem tracks_discard (n : NodeId) : Tracks (Alike E T) Eq (discard n) (discard n) := by
  refine Tracks.bind_eq (tracks_detach n) fun _ => Tracks.get_bind fun d d' h => ?_
  rw [h.size_eq]
  exact tracks_freeAll d.size [n] d d' h

/-! ### Copying -/

/-- Copies of nodes that are alike are alike. -/
theorem tracks_copyChildren (copy : NodeId) (children : List NodeId) :
    Tracks (Alike E T) Eq (copyChildren copy children) (copyChildren copy children) := by
  induction children with
  | nil => exact Tracks.pure rfl
  | cons child rest ih =>
    exact tracks_slot_bind fun s k hk => Tracks.bind_eq (tracks_create hk) fun _ =>
      Tracks.bind_eq (tracks_link _ _) fun _ => Tracks.bind_eq ih fun _ => Tracks.pure rfl

/-- Copies of nodes that are alike are alike, and get the same identifiers. -/
theorem tracks_copyBelow (fuel : Nat) (pending : List (NodeId × NodeId)) :
    Tracks (Alike E T) Eq (copyBelow fuel pending) (copyBelow fuel pending) := by
  induction fuel generalizing pending with
  | zero => exact Tracks.pure rfl
  | succ fuel ih =>
    cases pending with
    | nil => exact Tracks.pure rfl
    | cons e rest =>
      exact tracks_slot_bind fun s k _ =>
        Tracks.bind_eq (tracks_copyChildren e.2 s.children) fun _ => ih _

/-- A node and its copy in one document are a node and its copy in the other. -/
theorem tracks_cloneNode (n : NodeId) (deep : Bool) :
    Tracks (Alike E T) Eq (cloneNode n deep) (cloneNode n deep) := by
  refine Tracks.get_bind fun d d' h => ?_
  rw [h.size_eq]
  refine tracks_slot_bind (fun s k hk => ?_) d d' h
  refine Tracks.bind_eq (tracks_create hk) fun copy => ?_
  cases deep with
  | false => exact Tracks.pure rfl
  | true => exact Tracks.bind_eq (tracks_copyBelow _ _) fun _ => Tracks.pure rfl

/-- A copy of a node in `E`, without what is below it, may be added to `E`. -/
theorem follows_cloneNode_shallow (h : Alike E T d d') (hn : n.index ∈ E) :
    Follows (fun f f' d₁ d₁' => f = f' ∧ Alike (insert f.index E) T d₁ d₁') (cloneNode n false)
      (cloneNode n false) d d' := by
  intro f d₁ hrun
  cases hk : d.kind? n with
  | none =>
    have hs : d.slot? n = none := by simpa [Document.kind?] using hk
    rw [cloneNode, run_bind_ok (EStateM.run_get d), run_bind_error (run_slot_of_none hs)] at hrun
    cases hrun
  | some k =>
    rw [run_cloneNode_shallow hk] at hrun
    cases hrun
    have hk' : d'.kind? n = some k := (h.kind?_eq_of_mem hn).trans hk
    refine ⟨d'.nextId, d'.push k, run_cloneNode_shallow hk', h.nextId_eq.symm, ?_⟩
    apply (h.push (.same k)).insert (s := { kind := k })
    · simp [Document.push, Document.nextId, Document.size]
    · rw [← h.nextId_eq]
      simp [Document.push, Document.nextId, Document.size]

end Edits

end Edit

end AmpMarkup
