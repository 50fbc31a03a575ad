import AmpMarkup.Proofs.Conversion.Gather
import AmpMarkup.Proofs.Conversion.Wrapping

namespace AmpMarkup

open Document (root WellFormed Loose SameAt)

/-!
# Building the replacement of an audio element

The replacement and its fallback are loose nodes until the replacement takes the place of the audio
element, so every child can be put under one and its copy under the other.

* `Adopted`, `run_adoptChildren` — the children end up under the replacement, copies of them under
  the fallback; `Adopted.cons` — one child first, and then the others.
* `run_matchMedia` — the fallback gets the media attributes of the replacement.
* `Wrapped`, `run_wrapWithFallback` — the replacement takes its place, with a fallback island at its
  end.
-/

variable {d d' : Document} {m n p c r f : NodeId}

namespace Conversion

open Edit

/-! ### Children and their copies -/

/-- What putting the loose nodes `cs` under `r` and copies of them under `f` comes to. -/
structure Adopted (d d' : Document) (f r : NodeId) (cs : List NodeId) : Prop where
  wellFormed : d'.WellFormed
  size_le : d.size ≤ d'.size
  same (m : NodeId) : m.index < d.size → m ≠ f → m ≠ r → m ∉ cs → SameAt d d' m
  kind (m : NodeId) : m.index < d.size → d'.kind? m = d.kind? m
  loose_fallback : d'.Loose f
  loose_replacement : d'.Loose r
  children_replacement : d'.children r = d.children r ++ cs
  children_fallback : ∃ copies, d'.children f = d.children f ++ copies ∧
    copies.map d'.tree = cs.map d.tree
  children (c : NodeId) : c ∈ cs → d'.children c = d.children c
  tree (c : NodeId) : c ∈ cs → d'.tree c = d.tree c
  /-- No copy is left over. -/
  attached (m : NodeId) : d.size ≤ m.index → d'.contains m = true → ∃ q, d'.parent? m = some q

/-! One loose node `c` goes under `r`, and a copy of it goes under `f`. -/

section Single

variable {d₁ d₂ : Document} (h : d.WellFormed) (hf : d.Loose f) (hr : d.Loose r) (hc : d.Loose c)
  (hfr : f ≠ r) (hcf : c ≠ f) (hcr : c ≠ r)
include h hf hr hc hfr hcf hcr

/-- The copy is made, then it goes under `f`, and then the node itself goes under `r`. -/
theorem Adopted.of_appended (h₁ : Document.Copied d d₁ c d.nextId) (h₂ : Appended d₁ d₂ f d.nextId)
    (h₃ : Appended d₂ d' r c) : Adopted d d' f r [c] := by
  have hold : ∀ {m}, d.contains m = true → SameAt d d₁ m := fun hm =>
    h₁.same _ (Document.index_lt_of_contains hm)
  have hnew : ∀ {m}, d.contains m = true → m ≠ d.nextId := Document.ne_nextId_of_contains
  have hf₁ : d₁.Loose f := hf.of_sameAt (hold hf.contains)
  have hr₂ : d₂.Loose r := h₂.loose (hr.of_sameAt (hold hr.contains)) (hnew hr.contains)
  have htree : ∀ x, f ≠ x → r ≠ x → d'.tree x = d₁.tree x := fun x hfx hrx =>
    (h₃.tree h₂.wellFormed (hr₂.not_below hrx)).trans
      (h₂.tree h₁.wellFormed (hf₁.not_below hfx))
  have htop : d'.children f = d.children f ++ [d.nextId] := by
    rw [h₃.children f hfr, h₂.children_top, (hold hf.contains).children]
  exact {
    wellFormed := h₃.wellFormed
    size_le := by
      rw [h₃.size_eq, h₂.size_eq, h₁.size_eq]
      omega
    same m hm hmf hmr hmc := (h₁.same m hm).trans <|
      (h₂.same m hmf (Document.ne_nextId_of_lt hm)).trans <|
        h₃.same m hmr (mt List.mem_singleton.mpr hmc)
    kind m hm := by rw [h₃.kind, h₂.kind, (h₁.same m hm).kind?]
    loose_fallback := h₃.loose (h₂.loose hf₁ (hnew hf.contains)) (Ne.symm hcf)
    loose_replacement := h₃.loose hr₂ (Ne.symm hcr)
    children_replacement := by
      rw [h₃.children_top, h₂.children r (Ne.symm hfr), (hold hr.contains).children]
    children_fallback := by
      refine ⟨[d.nextId], htop, ?_⟩
      rw [List.map_singleton, List.map_singleton, htree _ (hnew hf.contains) (hnew hr.contains),
        h₁.tree]
    children x hx := by
      rw [List.mem_singleton.mp hx, h₃.children c hcr, h₂.children c hcf,
        (hold hc.contains).children]
    tree x hx := by
      rw [List.mem_singleton.mp hx, htree c (Ne.symm hcf) (Ne.symm hcr)]
      exact Document.tree_eq_of_same h h₁.wellFormed fun m hm =>
        hold (hm.contains_lower hc.contains)
    attached m hm hcon := by
      -- All new nodes are in the copy, and the copy is under `f`.
      rw [h₃.contains, h₂.contains] at hcon
      rcases (h₁.below_of_size_le h hc.contains hm hcon).cases_parent with rfl | ⟨q, hq, -⟩
      · exact ⟨f, h₃.wellFormed.parent_of_mem (htop ▸ List.mem_append_right _ List.mem_cons_self)⟩
      · have hmc : m ≠ c := by
          rintro rfl
          exact absurd (Document.index_lt_of_contains hc.contains) (Nat.not_lt.mpr hm)
        refine ⟨q, ?_⟩
        rw [h₃.parent m hmc, h₂.parent m (Document.ne_of_parent? h₁.detached hq).symm, hq] }

/-- Putting one child under `r` and a copy of it under `f` never fails. -/
theorem run_adoptChild {kf kr : NodeKind} (hkf : d.kind? f = some kf) (hkr : d.kind? r = some kr)
    (hallowsF : kf.allowsChildren = true) (hallowsR : kr.allowsChildren = true) :
    ∃ d', (adoptChild f r c).run d = .ok () d' ∧ Adopted d d' f r [c] := by
  obtain ⟨d₁, hrun₁, hd₁⟩ := run_cloneNode h hc.contains
  have hold : ∀ {m}, d.contains m = true → SameAt d d₁ m := fun hm =>
    hd₁.same _ (Document.index_lt_of_contains hm)
  have hnew : ∀ {m}, d.contains m = true → m ≠ d.nextId := Document.ne_nextId_of_contains
  have hf₁ : d₁.Loose f := hf.of_sameAt (hold hf.contains)
  have hr₁ : d₁.Loose r := hr.of_sameAt (hold hr.contains)
  -- The copy can go under the fallback ...
  obtain ⟨d₂, hrun₂, hd₂⟩ := run_append hd₁.wellFormed <| (hd₁.loose h hc.contains).attachable
    hd₁.wellFormed ((hold hf.contains).kind?.trans hkf) hallowsF
    (hf₁.not_below (hnew hf.contains))
  have hr₂ : d₂.Loose r := hd₂.loose hr₁ (hnew hr.contains)
  have hc₂ : d₂.Loose c := hd₂.loose (hc.of_sameAt (hold hc.contains)) (hnew hc.contains)
  -- ... and the child itself under the replacement.
  obtain ⟨d₃, hrun₃, hd₃⟩ := run_append hd₂.wellFormed <| hc₂.attachable hd₂.wellFormed
    ((hd₂.kind r).trans ((hold hr.contains).kind?.trans hkr)) hallowsR
    (hr₂.not_below (Ne.symm hcr))
  refine ⟨d₃, ?_, .of_appended h hf hr hc hfr hcf hcr hd₁ hd₂ hd₃⟩
  rw [adoptChild, run_bind_ok hrun₁, run_bind_ok hrun₂, hrun₃]

end Single

namespace Adopted

variable {d₁ : Document} {cs : List NodeId}

/-- Without children there is nothing to adopt. -/
theorem nil (h : d.WellFormed) (hf : d.Loose f) (hr : d.Loose r) : Adopted d d f r [] where
  wellFormed := h
  size_le := Nat.le_refl _
  same _ _ _ _ _ := rfl
  kind _ _ := rfl
  loose_fallback := hf
  loose_replacement := hr
  children_replacement := (List.append_nil _).symm
  children_fallback := ⟨[], (List.append_nil _).symm, rfl⟩
  children _ hc := absurd hc List.not_mem_nil
  tree _ hc := absurd hc List.not_mem_nil
  attached _ hm hcon := absurd (Document.index_lt_of_contains hcon) (Nat.not_lt.mpr hm)

/-- A tree that none of the nodes concerned is in stays as it is. -/
theorem tree_apart (h : Adopted d d' f r cs) (hwf : d.WellFormed)
    (hn : d.contains n = true) (hapart : ∀ m, d.Below m n → m ≠ f ∧ m ≠ r ∧ m ∉ cs) :
    d'.tree n = d.tree n := by
  refine Document.tree_eq_of_same hwf h.wellFormed fun m hm => ?_
  obtain ⟨hmf, hmr, hmc⟩ := hapart m hm
  exact h.same m (Document.index_lt_of_contains (hm.contains_lower hn)) hmf hmr hmc

/-- What has a parent has none of the loose nodes below it, so it shows the same tree. -/
theorem tree_of_parent (h : Adopted d d' f r cs) (hwf : d.WellFormed) (hf : d.Loose f)
    (hr : d.Loose r) (hcs : ∀ c ∈ cs, d.Loose c) {x q : NodeId} (hx : d.parent? x = some q) :
    d'.tree x = d.tree x := by
  refine h.tree_apart hwf (Document.contains_of_parent? hx) fun m hm => ⟨?_, ?_, fun hmem => ?_⟩
  · rintro rfl
    exact hm.not_loose hx hf
  · rintro rfl
    exact hm.not_loose hx hr
  · exact hm.not_loose hx (hcs m hmem)

/-! The node `c` goes first. Another one has nothing to do with it. -/

section Other

variable {x : NodeId} (h : Adopted d d₁ f r [c]) (hx : d.Loose x ∧ x ≠ f ∧ x ≠ r) (hne : x ≠ c)
include h hx hne

/-- Another loose node is as it was. -/
theorem same_other : SameAt d d₁ x :=
  h.same x (Document.index_lt_of_contains hx.1.contains) hx.2.1 hx.2.2
    (mt List.mem_singleton.mp hne)

/-- Another node can still go first. -/
theorem ready_other : d₁.Loose x ∧ x ≠ f ∧ x ≠ r :=
  ⟨hx.1.of_sameAt (h.same_other hx hne), hx.2⟩

/-- The tree of another loose node is as it was. -/
theorem tree_other (hwf : d.WellFormed) (hf : d.Loose f) (hr : d.Loose r) (hc : d.Loose c) :
    d₁.tree x = d.tree x := by
  refine h.tree_apart hwf hx.1.contains fun m hm => ⟨?_, ?_, fun hmc => ?_⟩
  · exact fun heq => hf.not_below (Ne.symm hx.2.1) (heq ▸ hm)
  · exact fun heq => hr.not_below (Ne.symm hx.2.2) (heq ▸ hm)
  · exact hc.not_below (Ne.symm hne) (List.mem_singleton.mp hmc ▸ hm)

end Other

/-- One child first and then the others. -/
theorem cons (hwf : d.WellFormed) (hf : d.Loose f) (hr : d.Loose r)
    (hc : d.Loose c ∧ c ≠ f ∧ c ≠ r) (hcs : ∀ x ∈ cs, d.Loose x ∧ x ≠ f ∧ x ≠ r) (hmem : c ∉ cs)
    (h : Adopted d d₁ f r [c]) (h' : Adopted d₁ d' f r cs) : Adopted d d' f r (c :: cs) := by
  have hlt : ∀ {m : NodeId}, m.index < d.size → m.index < d₁.size := fun hm =>
    Nat.lt_of_lt_of_le hm h.size_le
  have hne : ∀ x ∈ cs, x ≠ c := fun x hx heq => hmem (heq ▸ hx)
  have htree : ∀ x ∈ cs, d₁.tree x = d.tree x := fun x hx =>
    h.tree_other (hcs x hx) (hne x hx) hwf hf hr hc.1
  -- What the first step has put somewhere stays there to the end.
  have hplaced : ∀ {x q}, d₁.parent? x = some q → d'.tree x = d₁.tree x := fun hx =>
    h'.tree_of_parent h.wellFormed h.loose_fallback h.loose_replacement
      (fun y hy => (h.ready_other (hcs y hy) (hne y hy)).1) hx
  exact {
    wellFormed := h'.wellFormed
    size_le := Nat.le_trans h.size_le h'.size_le
    same m hm hmf hmr hmem := by
      rw [List.mem_cons, not_or] at hmem
      exact (h.same m hm hmf hmr (mt List.mem_singleton.mp hmem.1)).trans
        (h'.same m (hlt hm) hmf hmr hmem.2)
    kind m hm := (h'.kind m (hlt hm)).trans (h.kind m hm)
    loose_fallback := h'.loose_fallback
    loose_replacement := h'.loose_replacement
    children_replacement := by
      rw [h'.children_replacement, h.children_replacement, List.append_assoc]
      rfl
    children_fallback := by
      obtain ⟨copy, hcopy, htrees⟩ := h.children_fallback
      obtain ⟨copies, hcopies, htrees'⟩ := h'.children_fallback
      have hmap : copy.map d'.tree = copy.map d₁.tree := List.map_congr_left fun x hx =>
        hplaced (h.wellFormed.parent_of_mem (hcopy ▸ List.mem_append_right _ hx))
      refine ⟨copy ++ copies, by rw [hcopies, hcopy, List.append_assoc], ?_⟩
      rw [List.map_append, hmap, htrees, htrees', List.map_congr_left htree]
      rfl
    children x hx := by
      rcases List.mem_cons.mp hx with rfl | hx
      · have hlive : x.index < d₁.size := hlt (Document.index_lt_of_contains hc.1.contains)
        rw [(h'.same x hlive hc.2.1 hc.2.2 hmem).children, h.children x List.mem_cons_self]
      · rw [h'.children x hx, (h.same_other (hcs x hx) (hne x hx)).children]
    tree x hx := by
      rcases List.mem_cons.mp hx with rfl | hx
      · have hpar : d₁.parent? x = some r := h.wellFormed.parent_of_mem
          (h.children_replacement ▸ List.mem_append_right _ List.mem_cons_self)
        rw [hplaced hpar, h.tree x List.mem_cons_self]
      · rw [h'.tree x hx, htree x hx]
    attached m hm hcon := by
      by_cases hnew : d₁.size ≤ m.index
      · exact h'.attached m hnew hcon
      · -- The copies that have been made first are not touched any more.
        have hold : ∀ {x}, d.contains x = true → m ≠ x := by
          rintro x hx rfl
          exact absurd (Document.index_lt_of_contains hx) (Nat.not_lt.mpr hm)
        have hsame : SameAt d₁ d' m := h'.same m (Nat.lt_of_not_le hnew) (hold hf.contains)
          (hold hr.contains) fun hmem => hold (hcs m hmem).1.contains rfl
        rw [hsame.parent?]
        exact h.attached m hm (hsame.contains ▸ hcon) }

end Adopted

/-- Children are put under the replacement one after the other. -/
theorem run_adoptChildren {cs : List NodeId} (h : d.WellFormed) (hf : d.Loose f) (hr : d.Loose r)
    (hfr : f ≠ r) {kf kr : NodeKind} (hkf : d.kind? f = some kf) (hkr : d.kind? r = some kr)
    (hallowsF : kf.allowsChildren = true) (hallowsR : kr.allowsChildren = true)
    (hcs : ∀ c ∈ cs, d.Loose c ∧ c ≠ f ∧ c ≠ r) (hnd : cs.Nodup) :
    ∃ d', (cs.forM (adoptChild f r)).run d = .ok () d' ∧ Adopted d d' f r cs := by
  induction cs generalizing d with
  | nil => exact ⟨d, rfl, .nil h hf hr⟩
  | cons c rest ih =>
    obtain ⟨hmem, hnd⟩ := List.nodup_cons.mp hnd
    have hc := hcs c List.mem_cons_self
    have hrest : ∀ x ∈ rest, d.Loose x ∧ x ≠ f ∧ x ≠ r := fun x hx =>
      hcs x (List.mem_cons_of_mem _ hx)
    have hlt : ∀ {x}, d.contains x = true → x.index < d.size := Document.index_lt_of_contains
    obtain ⟨d₁, hrun₁, hd₁⟩ :=
      run_adoptChild h hf hr hc.1 hfr hc.2.1 hc.2.2 hkf hkr hallowsF hallowsR
    obtain ⟨d', hrun, hd'⟩ := ih hd₁.wellFormed hd₁.loose_fallback hd₁.loose_replacement
      ((hd₁.kind f (hlt hf.contains)).trans hkf) ((hd₁.kind r (hlt hr.contains)).trans hkr)
      (fun x hx => hd₁.ready_other (hrest x hx) fun heq => hmem (heq ▸ hx)) hnd
    refine ⟨d', ?_, .cons h hf hr hc hrest hmem hd₁ hd'⟩
    show ((adoptChild f r c >>= fun _ => rest.forM (adoptChild f r)).run d) = _
    rw [run_bind_ok hrun₁, hrun]

/-! ### Media attributes -/

/-- The attributes of an element with one of them as in `model`. -/
def matchName (model : Attributes) (a : Attributes) (name : String) : Attributes :=
  match model.get? name with
  | some value => a.set name value
  | none => a.erase name

/-- Removing an attribute answers with its value and erases it. -/
theorem run_removeAttribute {tag : String} {a : Attributes}
    (hk : d.kind? n = some (.element tag a)) (name : String) :
    (removeAttribute n name).run d =
      .ok (d.attribute? n name) (d.mapKind n (·.mapAttributes (·.erase name))) := by
  have hs := Document.slot?_eq_of_kind? hk
  have hmodify : (modifyAttributes n (·.erase name)).run d =
      .ok () (d.mapKind n (·.mapAttributes (·.erase name))) := by
    rw [modifyAttributes, run_bind_ok (run_slot hs)]
    exact run_modifySlot (Document.contains_of_kind? hk) _
  rw [removeAttribute, run_bind_ok (EStateM.run_get d)]
  dsimp only
  rw [run_bind_ok hmodify]
  rfl

/-- Matching one attribute sets it on the fallback as the replacement has it, or erases it there. -/
theorem run_matchAttribute {tag tag' : String} {model a : Attributes}
    (hr : d.kind? r = some (.element tag model)) (hf : d.kind? f = some (.element tag' a))
    (name : String) :
    (matchAttribute r f name).run d =
      .ok () (d.mapKind f (·.mapAttributes fun a => matchName model a name)) := by
  rw [matchAttribute, run_bind_ok (EStateM.run_get d), Document.attribute?_of_kind? hr]
  unfold matchName
  cases model.get? name with
  | some value => exact run_setAttribute hf name value
  | none =>
    dsimp only
    rw [run_bind_ok (run_removeAttribute hf name)]
    rfl

/-- The fallback gets the media attributes of the replacement. -/
theorem run_matchMedia {tag tag' : String} {model a : Attributes}
    (hr : d.kind? r = some (.element tag model)) (hf : d.kind? f = some (.element tag' a))
    (hfr : f ≠ r) :
    (mediaAttributes.forM (matchAttribute r f)).run d =
      .ok () (d.mapKind f (·.mapAttributes (matchMedia model))) := by
  -- Each step reads from the replacement, which does not change, and writes to the fallback.
  have key : ∀ (names : List String) (d : Document) (a : Attributes),
      d.kind? r = some (.element tag model) → d.kind? f = some (.element tag' a) →
      (names.forM (matchAttribute r f)).run d =
        .ok () (d.mapKind f (·.mapAttributes fun a => names.foldl (matchName model) a)) := by
    intro names
    induction names with
    | nil =>
      intro d a hr hf
      rw [Document.mapKind_eq_self hf rfl]
      rfl
    | cons name rest ih =>
      intro d a hr hf
      show ((matchAttribute r f name >>= fun _ => rest.forM (matchAttribute r f)).run d) = _
      rw [run_bind_ok (run_matchAttribute hr hf name), ih _ (matchName model a name),
        Document.mapKind_mapKind]
      · congr 2
        funext k
        exact k.mapAttributes_mapAttributes _ _
      · rw [Document.kind?_mapKind, if_neg (Ne.symm hfr), hr]
      · rw [Document.kind?_mapKind, if_pos rfl, hf]
        rfl
  exact key mediaAttributes d a hr hf

/-! ### The place of an element -/

/-- What putting `r` in the place of the child `n` of `p`, with `f` in an island at its end, comes
    to. -/
structure Wrapped (d d' : Document) (n p r f island : NodeId) : Prop where
  wellFormed : d'.WellFormed
  size_eq : d'.size = d.size + 1
  same (m : NodeId) : m.index < d.size → m ≠ n → m ≠ p → m ≠ r → m ≠ f → SameAt d d' m
  kind (m : NodeId) : m.index < d.size → d'.kind? m = d.kind? m
  children (m : NodeId) : m.index < d.size → m ≠ p → m ≠ r → d'.children m = d.children m
  children_parent : d'.children p = substitute n [r] (d.children p)
  children_replacement : d'.children r = d.children r ++ [island]
  kind_island : d'.kind? island = some (.ofElement fallbackTag .empty)
  children_island : d'.children island = [f]
  loose : d'.Loose n
  parent_parent : d'.parent? p = d.parent? p

/-- Seen from a loose replacement and a loose fallback, the two are exchanged with the place of a
    connected node and the island. -/
theorem Wrapped.of_exchanged (h : d.WellFormed) (hp : d.parent? n = some p)
    (hroot : d.Below p root) (hr : d.Loose r) (hf : d.Loose f)
    (hd' : Exchanged d d' n p r (some f)) : Wrapped d d' n p r f d.nextId := by
  have hcon : d.contains n = true := Document.contains_of_parent? hp
  have hne : ∀ {m}, d.contains m = true → m ≠ d.nextId := Document.ne_nextId_of_contains
  have hlt : ∀ {m}, d.contains m = true → m.index < d.size := Document.index_lt_of_contains
  have hpx : ∀ {x}, d.Loose x → p ≠ x := fun hx heq =>
    hx.not_below_of_connected h hroot (heq ▸ Document.below_refl d p)
  have hnx : ∀ {x}, d.Loose x → n ≠ x := fun hx => (Document.ne_of_parent? hx.detached hp).symm
  have hkind : ∀ m : NodeId, m.index < d.size → d'.kind? m = d.kind? m := fun m hm => by
    rw [hd'.kind, if_neg (Document.ne_nextId_of_lt hm)]
  have hparent : ∀ m : NodeId, m.index < d.size → m ≠ f → m ≠ r → d'.parent? m =
      if m = n then none else d.parent? m := fun m hm hmf hmr => by
    rw [hd'.parent, if_neg (Document.ne_nextId_of_lt hm),
      if_neg fun heq => hmf (Option.some.inj heq).symm, if_neg hmr]
  have hchildren : ∀ m : NodeId, m.index < d.size → m ≠ p → m ≠ r →
      d'.children m = d.children m := fun m hm hmp hmr => by
    rw [hd'.children, if_neg (Document.ne_nextId_of_lt hm), if_neg hmp, if_neg hmr]
  exact {
    wellFormed := hd'.wellFormed
    size_eq := hd'.size_eq
    same m hm hmn hmp hmr hmf := by
      refine Document.sameAt_of_readings (hkind m hm) ?_ (hchildren m hm hmp hmr)
      rw [hparent m hm hmf hmr, if_neg hmn]
    kind := hkind
    children := hchildren
    children_parent := by rw [hd'.children, if_neg (hne (h.contains_parent hp)), if_pos rfl]
    children_replacement := by
      rw [hd'.children, if_neg (hne hr.contains), if_neg (hpx hr).symm, if_pos rfl]
    kind_island := by rw [hd'.kind, if_pos rfl]
    children_island := by
      rw [hd'.children, if_pos rfl]
      rfl
    loose := by
      refine ⟨h.ne_root_of_parent hp, ?_, ?_⟩
      · rw [Document.contains_eq_isSome_kind?, hkind n (hlt hcon),
          ← Document.contains_eq_isSome_kind?, hcon]
      · rw [hparent n (hlt hcon) (hnx hf) (hnx hr), if_pos rfl]
    parent_parent := by
      rw [hparent p (hlt (h.contains_parent hp)) (hpx hf) (hpx hr),
        if_neg (h.parent_ne hp)] }

/-- A loose replacement and a loose fallback can be put in the place of a connected node. -/
theorem run_wrapWithFallback (h : d.WellFormed) (hp : d.parent? n = some p)
    (hroot : d.Below p root) (hr : d.Loose r) (hf : d.Loose f) (hfr : f ≠ r) {k : NodeKind}
    (hk : d.kind? r = some k) (hallows : k.allowsChildren = true) :
    ∃ d', (wrapWithFallback n r f).run d = .ok d.nextId d' ∧ Wrapped d d' n p r f d.nextId := by
  have hout : ∀ {x}, d.Loose x → ¬ d.Below p x := fun hx => hx.not_below_of_connected h hroot
  have hreplace : CanReplace d p r := ⟨hr, ⟨k, hk, hallows⟩, hout hr⟩
  have hfallback : CanFallBack d n p r f := ⟨hf.ne_root, .inr ⟨hf, hfr, hout hf⟩⟩
  rcases wrapWithFallback_cases (f := f) h hp with
    ⟨-, -, d', hrun, hd'⟩ | ⟨-, hnot, -⟩ | ⟨hnot, -⟩
  · exact ⟨d', hrun, .of_exchanged h hp hroot hr hf hd'⟩
  · exact absurd hfallback hnot
  · exact absurd hreplace hnot

namespace Wrapped

variable {island : NodeId}

/-- What is under a loose node is in no place that has been touched. -/
theorem tree_child (h : Wrapped d d' n p r f island) (hwf : d.WellFormed) (hroot : d.Below p root)
    (hr : d.Loose r) {x q : NodeId} (hx : d.parent? x = some q) (hq : d.Loose q) :
    d'.tree x = d.tree x := by
  refine Document.tree_congr hwf h.wellFormed fun m hm => ?_
  have hcon : d.contains m = true := hm.contains_lower (Document.contains_of_parent? hx)
  have hlt : m.index < d.size := Document.index_lt_of_contains hcon
  refine ⟨h.kind m hlt, h.children m hlt ?_ ?_⟩
  · rintro rfl
    exact hq.not_below_of_connected hwf hroot (hm.trans (Document.below_of_parent hx))
  · rintro rfl
    exact hm.not_loose hx hr

/-- The replacement keeps its children, and the fallback stands alone in the island after them. -/
theorem tree_replacement (h : Wrapped d d' n p r f island) (hwf : d.WellFormed)
    (hroot : d.Below p root) (hr : d.Loose r) (hf : d.Loose f) (hfr : f ≠ r) {kr kf : NodeKind}
    (hkr : d.kind? r = some kr) (hkf : d.kind? f = some kf) :
    d'.tree r = .node kr ((d.children r).map d.tree ++
      [.node (.ofElement fallbackTag .empty) [.node kf ((d.children f).map d.tree)]]) := by
  have hltR : r.index < d.size := Document.index_lt_of_contains hr.contains
  have hltF : f.index < d.size := Document.index_lt_of_contains hf.contains
  have hfp : f ≠ p := fun heq =>
    hf.not_below_of_connected hwf hroot (heq ▸ Document.below_refl d p)
  -- Whatever hangs under the replacement or the fallback has kept its tree.
  have htrees : ∀ q, d.Loose q → (d.children q).map d'.tree = (d.children q).map d.tree :=
    fun q hq => List.map_congr_left fun x hx =>
      h.tree_child hwf hroot hr (hwf.parent_of_mem hx) hq
  rw [Document.tree_kind h.wellFormed ((h.kind r hltR).trans hkr), h.children_replacement,
    List.map_append, List.map_singleton, htrees r hr,
    Document.tree_kind h.wellFormed h.kind_island, h.children_island, List.map_singleton,
    Document.tree_kind h.wellFormed ((h.kind f hltF).trans hkf), h.children f hltF hfp hfr,
    htrees f hf]

end Wrapped

end Conversion

end AmpMarkup
