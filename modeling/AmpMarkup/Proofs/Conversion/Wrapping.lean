import AmpMarkup.Proofs.Conversion.LinkInvariant
import AmpMarkup.Proofs.Document.Detached

namespace AmpMarkup

open Document (root WellFormed Loose SameAt)

/-!
# One node in the place of another

Putting a replacement in the place of a node, with a fallback in an island at its end, takes three
edits after the island has been made, and each of them is checked against the document that the one
before has left behind. What all of them need can be said about the document at the start.

* `Appended`, `run_append` — a node that can be attached becomes the last child of another one.
* `substitute` — a list of children with other nodes in the place of one.
* `Placed`, `run_placeAt` — a node that can be attached takes the place of a child.
* `CanReplace`, `CanFallBack` — what the replacement and the fallback have to be.
* `Exchanged` — the document with the replacement in its place; `wrapWithFallback_cases` — the three
  ways to end.
* `wrapWithFallback_settles` — hence when it succeeds, what it has done then, and what it leaves
  behind otherwise.
-/

variable {d d' : Document} {m n p c r f : NodeId}

namespace Conversion

open Edit

/-! ### The end of a list of children -/

/-- What putting the detached `c` at the end of `p` comes to. -/
structure Appended (d d' : Document) (p c : NodeId) : Prop where
  wellFormed : d'.WellFormed
  size_eq : d'.size = d.size
  same (m : NodeId) : m ≠ p → m ≠ c → SameAt d d' m
  kind (m : NodeId) : d'.kind? m = d.kind? m
  contains (m : NodeId) : d'.contains m = d.contains m
  parent_child : d'.parent? c = some p
  parent (m : NodeId) : m ≠ c → d'.parent? m = d.parent? m
  children_top : d'.children p = d.children p ++ [c]
  children (m : NodeId) : m ≠ p → d'.children m = d.children m

/-- An append that is allowed succeeds, and this is what it comes to. -/
theorem run_append (h : d.WellFormed) (ha : Attachable d p c) :
    ∃ d', (appendChild p c).run d = .ok () d' ∧ Appended d d' p c := by
  have hchildren := fun m => Document.children_attach (m := m) (c := c) ha.contains_parent
    (· ++ [c])
  refine ⟨_, run_appendChild ha, {
    wellFormed := h.attach ha (g := (· ++ [c])) List.perm_append_comm
    size_eq := Document.size_attach _
    same := fun m hmp hmc => Document.sameAt_attach hmp hmc _
    kind := fun m => Document.kind?_attach _
    contains := fun m => Document.contains_attach _
    parent_child := by rw [Document.parent?_attach ha.contains, if_pos rfl]
    parent := fun m hm => by rw [Document.parent?_attach ha.contains, if_neg hm]
    children_top := by rw [hchildren, if_pos rfl]
    children := fun m hm => by rw [hchildren, if_neg hm] }⟩

namespace Appended

/-- Every other loose node stays loose. -/
theorem loose (h : Appended d d' p c) {x : NodeId} (hx : d.Loose x) (hne : x ≠ c) : d'.Loose x :=
  ⟨hx.ne_root, (h.contains x).trans hx.contains, (h.parent x hne).trans hx.detached⟩

/-- Only what is above the new place shows the node. -/
theorem tree (h : Appended d d' p c) (hwf : d.WellFormed) {x : NodeId} (hx : ¬ d.Below p x) :
    d'.tree x = d.tree x := by
  refine Document.tree_congr hwf h.wellFormed fun m hm => ⟨h.kind m, h.children m ?_⟩
  rintro rfl
  exact hx hm

end Appended

/-! ### The place of a child -/

/-- The list with `R` in the place of `n`. -/
def substitute (n : NodeId) (R l : List NodeId) : List NodeId :=
  l.flatMap fun c => if c = n then R else [c]

/-- Lists are substituted in piece by piece. -/
theorem substitute_append (R l l' : List NodeId) :
    substitute n R (l ++ l') = substitute n R l ++ substitute n R l' :=
  List.flatMap_append

/-- In the place of `n` there is the whole of `R`. -/
theorem substitute_cons_self (R l : List NodeId) :
    substitute n R (n :: l) = R ++ substitute n R l := by
  rw [substitute, List.flatMap_cons, if_pos rfl, substitute]

/-- What is not `n` stays where it is. -/
theorem substitute_cons_of_ne (h : c ≠ n) (R l : List NodeId) :
    substitute n R (c :: l) = c :: substitute n R l := by
  rw [substitute, List.flatMap_cons, if_neg h, substitute]
  rfl

/-- A list without `n` is left as it is. -/
theorem substitute_of_not_mem {R l : List NodeId} (h : n ∉ l) : substitute n R l = l := by
  induction l with
  | nil => rfl
  | cons c rest ih =>
    rw [List.mem_cons, not_or] at h
    rw [substitute_cons_of_ne (Ne.symm h.1), ih h.2]

/-- The members of the new list are those of the old one but `n`, and those of `R` if `n` was
    there. -/
theorem mem_substitute {R l : List NodeId} :
    c ∈ substitute n R l ↔ (c ∈ l ∧ c ≠ n) ∨ (c ∈ R ∧ n ∈ l) := by
  rw [substitute, List.mem_flatMap]
  constructor
  · rintro ⟨x, hx, hc⟩
    by_cases hxn : x = n
    · rw [if_pos hxn] at hc
      exact .inr ⟨hc, hxn ▸ hx⟩
    · rw [if_neg hxn, List.mem_singleton] at hc
      exact .inl ⟨hc ▸ hx, hc ▸ hxn⟩
  · rintro (⟨hc, hcn⟩ | ⟨hc, hn⟩)
    · exact ⟨c, hc, by rw [if_neg hcn]; exact List.mem_singleton_self c⟩
    · exact ⟨n, hn, by rwa [if_pos rfl]⟩

/-- A list with substitutes that come to what the node comes to. -/
theorem flatMap_substitute {α : Type} {R l : List NodeId} {f g : NodeId → List α}
    (hR : R.flatMap f = g n) (hl : ∀ c ∈ l, c ≠ n → f c = g c) :
    (substitute n R l).flatMap f = l.flatMap g := by
  rw [substitute, List.flatMap_assoc]
  refine List.flatMap_congr fun c hc => ?_
  by_cases hcn : c = n
  · rw [if_pos hcn, hR, hcn]
  · rw [if_neg hcn, List.flatMap_singleton, hl c hc hcn]

/-- Taking a node out is putting nothing in its place. -/
theorem filter_eq_substitute (l : List NodeId) : l.filter (· ≠ n) = substitute n [] l := by
  induction l with
  | nil => rfl
  | cons c rest ih =>
    by_cases hc : c = n
    · rw [hc, substitute_cons_self, ← ih]
      simp
    · rw [substitute_cons_of_ne hc, ← ih]
      simp [hc]

/-- What a node is replaced by stands where the node stood. -/
theorem set_eq_substitute {l : List NodeId} (hnd : l.Nodup) {i : Nat} (hi : l.idxOf? n = some i)
    (b : NodeId) : l.set i b = substitute n [b] l := by
  -- The index splits the list at the node.
  have hmem : n ∈ l := by
    obtain ⟨hlt, heq, -⟩ := List.idxOf?_eq_some_iff.mp hi
    exact heq ▸ List.getElem_mem hlt
  obtain ⟨pre, post, hl, hidx, -, hset⟩ := exists_split_of_mem hnd hmem
  rw [hidx, Option.some.injEq] at hi
  subst hi
  rw [hset, hl, substitute_append, substitute_cons_self]
  rw [hl, List.nodup_append] at hnd
  obtain ⟨-, hcons, hdisj⟩ := hnd
  rw [substitute_of_not_mem fun h => hdisj n h n List.mem_cons_self rfl,
    substitute_of_not_mem (List.nodup_cons.mp hcons).1]
  rfl

end Conversion

namespace Document

/-- A node with a child takes children. -/
theorem WellFormed.allows_of_parent (h : d.WellFormed) (hp : d.parent? n = some p) :
    ∃ k, d.kind? p = some k ∧ k.allowsChildren = true := by
  obtain ⟨k, hk⟩ := exists_kind? (h.contains_parent hp)
  refine ⟨k, hk, ?_⟩
  by_contra hleaf
  have hnil := h.children_leaf p k hk (by simpa using hleaf)
  exact absurd (h.mem_children hp) (hnil ▸ List.not_mem_nil)

/-- Kind, parent and children are all that there is to a node. -/
theorem sameAt_of_readings (hkind : d'.kind? m = d.kind? m) (hparent : d'.parent? m = d.parent? m)
    (hchildren : d'.children m = d.children m) : SameAt d d' m := by
  cases hk : d.kind? m with
  | none =>
    have hnone : ∀ {e : Document}, e.kind? m = none → e.slot? m = none := fun he =>
      Option.map_eq_none_iff.mp he
    rw [SameAt, hnone hk, hnone (hkind.trans hk)]
  | some k =>
    rw [SameAt, slot?_eq_of_kind? hk, slot?_eq_of_kind? (hkind.trans hk), hparent, hchildren]

/-- Above a node there is its parent and what is above that. -/
theorem below_iff_of_parent (hp : d.parent? n = some p) : d.Below n m ↔ m = n ∨ d.Below p m := by
  constructor
  · intro hb
    rcases hb.cases_parent with rfl | ⟨q, hq, hb⟩
    · exact .inl rfl
    · rw [hp, Option.some.injEq] at hq
      exact .inr (hq ▸ hb)
  · rintro (rfl | hb)
    · exact below_refl d m
    · exact (below_of_parent hp).trans hb

/-- The document with an empty island at the end of `r`. -/
def withIsland (d : Document) (r : NodeId) : Document :=
  (d.push (.ofElement fallbackTag .empty)).attach r d.nextId (· ++ [d.nextId])

/-- The document with a new island, which is at the end of `r` if `r` takes children. -/
def withIslandIfAllowed (d : Document) (r : NodeId) : Document :=
  if (d.kind? r).any (·.allowsChildren) then d.withIsland r
  else d.push (.ofElement fallbackTag .empty)

section

variable {k : NodeKind} (h : d.WellFormed) (hk : d.kind? r = some k)
  (hallows : k.allowsChildren = true)

/-- The island is an element without attributes, and every other node keeps its kind. -/
theorem kind?_withIsland : (d.withIsland r).kind? m =
    if m = d.nextId then some (.ofElement fallbackTag .empty) else d.kind? m := by
  rw [withIsland, kind?_attach, kind?_push]

@[simp] theorem size_withIsland : (d.withIsland r).size = d.size + 1 := by
  rw [withIsland, size_attach, size_push]

/-- The island is live, and so is what was live before. -/
theorem contains_withIsland :
    (d.withIsland r).contains m = (decide (m = d.nextId) || d.contains m) := by
  rw [withIsland, contains_attach, contains_push]

/-- The island is below `r`, and every other node keeps its parent. -/
theorem parent?_withIsland :
    (d.withIsland r).parent? m = if m = d.nextId then some r else d.parent? m := by
  rw [withIsland, parent?_attach (by simp [contains_push]), parent?_push]

include hk in
/-- The island comes last in `r`, and every other node keeps its children. -/
theorem children_withIsland : (d.withIsland r).children m =
    if m = r then d.children r ++ [d.nextId] else d.children m := by
  have hr : (d.push (.ofElement fallbackTag .empty)).contains r = true := by
    rw [contains_push, contains_of_kind? hk, Bool.or_true]
  rw [withIsland, children_attach hr, children_push, children_push]

include h hk hallows in
/-- A new island at the end of a node that takes children leaves the document well formed. -/
theorem WellFormed.withIsland : (d.withIsland r).WellFormed :=
  (h.push _).attach (attachable_nextId h hk hallows _) List.perm_append_comm

include h hk hallows in
/-- A new island changes no path but those that start in it. -/
theorem below_withIsland_iff (hm : m ≠ d.nextId) : (d.withIsland r).Below m n ↔ d.Below m n := by
  have hne : ∀ x, d.parent? x ≠ none → x ≠ d.nextId := by
    rintro x hx rfl
    exact hx (parent?_eq_none_of_not_contains not_contains_nextId)
  have hbare : (d.withIsland r).children d.nextId = [] := by
    rw [children_withIsland hk, if_neg (ne_nextId_of_contains (contains_of_kind? hk)).symm,
      children_nextId]
  constructor
  · refine fun hb => hb.of_parents fun x hx _ _ => ?_
    rw [parent?_withIsland, if_neg]
    rintro rfl
    exact hm (eq_of_below_bare (h.withIsland hk hallows) hbare hx)
  · refine fun hb => Relation.ReflTransGen.mono (fun a b hab => ?_) m n hb
    have hab' : d.parent? a = some b := hab
    rw [IsParent, parent?_withIsland, if_neg (hne a (by simp [hab'])), hab']

end

/-- So does a new island that may have been left where it is. -/
theorem WellFormed.withIslandIfAllowed (h : d.WellFormed) (r : NodeId) :
    (d.withIslandIfAllowed r).WellFormed := by
  rw [Document.withIslandIfAllowed]
  split
  · next hallows =>
    obtain ⟨k, hk, hallows⟩ := (Option.any_eq_true ..).mp hallows
    exact h.withIsland hk hallows
  · exact h.push _

/-- Every node keeps its place: the island stands behind all the others. -/
theorem place_withIslandIfAllowed (hp : d.parent? n = some p) (r : NodeId) :
    (d.withIslandIfAllowed r).parent? n = some p ∧
      d.children p <+: (d.withIslandIfAllowed r).children p := by
  have hn : n ≠ d.nextId := ne_nextId_of_contains (contains_of_parent? hp)
  rw [withIslandIfAllowed]
  split
  · next hallows =>
    obtain ⟨k, hk, -⟩ := (Option.any_eq_true ..).mp hallows
    rw [parent?_withIsland, if_neg hn, children_withIsland hk]
    refine ⟨hp, ?_⟩
    split
    · next hpr => exact hpr ▸ List.prefix_append ..
    · exact List.prefix_rfl
  · rw [parent?_push, children_push]
    exact ⟨hp, List.prefix_rfl⟩

end Document

namespace Conversion

open Edit

/-- What putting `r` in the place of the child `n` of `p` comes to. -/
structure Placed (d d' : Document) (n p r : NodeId) : Prop where
  wellFormed : d'.WellFormed
  size_eq : d'.size = d.size
  same (m : NodeId) : m ≠ p → m ≠ r → m ≠ n → SameAt d d' m
  contains (m : NodeId) : d'.contains m = d.contains m
  kind (m : NodeId) : d'.kind? m = d.kind? m
  detached : d'.parent? n = none
  parent_replacement : d'.parent? r = some p
  parent (m : NodeId) : m ≠ n → m ≠ r → d'.parent? m = d.parent? m
  children_parent : d'.children p = substitute n [r] (d.children p)
  children (m : NodeId) : m ≠ p → d'.children m = d.children m

/-- A node that can be attached takes the place of a child. -/
theorem run_placeAt (h : d.WellFormed) (hp : d.parent? n = some p) (ha : Attachable d p r) :
    ∃ d', (replaceChild p r n).run d = .ok n d' ∧ Placed d d' n p r := by
  have hn : d.contains n = true := Document.contains_of_parent? hp
  have hrn : r ≠ n := Document.ne_of_parent? ha.detached hp
  obtain ⟨i, hi⟩ : ∃ i, (d.children p).idxOf? n = some i := by
    obtain ⟨pre, post, -, hidx, -⟩ :=
      exists_split_of_mem (h.nodup_children p) (h.mem_children hp)
    exact ⟨pre.length, hidx⟩
  have hparent := fun m => Document.parent?_swap (m := m) (p := p) ha.contains hn i
  have hchildren := fun m => Document.children_swap (m := m) (n := r) (c := n) ha.contains_parent i
  refine ⟨d.swap p r n i, run_replaceChild hp ha hi, {
    wellFormed := h.swap ha hp hi
    size_eq := Document.size_swap i
    same := fun m hmp hmr hmn => Document.sameAt_swap hmp hmr hmn i
    contains := fun m => Document.contains_swap i
    kind := fun m => Document.kind?_swap i
    detached := by rw [hparent, if_pos rfl]
    parent_replacement := by rw [hparent, if_neg hrn, if_pos rfl]
    parent := fun m hmn hmr => by rw [hparent, if_neg hmn, if_neg hmr]
    children_parent := by rw [hchildren, if_pos rfl, set_eq_substitute (h.nodup_children p) hi]
    children := fun m hmp => by rw [hchildren, if_neg hmp] }⟩

/-! ### Three edits in a row -/

/-- The node `r` can take the place of a child of `p`, and an island goes into it. -/
structure CanReplace (d : Document) (p r : NodeId) : Prop where
  /-- `r` is live, hangs nowhere and is not the root. -/
  loose : d.Loose r
  allows : ∃ k, d.kind? r = some k ∧ k.allowsChildren = true
  /-- `r` is neither `p` nor above it. -/
  outside : ¬ d.Below p r

/-- The node `f` can go into the island that `r` has when it stands in the place of the child `n` of
    `p`. -/
structure CanFallBack (d : Document) (n p r f : NodeId) : Prop where
  ne_root : f ≠ root
  /-- `f` is the node whose place is taken, or it hangs nowhere and is none of the nodes that the
      island is put below. -/
  free : f = n ∨ d.Loose f ∧ f ≠ r ∧ ¬ d.Below p f

/-- `r` with a new island at its end stands in the place of the child `n` of `p`, and the fallback,
    if there is one by now, is all that is in the island. What is said of kind, parent and children
    is all that there is to a node, so nothing else has changed. -/
structure Exchanged (d d' : Document) (n p r : NodeId) (fallback? : Option NodeId) : Prop where
  wellFormed : d'.WellFormed
  size_eq : d'.size = d.size + 1
  kind (m : NodeId) : d'.kind? m =
    if m = d.nextId then some (.ofElement fallbackTag .empty) else d.kind? m
  parent (m : NodeId) : d'.parent? m =
    if m = d.nextId then some r else if fallback? = some m then some d.nextId
    else if m = r then some p else if m = n then none else d.parent? m
  children (m : NodeId) : d'.children m =
    if m = d.nextId then fallback?.toList else if m = p then substitute n [r] (d.children p)
    else if m = r then d.children r ++ [d.nextId] else d.children m

section

variable (h : d.WellFormed) (hp : d.parent? n = some p)
include h hp

/-- The island makes no difference to whether its node may take the place of a child. -/
theorem attachable_withIsland_iff {k : NodeKind} (hk : d.kind? r = some k)
    (hallows : k.allowsChildren = true) :
    Attachable (d.withIsland r) p r ↔ CanReplace d p r := by
  have hwf := h.withIsland hk hallows
  have hcon : d.contains r = true := Document.contains_of_kind? hk
  have hparent : (d.withIsland r).parent? r = d.parent? r := by
    rw [Document.parent?_withIsland, if_neg (Document.ne_nextId_of_contains hcon)]
  have hpnew : p ≠ d.nextId := Document.ne_nextId_of_contains (h.contains_parent hp)
  have hbelow := Document.below_withIsland_iff (n := r) h hk hallows hpnew
  constructor
  · intro ha
    exact ⟨⟨ha.ne_root, hcon, hparent.symm.trans ha.detached⟩, ⟨k, hk, hallows⟩,
      fun hb => ha.not_below hwf (hbelow.mpr hb)⟩
  · intro hr
    obtain ⟨kp, hkp, hallowsP⟩ := h.allows_of_parent hp
    refine attachable_of_not_below hwf ⟨kp, ?_, hallowsP⟩ hr.loose.ne_root ?_
      (hparent.trans hr.loose.detached) fun hb => hr.outside (hbelow.mp hb)
    · rw [Document.kind?_withIsland, if_neg hpnew, hkp]
    · rw [Document.contains_withIsland, hcon, Bool.or_true]

/-- What the first two edits come to. -/
theorem Exchanged.of_placed (hr : CanReplace d p r) (hd' : Placed (d.withIsland r) d' n p r) :
    Exchanged d d' n p r none := by
  obtain ⟨k, hk, -⟩ := hr.allows
  have hnew : ∀ {m}, d.contains m = true → m ≠ d.nextId := Document.ne_nextId_of_contains
  have hrn : r ≠ n := Document.ne_of_parent? hr.loose.detached hp
  have hpr : p ≠ r := fun heq => hr.outside (heq ▸ Document.below_refl d p)
  exact {
    wellFormed := hd'.wellFormed
    size_eq := by rw [hd'.size_eq, Document.size_withIsland]
    kind m := by rw [hd'.kind, Document.kind?_withIsland]
    parent m := by
      rw [if_neg (by simp : ¬ none = some m)]
      by_cases hmr : m = r
      · rw [hmr, hd'.parent_replacement, if_neg (hnew hr.loose.contains), if_pos rfl]
      by_cases hmn : m = n
      · rw [hmn, hd'.detached, if_neg (hnew (Document.contains_of_parent? hp)), if_neg hrn.symm,
          if_pos rfl]
      · rw [hd'.parent m hmn hmr, Document.parent?_withIsland, if_neg hmr, if_neg hmn]
    children m := by
      have hpnew := hnew (h.contains_parent hp)
      by_cases hmp : m = p
      · rw [hmp, hd'.children_parent, Document.children_withIsland hk, if_neg hpr, if_neg hpnew,
          if_pos rfl]
      · rw [hd'.children m hmp, Document.children_withIsland hk, if_neg hmp]
        by_cases hm : m = d.nextId
        · rw [hm, if_neg (hnew hr.loose.contains).symm, if_pos rfl, Document.children_nextId]
          rfl
        · rw [if_neg hm] }

/-- Above the place nothing has changed. -/
theorem Exchanged.below_iff (hr : CanReplace d p r) (hd' : Exchanged d d' n p r none) {x : NodeId} :
    d'.Below p x ↔ d.Below p x := by
  have hnew : ∀ {m}, d.contains m = true → m ≠ d.nextId := Document.ne_nextId_of_contains
  have hcon : d.contains p = true := h.contains_parent hp
  have hparent : ∀ m, m ≠ d.nextId → m ≠ r → m ≠ n → d'.parent? m = d.parent? m :=
    fun m hm hmr hmn => by
      rw [hd'.parent, if_neg hm, if_neg (by simp), if_neg hmr, if_neg hmn]
  constructor
  · refine fun hb => hb.of_parents fun m hpm hmx hne => (hparent m ?_ ?_ ?_).symm
    · -- The island is empty, so nothing is below it.
      rintro rfl
      refine hnew hcon (Document.eq_of_below_bare hd'.wellFormed ?_ hpm)
      rw [hd'.children, if_pos rfl]
      rfl
    · rintro rfl
      refine hd'.wellFormed.not_below_of_parent ?_ hpm
      rw [hd'.parent, if_neg (hnew hr.loose.contains), if_neg (by simp), if_pos rfl]
    · rintro rfl
      refine hne (hmx.eq_of_detached ?_)
      rw [hd'.parent, if_neg (hnew (Document.contains_of_parent? hp)), if_neg (by simp),
        if_neg (Document.ne_of_parent? hr.loose.detached hp).symm, if_pos rfl]
  · refine fun hb => hb.of_parents fun m hpm _ _ => hparent m ?_ ?_ ?_
    · exact hnew (hpm.contains h hcon)
    · rintro rfl
      exact hr.outside hpm
    · rintro rfl
      exact h.not_below_of_parent hp hpm

/-- The last edit is checked against the changed document, but what it needs can be said about the
    original one. -/
theorem Exchanged.attachable_iff (hr : CanReplace d p r) (hd' : Exchanged d d' n p r none) :
    Attachable d' d.nextId f ↔ CanFallBack d n p r f := by
  have hnew : ∀ {m}, d.contains m = true → m ≠ d.nextId := Document.ne_nextId_of_contains
  have hn : d.contains n = true := Document.contains_of_parent? hp
  have hnr : n ≠ r := (Document.ne_of_parent? hr.loose.detached hp).symm
  have hparent : ∀ {m}, m ≠ d.nextId → d'.parent? m =
      if m = r then some p else if m = n then none else d.parent? m := fun hm => by
    rw [hd'.parent, if_neg hm, if_neg (by simp)]
  have hcontains : ∀ {m}, m ≠ d.nextId → (d'.contains m = true ↔ d.contains m = true) :=
    fun hm => by
      rw [Document.contains_eq_isSome_kind?, Document.contains_eq_isSome_kind?, hd'.kind,
        if_neg hm]
  -- Above the island there are the replacement and what is above the place.
  have habove : ∀ x, d'.Below d.nextId x ↔ x = d.nextId ∨ x = r ∨ d.Below p x := fun x => by
    have hisland : d'.parent? d.nextId = some r := by rw [hd'.parent, if_pos rfl]
    have hreplacement : d'.parent? r = some p := by
      rw [hparent (hnew hr.loose.contains), if_pos rfl]
    rw [Document.below_iff_of_parent hisland, Document.below_iff_of_parent hreplacement,
      hd'.below_iff h hp hr]
  constructor
  · intro ha
    have hf : f ≠ d.nextId := ha.ne.symm
    have hnb := mt (habove f).mpr (ha.not_below hd'.wellFormed)
    rw [not_or, not_or] at hnb
    refine ⟨ha.ne_root, or_iff_not_imp_left.mpr fun hfn => ⟨⟨ha.ne_root, ?_, ?_⟩, hnb.2⟩⟩
    · exact (hcontains hf).mp ha.contains
    · have hdet := ha.detached
      rwa [hparent hf, if_neg hnb.2.1, if_neg hfn] at hdet
  · intro hfree
    have hcon : d.contains f = true ∧ f ≠ r ∧ ¬ d.Below p f := by
      rcases hfree.free with rfl | ⟨hloose, hne, hout⟩
      · exact ⟨hn, hnr, h.not_below_of_parent hp⟩
      · exact ⟨hloose.contains, hne, hout⟩
    obtain ⟨hcon, hfr, hout⟩ := hcon
    refine attachable_of_not_below hd'.wellFormed ⟨.ofElement fallbackTag .empty, ?_, rfl⟩
      hfree.ne_root ((hcontains (hnew hcon)).mpr hcon) ?_ fun hb => ?_
    · rw [hd'.kind, if_pos rfl]
    · rw [hparent (hnew hcon), if_neg hfr]
      rcases hfree.free with rfl | ⟨hloose, -, -⟩
      · rw [if_pos rfl]
      · rw [hloose.detached, ite_self]
    · rcases (habove f).mp hb with heq | heq | hb
      · exact hnew hcon heq
      · exact hfr heq
      · exact hout hb

end

/-- What the third edit adds. -/
theorem Exchanged.append {e : Document} (hd' : Exchanged d d' n p r none)
    (hf : f ≠ d.nextId) (he : Appended d' e d.nextId f) :
    Exchanged d e n p r (some f) := by
  refine ⟨he.wellFormed, he.size_eq.trans hd'.size_eq, fun m => (he.kind m).trans (hd'.kind m),
    fun m => ?_, fun m => ?_⟩
  · by_cases hmf : m = f
    · rw [hmf, he.parent_child, if_neg hf, if_pos rfl]
    · rw [he.parent m hmf, hd'.parent, if_neg (by simp : ¬ none = some m),
        if_neg fun heq => hmf (Option.some.inj heq).symm]
  · by_cases hm : m = d.nextId
    · rw [hm, he.children_top, hd'.children, if_pos rfl, if_pos rfl]
      rfl
    · rw [he.children m hm, hd'.children, if_neg hm, if_neg hm]

/-- The three ways to end: all is done, or only the fallback is missing, or nothing has been done
    but to make an island and to put it into the node that was to be the replacement, if that takes
    children. -/
theorem wrapWithFallback_cases (h : d.WellFormed) (hp : d.parent? n = some p) :
    (CanReplace d p r ∧ CanFallBack d n p r f ∧ ∃ d',
      (wrapWithFallback n r f).run d = .ok d.nextId d' ∧ Exchanged d d' n p r (some f)) ∨
    (CanReplace d p r ∧ ¬ CanFallBack d n p r f ∧ ∃ e d',
      (wrapWithFallback n r f).run d = .error e d' ∧ Exchanged d d' n p r none) ∨
    (¬ CanReplace d p r ∧ ∃ e,
      (wrapWithFallback n r f).run d = .error e (d.withIslandIfAllowed r)) := by
  have hrun : (wrapWithFallback n r f).run d = (do
      appendChild r d.nextId
      let _ ← replaceChild p r n
      appendChild d.nextId f
      return d.nextId : Edit NodeId).run (d.push (.ofElement fallbackTag .empty)) := by
    rw [wrapWithFallback, run_bind_ok (EStateM.run_get d), hp]
    rfl
  rw [hrun]
  by_cases hallows : ∃ k, d.kind? r = some k ∧ k.allowsChildren = true
  · obtain ⟨k, hk, hallows⟩ := hallows
    have hp₁ : (d.withIsland r).parent? n = some p := by
      rw [Document.parent?_withIsland,
        if_neg (Document.ne_nextId_of_contains (Document.contains_of_parent? hp)), hp]
    rw [run_bind_ok (run_appendChild (Document.attachable_nextId h hk hallows _)),
      ← Document.withIsland]
    by_cases hr : CanReplace d p r
    · obtain ⟨d₂, hrun₂, hd₂⟩ := run_placeAt (h.withIsland hk hallows) hp₁
        ((attachable_withIsland_iff h hp hk hallows).mpr hr)
      have hex := Exchanged.of_placed h hp hr hd₂
      rw [run_bind_ok hrun₂]
      by_cases hf : CanFallBack d n p r f
      · have ha := (hex.attachable_iff h hp hr).mpr hf
        obtain ⟨d₃, hrun₃, hd₃⟩ := run_append hd₂.wellFormed ha
        refine .inl ⟨hr, hf, d₃, ?_, hex.append ha.ne.symm hd₃⟩
        rw [run_bind_ok hrun₃]
        rfl
      · rcases appendChild_cases d₂ d.nextId f with ⟨ha, -⟩ | ⟨-, e, hrun₃⟩
        · exact absurd ((hex.attachable_iff h hp hr).mp ha) hf
        · exact .inr (.inl ⟨hr, hf, e, d₂, run_bind_error hrun₃, hex⟩)
    · rcases replaceChild_cases (d.withIsland r) p r n with ⟨i, -, ha, -, -⟩ | ⟨e, hrun₂⟩
      · exact absurd ((attachable_withIsland_iff h hp hk hallows).mp ha) hr
      · refine .inr (.inr ⟨hr, e, ?_⟩)
        rw [run_bind_error hrun₂, Document.withIslandIfAllowed, hk, Option.any_some, if_pos hallows]
  · refine .inr (.inr ⟨fun hr => hallows hr.allows, ?_⟩)
    rcases appendChild_cases (d.push (.ofElement fallbackTag .empty)) r d.nextId with
      ⟨ha, -⟩ | ⟨-, e, hrun₁⟩
    · obtain ⟨k, hk, hk'⟩ := ha.allows
      rw [Document.kind?_push, if_neg ha.ne] at hk
      exact absurd ⟨k, hk, hk'⟩ hallows
    · refine ⟨e, ?_⟩
      rw [run_bind_error hrun₁, Document.withIslandIfAllowed, if_neg]
      rwa [Option.any_eq_true]

/-- In a document with a history a node is wrapped exactly if it has a parent, the replacement can
    take its place and the fallback can go into the island; then all of it has been done and nothing
    else. Otherwise the links agree still: without a parent nothing has happened, and the node has
    lost its place only if nothing was wrong with the replacement, which then has it, with an empty
    island. -/
theorem wrapWithFallback_settles (h : Reachable d) (n r f : NodeId) :
    ((∃ island d', (wrapWithFallback n r f).run d = .ok island d') ↔
      ∃ p, d.parent? n = some p ∧ CanReplace d p r ∧ CanFallBack d n p r f) ∧
    (∀ island d', (wrapWithFallback n r f).run d = .ok island d' →
      island = d.nextId ∧ ∃ p, d.parent? n = some p ∧ Exchanged d d' n p r (some f)) ∧
    ∀ e d', (wrapWithFallback n r f).run d = .error e d' →
      d'.WellFormed ∧ (d.parent? n = none → d' = d ∧ e = .missingNode n) ∧
      ∀ p, d.parent? n = some p →
        (CanReplace d p r → Exchanged d d' n p r none) ∧
        (¬ CanReplace d p r → d' = d.withIslandIfAllowed r ∧ d'.parent? n = some p ∧
          d.children p <+: d'.children p) := by
  cases hp : d.parent? n with
  | none =>
    have hrun : (wrapWithFallback n r f).run d = .error (.missingNode n) d := by
      rw [wrapWithFallback, run_bind_ok (EStateM.run_get d), hp]
      rfl
    rw [hrun]
    refine ⟨by simp, by simp, ?_⟩
    rintro e d' ⟨rfl, rfl⟩
    exact ⟨h.wellFormed, fun _ => ⟨rfl, rfl⟩, by simp⟩
  | some p =>
    have hunique : ∀ {P : NodeId → Prop}, P p → ∀ q, some p = some q → P q :=
      fun hP q hq => Option.some.inj hq ▸ hP
    rcases wrapWithFallback_cases (f := f) h.wellFormed hp with
      ⟨hr, hf, d₁, hrun, hd₁⟩ | ⟨hr, hf, e₁, d₁, hrun, hd₁⟩ | ⟨hr, e₁, hrun⟩
    all_goals rw [hrun]
    · refine ⟨iff_of_true ⟨_, _, rfl⟩ ⟨p, rfl, hr, hf⟩, ?_, by simp⟩
      rintro island d' ⟨rfl, rfl⟩
      exact ⟨rfl, p, rfl, hd₁⟩
    · refine ⟨iff_of_false (by simp) ?_, by simp, ?_⟩
      · rintro ⟨q, hq, -, hf'⟩
        exact hf (Option.some.inj hq ▸ hf')
      · rintro e d' ⟨rfl, rfl⟩
        exact ⟨hd₁.wellFormed, by simp, hunique ⟨fun _ => hd₁, fun hr' => absurd hr hr'⟩⟩
    · refine ⟨iff_of_false (by simp) ?_, by simp, ?_⟩
      · rintro ⟨q, hq, hr', -⟩
        exact hr (Option.some.inj hq ▸ hr')
      · rintro e d' ⟨rfl, rfl⟩
        refine ⟨h.wellFormed.withIslandIfAllowed r, by simp, hunique ⟨fun hr' => absurd hr' hr,
          fun _ => ⟨rfl, Document.place_withIslandIfAllowed hp r⟩⟩⟩

/-- A detached replacement with the old node as fallback, with itself as fallback, and the parent of
    the old node as replacement: a success and two failures at different steps. -/
theorem wrapWithFallback_settles_stepwise :
    let d := runAll (Markup.readMarkup "<div><p>x</p><b></b></div>") [.detach ⟨4⟩]
    Reachable d ∧
    (∃ d', (wrapWithFallback ⟨2⟩ ⟨4⟩ ⟨2⟩).run d = .ok d.nextId d' ∧
      Exchanged d d' ⟨2⟩ ⟨1⟩ ⟨4⟩ (some ⟨2⟩)) ∧
    (∃ e d', (wrapWithFallback ⟨2⟩ ⟨4⟩ ⟨4⟩).run d = .error e d' ∧
      Exchanged d d' ⟨2⟩ ⟨1⟩ ⟨4⟩ none) ∧
    ∃ e d', (wrapWithFallback ⟨2⟩ ⟨1⟩ ⟨2⟩).run d = .error e d' ∧ d'.WellFormed ∧
      d'.parent? ⟨2⟩ = some ⟨1⟩ := by
  intro d
  have h : Reachable d := (Reachable.read _).runAll _
  have hfacts : d.parent? ⟨2⟩ = some ⟨1⟩ ∧ d.contains ⟨4⟩ = true ∧ d.parent? ⟨4⟩ = none ∧
      d.kind? ⟨4⟩ = some (.ofElement "b" .empty) ∧ ⟨4⟩ ∉ d.lineage ⟨1⟩ ∧
      ⟨1⟩ ∈ d.lineage ⟨1⟩ := by decide +kernel
  obtain ⟨hp, hcon, hdet, hk, hout, hself⟩ := hfacts
  rw [Document.mem_lineage_iff h.wellFormed] at hout hself
  have hr : CanReplace d ⟨1⟩ ⟨4⟩ := ⟨⟨by decide, hcon, hdet⟩, ⟨_, hk, rfl⟩, hout⟩
  have hunfit : ¬ CanFallBack d ⟨2⟩ ⟨1⟩ ⟨4⟩ ⟨4⟩ := fun hf =>
    hf.free.elim (by decide) fun hf => hf.2.1 rfl
  have hparent : ¬ CanReplace d ⟨1⟩ ⟨1⟩ := fun hr' => hr'.outside hself
  refine ⟨h, ?_, ?_, ?_⟩
  · obtain ⟨hiff, hok, -⟩ := wrapWithFallback_settles h ⟨2⟩ ⟨4⟩ ⟨2⟩
    obtain ⟨island, d', hrun⟩ := hiff.mpr ⟨⟨1⟩, hp, hr, by decide, .inl rfl⟩
    obtain ⟨rfl, q, hq, hex⟩ := hok island d' hrun
    exact ⟨d', hrun, Option.some.inj (hp.symm.trans hq) ▸ hex⟩
  · obtain ⟨hiff, -, herror⟩ := wrapWithFallback_settles h ⟨2⟩ ⟨4⟩ ⟨4⟩
    cases hrun : (wrapWithFallback ⟨2⟩ ⟨4⟩ ⟨4⟩).run d with
    | ok island d' =>
      obtain ⟨q, hq, -, hf⟩ := hiff.mp ⟨island, d', hrun⟩
      exact absurd (Option.some.inj (hp.symm.trans hq) ▸ hf) hunfit
    | error e d' => exact ⟨e, d', rfl, ((herror e d' hrun).2.2 ⟨1⟩ hp).1 hr⟩
  · obtain ⟨hiff, -, herror⟩ := wrapWithFallback_settles h ⟨2⟩ ⟨1⟩ ⟨2⟩
    cases hrun : (wrapWithFallback ⟨2⟩ ⟨1⟩ ⟨2⟩).run d with
    | ok island d' =>
      obtain ⟨q, hq, hr', -⟩ := hiff.mp ⟨island, d', hrun⟩
      exact absurd (Option.some.inj (hp.symm.trans hq) ▸ hr') hparent
    | error e d' =>
      obtain ⟨hwf, -, hplace⟩ := herror e d' hrun
      exact ⟨e, d', rfl, hwf, ((hplace ⟨1⟩ hp).2 hparent).2.1⟩

end Conversion

end AmpMarkup
