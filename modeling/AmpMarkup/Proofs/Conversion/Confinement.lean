import AmpMarkup.Proofs.Conversion.Course
import AmpMarkup.Proofs.Conversion.LinkInvariant

namespace AmpMarkup

open Document (root WellFormed SameAt)

/-!
# What a conversion leaves alone

A conversion changes the elements that it converts, and the lists of children in which they stand.
Everything else keeps its place: no node is copied in the place of another one, none gets lost on
the way, and of the many nodes that are made, taken out and put back none is left over.

* `standIns os c` — the nodes that stand where `c` stood, as reported.
* `Confined` — what is kept, of the nodes that are not connected and of those that are.
* `Course.unconnected_iff`, `Course.elsewhere`, `Course.children_replacement` — its parts, each by
  induction on the course.
* `reachable_conversion_confined` — every conversion is confined.
-/

variable {d d₁ d' : Document} {c m n p r x : NodeId} {R ns : List NodeId}

namespace Conversion

variable {policy : Policy} {outcome : Outcome} {os : List (NodeId × Outcome)}

/-! ### What stands in the place of a node -/

/-- The nodes that stand where `n` stood. -/
def Outcome.standIns (n : NodeId) : Outcome → List NodeId
  | replaced r => [r]
  | removed => []
  | skipped => [n]

/-- The nodes that stand where `c` stood: a node that has not been visited stands there itself. -/
def standIns (os : List (NodeId × Outcome)) (c : NodeId) : List NodeId :=
  match os.lookup c with
  | some outcome => outcome.standIns c
  | none => [c]

/-- What stands in the place of the first visited element is told by its outcome. -/
theorem standIns_cons_self (n : NodeId) (outcome : Outcome) (os : List (NodeId × Outcome)) :
    standIns ((n, outcome) :: os) n = outcome.standIns n := by
  simp [standIns]

/-- What stands in the place of any other node is told by the later outcomes. -/
theorem standIns_cons_of_ne (h : c ≠ n) : standIns ((n, outcome) :: os) c = standIns os c := by
  have hb : (c == n) = false := beq_false_of_ne h
  simp [standIns, List.lookup_cons, hb]

/-- A node that has not been visited stands for itself. -/
theorem standIns_of_not_mem (h : c ∉ os.map Prod.fst) : standIns os c = [c] := by
  have hnone : os.lookup c = none := by
    rw [List.lookup_eq_none_iff]
    intro e he
    have hne : c ≠ e.1 := fun heq => h (heq ▸ List.mem_map_of_mem he)
    simpa using hne
  rw [standIns, hnone]

/-- A list without visited elements is left as it is. -/
theorem flatMap_standIns_of_not_mem {l : List NodeId} (h : ∀ c ∈ l, c ∉ os.map Prod.fst) :
    l.flatMap (standIns os) = l := by
  calc l.flatMap (standIns os) = l.flatMap (fun c => [c]) :=
        List.flatMap_congr fun c hc => standIns_of_not_mem (h c hc)
    _ = l := by simp

/-- A list in which the visited element has been replaced goes on as the one before. -/
theorem flatMap_standIns_substitute {l : List NodeId}
    (hR : ∀ r ∈ outcome.nodes, r ∉ os.map Prod.fst) (houtcome : outcome ≠ .skipped) :
    (substitute n outcome.nodes l).flatMap (standIns os) =
      l.flatMap (standIns ((n, outcome) :: os)) := by
  refine flatMap_substitute ?_ fun c _ hcn => (standIns_cons_of_ne hcn).symm
  rw [flatMap_standIns_of_not_mem hR, standIns_cons_self]
  cases outcome with
  | replaced r => rfl
  | removed => rfl
  | skipped => exact absurd rfl houtcome

/-- A skipped element stands in its own place. -/
theorem standIns_cons_skipped (h : n ∉ os.map Prod.fst) :
    standIns ((n, .skipped) :: os) = standIns os := by
  funext c
  by_cases hcn : c = n
  · rw [hcn, standIns_cons_self, standIns_of_not_mem h]
    rfl
  · exact standIns_cons_of_ne hcn

/-- Choosing from a list and putting nodes in the place of one that is chosen. -/
theorem filter_substitute {l : List NodeId} {f g : NodeId → Bool} (hn : g n = true)
    (hR : ∀ r ∈ R, f r = true) (hl : ∀ c ∈ l, c ≠ n → f c = g c) :
    (substitute n R l).filter f = substitute n R (l.filter g) := by
  induction l with
  | nil => rfl
  | cons c rest ih =>
    have hrest := ih fun c hc => hl c (List.mem_cons_of_mem _ hc)
    by_cases hcn : c = n
    · subst hcn
      rw [substitute_cons_self, List.filter_append, hrest, List.filter_cons_of_pos hn,
        substitute_cons_self, List.filter_eq_self.mpr hR]
    · have hc : f c = g c := hl c List.mem_cons_self hcn
      cases hg : g c <;> simp [substitute_cons_of_ne hcn, hrest, hc, hg]

/-- Of the children of a node outside those stay that have stayed before, with the replacement in
    the place of the converted element. -/
theorem Converted.filter_keeps (h : Converted policy d d' n p R) (hwf : d.WellFormed)
    (hm : d.contains m = true) (hmn : ¬ d.Below m n) :
    (d'.children m).filter (policy.keeps d') =
      substitute n R ((d.children m).filter (policy.keeps d)) := by
  obtain ⟨hkeepN, hkeepR⟩ := h.keeps_eq_true
  rw [h.children_outside hwf h.parent hm hmn]
  refine filter_substitute hkeepN hkeepR fun c hc hcn => ?_
  rw [Policy.keeps, h.kind_outside (hwf.contains_child hc)
    (Document.not_below_of_child hwf hc hmn hcn), Policy.keeps]

/-! ### Nodes that are not connected -/

namespace Visited

/-- What is not connected is neither inside a visited element nor above it. -/
theorem sameAt_unconnected (h : Visited policy d n outcome d') (hwf : d.WellFormed)
    (hn : d.Below n root) (hx : d.contains x = true) (hroot : ¬ d.Below x root) :
    SameAt d d' x := by
  cases h with
  | skipped _ => rfl
  | converted _ hconv _ =>
    refine hconv.same x (Document.index_lt_of_contains hx) ?_ fun hxn => hroot (hxn.trans hn)
    rintro rfl
    rcases hn.cases_parent with rfl | ⟨q, hq, hqroot⟩
    · exact hwf.ne_root_of_parent hconv.parent rfl
    · rw [hconv.parent, Option.some.injEq] at hq
      exact hroot (hq ▸ hqroot)

/-- After a visit no node hangs loose that has not hung loose before. -/
theorem parent_eq_none (h : Visited policy d n outcome d') (hwf : d.WellFormed)
    (hn : d.contains n = true) (hx : d'.contains x = true) (hp : d'.parent? x = none) :
    d.contains x = true ∧ d.parent? x = none := by
  cases h with
  | skipped _ => exact ⟨hx, hp⟩
  | converted hisland hconv hinside =>
    have hlt : x.index < d.size := by
      by_contra hnew
      obtain ⟨q, hq⟩ := hconv.attached x (Nat.le_of_not_lt hnew) hx
      rw [hp] at hq
      cases hq
    have hlive : d.contains x = true := by
      by_contra hgone
      rw [Bool.not_eq_true] at hgone
      have hvisited : Visited policy d n outcome d' := .converted hisland hconv hinside
      rw [hvisited.not_contains hwf hn hlt hgone] at hx
      exact Bool.noConfusion hx
    refine ⟨hlive, ?_⟩
    by_cases hxn : d.Below x n
    · -- What is left of the nodes inside hangs where it hung or below the replacement.
      have hne : x ≠ n := by
        rintro rfl
        rw [hconv.gone] at hx
        exact Bool.noConfusion hx
      obtain ⟨r, hinh, c, hc, hkeep, hxc⟩ := hinside.exists_kept hwf hxn hne hx
      by_cases hxc' : x = c
      · rw [hxc', hinh.parent c hc hkeep] at hp
        cases hp
      · rw [← (hinh.same_below c hc hkeep x hxc hxc').parent?, hp]
    · rw [← hconv.parent?_outside hlive hxn, hp]

/-- A visit leaves the nodes that are not connected alone. -/
theorem unconnected_iff (h : Visited policy d n outcome d') (hwf : d.WellFormed)
    (hn : d.Below n root) (x : NodeId) :
    (d'.contains x = true ∧ ¬ d'.Below x root) ↔ (d.contains x = true ∧ ¬ d.Below x root) := by
  have hwf' := h.wellFormed hwf
  constructor
  · -- Going down from the top of its tree, a node is found where it was before.
    induction x using hwf'.induction_up with
    | _ x ih =>
      rintro ⟨hx, hroot⟩
      cases hp : d'.parent? x with
      | none =>
        have hcon : d.contains n = true := hn.contains_lower hwf.contains_root
        obtain ⟨hlive, hdet⟩ := h.parent_eq_none hwf hcon hx hp
        refine ⟨hlive, fun hb => hroot ?_⟩
        rw [hb.eq_of_detached hdet]
        exact Document.below_refl d' root
      | some q =>
        have hq : ¬ d'.Below q root := fun hb => hroot ((Document.below_of_parent hp).trans hb)
        obtain ⟨hqlive, hqroot⟩ := ih q hp ⟨hwf'.contains_parent hp, hq⟩
        have hsame := h.sameAt_unconnected hwf hn hqlive hqroot
        have hmem : x ∈ d.children q := hsame.children ▸ hwf'.mem_children hp
        refine ⟨hwf.contains_child hmem, fun hb => hqroot ?_⟩
        rcases hb.cases_parent with rfl | ⟨q', hq', hb'⟩
        · exact absurd rfl (hwf.ne_root_of_parent (hwf.parent_of_mem hmem))
        · rw [hwf.parent_of_mem hmem, Option.some.injEq] at hq'
          exact hq' ▸ hb'
  · rintro ⟨hx, hroot⟩
    have hsame : ∀ y, d.Below x y → SameAt d d' y := fun y hy =>
      h.sameAt_unconnected hwf hn (hy.contains hwf hx) fun hb => hroot (hy.trans hb)
    refine ⟨(hsame x (Document.below_refl d x)).contains.trans hx, fun hb => hroot ?_⟩
    exact (Document.below_iff_of_parents fun y hy => (hsame y hy).parent?).mp hb

end Visited

namespace Course

/-- The visits neither add nor take away nodes that are live and not connected. -/
theorem unconnected_iff (hc : Course policy d os d') (x : NodeId) :
    (d'.contains x = true ∧ ¬ d'.Below x root) ↔ (d.contains x = true ∧ ¬ d.Below x root) := by
  induction hc with
  | nil _ => exact Iff.rfl
  | cons h hv _ hvisited _ ih =>
    exact ih.trans (hvisited.unconnected_iff h (hv.connected _ List.mem_cons_self) x)

/-- The visits leave the nodes that are not connected as they are. -/
theorem sameAt_unconnected (hc : Course policy d os d') (hx : d.contains x = true)
    (hroot : ¬ d.Below x root) : SameAt d d' x := by
  induction hc with
  | nil _ => rfl
  | cons h hv _ hvisited _ ih =>
    have hn := hv.connected _ List.mem_cons_self
    obtain ⟨hx₁, hroot₁⟩ := (hvisited.unconnected_iff h hn x).mpr ⟨hx, hroot⟩
    exact (hvisited.sameAt_unconnected h hn hx hroot).trans (ih hx₁ hroot₁)

/-! ### Connected nodes -/

/-- A converted element is discarded. -/
theorem not_contains_converted (hc : Course policy d os d') (hn : (n, outcome) ∈ os)
    (hmodified : outcome.isModified = true) : d'.contains n = false := by
  induction hc with
  | nil _ => exact absurd hn List.not_mem_nil
  | cons h hv _ hvisited hrest ih =>
    rcases List.mem_cons.mp hn with heq | hn
    · obtain ⟨rfl, rfl⟩ := Prod.mk.inj heq
      cases hvisited with
      | skipped _ => exact Bool.noConfusion hmodified
      | converted _ hconv _ =>
        have hlt := Document.index_lt_of_contains (hv.contains List.mem_cons_self)
        exact hrest.not_contains (Nat.lt_of_lt_of_le hlt hconv.size_le) hconv.gone
    · exact ih hn

/-- An element that is left is none of the new nodes. -/
theorem not_mem_of_fresh {ns : List NodeId} (hv : Visitable d (n :: ns))
    (hr : d.size ≤ r.index) : r ∉ ns := fun hmem =>
  absurd (Document.index_lt_of_contains (hv.tail.contains hmem)) (Nat.not_lt.mpr hr)

/-- A node that is inside no converted element keeps its kind and its parent, and in its list of
    children the replacements stand where the replaced elements stood. -/
theorem elsewhere (hc : Course policy d os d') (hm : d.contains m = true)
    (hout : ∀ e ∈ os, e.2.isModified = true → ¬ d.Below m e.1) :
    d'.kind? m = d.kind? m ∧ d'.parent? m = d.parent? m ∧
      d'.children m = (d.children m).flatMap (standIns os) := by
  induction hc with
  | nil _ => exact ⟨rfl, rfl, (flatMap_standIns_of_not_mem fun _ _ => List.not_mem_nil).symm⟩
  | @cons d d₁ d' n outcome os h hv _ hvisited _ ih =>
    have hrest : ∀ e ∈ os, e.2.isModified = true → ¬ d.Below m e.1 := fun e he =>
      hout e (List.mem_cons_of_mem _ he)
    cases hvisited with
    | skipped _ =>
      have hn : n ∉ os.map Prod.fst := fun hmem => hv.not_below hmem (Document.below_refl d n)
      rw [standIns_cons_skipped hn]
      exact ih hm hrest
    | converted _ hconv hinside =>
      have hmodified : outcome.isModified = true := by cases hinside <;> rfl
      have hmn : ¬ d.Below m n := hout (n, outcome) List.mem_cons_self hmodified
      obtain ⟨k, hk⟩ := Document.exists_kind? hm
      have hkind := hconv.kind_outside hm hmn
      obtain ⟨hkind', hparent, hchildren⟩ := ih (Document.contains_of_kind? (hkind.trans hk))
        fun e he hmod hb => hrest e he hmod ((hconv.below_iff_outside h hm hmn).mp hb)
      refine ⟨hkind'.trans hkind, hparent.trans (hconv.parent?_outside hm hmn), ?_⟩
      rw [hchildren, hconv.children_outside h hconv.parent hm hmn]
      refine flatMap_standIns_substitute (fun r hr => not_mem_of_fresh hv (hconv.fresh r hr)) ?_
      rintro rfl
      exact Bool.noConfusion hmodified

/-- The replacement with which a visit comes has the children of the element that stay, and keeps
    them. -/
theorem children_new (hc : Course policy d₁ os d') (h : d.WellFormed)
    (hv : Visitable d (n :: os.map Prod.fst)) (hvisited : Visited policy d n (.replaced r) d₁)
    (hlive : d'.contains r = true) :
    ∃ island, d'.children r = (d.children n).filter (policy.keeps d) ++ [island] ∧
      d'.kind? island = some (.ofElement fallbackTag .empty) := by
  obtain ⟨p, hconv, hinh⟩ : ∃ p, Converted policy d d₁ n p [r] ∧ Inherited policy d d₁ n r := by
    cases hvisited with
    | converted _ hconv hinside =>
      cases hinside with
      | replaced hinh => exact ⟨_, hconv, hinh⟩
  obtain ⟨island, hchildren, hkind⟩ := hinh.children_replacement
  have hr : r ∈ [r] := List.mem_singleton_self r
  have hlive₁ := Document.contains_of_parent? (hconv.parent_fresh h hconv.parent hr)
  have hcarried := hc.carried hlive₁ (fun m hm =>
    hconv.not_below_fresh h (hv.tail.contains hm) (hv.not_below hm) hr) hlive
  have hisland : d₁.parent? island = some r :=
    hconv.wellFormed.parent_of_mem (by rw [hchildren]; simp)
  refine ⟨island, hcarried.children.trans hchildren, ?_⟩
  rw [(hcarried.same island (Document.below_of_parent hisland) ?_).kind?, hkind]
  rintro rfl
  exact hconv.wellFormed.not_below_of_parent hisland (Document.below_refl d₁ island)

/-- Under a replacement stand the children of the replaced element that have not been rejected, and
    the island after them. -/
theorem children_replacement (hc : Course policy d os d') (hn : (n, .replaced r) ∈ os)
    (hlive : d'.contains r = true) :
    ∃ island, d'.children r =
        ((d.children n).filter (policy.keeps d)).flatMap (standIns os) ++ [island] ∧
      d'.kind? island = some (.ofElement fallbackTag .empty) := by
  induction hc with
  | nil _ => exact absurd hn List.not_mem_nil
  | @cons d d₁ d' m outcome os h hv _ hvisited hrest ih =>
    rcases List.mem_cons.mp hn with heq | hn
    · -- None of the children is visited after the element.
      obtain ⟨rfl, rfl⟩ := Prod.mk.inj heq
      obtain ⟨island, hchildren, hkind⟩ := hrest.children_new h hv hvisited hlive
      refine ⟨island, ?_, hkind⟩
      rw [hchildren, flatMap_standIns_of_not_mem]
      exact fun c hc hmem =>
        hv.not_below_child h (List.mem_of_mem_filter hc) hmem (Document.below_refl d c)
    · -- The element is elsewhere, so its list goes on as that of any other node.
      obtain ⟨island, hchildren, hkind⟩ := ih hn hlive
      refine ⟨island, ?_, hkind⟩
      have hmem : n ∈ os.map Prod.fst := List.mem_map_of_mem hn
      rw [hchildren]
      congr 1
      cases hvisited with
      | skipped _ =>
        rw [standIns_cons_skipped fun hmem => hv.not_below hmem (Document.below_refl d m)]
      | converted _ hconv hinside =>
        rw [hconv.filter_keeps h (hv.tail.contains hmem) (hv.not_below hmem),
          flatMap_standIns_substitute]
        · exact fun r hr => not_mem_of_fresh hv (hconv.fresh r hr)
        · rintro rfl
          cases hinside

end Course

/-! ### The whole conversion -/

/-- A conversion that reports `os` and leads from `d` to `d'` is confined to the elements that it
    converts. -/
structure Confined (policy : Policy) (d : Document) (os : List (NodeId × Outcome))
    (d' : Document) : Prop where
  /-- A live node that is not connected keeps its kind, its attributes and its links. -/
  unconnected (m : NodeId) : d.contains m = true → d.isConnected m = false →
    d'.slot? m = d.slot? m
  /-- No other node is left over. -/
  unconnected_iff (m : NodeId) : (d'.contains m = true ∧ d'.isConnected m = false) ↔
    (d.contains m = true ∧ d.isConnected m = false)
  /-- A connected node that is inside no converted element keeps its kind and its attributes, and
      its children, of which those that have been converted give way to what takes their places. -/
  connected (m : NodeId) : d.isConnected m = true →
    (∀ e ∈ os, e.2.isModified = true → m ∉ d.subtree e.1) →
    d'.isConnected m = true ∧ d'.kind? m = d.kind? m ∧
      d'.children m = (d.children m).flatMap (standIns os)
  /-- A replacement that has not been discarded has the children of the replaced element, apart from
      rejected sources, and an island after them. -/
  replacement (n r : NodeId) : (n, .replaced r) ∈ os → d'.contains r = true →
    ∃ island, d'.children r =
        ((d.children n).filter (policy.keeps d)).flatMap (standIns os) ++ [island] ∧
      d'.kind? island = some (.ofElement fallbackTag .empty)
  /-- A converted element is discarded. -/
  gone (n : NodeId) (outcome : Outcome) : (n, outcome) ∈ os → outcome.isModified = true →
    d'.contains n = false

/-- The visits, one after the other, are confined to the places of the visited elements. -/
theorem Course.confined (hc : Course policy d os d') : Confined policy d os d' := by
  have h := hc.wellFormed
  have h' := hc.wellFormed_end
  have hiff : ∀ {d : Document}, d.WellFormed → ∀ m, d.isConnected m = false ↔ ¬ d.Below m root := by
    intro d h m
    rw [← Document.isConnected_iff h, Bool.not_eq_true]
  exact {
    unconnected m hm hroot := hc.sameAt_unconnected hm ((hiff h m).mp hroot)
    unconnected_iff m := by
      rw [hiff h, hiff h']
      exact hc.unconnected_iff m
    connected m hroot hout := by
      have hb : d.Below m root := (Document.isConnected_iff h).mp hroot
      have hm : d.contains m = true := hb.contains_lower h.contains_root
      obtain ⟨hkind, -, hchildren⟩ := hc.elsewhere hm fun e he hmodified hme =>
        hout e he hmodified ((Document.mem_subtree_iff h).mpr hme)
      refine ⟨?_, hkind, hchildren⟩
      -- A live node that is not connected would not have been connected before.
      obtain ⟨k, hk⟩ := Document.exists_kind? hm
      by_contra hloose
      rw [Document.isConnected_iff h'] at hloose
      have hlive := Document.contains_of_kind? (hkind.trans hk)
      exact ((hc.unconnected_iff m).mp ⟨hlive, hloose⟩).2 hb
    replacement n r hn hlive := hc.children_replacement hn hlive
    gone n outcome hn hmodified := hc.not_contains_converted hn hmodified }

/-- Whatever the history of a document and whatever the policy, a conversion is confined to the
    audio elements that it converts: it leaves the nodes that are not connected alone and makes no
    others, replaces or removes elements in their places, and puts the children of a replaced
    element themselves under its replacement. -/
theorem reachable_conversion_confined (h : Reachable d) (policy : Policy) :
    Confined policy d (policy.convertAudio d).1.outcomes (policy.convertAudio d).2 :=
  (course_convertAudio h.wellFormed policy).confined

/-- An element inside another one, one that is removed, and one that has been taken out before. -/
theorem reachable_conversion_confined_with_loose :
    let d := runAll (Markup.readMarkup <|
        "<p><audio src=//a.b/c><audio><source src=http://a.b/d></audio>" ++
        "<audio src=//a.b/e></audio><i></i></audio>t</p><b><audio></audio></b>") [.detach ⟨8⟩]
    let policy : Policy := {}
    Reachable d ∧ d.contains ⟨9⟩ = true ∧ d.isConnected ⟨9⟩ = false ∧
    (policy.convertAudio d).1.outcomes =
      [(⟨5⟩, .replaced ⟨11⟩), (⟨3⟩, .removed), (⟨2⟩, .replaced ⟨15⟩)] ∧
    Confined policy d (policy.convertAudio d).1.outcomes (policy.convertAudio d).2 := by
  intro d policy
  have h : Reachable d := (Reachable.read _).runAll _
  have hfacts : d.contains ⟨9⟩ = true ∧ d.isConnected ⟨9⟩ = false ∧
      (policy.convertAudio d).1.outcomes =
        [(⟨5⟩, .replaced ⟨11⟩), (⟨3⟩, .removed), (⟨2⟩, .replaced ⟨15⟩)] := by decide +kernel
  obtain ⟨hlive, hloose, houtcomes⟩ := hfacts
  exact ⟨h, hlive, hloose, houtcomes, reachable_conversion_confined h policy⟩

end Conversion

end AmpMarkup
