import AmpMarkup.Conversion.History
import AmpMarkup.Proofs.Conversion.Filter
import AmpMarkup.Proofs.Document.SlotEdits

namespace AmpMarkup

open Document (root)

/-!
# What survives every edit

Larger edits, the conversion of audio elements and the reading of markup are put together from a
few edits of single nodes. Whatever these keep is kept by all of them, whether they succeed or
fail.

* `KeptByEdits P` — `P` is kept by the edits of single nodes; `KeptBySlots.keptByEdits` — for
  instance because it is kept by the changes that these are made of.
* `KeptByEdits.wrapWithFallback`, `KeptByEdits.convertAudio`, `KeptByEdits.readMarkup` — then it is
  kept by all that is put together from them.
* `KeptByEdits.run` — and so by every action.
-/

variable {P : Document → Prop}

/-- The edits of single nodes keep `P`. -/
structure KeptByEdits (P : Document → Prop) : Prop where
  create (k : NodeKind) : Edit.Keeps P (Edit.create k)
  modifyAttributes (n : NodeId) (f : Attributes → Attributes) :
    Edit.Keeps P (Edit.modifyAttributes n f)
  appendChild (p c : NodeId) : Edit.Keeps P (Edit.appendChild p c)
  insertBefore (p c before : NodeId) : Edit.Keeps P (Edit.insertBefore p c before)
  removeChild (p c : NodeId) : Edit.Keeps P (Edit.removeChild p c)
  replaceChild (p new old : NodeId) : Edit.Keeps P (Edit.replaceChild p new old)
  detach (n : NodeId) : Edit.Keeps P (Edit.detach n)
  discard (n : NodeId) : Edit.Keeps P (Edit.discard n)
  cloneNode (n : NodeId) (deep : Bool) : Edit.Keeps P (Edit.cloneNode n deep)

/-- What the changes of single slots keep is kept by the edits of single nodes, attributes apart. -/
theorem Edit.KeptBySlots.keptByEdits (hP : KeptBySlots P)
    (hattributes : ∀ (n : NodeId) (f : Attributes → Attributes),
      Keeps P (modifyAttributes n f)) : KeptByEdits P where
  create := hP.create
  modifyAttributes := hattributes
  appendChild := hP.appendChild
  insertBefore := hP.insertBefore
  removeChild := hP.removeChild
  replaceChild := hP.replaceChild
  detach := hP.detach
  discard := hP.discard
  cloneNode := hP.cloneNode

namespace KeptByEdits

open Edit AmpMarkup.Conversion

variable (hP : KeptByEdits P)
include hP

/-! ### Edits made of several -/

/-- Setting an attribute keeps `P`, as a change of the attributes of one node. -/
theorem setAttribute (n : NodeId) (name value : String) : Keeps P (setAttribute n name value) :=
  hP.modifyAttributes n _

/-- Removing an attribute keeps `P`, as another such change. -/
theorem removeAttribute (n : NodeId) (name : String) : Keeps P (removeAttribute n name) :=
  Keeps.get_bind fun d h =>
    Keeps.bind (hP.modifyAttributes n _) (fun _ => Keeps.pure _) d h

/-- Detaching all children keeps `P`, since each of them is removed in turn. -/
theorem detachChildren (n : NodeId) : Keeps P (detachChildren n) :=
  Keeps.get_bind fun d h => Keeps.mapM (fun c _ => hP.removeChild n c) d h

/-- Putting children back keeps `P`: those that can be put back are appended, the others passed
    over. -/
theorem restoreChildren (n : NodeId) (children : List NodeId) :
    Keeps P (restoreChildren n children) := by
  refine Keeps.get_bind fun d h => ?_
  split
  · -- Children that are gone or that cannot be put back are passed over.
    refine Keeps.forM (fun child _ => Keeps.get_bind fun d h => ?_) d h
    refine Keeps.get_bind (fun d h => ?_) d h
    split
    · exact Keeps.tryCatch (hP.appendChild n child) (fun _ => Keeps.pure _) d h
    · exact h
  · exact h

/-- Wrapping keeps `P`: it creates an island and moves single nodes. -/
theorem wrapWithFallback (source replacement fallback : NodeId) :
    Keeps P (wrapWithFallback source replacement fallback) := by
  refine Keeps.get_bind fun d h => ?_
  split
  · exact h
  · rename_i parent _
    refine Keeps.bind (hP.create _) (fun island => ?_) d h
    refine Keeps.bind (hP.appendChild _ _) fun _ => ?_
    refine Keeps.bind (hP.replaceChild _ _ _) fun _ => ?_
    exact Keeps.bind (hP.appendChild _ _) fun _ => Keeps.pure _

/-! ### The conversion -/

/-- Keeping a child keeps `P`: at most it is marked. -/
theorem keepChild (g : Gathered) (child : NodeId) : Keeps P (keepChild g child) := by
  refine Keeps.get_bind fun d h => ?_
  dsimp only
  split
  · exact Keeps.bind ((hP.setAttribute _ _ _).orThrow _) (fun _ => Keeps.pure _) d h
  · exact h

/-- Gathering a child keeps `P`: it is discarded, or its URL is set and it is kept. -/
theorem gatherChild (policy : Policy) (g : Gathered) (child : NodeId) :
    Keeps P (policy.gatherChild g child) := by
  refine Keeps.get_bind fun d h => ?_
  split
  · exact hP.keepChild g child d h
  · split
    · exact Keeps.bind ((hP.setAttribute _ _ _).orThrow _) (fun _ => hP.keepChild _ _) d h
    · exact Keeps.bind ((hP.discard child).orThrow _) (fun _ => Keeps.pure _) d h

/-- Adopting a child keeps `P`: it is copied, and two nodes are moved. -/
theorem adoptChild (fallback replacement child : NodeId) :
    Keeps P (adoptChild fallback replacement child) :=
  Keeps.bind (hP.cloneNode _ _) fun _ =>
    Keeps.bind (hP.appendChild _ _) fun _ => hP.appendChild _ _

/-- Matching an attribute keeps `P`: it is set on the fallback or removed from it. -/
theorem matchAttribute (model n : NodeId) (name : String) :
    Keeps P (matchAttribute model n name) := by
  refine Keeps.get_bind fun d h => ?_
  split
  · exact hP.setAttribute _ _ _ d h
  · exact Keeps.bind (hP.removeAttribute _ _) (fun _ => Keeps.pure _) d h

/-- Removing an element keeps `P`: it discards the children, the fallback and the element itself. -/
theorem removeElement (n fallback : NodeId) (g : Gathered) :
    Keeps P (removeElement n fallback g) :=
  Keeps.bind (Keeps.forM fun c _ => hP.discard c) fun _ =>
    Keeps.bind (hP.discard _) fun _ => Keeps.bind (hP.discard _) fun _ => Keeps.pure _

/-- Replacing an element keeps `P`: every one of its steps does. -/
theorem replaceElement (n fallback : NodeId) (g : Gathered) (a : Attributes) :
    Keeps P (replaceElement n fallback g a) :=
  Keeps.bind (hP.create _) fun _ =>
    Keeps.bind (Keeps.forM fun _ _ => hP.adoptChild _ _ _) fun _ =>
      Keeps.bind (Keeps.forM fun _ _ => hP.matchAttribute _ _ _) fun _ =>
        Keeps.bind (hP.wrapWithFallback _ _ _) fun _ =>
          Keeps.bind (hP.discard _) fun _ => Keeps.pure _

/-- Rebuilding an element keeps `P`: the children are gathered, and it is removed or replaced. -/
theorem rebuild (policy : Policy) (n fallback : NodeId) (a : Attributes)
    (children : List NodeId) : Keeps P (policy.rebuild n fallback a children) := by
  refine Keeps.bind (Keeps.foldlM fun g c _ => hP.gatherChild policy g c) fun g => ?_
  split
  · exact (hP.removeElement n fallback g).orThrow _
  · exact (hP.replaceElement n fallback g _).orThrow _

/-- Converting an element keeps `P`, whether it succeeds or puts the children back. -/
theorem convert (policy : Policy) (n : NodeId) : Keeps P (policy.convert n) := by
  refine Keeps.get_bind fun d h => ?_
  split
  · exact h
  · refine Keeps.bind ((hP.cloneNode n false).orThrow _) (fun fallback => ?_) d h
    refine Keeps.bind ((hP.detachChildren n).orThrow _) fun children => ?_
    -- Even if the rest failed, putting the children back would do no harm.
    refine Keeps.tryCatch (hP.rebuild policy n fallback _ children) fun issues => ?_
    exact Keeps.bind ((hP.restoreChildren n children).orThrow _) fun _ => Keeps.throw issues

end KeptByEdits

namespace Conversion

open Edit

/-- The document after one more element is the one that its conversion leaves behind. -/
theorem convertOne_snd (policy : Policy) (state : Report × Document) (n : NodeId) :
    (policy.convertOne state n).2 = (policy.convert n).exec state.2 := by
  rw [Policy.convertOne]
  split <;> rename_i hrun
  · rw [exec_of_ok hrun]
  · rw [exec_of_error hrun]

end Conversion

namespace KeptByEdits

open AmpMarkup.Conversion

variable (hP : KeptByEdits P)
include hP

/-- Of the state that is carried along only the document matters. -/
theorem convertOne (policy : Policy) (n : NodeId) {state : Report × Document} (h : P state.2) :
    P (policy.convertOne state n).2 := by
  rw [convertOne_snd]
  exact hP.convert policy n state.2 h

/-- The conversion of all elements keeps `P`, by induction on the elements. -/
theorem convertAudio (policy : Policy) {d : Document} (h : P d) : P (policy.convertAudio d).2 := by
  have key : ∀ (ns : List NodeId) (state : Report × Document), P state.2 →
      P (ns.foldl policy.convertOne state).2 := by
    intro ns
    induction ns with
    | nil => exact fun _ hs => hs
    | cons n rest ih =>
      exact fun state hs => ih _ (hP.convertOne policy n hs)
  exact key _ _ h

/-! ### Actions -/

/-- An action is one of these edits or is put together from them. -/
theorem run (a : Action) {d : Document} (h : P d) : P (a.run d) := by
  cases a with
  | createElement name attributes => exact hP.create _ d h
  | createText content => exact hP.create _ d h
  | createComment content => exact hP.create _ d h
  | appendChild parent child => exact hP.appendChild _ _ d h
  | insertBefore parent child before => exact hP.insertBefore _ _ _ d h
  | removeChild parent child => exact hP.removeChild _ _ d h
  | replaceChild parent new old => exact hP.replaceChild _ _ _ d h
  | detach n => exact hP.detach _ d h
  | discard n => exact hP.discard _ d h
  | cloneNode n deep => exact hP.cloneNode _ _ d h
  | setAttribute n name value => exact hP.setAttribute _ _ _ d h
  | setAttributes n attributes => exact hP.modifyAttributes _ _ d h
  | removeAttribute n name => exact hP.removeAttribute _ _ d h
  | detachChildren n => exact hP.detachChildren _ d h
  | wrapWithFallback source replacement fallback => exact hP.wrapWithFallback _ _ _ d h
  | convertAudio policy => exact hP.convertAudio policy h

/-! ### Reading -/

/-- A node that is read is created and put under the innermost open element. -/
theorem addNode {r : Markup.Reading} (k : NodeKind) (hr : P r.document) :
    P (r.addNode k).document := by
  have hcreated := hP.create k r.document hr
  rw [Edit.exec_of_ok (Edit.run_create k)] at hcreated
  exact hP.appendChild _ _ _ hcreated

/-- One more token adds at most one node. -/
theorem add {r : Markup.Reading} (t : Markup.Token) (hr : P r.document) :
    P (r.add t).document := by
  cases t with
  | text content => exact hP.addNode _ hr
  | comment content => exact hP.addNode _ hr
  | declaration => exact hr
  | endTag name => exact hr
  | startTag name attributes selfClosing =>
    have hadd := hP.addNode (.ofElement name attributes) hr
    show P (if _ then r.addNode _ else { r.addNode _ with opened := _ }).document
    split
    · exact hadd
    · exact hadd

/-- So what an empty document has and edits keep holds of what is read. -/
theorem readMarkup (hempty : P .empty) (s : String) : P (Markup.readMarkup s) := by
  have key : ∀ (ts : List Markup.Token) (r : Markup.Reading), P r.document →
      P (ts.foldl Markup.Reading.add r).document := by
    intro ts
    induction ts with
    | nil => exact fun _ hr => hr
    | cons t rest ih => exact fun r hr => ih _ (hP.add t hr)
  exact key _ _ hempty

end KeptByEdits

end AmpMarkup
