import AmpMarkup.Proofs.Conversion.Preservation
import AmpMarkup.Proofs.Document.Copy
import AmpMarkup.Proofs.Document.Discard
import AmpMarkup.Proofs.Document.Integrity

namespace AmpMarkup

open Document (WellFormed)

/-!
# The links of every document with a history

Every action leaves a well-formed document well-formed, whether it succeeds or fails and whatever
handles it is given. Larger actions are made of edits of which this has been shown, so nothing has
to be known about what they do.

* `Reachable.wellFormed` — hence every document with a history is well-formed.
* `reachable_links_agree` — what that means for the children of a node and for the check of links.
-/

namespace Conversion

open Edit

/-! ### Histories -/

/-- Edits of single nodes keep a document well formed. -/
theorem keptByEdits_wellFormed : KeptByEdits WellFormed where
  create := keeps_wellFormed_create
  modifyAttributes := keeps_wellFormed_modifyAttributes
  appendChild := keeps_wellFormed_appendChild
  insertBefore := keeps_wellFormed_insertBefore
  removeChild := keeps_wellFormed_removeChild
  replaceChild := keeps_wellFormed_replaceChild
  detach := keeps_wellFormed_detach
  discard := keeps_wellFormed_discard
  cloneNode := keeps_wellFormed_cloneNode

/-- The conversion keeps a document well formed. -/
theorem wellFormed_convertAudio (policy : Policy) {d : Document} (h : d.WellFormed) :
    (policy.convertAudio d).2.WellFormed :=
  keptByEdits_wellFormed.convertAudio policy h

/-- A document that has been read is well formed. -/
theorem wellFormed_readMarkup (s : String) : (Markup.readMarkup s).WellFormed :=
  keptByEdits_wellFormed.readMarkup Document.wellFormed_empty s

/-- No action does any harm to the links. -/
theorem wellFormed_run (a : Action) {d : Document} (h : d.WellFormed) : (a.run d).WellFormed :=
  keptByEdits_wellFormed.run a h

/-- Every document with a history is well formed. -/
theorem Reachable.wellFormed {d : Document} (h : Reachable d) : d.WellFormed := by
  induction h with
  | empty => exact Document.wellFormed_empty
  | read s => exact wellFormed_readMarkup s
  | run a _ ih => exact wellFormed_run a ih

/-- In every document with a history both ends of every link agree, detached nodes included: a
    child is live and has its lister as parent, a parent lists its child once, no parent chain
    closes and a discarded slot keeps no links. Hence the check of the links finds nothing. -/
theorem reachable_links_agree {d : Document} (h : Reachable d) :
    d.WellFormed ∧
    (∀ n, ∀ c ∈ d.children n, d.contains c = true ∧ d.parent? c = some n) ∧
    (∀ n p, d.parent? n = some p → d.contains p = true ∧ (d.children p).count n = 1) ∧
    d.checkIntegrity = .ok () := by
  have hwf := h.wellFormed
  refine ⟨hwf, fun n c hc => ⟨hwf.contains_child hc, hwf.parent_of_mem hc⟩, fun n p hp => ?_,
    Document.checkIntegrity_eq_ok hwf⟩
  refine ⟨hwf.contains_parent hp, ?_⟩
  exact List.count_eq_one_of_mem (hwf.nodup_children p) (hwf.mem_children hp)

/-- A history with a cycle that is refused, an unknown handle, a discarded subtree and a
    conversion. -/
theorem reachable_links_agree_after_refusals :
    let d := runAll (Markup.readMarkup "<div><audio src=https://a.b/c><p>x</p></audio></div>")
      [.detach ⟨1⟩, .appendChild ⟨3⟩ ⟨1⟩, .wrapWithFallback ⟨2⟩ ⟨9⟩ ⟨9⟩, .appendChild ⟨0⟩ ⟨1⟩,
        .discard ⟨4⟩, .convertAudio {}]
    Reachable d ∧ d.WellFormed ∧
    (∀ n, ∀ c ∈ d.children n, d.contains c = true ∧ d.parent? c = some n) ∧
    (∀ n p, d.parent? n = some p → d.contains p = true ∧ (d.children p).count n = 1) ∧
    d.checkIntegrity = .ok () :=
  have h := (Reachable.read _).runAll _
  ⟨h, reachable_links_agree h⟩

end Conversion

end AmpMarkup
