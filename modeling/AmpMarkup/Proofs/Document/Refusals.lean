import AmpMarkup.Proofs.Conversion.LinkInvariant

namespace AmpMarkup

open Document (root)

/-!
# Every edit fails exactly when it has to

An edit of a well-formed document looks at its conditions in their order. The first one that holds
is the cause it fails with, and the document stays as it was; if none holds the edit succeeds and
leaves a well-formed document behind. What is looked up after the first change is therefore always
found.

* `Answers e d causes` — `e` ends on `d` as the list of causes says.
* `answers_cons`, `answers_nil` — one condition after the other, and then the edit itself.
* `answers_appendChild` and its like — the lists of the single edits.
* `reachable_edits_answer` — all of them, for every document with a history.
-/

variable {α β : Type} {d d' : Document} {n p c : NodeId}

namespace Edit

/-- `e` fails on `d` with the first cause that holds and changes nothing; if there is none it
    succeeds, and the links of the document it gives agree. -/
def Answers (e : Edit α) (d : Document) (causes : List (Bool × EditError)) : Prop :=
  match firstCause? causes with
  | some cause => e.run d = .error cause d
  | none => ∃ a d', e.run d = .ok a d' ∧ d'.WellFormed

/-! ### One condition after the other -/

/-- An edit that nothing can forbid ends well. -/
theorem answers_nil {e : Edit α} {a : α} (hrun : e.run d = .ok a d') (h : d'.WellFormed) :
    Answers e d [] :=
  ⟨a, d', hrun, h⟩

/-- A condition that holds is the cause; one that does not may be passed over. -/
theorem answers_cons {e : Edit α} {b : Bool} {cause : EditError} {rest : List (Bool × EditError)}
    (hfail : b = true → e.run d = .error cause d) (hpass : b = false → Answers e d rest) :
    Answers e d ((b, cause) :: rest) := by
  cases hb : b with
  | true => exact hfail hb
  | false => exact hpass hb

/-- What stands in front of a list of conditions fails like the whole; behind it the rest counts. -/
theorem answers_append {e : Edit α} {l l' : List (Bool × EditError)}
    (hfail : ∀ cause, firstCause? l = some cause → e.run d = .error cause d)
    (hpass : firstCause? l = none → Answers e d l') : Answers e d (l ++ l') := by
  rw [Answers, firstCause?_append]
  cases hl : firstCause? l with
  | none => exact hpass hl
  | some cause => exact hfail cause hl

/-- An edit ends as before if all that follows is to give something back. -/
theorem Answers.andThen {e : Edit α} {l : List (Bool × EditError)} (h : Answers e d l) (b : β) :
    Answers (e >>= fun _ => pure b) d l := by
  rw [Answers] at h ⊢
  cases hl : firstCause? l with
  | some cause =>
    rw [hl] at h
    exact run_bind_error h
  | none =>
    rw [hl] at h
    obtain ⟨a, d', hrun, hwf⟩ := h
    exact ⟨b, d', by rw [run_bind_ok hrun]; rfl, hwf⟩

/-! ### Attributes and copies -/

/-- The slot of a node that is not live cannot be read. -/
theorem run_slot_of_not_contains (h : (!d.contains n) = true) :
    (slot n).run d = .error (.missingNode n) d :=
  run_slot_of_none (Document.not_contains_iff.mp (by simpa using h))

/-- The slot of a node that has passed the first condition. -/
theorem run_slot_of_contains (h : (!d.contains n) = false) :
    ∃ s, (slot n).run d = .ok s d ∧ d.kind? n = some s.kind ∧ d.parent? n = s.parent? ∧
      d.children n = s.children := by
  obtain ⟨s, hs⟩ := Document.contains_iff.mp (by simpa using h)
  exact ⟨s, run_slot hs, by simp [Document.kind?, hs], by simp [Document.parent?, hs],
    by simp [Document.children, hs]⟩

/-- Attributes can be changed on live elements. -/
theorem answers_modifyAttributes (h : d.WellFormed) (n : NodeId) (f : Attributes → Attributes) :
    Answers (modifyAttributes n f) d (d.attributeCauses n) := by
  refine answers_cons (fun hn => run_bind_error (run_slot_of_not_contains hn)) fun hn => ?_
  obtain ⟨s, hrun, hkind, -, -⟩ := run_slot_of_contains hn
  cases hk : s.kind with
  | element name a =>
    rw [hk] at hkind
    refine answers_cons (fun ha => ?_) fun _ => ?_
    · simp [Document.attributes?_of_kind? hkind] at ha
    · exact answers_nil (run_modifyAttributes hkind f)
        (h.mapAttributes (Document.contains_of_kind? hkind) f)
  | _ =>
    refine answers_cons (fun _ => ?_) fun ha => ?_
    · rw [modifyAttributes, run_bind_ok hrun, hk]
      rfl
    · simp [Document.attributes?, hkind, hk, NodeKind.attributes?] at ha

/-- The value that is given back is read before anything is checked. -/
theorem answers_removeAttribute (h : d.WellFormed) (n : NodeId) (name : String) :
    Answers (removeAttribute n name) d (d.attributeCauses n) := by
  have hrun : (removeAttribute n name).run d =
      (modifyAttributes n (·.erase name) >>= fun _ => pure (d.attribute? n name)).run d := rfl
  rw [Answers, hrun]
  exact (answers_modifyAttributes h n (·.erase name)).andThen _

/-- Every live node can be copied. -/
theorem answers_cloneNode (h : d.WellFormed) (n : NodeId) (deep : Bool) :
    Answers (cloneNode n deep) d (d.copyCauses n) := by
  refine answers_cons (fun hn => ?_) fun hn => ?_
  · rw [cloneNode, run_bind_ok (EStateM.run_get d)]
    exact run_bind_error (run_slot_of_not_contains hn)
  · have hn : d.contains n = true := by simpa using hn
    cases deep with
    | false =>
      obtain ⟨k, hk⟩ := Document.exists_kind? hn
      exact answers_nil (run_cloneNode_shallow hk) (h.push k)
    | true =>
      obtain ⟨d', hrun, hcopied⟩ := run_cloneNode h hn
      exact answers_nil hrun hcopied.wellFormed

/-! ### Detaching -/

/-- A child can be removed from its parent. -/
theorem answers_removeChild (h : d.WellFormed) (p c : NodeId) :
    Answers (removeChild p c) d (d.removeCauses p c) := by
  refine answers_cons (fun hc => ?_) fun hc => answers_cons (fun hp => ?_) fun hp => ?_
  · exact run_bind_error (run_slot_of_not_contains hc)
  · obtain ⟨s, hrun, -, hpar, -⟩ := run_slot_of_contains hc
    rw [removeChild, run_bind_ok hrun, ← hpar, if_pos (by simpa using hp)]
    rfl
  · have hp : d.parent? c = some p := by simpa using hp
    exact answers_nil (run_removeChild hp (h.contains_parent hp)) (h.unlink hp)

/-- A live node other than the root can be detached. -/
theorem answers_detach (h : d.WellFormed) (n : NodeId) :
    Answers (detach n) d (d.moveCauses n) := by
  refine answers_cons (fun hroot => ?_) fun hroot => answers_cons (fun hn => ?_) fun hn => ?_
  · rw [detach, if_pos (by simpa using hroot)]
    rfl
  · rw [detach, if_neg (by simpa using hroot)]
    exact run_bind_error (run_slot_of_not_contains hn)
  · exact answers_nil (run_detach h (by simpa using hroot) (by simpa using hn)) h.cutOff

/-- A live node other than the root can be discarded. -/
theorem answers_discard (h : d.WellFormed) (n : NodeId) :
    Answers (discard n) d (d.moveCauses n) := by
  -- Discarding begins with detaching, which checks all that there is to check.
  have hdetach := answers_detach h n
  refine answers_cons (fun hroot => ?_) fun hroot => answers_cons (fun hn => ?_) fun hn => ?_
  · exact run_bind_error (by simpa [Answers, Document.moveCauses, hroot] using hdetach)
  · exact run_bind_error (by simpa [Answers, Document.moveCauses, hroot, hn] using hdetach)
  · have hroot : n ≠ root := by simpa using hroot
    have hn : d.contains n = true := by simpa using hn
    exact answers_nil (run_discard h hroot hn) (h.without hroot hn)

/-! ### Attaching -/

/-- A child is appended unless one of the causes for refusing it holds. -/
theorem answers_appendChild (h : d.WellFormed) (p c : NodeId) :
    Answers (appendChild p c) d (d.attachCauses p c) := by
  rw [← List.append_nil (d.attachCauses p c)]
  refine answers_append (fun cause hcause => ?_) fun hnone => ?_
  · exact run_bind_error (run_ensureAttachable_error hcause)
  · have ha : Attachable d p c := firstCause?_attachCauses_eq_none_iff.mp hnone
    exact answers_nil (run_appendChild ha) (h.attach ha List.perm_append_comm)

/-- A child is inserted unless one of the causes for attaching it holds or there is no place for
    it. -/
theorem answers_insertBefore (h : d.WellFormed) (p c before : NodeId) :
    Answers (insertBefore p c before) d (d.insertCauses p c before) := by
  refine answers_append (fun cause hcause => ?_) fun hnone => ?_
  · exact run_bind_error (run_ensureAttachable_error hcause)
  have ha : Attachable d p c := firstCause?_attachCauses_eq_none_iff.mp hnone
  refine answers_cons (fun hmem => ?_) fun hmem => ?_
  · obtain ⟨s, hs⟩ := Document.contains_iff.mp ha.contains_parent
    have hch : d.children p = s.children := by simp [Document.children, hs]
    have hi : s.children.idxOf? before = none := by
      rw [List.idxOf?_eq_none_iff, ← hch]
      simpa using hmem
    rw [insertBefore, run_bind_ok (run_ensureAttachable ha), run_bind_ok (run_slot hs), hi]
    rfl
  · obtain ⟨pre, post, -, hi, -, -⟩ :=
      exists_split_of_mem (h.nodup_children p) (by simpa using hmem)
    have hlt := (List.idxOf?_eq_some_iff.mp hi).1
    exact answers_nil (run_insertBefore ha hi)
      (h.attach ha (List.perm_insertIdx _ _ (Nat.le_of_lt hlt)))

/-- A child is replaced unless it hangs elsewhere or the new one cannot be attached. -/
theorem answers_replaceChild (h : d.WellFormed) (p new old : NodeId) :
    Answers (replaceChild p new old) d (d.replaceCauses p new old) := by
  refine answers_cons (fun hold => ?_) fun hold => answers_cons (fun hp => ?_) fun hp => ?_
  · exact run_bind_error (run_slot_of_not_contains hold)
  · obtain ⟨s, hrun, -, hpar, -⟩ := run_slot_of_contains hold
    rw [replaceChild, run_bind_ok hrun, ← hpar, if_pos (by simpa using hp)]
    rfl
  have hp : d.parent? old = some p := by simpa using hp
  show Answers _ d (d.attachCauses p new)
  rw [← List.append_nil (d.attachCauses p new)]
  refine answers_append (fun cause hcause => ?_) fun hnone => ?_
  · obtain ⟨s, hrun, -, hpar, -⟩ := run_slot_of_contains hold
    rw [replaceChild, run_bind_ok hrun, ← hpar, if_neg (not_not_intro hp)]
    exact run_bind_error (run_ensureAttachable_error hcause)
  -- The parent of a well-formed document lists its child, so the position is found.
  · have ha : Attachable d p new := firstCause?_attachCauses_eq_none_iff.mp hnone
    obtain ⟨pre, post, -, hi, -, -⟩ :=
      exists_split_of_mem (h.nodup_children p) (h.mem_children hp)
    exact answers_nil (run_replaceChild hp ha hi) (h.swap ha hp hi)

end Edit

/-! ### Documents with a history -/

namespace Conversion

open Edit

/-- Whatever handles an edit of a document with a history is given, the first of its conditions
    that holds is the cause it fails with, and then nothing at all has changed; if none holds it
    succeeds, and the links of the new document agree. What is computed as being above a node is
    what is reached from it along parent links. -/
theorem reachable_edits_answer {d : Document} (h : Reachable d) :
    (∀ p c, Answers (appendChild p c) d (d.attachCauses p c)) ∧
    (∀ p c before, Answers (insertBefore p c before) d (d.insertCauses p c before)) ∧
    (∀ p new old, Answers (replaceChild p new old) d (d.replaceCauses p new old)) ∧
    (∀ p c, Answers (removeChild p c) d (d.removeCauses p c)) ∧
    (∀ n, Answers (detach n) d (d.moveCauses n)) ∧
    (∀ n, Answers (Edit.discard n) d (d.moveCauses n)) ∧
    (∀ n deep, Answers (cloneNode n deep) d (d.copyCauses n)) ∧
    (∀ n name value, Answers (setAttribute n name value) d (d.attributeCauses n)) ∧
    (∀ n attributes, Answers (setAttributes n attributes) d (d.attributeCauses n)) ∧
    (∀ n name, Answers (removeAttribute n name) d (d.attributeCauses n)) ∧
    ∀ a n, d.isAncestor a n = true ↔ Relation.TransGen d.IsParent n a := by
  have hwf := h.wellFormed
  exact ⟨answers_appendChild hwf, answers_insertBefore hwf, answers_replaceChild hwf,
    answers_removeChild hwf, answers_detach hwf, answers_discard hwf, answers_cloneNode hwf,
    fun n name value => answers_modifyAttributes hwf n _,
    fun n attributes => answers_modifyAttributes hwf n _,
    answers_removeAttribute hwf, fun a n => Document.isAncestor_iff hwf⟩

/-- A detached paragraph and a discarded element: the causes in their order, and a success. -/
theorem reachable_edits_answer_to_stale_handles :
    let d := runAll (Markup.readMarkup "<p>x</p><b></b>") [.detach ⟨1⟩, .discard ⟨3⟩]
    Reachable d ∧
    (appendChild ⟨3⟩ ⟨1⟩).run d = .error (.missingNode ⟨3⟩) d ∧
    (appendChild ⟨2⟩ root).run d = .error (.invalidParent ⟨2⟩) d ∧
    (appendChild ⟨1⟩ ⟨3⟩).run d = .error (.missingNode ⟨3⟩) d ∧
    (appendChild root ⟨2⟩).run d = .error (.alreadyAttached ⟨2⟩) d ∧
    (appendChild ⟨1⟩ ⟨1⟩).run d = .error (.cycleDetected ⟨1⟩ ⟨1⟩) d ∧
    (insertBefore root ⟨1⟩ ⟨2⟩).run d = .error (.notAChild root ⟨2⟩) d ∧
    ∃ d', (appendChild root ⟨1⟩).run d = .ok () d' ∧ d'.WellFormed := by
  intro d
  have h : Reachable d := (Reachable.read _).runAll _
  have hall := reachable_edits_answer h
  have hcause : firstCause? (d.attachCauses ⟨3⟩ ⟨1⟩) = some (.missingNode ⟨3⟩) ∧
      firstCause? (d.attachCauses ⟨2⟩ root) = some (.invalidParent ⟨2⟩) ∧
      firstCause? (d.attachCauses ⟨1⟩ ⟨3⟩) = some (.missingNode ⟨3⟩) ∧
      firstCause? (d.attachCauses root ⟨2⟩) = some (.alreadyAttached ⟨2⟩) ∧
      firstCause? (d.attachCauses ⟨1⟩ ⟨1⟩) = some (.cycleDetected ⟨1⟩ ⟨1⟩) ∧
      firstCause? (d.insertCauses root ⟨1⟩ ⟨2⟩) = some (.notAChild root ⟨2⟩) ∧
      firstCause? (d.attachCauses root ⟨1⟩) = none := by decide +kernel
  obtain ⟨h₁, h₂, h₃, h₄, h₅, h₆, h₇⟩ := hcause
  have hlast := hall.1 root ⟨1⟩
  simp only [Answers, h₇] at hlast
  obtain ⟨_, d', hrun, hwf⟩ := hlast
  exact ⟨h, by simpa only [Answers, h₁] using hall.1 ⟨3⟩ ⟨1⟩,
    by simpa only [Answers, h₂] using hall.1 ⟨2⟩ root,
    by simpa only [Answers, h₃] using hall.1 ⟨1⟩ ⟨3⟩,
    by simpa only [Answers, h₄] using hall.1 root ⟨2⟩,
    by simpa only [Answers, h₅] using hall.1 ⟨1⟩ ⟨1⟩,
    by simpa only [Answers, h₆] using hall.2.1 root ⟨1⟩ ⟨2⟩, d', hrun, hwf⟩

end Conversion

end AmpMarkup
