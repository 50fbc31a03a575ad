import AmpMarkup.Conversion.AudioElement
import AmpMarkup.Markup.Reader

namespace AmpMarkup.Conversion

open AmpMarkup.Markup

/-!
# Histories of documents

A document starts out empty or is read from markup, and is then changed by actions, some of which
may fail. What holds of every document with a history holds of every document there is.

* `Action` — what can be done to a document; `Action.run` — what it leaves behind.
* `runAll` — several actions, one after the other.
* `Reachable` — the documents with a history.
-/

/-- Something that can be done to a document, with handles that may be stale or unknown. -/
inductive Action where
  | createElement (name : String) (attributes : Attributes)
  | createText (content : String)
  | createComment (content : String)
  | appendChild (parent child : NodeId)
  | insertBefore (parent child before : NodeId)
  | removeChild (parent child : NodeId)
  | replaceChild (parent new old : NodeId)
  | detach (n : NodeId)
  | discard (n : NodeId)
  | cloneNode (n : NodeId) (deep : Bool)
  | setAttribute (n : NodeId) (name value : String)
  | setAttributes (n : NodeId) (attributes : Attributes)
  | removeAttribute (n : NodeId) (name : String)
  | detachChildren (n : NodeId)
  | wrapWithFallback (source replacement fallback : NodeId)
  | convertAudio (policy : Policy)
  deriving Repr

/-- The document that an action leaves behind, whether it succeeds or fails. -/
def Action.run : Action → Document → Document
  | createElement name attributes => (Edit.createElement name attributes).exec
  | createText content => (Edit.createText content).exec
  | createComment content => (Edit.createComment content).exec
  | appendChild parent child => (Edit.appendChild parent child).exec
  | insertBefore parent child before => (Edit.insertBefore parent child before).exec
  | removeChild parent child => (Edit.removeChild parent child).exec
  | replaceChild parent new old => (Edit.replaceChild parent new old).exec
  | detach n => (Edit.detach n).exec
  | discard n => (Edit.discard n).exec
  | cloneNode n deep => (Edit.cloneNode n deep).exec
  | setAttribute n name value => (Edit.setAttribute n name value).exec
  | setAttributes n attributes => (Edit.setAttributes n attributes).exec
  | removeAttribute n name => (Edit.removeAttribute n name).exec
  | detachChildren n => (Edit.detachChildren n).exec
  | wrapWithFallback source replacement fallback =>
    (Edit.wrapWithFallback source replacement fallback).exec
  | convertAudio policy => fun d => (policy.convertAudio d).2

/-- The document after several actions. -/
def runAll (d : Document) (actions : List Action) : Document :=
  actions.foldl (fun d a => a.run d) d

/-- A document that starts out empty or is read from markup, after some actions. -/
inductive Reachable : Document → Prop where
  | empty : Reachable .empty
  | read (s : String) : Reachable (readMarkup s)
  | run {d : Document} (a : Action) : Reachable d → Reachable (a.run d)

/-- A document with a history still has one after further actions. -/
theorem Reachable.runAll {d : Document} (h : Reachable d) (actions : List Action) :
    Reachable (runAll d actions) := by
  induction actions generalizing d with
  | nil => exact h
  | cons a rest ih => exact ih (.run a h)

end AmpMarkup.Conversion
