import AmpMarkup.Conversion.SourceUrl
import AmpMarkup.Proofs.Url.Scheme

namespace AmpMarkup.Conversion

open AmpMarkup.Text AmpMarkup.Url

/-!
# One check, two policies

A text that is no URL has the same fault under every policy. Of the others the strict policy accepts
those that are secure, and the lenient one accepts all; neither changes a secure one.

* `exists_upgrade?` — every URL of the insecure scheme can be upgraded.
* `IsSecure` — the texts that the strict policy accepts.
* `Checked` — the ways in which the checks of a text may end, and `exists_checked`, that they do.
* `checkUrl_by_policy` — what the policies say about the same text, wherever it was found.
-/

variable {text : List Char} {u : Url} {strict lenient : Policy}

/-! ### Upgrades -/

/-- Every URL of the insecure scheme can be upgraded. -/
theorem exists_upgrade? (hread : readUrl text = .ok u) (hscheme : u.scheme = insecureScheme) :
    ∃ url, upgrade? text u = some url := by
  have hkind : schemeKind u.scheme = .special := by
    rw [hscheme]
    decide
  rw [upgrade?, withScheme?_of_readUrl hread hkind, Option.map_some]
  split
  · exact ⟨_, rfl⟩
  · exact ⟨_, rfl⟩

/-! ### Texts -/

/-- A text that the strict policy accepts: one that leaves the scheme to the page, or has the secure
    scheme. -/
def IsSecure (text : List Char) : Prop :=
  text ≠ [] ∧
    if ['/', '/'].isPrefixOf text then ∃ u, readUrl (secureScheme ++ [':'] ++ text) = .ok u
    else ∃ u, readUrl text = .ok u ∧ u.scheme = secureScheme

/-- How two checks of a text may end, the strict one first. -/
inductive Checked (text : List Char) :
    Except UrlRejection (List Char) → Except UrlRejection (List Char) → Prop where
  /-- There is no URL at all. -/
  | faulty {fault : UrlRejection} : ¬ IsSecure text → fault = .empty ∨ fault = .malformed →
    Checked text (.error fault) (.error fault)
  | secure : IsSecure text → Checked text (.ok text) (.ok text)
  /-- There is one, but it is not secure. -/
  | admitted {rejection : UrlRejection} {url : List Char} : ¬ IsSecure text →
    rejection = .insecure ∨ rejection = .notHttps → Checked text (.error rejection) (.ok url)

namespace Checked

variable {r r' : Except UrlRejection (List Char)} {url : List Char}

/-- The strict check accepts the secure texts, as they are. -/
theorem ok_iff (h : Checked text r r') : r = .ok url ↔ url = text ∧ IsSecure text := by
  cases h with
  | faulty hsecure _ => simp [hsecure]
  | secure hsecure => simp [hsecure, eq_comm]
  | admitted hsecure _ => simp [hsecure]

/-- What the strict check accepts, the other one accepts as it is. -/
theorem ok_of_ok (h : Checked text r r') (hr : r = .ok url) : r' = .ok url := by
  cases h with
  | faulty _ _ => cases hr
  | secure _ => exact hr
  | admitted _ _ => cases hr

/-- What is not there, or not well formed, is so for both. -/
theorem error_iff (h : Checked text r r') {fault : UrlRejection}
    (hfault : fault = .empty ∨ fault = .malformed) : r = .error fault ↔ r' = .error fault := by
  cases h with
  | faulty _ _ => exact Iff.rfl
  | secure _ => simp
  | admitted _ hrejection =>
    rcases hfault with rfl | rfl <;> rcases hrejection with rfl | rfl <;> simp

/-- What the lenient check rejects is not there, or not well formed. -/
theorem fault_of_error (h : Checked text r r') {rejection : UrlRejection}
    (hr' : r' = .error rejection) : rejection = .empty ∨ rejection = .malformed := by
  cases h with
  | faulty _ hfault =>
    cases hr'
    exact hfault
  | secure _ => cases hr'
  | admitted _ _ => cases hr'

end Checked

/-- A text that does not leave the scheme to the page is secure by its own scheme. -/
theorem isSecure_iff_of_not_relative (hne : text ≠ []) (h : ['/', '/'].isPrefixOf text = false) :
    IsSecure text ↔ ∃ u, readUrl text = .ok u ∧ u.scheme = secureScheme := by
  rw [IsSecure, h, if_neg Bool.false_ne_true]
  exact and_iff_right hne

/-- A text that leaves the scheme to the page is secure if it can be read with the secure scheme. -/
theorem isSecure_iff_of_relative (hne : text ≠ []) (h : ['/', '/'].isPrefixOf text = true) :
    IsSecure text ↔ ∃ u, readUrl (secureScheme ++ [':'] ++ text) = .ok u := by
  rw [IsSecure, h, if_pos rfl]
  exact and_iff_right hne

/-- Wherever a text was found, the strict policy says the same, and the lenient one agrees unless it
    admits more. -/
theorem exists_checked (hstrict : strict.requireHttps = true)
    (hlenient : lenient.requireHttps = false) (text : List Char) :
    ∃ r, ∀ site, strict.checkTrimmed site text = r ∧
      Checked text r (lenient.checkTrimmed site text) := by
  simp only [Policy.checkTrimmed, hstrict, hlenient, if_true, Bool.false_eq_true, if_false]
  cases hempty : text.isEmpty with
  | true =>
    have hsecure : ¬ IsSecure text := fun h => h.1 (List.isEmpty_iff.mp hempty)
    exact ⟨_, fun site => ⟨rfl, .faulty hsecure (.inl rfl)⟩⟩
  | false =>
  have hne : text ≠ [] := List.isEmpty_eq_false_iff.mp hempty
  cases hrelative : ['/', '/'].isPrefixOf text with
  | true =>
    cases hread : readUrl (secureScheme ++ [':'] ++ text) with
    | ok u =>
      have hsecure := (isSecure_iff_of_relative hne hrelative).mpr ⟨u, hread⟩
      exact ⟨_, fun site => ⟨rfl, .secure hsecure⟩⟩
    | error e =>
      have hsecure : ¬ IsSecure text := by
        rw [isSecure_iff_of_relative hne hrelative, hread]
        simp
      exact ⟨_, fun site => ⟨rfl, .faulty hsecure (.inr rfl)⟩⟩
  | false =>
  have hsecure_iff := isSecure_iff_of_not_relative hne hrelative
  cases hread : readUrl text with
  | error e =>
    have hsecure : ¬ IsSecure text := by
      rw [hsecure_iff, hread]
      simp
    -- A text without a scheme may be read relative to a page; every other error is final.
    cases e with
    | noScheme => exact ⟨_, fun site => ⟨rfl, .admitted hsecure (.inr rfl)⟩⟩
    | _ => exact ⟨_, fun site => ⟨rfl, .faulty hsecure (.inr rfl)⟩⟩
  | ok u =>
    have hscheme : IsSecure text ↔ u.scheme = secureScheme := by
      rw [hsecure_iff, hread]
      simp
    dsimp only
    by_cases hs : u.scheme = secureScheme
    · simp only [if_pos hs]
      exact ⟨_, fun site => ⟨rfl, .secure (hscheme.mpr hs)⟩⟩
    simp only [if_neg hs]
    by_cases hi : u.scheme = insecureScheme
    · -- An upgrade never fails, so no site rejects the URL.
      obtain ⟨url, hurl⟩ := exists_upgrade? hread hi
      simp only [if_pos hi, hurl]
      refine ⟨_, fun site => ⟨rfl, ?_⟩⟩
      cases site <;> exact .admitted (mt hscheme.mp hs) (.inl rfl)
    · simp only [if_neg hi]
      exact ⟨_, fun site => ⟨rfl, .admitted (mt hscheme.mp hs) (.inr rfl)⟩⟩

/-! ### Raw texts -/

/-- A mapped result is accepted just if the result was. -/
theorem map_eq_ok_iff {α β ε : Type} {f : α → β} {r : Except ε α} {b : β} :
    r.map f = .ok b ↔ ∃ a, r = .ok a ∧ f a = b := by
  cases r <;> simp [Except.map]

/-- A mapped result is rejected just if the result was, for the same reason. -/
theorem map_eq_error_iff {α β ε : Type} {f : α → β} {r : Except ε α} {e : ε} :
    r.map f = .error e ↔ r = .error e := by
  cases r <;> simp [Except.map]

/-- What the policies say about a text, wherever it was found. The strict one accepts what is secure
    without the blanks around it, and so does the lenient one. It rejects more, but both find that
    there is nothing, or nothing well formed, in the same texts; nothing else is rejected by the
    lenient one. -/
theorem checkUrl_by_policy (hstrict : strict.requireHttps = true)
    (hlenient : lenient.requireHttps = false) (raw : String) (site site' : UrlSite) :
    let text := trim isAsciiBlank raw.toList
    (∀ url, strict.checkUrl site raw = .ok url ↔ url = String.ofList text ∧ text ≠ [] ∧
      if ['/', '/'].isPrefixOf text then ∃ u, readUrl (secureScheme ++ [':'] ++ text) = .ok u
      else ∃ u, readUrl text = .ok u ∧ u.scheme = secureScheme) ∧
    (∀ url, strict.checkUrl site raw = .ok url → lenient.checkUrl site' raw = .ok url) ∧
    (strict.checkUrl site raw = .error .empty ↔ lenient.checkUrl site' raw = .error .empty) ∧
    (strict.checkUrl site raw = .error .malformed ↔
      lenient.checkUrl site' raw = .error .malformed) ∧
    (∀ rejection, lenient.checkUrl site' raw = .error rejection →
      rejection = .empty ∨ rejection = .malformed) ∧
    strict.checkUrl site raw = strict.checkUrl site' raw := by
  intro text
  obtain ⟨r, hr⟩ := exists_checked hstrict hlenient text
  have hchecked := (hr site').2
  have hs : ∀ site, strict.checkUrl site raw = r.map String.ofList := fun site => by
    rw [Policy.checkUrl, (hr site).1]
  have hl : lenient.checkUrl site' raw =
      (lenient.checkTrimmed site' text).map String.ofList := rfl
  rw [hs, hs, hl]
  simp only [map_eq_ok_iff, map_eq_error_iff]
  refine ⟨fun url => ?_, fun url hurl => ?_, hchecked.error_iff (.inl rfl),
    hchecked.error_iff (.inr rfl), fun rejection => hchecked.fault_of_error, trivial⟩
  · show _ ↔ url = String.ofList text ∧ IsSecure text
    simp only [hchecked.ok_iff, and_assoc, exists_eq_left]
    rw [and_comm, eq_comm]
  · obtain ⟨accepted, hok, rfl⟩ := hurl
    exact ⟨accepted, hchecked.ok_of_ok hok, rfl⟩

/-- A scheme that tabs and capital letters hide. -/
theorem checkUrl_by_policy_of_hidden_scheme :
    let strict : Policy := {}
    let lenient : Policy := { requireHttps := false }
    let raw := " hT\tTp://a.b:443/c "
    strict.requireHttps = true ∧ lenient.requireHttps = false ∧
    strict.checkUrl .attribute raw = .error .insecure ∧
    lenient.checkUrl .alternateSource raw = .ok "https://a.b/c" ∧
    ∀ rejection, lenient.checkUrl .alternateSource raw = .error rejection →
      rejection = .empty ∨ rejection = .malformed := by
  intro strict lenient raw
  have hmain := checkUrl_by_policy (show strict.requireHttps = true from rfl)
    (show lenient.requireHttps = false from rfl) raw .attribute .alternateSource
  exact ⟨rfl, rfl, by decide +kernel, by decide +kernel, hmain.2.2.2.2.1⟩

end AmpMarkup.Conversion
