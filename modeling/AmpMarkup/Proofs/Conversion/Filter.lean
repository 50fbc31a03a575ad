import AmpMarkup.Conversion.AttributeRule
import AmpMarkup.Proofs.Conversion.Length
import AmpMarkup.Proofs.Document.Attributes

namespace AmpMarkup.Conversion

open AmpMarkup.Text

/-!
# Filtering attributes twice

A value that a rule has let through is one that the rule leaves as it is, and a name that a rule has
given is one that no rule changes. A second filtering therefore finds nothing to do.

* `checkUrl_attribute` — a URL of the element itself is used as it stands, without blanks around it.
* `filterEntry?_of_mem_filter` — each entry that is left is left again.
* `filter_filter` — filtering is done once, with every table whose new names are kept.
* `filter_settles` — and nothing is left that a rule would still change.
-/

variable {policy : Policy} {table : AttributeTable}

/-! ### URLs -/

/-- A text that is accepted for an attribute is left as it is. -/
theorem checkTrimmed_attribute {text url : List Char}
    (h : policy.checkTrimmed .attribute text = .ok url) : url = text := by
  -- Every branch that accepts the text gives it back; only an alternate source is upgraded.
  unfold Policy.checkTrimmed at h
  split at h
  · exact absurd h (by simp)
  · split at h
    · split at h
      · exact (Except.ok.inj h).symm
      · exact absurd h (by simp)
    · split at h
      · split at h
        · exact (Except.ok.inj h).symm
        · split at h
          · split at h
            · exact absurd h (by simp)
            · exact (Except.ok.inj h).symm
          · split at h
            · exact absurd h (by simp)
            · exact (Except.ok.inj h).symm
      · split at h
        · exact absurd h (by simp)
        · exact (Except.ok.inj h).symm
      · exact absurd h (by simp)

/-- A URL of the element itself is used as it stands, without the blanks around it. -/
theorem checkUrl_attribute {raw url : String} (h : policy.checkUrl .attribute raw = .ok url) :
    url = String.ofList (trim isAsciiBlank raw.toList) := by
  rw [Policy.checkUrl] at h
  cases hcheck : policy.checkTrimmed .attribute (trim isAsciiBlank raw.toList) with
  | error rejection =>
    rw [hcheck] at h
    exact absurd h (by simp [Except.map])
  | ok text =>
    rw [hcheck] at h
    rw [← checkTrimmed_attribute hcheck]
    exact (Except.ok.inj h).symm

/-- A URL that is used is used again. -/
theorem checkUrl_checkUrl {raw url : String} (h : policy.checkUrl .attribute raw = .ok url) :
    policy.checkUrl .attribute url = .ok url := by
  have hurl := checkUrl_attribute h
  have htrim : trim isAsciiBlank url.toList = trim isAsciiBlank raw.toList := by
    rw [hurl, String.toList_ofList, trim_trim]
  rw [Policy.checkUrl, htrim]
  exact h

/-- Where sources must be served over a secure transport, there is nothing to upgrade. -/
theorem checkUrl_eq_attribute (h : policy.requireHttps = true) (site : UrlSite) (raw : String) :
    policy.checkUrl site raw = policy.checkUrl .attribute raw := by
  rw [Policy.checkUrl, Policy.checkUrl]
  simp only [Policy.checkTrimmed, h, if_true]

/-- There, a URL that is used in one place can be used in every other. -/
theorem checkUrl_of_checkUrl (h : policy.requireHttps = true) {site : UrlSite} {raw url : String}
    (hcheck : policy.checkUrl site raw = .ok url) (site' : UrlSite) :
    policy.checkUrl site' url = .ok url := by
  rw [checkUrl_eq_attribute h] at hcheck ⊢
  exact checkUrl_checkUrl hcheck

/-! ### Rules -/

/-- The names that a table gives are names that it keeps. -/
def TargetsKept (table : AttributeTable) : Prop :=
  ∀ e ∈ table, ∀ target, e.2 = .rename target → ruleFor table target = .keep

/-- The two names that the rules for audio give are names that they keep. -/
theorem targetsKept_audioRules : TargetsKept audioRules := by
  intro e he target htarget
  rw [audioRules] at he
  simp only [List.mem_cons, List.not_mem_nil, or_false] at he
  rcases he with rfl | rfl | rfl | rfl | rfl | rfl | rfl | rfl | rfl
  case inr.inr.inr.inr.inr.inr.inr.inl =>
    rw [← AttributeRule.rename.inj htarget]
    decide +kernel
  case inr.inr.inr.inr.inr.inr.inr.inr =>
    rw [← AttributeRule.rename.inj htarget]
    decide +kernel
  all_goals exact AttributeRule.noConfusion htarget

/-- The rule of a name does not depend on its case. -/
theorem ruleFor_fold (table : AttributeTable) (name : String) :
    ruleFor table (fold name) = ruleFor table name := by
  simp only [ruleFor, sameFold, fold_fold]

/-- A name is renamed only by an entry of the table. -/
theorem mem_of_ruleFor_rename {name target : String} (h : ruleFor table name = .rename target) :
    ∃ e ∈ table, e.2 = .rename target := by
  rw [ruleFor] at h
  split at h
  · rename_i e hfind
    exact ⟨e, List.mem_of_find?_eq_some hfind, h⟩
  · exact AttributeRule.noConfusion h

/-- What becomes of an attribute stays as it is, also under its name in lower case. -/
theorem filterEntry?_filterEntry? (htable : TargetsKept table) {e e' : String × String}
    (h : policy.filterEntry? table e = some e') :
    policy.filterEntry? table (fold e'.1, e'.2) = some (fold e'.1, e'.2) := by
  unfold Policy.filterEntry? at h
  cases hrule : ruleFor table e.1 with
  | url =>
    rw [hrule] at h
    obtain ⟨url, hurl, rfl⟩ := Option.map_eq_some_iff.mp h
    -- The URL that is left is accepted again as it stands.
    have hcheck : policy.checkUrl .attribute e.2 = .ok url := by
      cases hcheck : policy.checkUrl .attribute e.2 with
      | error rejection =>
        rw [hcheck] at hurl
        exact absurd hurl (by simp [Except.toOption])
      | ok used =>
        rw [hcheck] at hurl
        rw [← Option.some.inj hurl]
    unfold Policy.filterEntry?
    rw [ruleFor_fold, hrule]
    simp [checkUrl_checkUrl hcheck, Except.toOption]
  | length axis =>
    rw [hrule] at h
    obtain ⟨value, hvalue, rfl⟩ := Option.map_eq_some_iff.mp h
    unfold Policy.filterEntry?
    rw [ruleFor_fold, hrule]
    simp [normalizeLength?_normalizeLength? hvalue]
  | boolean =>
    rw [hrule] at h
    have hset : (e.1, "") = e' := by
      dsimp only at h
      split at h
      · exact absurd h (by simp)
      · exact Option.some.inj h
    -- The empty value of a switch is not taken for `false`.
    have hnever : ¬ ("" : String) = "false" := by decide
    rw [← hset]
    unfold Policy.filterEntry?
    rw [ruleFor_fold, hrule]
    exact if_neg hnever
  | rename target =>
    rw [hrule] at h
    -- The new name is one that the table keeps.
    obtain ⟨entry, hentry, htarget⟩ := mem_of_ruleFor_rename hrule
    rw [← Option.some.inj h]
    unfold Policy.filterEntry?
    rw [ruleFor_fold, htable entry hentry target htarget]
  | keep =>
    rw [hrule] at h
    rw [← Option.some.inj h]
    unfold Policy.filterEntry?
    rw [ruleFor_fold, hrule]

/-! ### Tables -/

/-- Each entry that is left is left again. -/
theorem filterEntry?_of_mem_filter (htable : TargetsKept table) {a : Attributes}
    {e : String × String} (he : e ∈ (policy.filter table a).entries) :
    policy.filterEntry? table e = some e := by
  obtain ⟨p, hp, rfl⟩ := Attributes.mem_ofList he
  obtain ⟨q, -, hq⟩ := List.mem_filterMap.mp hp
  exact filterEntry?_filterEntry? htable hq

/-- The rules for audio elements leave no `src` that would be rejected. -/
theorem checkUrl_of_get?_filter {a : Attributes} {url : String}
    (h : (policy.filter audioRules a).get? "src" = some url) :
    policy.checkUrl .attribute url = .ok url := by
  obtain ⟨e, he, hname, rfl⟩ := Attributes.exists_entry_of_get? h
  have hentry := filterEntry?_of_mem_filter targetsKept_audioRules he
  have hrule : ruleFor audioRules e.1 = .url := by
    rw [← ruleFor_fold, hname, ruleFor_fold]
    decide +kernel
  rw [Policy.filterEntry?, hrule] at hentry
  cases hcheck : policy.checkUrl .attribute e.2 with
  | error rejection => simp [hcheck, Except.toOption] at hentry
  | ok used =>
    have hused : (e.1, used) = e := by simpa [hcheck, Except.toOption] using hentry
    rw [← hused]

/-- A second filtering changes nothing. -/
theorem filter_filter (htable : TargetsKept table) (policy : Policy) (a : Attributes) :
    policy.filter table (policy.filter table a) = policy.filter table a := by
  have hentries : (policy.filter table a).entries.filterMap (policy.filterEntry? table) =
      (policy.filter table a).entries := by
    rw [List.filterMap_congr fun e he => filterEntry?_of_mem_filter htable he, List.filterMap_some]
  rw [Policy.filter, hentries, Attributes.ofList_entries]

/-- In particular with the table for audio elements. -/
theorem filter_audioRules_filter (policy : Policy) (a : Attributes) :
    policy.filter audioRules (policy.filter audioRules a) = policy.filter audioRules a :=
  filter_filter targetsKept_audioRules policy a

/-- With a table whose new names are kept, as the one for audio elements is, a second filtering
    finds every entry as the first one left it and changes nothing, under whatever policy and also
    where a new name met an old one. -/
theorem filter_settles :
    TargetsKept audioRules ∧
    ∀ table, TargetsKept table → ∀ (policy : Policy) (a : Attributes),
      policy.filter table (policy.filter table a) = policy.filter table a ∧
      ∀ e ∈ (policy.filter table a).entries, policy.filterEntry? table e = some e :=
  ⟨targetsKept_audioRules, fun _ htable policy a =>
    ⟨filter_filter htable policy a, fun _ he => filterEntry?_of_mem_filter htable he⟩⟩

/-- An authored name that a new one meets, behind a URL with blanks around it. -/
theorem filter_settles_of_collision :
    let policy : Policy := {}
    let a := Attributes.ofList
      [("layout", "fill"), ("src", " //a.b\n"), ("Data-AMP-Layout", "fixed")]
    let filtered := Attributes.ofList [("layout", "fixed"), ("src", "//a.b")]
    TargetsKept audioRules ∧ policy.filter audioRules a = filtered ∧
    policy.filter audioRules filtered = filtered := by
  intro policy a filtered
  have hfiltered : policy.filter audioRules a = filtered := by decide +kernel
  refine ⟨filter_settles.1, hfiltered, ?_⟩
  rw [← hfiltered]
  exact (filter_settles.2 audioRules filter_settles.1 policy a).1

end AmpMarkup.Conversion
