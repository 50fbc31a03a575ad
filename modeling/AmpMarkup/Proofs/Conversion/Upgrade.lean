import AmpMarkup.Proofs.Conversion.SourceUrl
import AmpMarkup.Proofs.Url.Ideographs

namespace AmpMarkup.Conversion

open AmpMarkup.Text AmpMarkup.Url

/-!
# What is accepted is accepted again

An alternative source that is not secure is upgraded: where the text begins with its scheme, this is
replaced in the text, else the URL is written anew. Either way the result is a secure URL, which
nothing rejects. Only writing anew may go wrong, when the host has a label that the text gives
in its own characters and whose encoded form is too long to be read.

* `losesHost` — the texts for which it goes wrong.
* `exists_readUrl_of_startsInsecure`, `IsNormal.readUrl_write` — the two ways to upgrade;
  `Upgraded`, `upgraded_of_upgrade?` — what both lead to.
* `checkTrimmed_cases` — what is accepted is the text itself or an upgrade of it.
* `checkUrl_settles` — hence what becomes of it in a second check.
-/

variable {c : Char} {text url : List Char} {u : Url} {policy : Policy} {site : UrlSite}
  {lost : Bool}

/-! ### The scheme in the text -/

/-- The text begins with the scheme that is not secure. -/
def startsInsecure (text : List Char) : Bool :=
  sameFoldChars (text.take 5) (insecureScheme ++ [':'])

/-- A letter may stand in a scheme. -/
theorem isSchemeChar_of_isAlpha (h : c.isAlpha = true) : isSchemeChar c = true := by
  simp [isSchemeChar, Char.isAlphanum, h]

/-- Only a colon becomes a colon in lower case. -/
theorem eq_colon_of_toLower (h : c.toLower = ':') : c = ':' := by
  have hcode := congrArg Char.toNat h
  have hcolon : ':'.toNat = 58 := rfl
  rw [toNat_toLower, hcolon] at hcode
  apply Char.toNat_inj.mp
  split at hcode <;> omega

/-- Such a text is the scheme in some case, a colon and the rest. -/
theorem exists_of_startsInsecure (h : startsInsecure text = true) :
    ∃ pre, text = pre ++ ':' :: text.drop 5 ∧ pre.map Char.toLower = insecureScheme ∧
      ∀ c ∈ pre, c.isAlpha = true := by
  have hfold : (text.take 5).map Char.toLower = insecureScheme ++ [':'] := by
    rw [startsInsecure, sameFoldChars, beq_iff_eq] at h
    exact h
  obtain ⟨pre, mark, htake, hpre, hmark⟩ := List.map_eq_append_iff.mp hfold
  obtain ⟨c, rfl, hc⟩ := List.map_eq_singleton_iff.mp hmark
  refine ⟨pre, ?_, hpre, fun c hc => ?_⟩
  · conv_lhs => rw [← List.take_append_drop 5 text, htake, eq_colon_of_toLower hc]
    rw [List.append_assoc, List.singleton_append]
  · have hmem : c.toLower ∈ insecureScheme := hpre ▸ List.mem_map_of_mem hc
    exact isAlpha_of_toLower ((by decide : ∀ c ∈ insecureScheme, c.isAlpha = true) _ hmem)

/-- The scheme is read wherever it stands in the text, and so is the one in its place. -/
theorem exists_readUrl_of_startsInsecure (h : startsInsecure text = true)
    (hread : readUrl text = .ok u) :
    ∃ port?, readUrl (secureScheme ++ ':' :: text.drop 5) = .ok (u.under secureScheme port?) := by
  obtain ⟨pre, htext, hpre, halpha⟩ := exists_of_startsInsecure h
  have hhead : pre.head?.any Char.isAlpha = true := by
    cases pre with
    | nil => cases hpre
    | cons c cs => exact halpha c List.mem_cons_self
  rw [htext, readUrl_of_scheme hhead (fun c hc => isSchemeChar_of_isAlpha (halpha c hc)) _
    (by rw [hpre]; decide)] at hread
  rw [readUrl_of_scheme (by decide) (by decide) _ (by decide)]
  exact readWithAuthority_under hread _

/-! ### Upgrades -/

/-- Is the text read as a URL that is to be written anew, and then no more is read? -/
def losesHost (text : List Char) : Bool :=
  match readUrl text with
  | .ok u => u.scheme = insecureScheme && !startsInsecure text && u.isOverlong
  | .error _ => false

/-- For a text that is read with the insecure scheme, two things decide: its beginning and its
    host. -/
theorem losesHost_of_readUrl (hread : readUrl text = .ok u) (hscheme : u.scheme = insecureScheme) :
    losesHost text = (!startsInsecure text && u.isOverlong) := by
  rw [losesHost, hread]
  simp [hscheme]

/-- What an upgrade leads to: a secure URL, or one that is lost. -/
structure Upgraded (lost : Bool) (url : List Char) : Prop where
  trimmed : trim isAsciiBlank url = url
  absolute : ['/', '/'].isPrefixOf url = false
  read : if lost then readUrl url = .error .invalidDomain
    else ∃ u, readUrl url = .ok u ∧ u.scheme = secureScheme

/-- Blanks are among the characters that a written URL does not have. -/
theorem not_isAsciiBlank_of_not (h : isControlOrSpace c = false) : isAsciiBlank c = false := by
  rw [Bool.eq_false_iff]
  intro hblank
  have hall : ∀ c ∈ [' ', '\t', '\n', '\x0c', '\r'], isControlOrSpace c = true := by decide
  rw [hall c (by simpa [isAsciiBlank, or_assoc] using hblank)] at h
  cases h

/-- The scheme in the text is replaced. -/
theorem upgraded_of_startsInsecure (htrim : trim isAsciiBlank text = text)
    (h : startsInsecure text = true) (hread : readUrl text = .ok u) :
    Upgraded false (secureScheme ++ ':' :: text.drop 5) where
  trimmed := by
    obtain ⟨pre, htext, -, halpha⟩ := exists_of_startsInsecure h
    have hpre : ∀ c ∈ pre ++ [':'], isAsciiBlank c = false := by
      intro c hc
      rcases List.mem_append.mp hc with hc | hc
      · exact not_isAsciiBlank_of_not
          (not_isControlOrSpace_of_isSchemeChar (isSchemeChar_of_isAlpha (halpha c hc)))
      · rw [List.mem_singleton.mp hc]
        decide
    -- The end of the text is the end of the result.
    have hend : trimEnd isAsciiBlank (text.drop 5) = text.drop 5 := by
      rw [htext, List.append_cons, trim_append (by simp) hpre] at htrim
      exact List.append_cancel_left htrim
    rw [List.append_cons, trim_append (by simp) (by decide), hend]
  absolute := rfl
  read := by
    obtain ⟨port?, hread'⟩ := exists_readUrl_of_startsInsecure h hread
    rw [if_neg Bool.false_ne_true]
    exact ⟨_, hread', rfl⟩

/-- The URL is written anew. -/
theorem upgraded_write (h : u.IsNormal) (hscheme : u.scheme = secureScheme) :
    Upgraded u.isOverlong u.write where
  trimmed := trim_of_forall fun c hc => not_isAsciiBlank_of_not (h.mem_write hc)
  absolute := by
    rw [write, hscheme]
    rfl
  read := by
    rw [h.readUrl_write]
    cases u.isOverlong with
    | true => rfl
    | false => exact ⟨u, rfl, hscheme⟩

/-- An upgrade that succeeds leads to a secure URL, unless the host is lost when it is written
    anew. -/
theorem upgraded_of_upgrade? (htrim : trim isAsciiBlank text = text) (hread : readUrl text = .ok u)
    (hscheme : u.scheme = insecureScheme) (hup : upgrade? text u = some url) :
    Upgraded (losesHost text) url := by
  have hkind : schemeKind u.scheme = .special := by
    rw [hscheme]
    decide
  rw [losesHost_of_readUrl hread hscheme]
  rw [upgrade?, ← startsInsecure, withScheme?_of_readUrl hread hkind, Option.map_some] at hup
  cases hstarts : startsInsecure text with
  | true =>
    rw [hstarts, if_pos rfl, List.append_assoc, List.singleton_append] at hup
    cases hup
    exact upgraded_of_startsInsecure htrim hstarts hread
  | false =>
    rw [hstarts, if_neg Bool.false_ne_true] at hup
    cases hup
    have hnormal : (u.withScheme secureScheme).IsNormal :=
      (isNormal_of_readUrl hread hkind).withScheme (by decide)
    rw [Bool.not_false, Bool.true_and, ← isOverlong_withScheme u secureScheme]
    exact upgraded_write hnormal rfl

namespace Upgraded

variable (h : Upgraded lost url)
include h

/-- An upgraded URL is not empty: from an empty text not even a scheme is read. -/
theorem ne_nil : url ≠ [] := by
  rintro rfl
  have hread := h.read
  cases lost with
  | true => cases hread
  | false =>
    obtain ⟨u, hread, -⟩ := hread
    cases hread

/-- No policy rejects a secure URL, and none accepts a lost one. -/
theorem checkTrimmed (policy : Policy) (site : UrlSite) :
    policy.checkTrimmed site url = if lost then .error .malformed else .ok url := by
  have hne := h.ne_nil
  rw [Policy.checkTrimmed, if_neg (by simpa using hne), h.absolute, if_neg Bool.false_ne_true]
  have hread := h.read
  cases lost with
  | true =>
    rw [if_pos rfl] at hread
    rw [hread]
    rfl
  | false =>
    obtain ⟨u, hread, hscheme⟩ := hread
    rw [hread]
    dsimp only
    rw [if_pos hscheme]
    rfl

/-- The check of the raw text is that of the text itself, which has no blanks at its ends. -/
theorem checkUrl (policy : Policy) (site : UrlSite) : policy.checkUrl site (String.ofList url) =
    if lost then .error .malformed else .ok (String.ofList url) := by
  rw [Policy.checkUrl, String.toList_ofList, h.trimmed, h.checkTrimmed]
  cases lost <;> rfl

end Upgraded

/-! ### Accepted texts -/

/-- A text that leaves the scheme to the page is not read on its own. -/
theorem readUrl_of_relative (h : ['/', '/'].isPrefixOf text = true) :
    readUrl text = .error .noScheme := by
  obtain ⟨rest, rfl⟩ := List.isPrefixOf_iff_prefix.mp h
  rw [readUrl, significant_append (by simp) (by decide)]
  rfl

/-- What is accepted is the text itself, which then is no URL that a source should have upgraded, or
    the upgrade of it. -/
theorem checkTrimmed_cases (h : policy.checkTrimmed site text = .ok url) :
    (url = text ∧ (site = .alternateSource →
      ∀ u, readUrl text = .ok u → u.scheme ≠ insecureScheme)) ∨
    (policy.requireHttps = false ∧ site = .alternateSource ∧
      ∃ u, readUrl text = .ok u ∧ u.scheme = insecureScheme ∧ upgrade? text u = some url) := by
  unfold Policy.checkTrimmed at h
  split at h
  · cases h
  split at h
  · -- What leaves the scheme to the page is kept, and is no URL on its own.
    rename_i hrelative
    refine .inl ⟨?_, fun _ u hu => ?_⟩
    · split at h
      · exact (Except.ok.inj h).symm
      · cases h
    · rw [readUrl_of_relative hrelative] at hu
      cases hu
  split at h
  · -- Of the texts that are URLs only those with the insecure scheme are ever changed.
    rename_i u hread
    have hother : u.scheme ≠ insecureScheme → url = text → url = text ∧ (site = .alternateSource →
        ∀ u, readUrl text = .ok u → u.scheme ≠ insecureScheme) := fun hne heq => by
      refine ⟨heq, fun _ u' hu' => ?_⟩
      rw [hread] at hu'
      cases hu'
      exact hne
    split at h
    · rename_i hscheme
      exact .inl (hother (by rw [hscheme]; decide) (Except.ok.inj h).symm)
    split at h
    · rename_i hscheme
      split at h
      · cases h
      rename_i hlenient
      split at h
      · exact .inl ⟨(Except.ok.inj h).symm, nofun⟩
      · split at h
        · rename_i hup
          cases h
          exact .inr ⟨by simpa using hlenient, rfl, u, hread, hscheme, hup⟩
        · cases h
    · rename_i hscheme
      split at h
      · cases h
      · exact .inl (hother hscheme (Except.ok.inj h).symm)
  · -- A text without a scheme is kept if it is not rejected.
    rename_i herror
    split at h
    · cases h
    · refine .inl ⟨(Except.ok.inj h).symm, fun _ u hu => ?_⟩
      rw [herror] at hu
      cases hu
  · cases h

/-- A source that is not secure is always upgraded by a lenient policy. -/
theorem checkTrimmed_of_insecure (hlenient : policy.requireHttps = false)
    (hread : readUrl text = .ok u) (hscheme : u.scheme = insecureScheme) :
    ∃ url, policy.checkTrimmed .alternateSource text = .ok url ∧ upgrade? text u = some url := by
  obtain ⟨url, hup⟩ := exists_upgrade? hread hscheme
  have hne : text ≠ [] := by
    rintro rfl
    cases hread
  have habsolute : ['/', '/'].isPrefixOf text = false := by
    rw [Bool.eq_false_iff]
    intro hrelative
    rw [readUrl_of_relative hrelative] at hread
    cases hread
  have hsecure : u.scheme ≠ secureScheme := by
    rw [hscheme]
    decide
  refine ⟨url, ?_, hup⟩
  rw [Policy.checkTrimmed, if_neg (by simpa using hne), habsolute, if_neg Bool.false_ne_true, hread]
  dsimp only
  rw [if_neg hsecure, if_pos hscheme, hlenient, if_neg Bool.false_ne_true, hup]

section

variable (htrim : trim isAsciiBlank text = text)
include htrim

/-- The second check of an accepted text. -/
theorem checkTrimmed_again (h : policy.checkTrimmed site text = .ok url) :
    trim isAsciiBlank url = url ∧ policy.checkTrimmed site url =
      if policy.requireHttps = false ∧ site = .alternateSource ∧ losesHost text = true
      then .error .malformed else .ok url := by
  rcases checkTrimmed_cases h with ⟨rfl, hsecure⟩ | ⟨hlenient, hsite, u, hread, hscheme, hup⟩
  · -- The text is checked as before, and it is not lost.
    refine ⟨htrim, ?_⟩
    rw [h, if_neg]
    rintro ⟨-, hsite, hlost⟩
    rw [losesHost] at hlost
    cases hread : readUrl url with
    | error e =>
      rw [hread] at hlost
      cases hlost
    | ok u =>
      rw [hread] at hlost
      simp [hsecure hsite u hread] at hlost
  · have hupgraded := upgraded_of_upgrade? htrim hread hscheme hup
    refine ⟨hupgraded.trimmed, ?_⟩
    rw [hupgraded.checkTrimmed]
    simp only [hlenient, hsite, true_and]

/-- No alternative source keeps the insecure scheme. -/
theorem scheme_ne_of_checkTrimmed (h : policy.checkTrimmed .alternateSource text = .ok url)
    (hu : readUrl url = .ok u) : u.scheme ≠ insecureScheme := by
  rcases checkTrimmed_cases h with ⟨rfl, hsecure⟩ | ⟨-, -, u', hread, hscheme, hup⟩
  · exact hsecure rfl u hu
  · have hupgraded := (upgraded_of_upgrade? htrim hread hscheme hup).read
    rw [hu] at hupgraded
    split at hupgraded
    · cases hupgraded
    · obtain ⟨_, heq, hsecure⟩ := hupgraded
      cases heq
      rw [hsecure]
      decide

/-- A source that has it is upgraded. -/
theorem exists_upgraded (hlenient : policy.requireHttps = false) (hread : readUrl text = .ok u)
    (hscheme : u.scheme = insecureScheme) :
    ∃ url, policy.checkTrimmed .alternateSource text = .ok url ∧ Upgraded (losesHost text) url := by
  obtain ⟨url, hok, hup⟩ := checkTrimmed_of_insecure hlenient hread hscheme
  exact ⟨url, hok, upgraded_of_upgrade? htrim hread hscheme hup⟩

end

/-! ### Lost URLs -/

/-- A URL whose host is the label `s`; the control character before it hides the scheme from the
    upgrade, so the URL is written anew. -/
def hiddenUrl (s : List Char) : List Char :=
  '\x01' :: (insecureScheme ++ ':' :: '/' :: '/' :: (s ++ ['/']))

section

variable {s : List Char} (h : ∀ c ∈ s, Unicode.isIdeograph c = true)
include h

/-- The control character in front is no blank, so nothing is trimmed. -/
theorem trim_hiddenUrl : trim isAsciiBlank (hiddenUrl s) = hiddenUrl s := by
  have hplain : ∀ c ∈ ['\x01', ':', '/'] ++ insecureScheme, isAsciiBlank c = false := by decide
  refine trim_of_forall fun c hc => ?_
  by_cases hs : c ∈ s
  · have hle := le_of_isIdeograph (h c hs)
    exact not_isAsciiBlank_of_not (decide_eq_false (by omega))
  · refine hplain c ?_
    simp only [hiddenUrl, List.mem_cons, List.mem_append, List.not_mem_nil, or_false] at hc ⊢
    tauto

/-- If the encoded form of the label is too long to be decoded, the upgrade loses the host. -/
theorem losesHost_hiddenUrl (hne : s ≠ []) (hlength : s.length ≤ Label.maxDecodedLength)
    (hlong : Label.isOverlong (Label.encodedStart ++ Punycode.encode s) = true) :
    ∃ u, readUrl (hiddenUrl s) = .ok u ∧ u.scheme = insecureScheme ∧
      losesHost (hiddenUrl s) = true := by
  -- The control character does not count for the reader; for the upgrade it does.
  have hcontrol : ∀ text, readUrl ('\x01' :: text) = readUrl text := fun text => by
    rw [readUrl, readUrl, significant, trim, List.dropWhile_cons_of_pos (by decide)]
    rfl
  have hread := readUrl_of_isIdeograph hne h hlength
    (by decide : schemeKind insecureScheme = .special)
  rw [← hcontrol, ← hiddenUrl] at hread
  have hstarts : startsInsecure (hiddenUrl s) = false := rfl
  refine ⟨_, hread, rfl, ?_⟩
  rw [losesHost_of_readUrl hread rfl, hstarts, isOverlong, Option.any_some, Host.isOverlong,
    splitOnChar_of_not_mem (dot_not_mem_encoded hne h hlength), List.any_cons, hlong]
  rfl

end

/-- A label of 900 ideographs, whose code points are 23 apart. -/
def longLabel : List Char := (List.range 900).map fun i => Char.ofNat (0x4E00 + 23 * i)

/-- The label has as many characters as there are numbers to make them of. -/
theorem length_longLabel : longLabel.length = 900 := by
  rw [longLabel, List.length_map, List.length_range]

/-- All of its characters are ideographs. -/
theorem isIdeograph_of_mem_longLabel : ∀ c ∈ longLabel, Unicode.isIdeograph c = true := by
  decide +kernel

/-- Its encoded form is longer than what is decoded: each character takes more than two digits. -/
theorem isOverlong_longLabel :
    Label.isOverlong (Label.encodedStart ++ Punycode.encode longLabel) = true := by
  have hcodes : (Punycode.initialCode :: longLabel.map Char.toNat).IsChain (· + 23 ≤ ·) := by
    decide +kernel
  have hlength := Punycode.length_encode hcodes
  have hmax : Label.maxEncodedLength = 2000 := rfl
  rw [length_longLabel] at hlength
  rw [Label.isOverlong, List.drop_left, Bool.and_eq_true, decide_eq_true_iff]
  exact ⟨by simp, by omega⟩

/-! ### Raw texts -/

/-- What is accepted is accepted again and not changed any more, and what an alternative source
    becomes under a lenient policy never has the insecure scheme. What has that scheme is upgraded
    there to a secure URL, and then no policy rejects it anywhere. The exception is a URL that is
    written anew and whose host has a label too long to be read again: it is accepted, and is
    malformed from then on. -/
theorem checkUrl_settles (raw : String) :
    (∀ (policy : Policy) site url, policy.checkUrl site raw = .ok url →
      policy.checkUrl site url =
        if policy.requireHttps = false ∧ site = .alternateSource ∧
          losesHost (trim isAsciiBlank raw.toList) = true
        then .error .malformed else .ok url) ∧
    (∀ (lenient : Policy) url, lenient.requireHttps = false →
      lenient.checkUrl .alternateSource raw = .ok url →
      ∀ u, readUrl url.toList = .ok u → u.scheme ≠ insecureScheme) ∧
    (∀ u, readUrl (trim isAsciiBlank raw.toList) = .ok u → u.scheme = insecureScheme →
      ∀ lenient : Policy, lenient.requireHttps = false →
      ∃ url, lenient.checkUrl .alternateSource raw = .ok url ∧
        if losesHost (trim isAsciiBlank raw.toList) = true then
          readUrl url.toList = .error .invalidDomain ∧
          ∀ (policy : Policy) site, policy.checkUrl site url = .error .malformed
        else
          (∃ u, readUrl url.toList = .ok u ∧ u.scheme = secureScheme) ∧
          ∀ (policy : Policy) site, policy.checkUrl site url = .ok url) := by
  have htrim := trim_trim isAsciiBlank raw.toList
  refine ⟨fun policy site url h => ?_, fun lenient url _ h u hu => ?_,
    fun u hread hscheme lenient hlenient => ?_⟩
  · obtain ⟨accepted, hok, rfl⟩ := map_eq_ok_iff.mp h
    obtain ⟨haccepted, hagain⟩ := checkTrimmed_again htrim hok
    rw [Policy.checkUrl, String.toList_ofList, haccepted, hagain]
    split <;> rfl
  · obtain ⟨accepted, hok, rfl⟩ := map_eq_ok_iff.mp h
    rw [String.toList_ofList] at hu
    exact scheme_ne_of_checkTrimmed htrim hok hu
  · obtain ⟨url, hok, hupgraded⟩ := exists_upgraded htrim hlenient hread hscheme
    refine ⟨String.ofList url, by rw [Policy.checkUrl, hok]; rfl, ?_⟩
    have hcheck := hupgraded.checkUrl
    have hread' := hupgraded.read
    rw [String.toList_ofList]
    cases hlost : losesHost (trim isAsciiBlank raw.toList) with
    | true =>
      rw [hlost] at hcheck hread'
      exact ⟨hread', hcheck⟩
    | false =>
      rw [hlost] at hcheck hread'
      exact ⟨hread', hcheck⟩

/-- A scheme that is hidden by a tab, and a port that only the secure scheme stands for. -/
theorem checkUrl_settles_of_hidden_scheme :
    let lenient : Policy := { requireHttps := false }
    let raw := " hT\tTp://a.b:443/c "
    let u : Url := {
      scheme := insecureScheme
      authority? := some ⟨[], [], .domain "a.b".toList, some 443⟩
      path := .segments ["c".toList]
      query? := none
      fragment? := none }
    readUrl (trim isAsciiBlank raw.toList) = .ok u ∧ u.scheme = insecureScheme ∧
    lenient.requireHttps = false ∧ losesHost (trim isAsciiBlank raw.toList) = false ∧
    lenient.checkUrl .alternateSource raw = .ok "https://a.b/c" ∧
    lenient.checkUrl .alternateSource "https://a.b/c" = .ok "https://a.b/c" ∧
    (∀ u, readUrl "https://a.b/c".toList = .ok u → u.scheme ≠ insecureScheme) ∧
    ∀ (policy : Policy) site, policy.checkUrl site "https://a.b/c" = .ok "https://a.b/c" := by
  intro lenient raw u
  have hread : readUrl (trim isAsciiBlank raw.toList) = .ok u := by decide +kernel
  have hkept : losesHost (trim isAsciiBlank raw.toList) = false := by decide +kernel
  have hurl : lenient.checkUrl .alternateSource raw = .ok "https://a.b/c" := by decide +kernel
  obtain ⟨hsame, hscheme, hupgrade⟩ := checkUrl_settles raw
  obtain ⟨url, hok, hagain⟩ := hupgrade u hread rfl lenient rfl
  rw [hurl] at hok
  cases hok
  have hsame := hsame lenient .alternateSource _ hurl
  rw [hkept, if_neg (by simp)] at hsame
  rw [hkept, if_neg Bool.false_ne_true] at hagain
  exact ⟨hread, rfl, rfl, hkept, hurl, hsame, hscheme lenient _ rfl hurl, hagain.2⟩

/-- The label may be encoded, and is too long to be decoded. What is accepted for its URL is then
    rejected. -/
theorem checkUrl_longLabel :
    let lenient : Policy := { requireHttps := false }
    ∃ url, lenient.checkUrl .alternateSource (String.ofList (hiddenUrl longLabel)) = .ok url ∧
      lenient.checkUrl .alternateSource url = .error .malformed ∧
      readUrl url.toList = .error .invalidDomain := by
  intro lenient
  have hnil : longLabel ≠ [] := List.ne_nil_of_length_pos (by rw [length_longLabel]; decide)
  have hmax : longLabel.length ≤ Label.maxDecodedLength := by
    rw [length_longLabel]
    decide
  obtain ⟨u, hread, hscheme, hlost⟩ :=
    losesHost_hiddenUrl isIdeograph_of_mem_longLabel hnil hmax isOverlong_longLabel
  have htrim := trim_hiddenUrl isIdeograph_of_mem_longLabel
  obtain ⟨url, hok, hupgraded⟩ :=
    exists_upgraded htrim (show lenient.requireHttps = false from rfl) hread hscheme
  rw [hlost] at hupgraded
  refine ⟨String.ofList url, ?_, hupgraded.checkUrl _ _, ?_⟩
  · rw [Policy.checkUrl, String.toList_ofList, htrim, hok]
    rfl
  · rw [String.toList_ofList]
    exact hupgraded.read

end AmpMarkup.Conversion
