import AmpMarkup.Conversion.Bytewise
import AmpMarkup.Proofs.Markup.Bytewise
import AmpMarkup.Proofs.Text.Ascii

namespace AmpMarkup

open AmpMarkup.Text

/-!
# Texts are never cut inside a character

A part that equals a text of ASCII but for letter case has as many bytes as characters. So a unit or
a scheme that is found where bytes have been counted is found where as many characters have been
counted, and the text is cut between two characters there.

* `Text.length_of_sameFoldChars` — as many characters, and as many bytes.
* `dropSuffixBytewise?_eq`, `upgradeBytewise?_eq` — the cuts.
* `normalizeTrimmedBytewise?_eq`, `checkTrimmedBytewise?_eq` — lengths and URLs.
* `bytewise_total` — nothing that is read or cut at bytes fails.
-/

namespace Text

variable {s t pat : List Char} {i : Nat}

/-- A character is in ASCII just if its lower case is. -/
theorem isAscii_toLower (c : Char) : isAscii c.toLower = isAscii c := by
  rw [Bool.eq_iff_iff, isAscii_iff, isAscii_iff, toNat_toLower]
  split <;> omega

/-- What is equal to a text of ASCII but for letter case is in ASCII. -/
theorem isAscii_of_sameFoldChars (h : sameFoldChars t pat = true)
    (hpat : ∀ c ∈ pat, isAscii c = true) : ∀ c ∈ t, isAscii c = true := by
  intro c hc
  rw [sameFoldChars, beq_iff_eq] at h
  have hmem : c.toLower ∈ pat.map Char.toLower := h ▸ List.mem_map_of_mem hc
  obtain ⟨x, hx, hlower⟩ := List.mem_map.mp hmem
  rw [← isAscii_toLower, ← hlower, isAscii_toLower]
  exact hpat x hx

/-- A text of ASCII has as many bytes as characters. -/
theorem byteLength_of_isAscii (h : ∀ c ∈ s, isAscii c = true) : byteLength s = s.length := by
  induction s with
  | nil => rfl
  | cons c s ih =>
    rw [byteLength_cons, utf8Size_of_isAscii (h c List.mem_cons_self),
      ih fun x hx => h x (List.mem_cons_of_mem c hx), List.length_cons, Nat.add_comm]

/-- As many characters, and as many bytes. -/
theorem length_of_sameFoldChars (h : sameFoldChars t pat = true)
    (hpat : ∀ c ∈ pat, isAscii c = true) :
    t.length = pat.length ∧ byteLength t = byteLength pat := by
  have hlen := length_eq_of_sameFoldChars h
  refine ⟨hlen, ?_⟩
  rw [byteLength_of_isAscii (isAscii_of_sameFoldChars h hpat), byteLength_of_isAscii hpat, hlen]

/-- A cut that succeeds leaves a rest of the text, at the index of the cut. -/
theorem isRest_of_sliceFrom? (h : sliceFrom? s i = some t) : IsRest s i t := by
  obtain ⟨-, -, hi, -⟩ := slice?_isSome_iff.mp (Option.isSome_of_eq_some h)
  obtain ⟨rest, hrest⟩ := isBoundary_iff_isRest.mp hi
  rw [hrest.sliceFrom?, Option.some.injEq] at h
  exact h ▸ hrest

/-- A cut from the start that succeeds splits the text in two. -/
theorem eq_append_of_slice? (h : slice? s 0 i = some t) :
    ∃ rest, s = t ++ rest ∧ IsRest s i rest := by
  obtain ⟨-, -, -, hi⟩ := slice?_isSome_iff.mp (Option.isSome_of_eq_some h)
  obtain ⟨rest, pre, rfl, rfl⟩ := isBoundary_iff_isRest.mp hi
  have hslice := (IsRest.start (pre ++ rest)).slice?
  rw [Nat.zero_add, h, Option.some.injEq] at hslice
  subst hslice
  exact ⟨rest, rfl, t, rfl, rfl⟩

end Text

namespace Conversion

open AmpMarkup.Url

variable {tail s text : List Char}

/-! ### Lengths -/

/-- A suffix of ASCII is found at the byte where it begins. -/
theorem dropSuffixBytewise?_eq (htail : ∀ c ∈ tail, isAscii c = true) (s : List Char) :
    dropSuffixBytewise? tail s = some (dropSuffix? tail s) := by
  rw [dropSuffix?]
  generalize hn : s.length - tail.length = n
  by_cases hsame : sameFoldChars (s.drop n) tail = true
  · obtain ⟨-, hbytes⟩ := length_of_sameFoldChars hsame htail
    have hstart : IsRest s 0 (s.take n ++ s.drop n) := by
      rw [List.take_append_drop]
      exact IsRest.start s
    have hrest := hstart.add
    have hslice := hstart.slice?
    rw [Nat.zero_add] at hrest hslice
    have hsplit : byteLength s - byteLength tail = byteLength (s.take n) := by
      rw [← hrest.add_byteLength, hbytes, Nat.add_sub_cancel_right]
    have hle : ¬ byteLength s < byteLength tail := by
      rw [← hrest.add_byteLength, hbytes]
      omega
    simp only [dropSuffixBytewise?, if_neg hle, hsplit, hrest.sliceFrom?, hslice, if_pos hsame,
      Option.map_some]
  · rw [if_neg hsame, dropSuffixBytewise?]
    split
    · rfl
    · dsimp only
      split
      · rename_i unit hunit
        -- What the bytes give for the suffix are the last characters.
        refine if_neg fun hsame' => hsame ?_
        obtain ⟨pre, rfl, -⟩ := isRest_of_sliceFrom? hunit
        obtain ⟨hlen, -⟩ := length_of_sameFoldChars hsame' htail
        rw [List.length_append, ← hlen, Nat.add_sub_cancel_right] at hn
        rwa [← hn, List.drop_left]
      · rfl

/-- Lengths are normalised as on characters: every cut is made where a character ends. -/
theorem normalizeTrimmedBytewise?_eq (policy : Policy) (axis : Axis) (s : List Char) :
    policy.normalizeTrimmedBytewise? axis s = some (policy.normalizeTrimmed? axis s) := by
  unfold Policy.normalizeTrimmedBytewise? Policy.normalizeTrimmed?
  split
  · rfl
  · cases readNumber? s with
    | some x => rfl
    | none =>
      have hsuffix : readSuffixed? "px".toList s =
          (dropSuffix? "px".toList s).map fun number => readNumber? (trimEnd isBlank number) := rfl
      rw [dropSuffixBytewise?_eq (by decide), hsuffix]
      cases dropSuffix? "px".toList s with
      | some number => rfl
      | none => rfl

/-! ### URLs -/

/-- The insecure scheme and its colon are found in the first five bytes. -/
theorem upgradeBytewise?_eq (text : List Char) (u : Url) :
    upgradeBytewise? text u = some (upgrade? text u) := by
  have hascii : ∀ c ∈ insecureScheme ++ [':'], isAscii c = true := by decide
  rw [upgradeBytewise?, upgrade?]
  by_cases hsame : sameFoldChars (text.take 5) (insecureScheme ++ [':']) = true
  · obtain ⟨-, hbytes⟩ := length_of_sameFoldChars hsame hascii
    have hfive : byteLength (text.take 5) = 5 := hbytes
    have hstart : IsRest text 0 (text.take 5 ++ text.drop 5) := by
      rw [List.take_append_drop]
      exact IsRest.start text
    have hslice := hstart.slice?
    have hrest := hstart.add.sliceFrom?
    rw [hfive, Nat.zero_add] at hslice hrest
    rw [hslice]
    dsimp only
    rw [if_pos hsame, if_pos hsame, hrest, Option.map_some]
  · rw [if_neg hsame]
    split
    · rename_i start hslice
      refine if_neg fun hsame' => hsame ?_
      obtain ⟨rest, rfl, -⟩ := eq_append_of_slice? hslice
      obtain ⟨hlen, -⟩ := length_of_sameFoldChars hsame' hascii
      have hfive : start.length = 5 := hlen
      rwa [← hfive, List.take_left]
    · rfl

/-- An insecure URL is checked as on characters: five bytes are cut off only where they are a
    scheme. -/
theorem checkInsecureBytewise?_eq (policy : Policy) (site : UrlSite) (text : List Char) (u : Url) :
    policy.checkInsecureBytewise? site text u =
      some (if policy.requireHttps then .error .insecure
        else match site with
        | .attribute => .ok text
        | .alternateSource =>
          match upgrade? text u with
          | some url => .ok url
          | none => .error .malformed) := by
  unfold Policy.checkInsecureBytewise?
  split
  · rfl
  · split
    · rfl
    · rw [upgradeBytewise?_eq]
      rfl

/-- A text is checked as on characters, and no cut fails. -/
theorem checkTrimmedBytewise?_eq (policy : Policy) (site : UrlSite) (text : List Char) :
    policy.checkTrimmedBytewise? site text = some (policy.checkTrimmed site text) := by
  unfold Policy.checkTrimmedBytewise? Policy.checkTrimmed
  split
  · rfl
  · split
    · cases readUrl (secureScheme ++ [':'] ++ text) <;> rfl
    · cases readUrl text with
      | error fault =>
        cases fault with
        | noScheme => exact (apply_ite some _ _ _).symm
        | _ => rfl
      | ok u =>
        dsimp only
        rw [checkInsecureBytewise?_eq]
        split
        · rfl
        · split
          · rfl
          · exact (apply_ite some _ _ _).symm

/-! ### All of it -/

/-- No text is read beyond its end or cut inside a character. A byte is given exactly if its place
    is in range, and a slice exactly if its ends are boundaries in order and in range. Read with a
    cursor over bytes, every markup gives its document: each round, from whichever boundary before
    the end, succeeds and moves the cursor on to a boundary, at most to the end. The normal form of
    a length, and the check of a URL, are found as well when the unit and the scheme are cut off at
    bytes. -/
theorem bytewise_total :
    (∀ s i, (byteAt? s i).isSome = true ↔ i < byteLength s) ∧
    (∀ s start stop, (slice? s start stop).isSome = true ↔
      start ≤ stop ∧ stop ≤ byteLength s ∧ IsBoundary s start ∧ IsBoundary s stop) ∧
    (∀ s i, IsBoundary s i → i < byteLength s → ∃ token next,
      Markup.tokenAt? s i = some (token, next) ∧
        i < next ∧ next ≤ byteLength s ∧ IsBoundary s next) ∧
    (∀ s, Markup.readMarkupBytewise? s = some (Markup.readMarkup s)) ∧
    (∀ (policy : Policy) (axis : Axis) (value : String),
      policy.normalizeLengthBytewise? axis value = some (policy.normalizeLength? axis value)) ∧
    (∀ (policy : Policy) (site : UrlSite) (raw : String),
      policy.checkUrlBytewise? site raw = some (policy.checkUrl site raw)) := by
  refine ⟨fun _ _ => byteAt?_isSome_iff, fun _ _ _ => slice?_isSome_iff,
    fun _ _ h hi => Markup.tokenAt?_advances h hi, Markup.readMarkupBytewise?_eq,
    fun policy axis value => normalizeTrimmedBytewise?_eq policy axis _,
    fun policy site raw => ?_⟩
  rw [Policy.checkUrlBytewise?, checkTrimmedBytewise?_eq]
  rfl

/-- The cursor goes through the two bytes of a character inside a tag, where no slice may end. -/
theorem bytewise_total_of_umlaut :
    let s := "<p ä>ü".toList
    IsBoundary s 0 ∧ 0 < byteLength s ∧
    (∃ token next, Markup.tokenAt? s 0 = some (token, next) ∧
      0 < next ∧ next ≤ byteLength s ∧ IsBoundary s next) ∧
    (byteAt? s 4).isSome = true ∧ ¬ IsBoundary s 4 ∧
    Markup.readMarkupBytewise? "<p ä>ü" = some (Markup.readMarkup "<p ä>ü") := by
  intro s
  have hlen : byteLength s = 8 := by decide
  have hnone : (slice? s 0 4).isSome = false := by decide
  have hstart : IsBoundary s 0 := (IsRest.start s).isBoundary
  clear_value s
  obtain ⟨hread, hslice, hround, hmarkup, -⟩ := bytewise_total
  have hpos : 0 < byteLength s := by omega
  refine ⟨hstart, hpos, hround s 0 hstart hpos, (hread s 4).mpr (by omega), fun hin => ?_,
    hmarkup "<p ä>ü"⟩
  have hsome := (hslice s 0 4).mpr ⟨by omega, by omega, hstart, hin⟩
  rw [hnone] at hsome
  cases hsome

end Conversion

end AmpMarkup
