import AmpMarkup.Proofs.Url.Percent
import AmpMarkup.Proofs.Url.Punycode
import AmpMarkup.Url.DomainName

namespace AmpMarkup.Url

open AmpMarkup.Text AmpMarkup.Unicode

/-!
# The ASCII form of a domain name stands

The ASCII form of a name is its own ASCII form, unless a label of it is so long that it is not
decoded again: more characters are encoded than the encoding may take up.

* `Label.mapAndNormalize_of_isFreeOf` — a text of small letters in ASCII stands for itself.
* `Label.isOverlong` — an encoded label that is not decoded.
* `Label.IsDecoded` — the labels that labels of ASCII stand for; `Label.decode?_of_encode?`.
* `domainToAscii?_domainToAscii?` — the characters of the ASCII form, and what becomes of it.
* `domainToAscii?_eq_self` — names that are in ASCII from the beginning.
-/

variable {s name mapped label encoded : List Char} {c : Char} {labels : List (List Char)}

namespace Label

/-! ### Texts of ASCII -/

/-- Capitals are forbidden in domain names, for they are mapped before. -/
theorem not_isUpper_of_not_forbidden (h : forbiddenInDomain c = false) : c.isUpper = false := by
  simp only [forbiddenInDomain, Bool.or_eq_false_iff] at h
  exact h.1.2

/-- A text of ASCII without capital letters stands for itself. -/
theorem mapAndNormalize_of_isFreeOf (h : IsFreeOf forbiddenInDomain s) : mapAndNormalize s = s := by
  have hmap : s.flatMap mapDomainChar = s := by
    have hchar : ∀ c ∈ s, mapDomainChar c = [c] := fun c hc => by
      obtain ⟨hascii, hfree⟩ := h c hc
      rw [mapDomainChar, if_pos hascii, toLower_of_not_isUpper (not_isUpper_of_not_forbidden hfree)]
    rw [List.flatMap_congr hchar]
    exact List.flatMap_singleton' s
  rw [mapAndNormalize, hmap, Unicode.normalize,
    if_pos (List.all_eq_true.mpr fun c hc => (h c hc).1)]

/-! ### Encoding and decoding -/

/-- An encoded label that is longer than those that are decoded. -/
def isOverlong (label : List Char) : Bool :=
  encodedStart.isPrefixOf label && maxEncodedLength < (label.drop encodedStart.length).length

/-- A label that some label of ASCII stands for. -/
def IsDecoded (label : List Char) : Prop :=
  label.all isAscii = true → encodedStart.isPrefixOf label = false

/-- A label that is decoded is not encoded at all, or it encodes characters outside ASCII. -/
theorem decode?_cases {part : List Char} (h : decode? part = some label) :
    label = part ∧ encodedStart.isPrefixOf part = false ∨
    Punycode.decode? (part.drop encodedStart.length) = some label ∧ label.all isAscii = false := by
  unfold decode? at h
  split at h
  · dsimp only at h
    split at h
    · cases h
    · split at h
      · rename_i decoded hdecode
        split at h
        · cases h
        · rename_i hascii
          cases h
          exact .inr ⟨hdecode, Bool.eq_false_iff.mpr hascii⟩
      · cases h
  · rename_i hprefix
    cases h
    exact .inl ⟨rfl, Bool.eq_false_iff.mpr hprefix⟩

/-- A label that has been decoded does not look like an encoded one. -/
theorem isDecoded_of_decode? {part : List Char} (h : decode? part = some label) :
    IsDecoded label := by
  intro hascii
  rcases decode?_cases h with ⟨rfl, hprefix⟩ | ⟨-, hnot⟩
  · exact hprefix
  · rw [hascii] at hnot
    cases hnot

/-- A decoded label has all its ASCII characters from the label that stands for it. -/
theorem mem_of_decode? {part : List Char} (h : decode? part = some label) (hc : c ∈ label)
    (hascii : isAscii c = true) : c ∈ part := by
  rcases decode?_cases h with ⟨rfl, -⟩ | ⟨hdecode, -⟩
  · exact hc
  · exact List.mem_of_mem_drop (Punycode.mem_of_decode? hdecode hc hascii)

/-- Decoding an encoded label gives the label, unless there is too much to decode. -/
theorem decode?_of_encode? (h : IsDecoded label) (hencode : encode? label = some encoded) :
    decode? encoded = if isOverlong encoded then none else some label := by
  unfold encode? at hencode
  by_cases hascii : label.all isAscii = true
  · rw [if_pos hascii] at hencode
    rw [← Option.some.inj hencode, decode?, isOverlong, h hascii]
    rfl
  · rw [if_neg hascii] at hencode
    split at hencode
    · cases hencode
    have hprefix : encodedStart.isPrefixOf (encodedStart ++ Punycode.encode label) = true := by
      simp
    rw [← Option.some.inj hencode, decode?, isOverlong, if_pos hprefix, hprefix,
      List.drop_left, Bool.true_and]
    have hlast := Punycode.getLast?_encode (Bool.eq_false_iff.mpr hascii)
    by_cases hlong : maxEncodedLength < (Punycode.encode label).length
    · simp [hlong]
    · simp [hlast, hlong, Punycode.decode?_encode, hascii]

/-- An encoded label is in ASCII, and all that is forbidden in it is in the label already. -/
theorem isFreeOf_of_encode? (h : encode? label = some encoded)
    (hlabel : ∀ c ∈ label, isAscii c = true → forbiddenInDomain c = false ∧ c ≠ '.') :
    IsFreeOf forbiddenInDomain encoded ∧ '.' ∉ encoded := by
  have hall : ∀ c ∈ encoded, isAscii c = true ∧ forbiddenInDomain c = false ∧ c ≠ '.' := by
    unfold encode? at h
    split at h
    · rename_i hascii
      cases h
      intro c hc
      have hc' := List.all_eq_true.mp hascii c hc
      exact ⟨hc', hlabel c hc hc'⟩
    · split at h
      · cases h
      · cases h
        intro c hc
        rcases List.mem_append.mp hc with hc | hc
        · exact (by decide : ∀ c ∈ encodedStart,
            isAscii c = true ∧ forbiddenInDomain c = false ∧ c ≠ '.') c hc
        · rcases Punycode.mem_encode hc with ⟨hmem, hascii⟩ | rfl | ⟨n, hn, rfl⟩
          · exact ⟨hascii, hlabel c hmem hascii⟩
          · decide
          · exact (by decide : ∀ n < 36, isAscii (Punycode.digit n) = true ∧
              forbiddenInDomain (Punycode.digit n) = false ∧ Punycode.digit n ≠ '.') n hn
  exact ⟨fun c hc => ⟨(hall c hc).1, (hall c hc).2.1⟩, fun hdot => (hall _ hdot).2.2 rfl⟩

end Label

/-! ### Names -/

/-- The labels are valid, and readable together. -/
def areValid (labels : List (List Char)) : Bool :=
  labels.all Label.isValid
    && (!labels.any (·.any Label.isRightToLeft) || labels.all Label.directionIsClear)

theorem validLabels?_eq (mapped : List Char) : validLabels? mapped =
    ((splitOnChar '.' mapped).mapM Label.decode?).bind fun labels =>
      if areValid labels then some labels else none := rfl

/-- What has to be known of a name that has an ASCII form. -/
theorem domainToAscii?_eq_some_iff : domainToAscii? s = some name ↔
    (Label.mapAndNormalize s).any forbiddenInDomain = false ∧ ∃ labels encoded,
      (splitOnChar '.' (Label.mapAndNormalize s)).mapM Label.decode? = some labels ∧
      areValid labels = true ∧ labels.mapM Label.encode? = some encoded ∧
      name = joinWithChar '.' encoded := by
  have heq : domainToAscii? s = if (Label.mapAndNormalize s).any forbiddenInDomain then none
      else (validLabels? (Label.mapAndNormalize s)).bind fun labels =>
        (labels.mapM Label.encode?).bind fun encoded => some (joinWithChar '.' encoded) := rfl
  rw [heq, validLabels?_eq]
  cases (Label.mapAndNormalize s).any forbiddenInDomain with
  | true => simp
  | false =>
    simp only [Bool.false_eq_true, if_false, Option.bind_eq_some_iff, Option.ite_none_right_eq_some,
      Option.some.injEq, true_and]
    constructor
    · rintro ⟨labels, ⟨_, hlabels, hvalid, rfl⟩, encoded, hencoded, hname⟩
      exact ⟨_, encoded, hlabels, hvalid, hencoded, hname.symm⟩
    · rintro ⟨labels, encoded, hlabels, hvalid, hencoded, hname⟩
      exact ⟨labels, ⟨labels, hlabels, hvalid, rfl⟩, encoded, hencoded, hname.symm⟩

/-- Names without capitals and delimiters stand for themselves, so their labels are all there is to
    look at. -/
theorem domainToAscii?_of_isFreeOf (h : IsFreeOf forbiddenInDomain s) :
    domainToAscii? s = some name ↔ ∃ labels encoded,
      (splitOnChar '.' s).mapM Label.decode? = some labels ∧ areValid labels = true ∧
      labels.mapM Label.encode? = some encoded ∧ name = joinWithChar '.' encoded := by
  rw [domainToAscii?_eq_some_iff, Label.mapAndNormalize_of_isFreeOf h]
  exact and_iff_right (List.any_eq_false.mpr fun c hc => by simp [(h c hc).2])

/-- The ASCII form of a name is in ASCII and holds nothing forbidden, and it is its own ASCII form
    if none of its labels is too long to be decoded. -/
theorem domainToAscii?_domainToAscii? (h : domainToAscii? s = some name) :
    IsFreeOf forbiddenInDomain name ∧
    domainToAscii? name =
      if (splitOnChar '.' name).any Label.isOverlong then none else some name := by
  obtain ⟨hmapped, labels, encoded, hlabels, hvalid, hencoded, rfl⟩ :=
    domainToAscii?_eq_some_iff.mp h
  have hlabel : ∀ label ∈ labels, Label.IsDecoded label ∧
      ∀ c ∈ label, isAscii c = true → forbiddenInDomain c = false ∧ c ≠ '.' := by
    intro label hlabel
    obtain ⟨part, hpart, hdecode⟩ := exists_of_mem_mapM hlabels hlabel
    refine ⟨Label.isDecoded_of_decode? hdecode, fun c hc hascii => ?_⟩
    obtain ⟨hc', hne⟩ := mem_of_mem_splitOnChar hpart (Label.mem_of_decode? hdecode hc hascii)
    exact ⟨by simpa using List.any_eq_false.mp hmapped c hc', hne⟩
  have hfree : ∀ e ∈ encoded, IsFreeOf forbiddenInDomain e ∧ '.' ∉ e := by
    intro e he
    obtain ⟨label, hl, hencode⟩ := exists_of_mem_mapM hencoded he
    exact Label.isFreeOf_of_encode? hencode (hlabel label hl).2
  have hname : IsFreeOf forbiddenInDomain (joinWithChar '.' encoded) := by
    intro c hc
    rcases mem_joinWithChar hc with rfl | ⟨part, hpart, hc⟩
    · decide
    · exact (hfree part hpart).1 c hc
  -- The encoded labels are the labels of the name, and each is decoded on its own.
  have hpairs : List.Forall₂ (fun label e =>
      Label.decode? e = if Label.isOverlong e then none else some label) labels encoded :=
    ((List.forall₂_and_left _ _).mpr ⟨hlabel, mapM_eq_some_iff.mp hencoded⟩).imp fun _ _ hpair =>
      Label.decode?_of_encode? hpair.1.1 hpair.2
  have hne : encoded ≠ [] := by
    rintro rfl
    rw [List.forall₂_nil_right_iff.mp hpairs, mapM_eq_some_iff,
      List.forall₂_nil_right_iff] at hlabels
    exact splitOnChar_ne_nil _ _ hlabels
  have hsplit : splitOnChar '.' (joinWithChar '.' encoded) = encoded :=
    splitOnChar_joinWithChar hne fun e he => (hfree e he).2
  refine ⟨hname, ?_⟩
  rw [hsplit]
  by_cases hlong : encoded.any Label.isOverlong = true
  · rw [if_pos hlong, Option.eq_none_iff_forall_ne_some]
    intro name' hname'
    obtain ⟨labels', _, hlabels', -⟩ := (domainToAscii?_of_isFreeOf hname).mp hname'
    obtain ⟨e, he, hover⟩ := List.any_eq_true.mp hlong
    obtain ⟨label, -, hpair⟩ := exists_of_forall₂ hpairs he
    rw [hsplit, mapM_eq_none_of_mem he (by rw [hpair, if_pos hover])] at hlabels'
    cases hlabels'
  · rw [if_neg hlong, domainToAscii?_of_isFreeOf hname, hsplit]
    refine ⟨labels, encoded, mapM_eq_some_iff.mpr ?_, hvalid, hencoded, rfl⟩
    have hshort : ∀ e ∈ encoded, Label.isOverlong e = false := by
      simpa using hlong
    exact ((List.forall₂_and_left _ _).mpr ⟨hshort, hpairs.flip⟩).imp fun e label hpair => by
      rw [hpair.2, hpair.1]
      rfl

/-! ### Names in ASCII from the beginning -/

namespace Label

/-- Where there are no joiners all have an effect. -/
theorem joinersHaveEffect_of_not_mem {before : List Char} (hjoiner : joiner ∉ s)
    (hnonJoiner : nonJoiner ∉ s) : joinersHaveEffect before s = true := by
  induction s generalizing before with
  | nil => rfl
  | cons c s ih =>
    rw [List.mem_cons, not_or] at hjoiner hnonJoiner
    rw [joinersHaveEffect, joinerHasEffect, if_neg (Ne.symm hjoiner.1),
      if_neg (Ne.symm hnonJoiner.1), ih hjoiner.2 hnonJoiner.2]
    rfl

/-- A label of free characters is valid. -/
theorem isValid_of_isFreeOf (h : IsFreeOf forbiddenInDomain s) : isValid s = true := by
  have hrefused : s.contains refused = false := by
    rw [List.contains_eq_mem, decide_eq_false_iff_not]
    exact fun hmem => Bool.noConfusion (h _ hmem).1
  have hmark : s.head?.any isMark = false := by
    cases s with
    | nil => rfl
    | cons c s => simp [isMark, (h c List.mem_cons_self).1]
  rw [isValid, mapAndNormalize_of_isFreeOf h, beq_self_eq_true, hrefused, hmark,
    joinersHaveEffect_of_not_mem (fun hmem => Bool.noConfusion (h _ hmem).1)
      fun hmem => Bool.noConfusion (h _ hmem).1]
  rfl

end Label

/-- A name in ASCII without capitals, delimiters and encoded labels is its own ASCII form. -/
theorem domainToAscii?_eq_self (h : IsFreeOf forbiddenInDomain s)
    (hplain : ∀ part ∈ splitOnChar '.' s, Label.encodedStart.isPrefixOf part = false) :
    domainToAscii? s = some s := by
  have hfree : ∀ part ∈ splitOnChar '.' s, IsFreeOf forbiddenInDomain part :=
    fun part hpart c hc => h c (mem_of_mem_splitOnChar hpart hc).1
  have hascii : ∀ part ∈ splitOnChar '.' s, part.all isAscii = true :=
    fun part hpart => List.all_eq_true.mpr fun c hc => (hfree part hpart c hc).1
  rw [domainToAscii?_of_isFreeOf h]
  refine ⟨splitOnChar '.' s, splitOnChar '.' s, mapM_eq_some_iff.mpr ?_, ?_,
    mapM_eq_some_iff.mpr ?_, (joinWithChar_splitOnChar '.' s).symm⟩
  · refine List.forall₂_same.mpr fun part hpart => ?_
    rw [Label.decode?, hplain part hpart]
    rfl
  · -- In ASCII nothing is written from right to left.
    have hdirection : (splitOnChar '.' s).any (·.any Label.isRightToLeft) = false := by
      refine List.any_eq_false.mpr fun part hpart => ?_
      rw [List.any_eq_true]
      rintro ⟨c, hc, hright⟩
      rw [Label.isRightToLeft, (hfree part hpart c hc).1] at hright
      cases hright
    rw [areValid, hdirection, List.all_eq_true.mpr fun part hpart =>
      Label.isValid_of_isFreeOf (hfree part hpart)]
    rfl
  · refine List.forall₂_same.mpr fun part hpart => ?_
    rw [Label.encode?, if_pos (hascii part hpart)]

end AmpMarkup.Url
