import AmpMarkup.Proofs.Url.Reading

namespace AmpMarkup.Url

open AmpMarkup.Text AmpMarkup.Unicode

/-!
# Names of ideographs

A label of ideographs stands for itself and is valid, however long it is. If it is not too long to
be encoded it can be the host of a URL.

* `Label.mapAndNormalize_of_isIdeograph`, `Label.isValid_of_isIdeograph` — ideographs stay as they
  are.
* `domainToAscii?_of_isIdeograph` — the ASCII form of such a label.
* `readUrl_of_isIdeograph` — such a label as the host of a URL.
-/

variable {c : Char} {s done : List Char}

/-! ### Ideographs in texts -/

/-- The ideographs are those of one block. -/
theorem le_of_isIdeograph (h : isIdeograph c = true) : 0x4E00 ≤ c.toNat ∧ c.toNat ≤ 0x9FFF := by
  simpa [isIdeograph] using h

/-- An ideograph is no character of ASCII. -/
theorem not_isAscii_of_isIdeograph (h : isIdeograph c = true) : isAscii c = false := by
  have := le_of_isIdeograph h
  rw [← Bool.not_eq_true, isAscii_iff]
  omega

/-- An ideograph is mapped to itself. -/
theorem mapDomainChar_of_isIdeograph (h : isIdeograph c = true) : mapDomainChar c = [c] := by
  rw [mapDomainChar, not_isAscii_of_isIdeograph h, lookUp?, row?, inTable, h]
  rfl

/-- An ideograph is a starter. -/
theorem combiningClass_of_isIdeograph (h : isIdeograph c = true) : combiningClass c = 0 := by
  rw [combiningClass, not_isAscii_of_isIdeograph h, row?, h]
  rfl

/-- An ideograph is written from left to right. -/
theorem bidiClass_of_isIdeograph (h : isIdeograph c = true) : bidiClass c = .leftToRight := by
  have hnone : bidiTables.find? (fun entry => inTable entry.2 c) = none := by
    rw [List.find?_eq_none]
    intro entry _
    simp [inTable, h]
  rw [bidiClass, not_isAscii_of_isIdeograph h, hnone]
  rfl

/-- An ideograph is not decomposed. -/
theorem decomposeChar_of_isIdeograph (h : isIdeograph c = true) : decomposeChar c = [c] := by
  have hle := le_of_isIdeograph h
  have hhangul : decomposeHangul? c.toNat = none := by
    rw [decomposeHangul?, hangulBase, if_neg (by omega)]
  have honce : decomposeOnce? c = none := by
    rw [decomposeOnce?, not_isAscii_of_isIdeograph h, hhangul, lookUp?, lookUp?, row?, row?, h]
    rfl
  rw [decomposeChar, decomposeFrom, honce]

/-! ### Normalization -/

/-- Ideographs are not reordered. -/
theorem reorderOnto_of_isIdeograph (h : ∀ c ∈ s, isIdeograph c = true) :
    reorderOnto done s = done.reverse ++ s := by
  induction s generalizing done with
  | nil => rw [reorderOnto, List.append_nil]
  | cons c s ih =>
    -- A starter is not moved, whatever stands before it.
    have hinsert : insertMark c done = c :: done := by
      cases done with
      | nil => rfl
      | cons m run => simp [insertMark, combiningClass_of_isIdeograph (h c List.mem_cons_self)]
    rw [reorderOnto, hinsert, ih fun x hx => h x (List.mem_cons_of_mem c hx), List.reverse_cons,
      List.append_assoc, List.singleton_append]

/-- Ideographs are not composed. -/
theorem composeOnto_of_isIdeograph {starter : Char} (h : ∀ c ∈ s, isIdeograph c = true) :
    composeOnto starter [] s = starter :: s := by
  induction s generalizing starter with
  | nil => rfl
  | cons c s ih =>
    have hc := h c List.mem_cons_self
    rw [composeOnto, composePair?, hc]
    simp only [Bool.false_eq_true, if_false, if_true]
    rw [if_pos (combiningClass_of_isIdeograph hc), ih fun x hx => h x (List.mem_cons_of_mem c hx)]
    rfl

/-- Ideographs are in normal form. -/
theorem normalize_of_isIdeograph (h : ∀ c ∈ s, isIdeograph c = true) : Unicode.normalize s = s := by
  cases s with
  | nil => rfl
  | cons c s =>
    have hc := h c List.mem_cons_self
    have hdecompose : (c :: s).flatMap decomposeChar = c :: s := by
      rw [List.flatMap_congr fun x hx => decomposeChar_of_isIdeograph (h x hx)]
      exact List.flatMap_singleton' _
    have hcompose : compose (c :: s) = composeOnto c [] s := by
      simp [compose, combiningClass_of_isIdeograph hc]
    rw [Unicode.normalize, List.all_cons, not_isAscii_of_isIdeograph hc, Bool.false_and,
      if_neg Bool.false_ne_true, hdecompose, reorder, reorderOnto_of_isIdeograph h,
      List.reverse_nil, List.nil_append, hcompose]
    exact composeOnto_of_isIdeograph fun x hx => h x (List.mem_cons_of_mem c hx)

/-! ### Labels -/

namespace Label

/-- Ideographs are in mapped and normal form. -/
theorem mapAndNormalize_of_isIdeograph (h : ∀ c ∈ s, isIdeograph c = true) :
    mapAndNormalize s = s := by
  have hmap : s.flatMap mapDomainChar = s := by
    rw [List.flatMap_congr fun c hc => mapDomainChar_of_isIdeograph (h c hc)]
    exact List.flatMap_singleton' _
  rw [mapAndNormalize, hmap, normalize_of_isIdeograph h]

/-- Ideographs make a valid label. -/
theorem isValid_of_isIdeograph (h : ∀ c ∈ s, isIdeograph c = true) : isValid s = true := by
  have hrefused : s.contains refused = false := by
    rw [List.contains_eq_mem, decide_eq_false_iff_not]
    exact fun hmem => Bool.noConfusion (h _ hmem)
  have hmark : s.head?.any isMark = false := by
    cases s with
    | nil => rfl
    | cons c s => simp [isMark, inTable, h c List.mem_cons_self]
  rw [isValid, mapAndNormalize_of_isIdeograph h, beq_self_eq_true, hrefused, hmark,
    joinersHaveEffect_of_not_mem (fun hmem => Bool.noConfusion (h _ hmem))
      fun hmem => Bool.noConfusion (h _ hmem)]
  rfl

end Label

/-- An ideograph is not forbidden in a domain name. -/
theorem not_forbidden_of_isIdeograph (h : isIdeograph c = true) : forbiddenInDomain c = false := by
  have hle := le_of_isIdeograph h
  have hupper : c.isUpper = false := by
    rw [← Bool.not_eq_true, isUpper_iff_toNat]
    omega
  have hlist :
      ['%', '#', '/', ':', '<', '>', '?', '@', '[', '\\', ']', '^', '|'].contains c = false := by
    rw [List.contains_eq_mem, decide_eq_false_iff_not]
    intro hmem
    have hall : ∀ c ∈ ['%', '#', '/', ':', '<', '>', '?', '@', '[', '\\', ']', '^', '|'],
        isIdeograph c = false := by decide
    rw [hall c hmem] at h
    cases h
  rw [forbiddenInDomain, hupper, hlist, decide_eq_false (by omega), decide_eq_false (by omega)]
  rfl

section

variable (hne : s ≠ []) (h : ∀ c ∈ s, isIdeograph c = true)
  (hlength : s.length ≤ Label.maxDecodedLength)
include hne h hlength

/-- A label of ideographs that is not too long is encoded. -/
theorem encode?_of_isIdeograph :
    Label.encode? s = some (Label.encodedStart ++ Punycode.encode s) := by
  have hascii : s.all isAscii = false := by
    obtain ⟨c, cs, rfl⟩ := List.exists_cons_of_ne_nil hne
    rw [List.all_cons, not_isAscii_of_isIdeograph (h c List.mem_cons_self), Bool.false_and]
  rw [Label.encode?, hascii, if_neg Bool.false_ne_true, if_neg (by omega)]

/-- A label of ideographs is encoded, unless it is too long. -/
theorem domainToAscii?_of_isIdeograph :
    domainToAscii? s = some (Label.encodedStart ++ Punycode.encode s) := by
  have hdot : '.' ∉ s := fun hmem => Bool.noConfusion (h _ hmem)
  have hplain : Label.encodedStart.isPrefixOf s = false := by
    rw [Bool.eq_false_iff]
    intro hprefix
    obtain ⟨rest, rfl⟩ := List.isPrefixOf_iff_prefix.mp hprefix
    exact Bool.noConfusion (h 'x' List.mem_cons_self)
  have hdirection : s.any Label.isRightToLeft = false := by
    refine List.any_eq_false.mpr fun c hc => ?_
    rw [Label.isRightToLeft, bidiClass_of_isIdeograph (h c hc)]
    simp
  rw [domainToAscii?_eq_some_iff, Label.mapAndNormalize_of_isIdeograph h,
    splitOnChar_of_not_mem hdot]
  refine ⟨List.any_eq_false.mpr fun c hc => by simp [not_forbidden_of_isIdeograph (h c hc)],
    [s], [Label.encodedStart ++ Punycode.encode s], ?_, ?_, ?_, rfl⟩
  · rw [mapM_eq_some_iff, List.forall₂_cons, Label.decode?, hplain]
    exact ⟨rfl, .nil⟩
  · rw [areValid, List.all_cons, Label.isValid_of_isIdeograph h, List.any_cons, hdirection]
    rfl
  · rw [mapM_eq_some_iff, List.forall₂_cons]
    exact ⟨encode?_of_isIdeograph hne h hlength, .nil⟩

/-- An encoded label has no dot. -/
theorem dot_not_mem_encoded : '.' ∉ Label.encodedStart ++ Punycode.encode s :=
  (Label.isFreeOf_of_encode? (encode?_of_isIdeograph hne h hlength) fun c hc hascii => by
    rw [not_isAscii_of_isIdeograph (h c hc)] at hascii
    cases hascii).2

/-- The encoded form is not taken for an address. -/
theorem readHost_of_isIdeograph :
    readHost s = .ok (.domain (Label.encodedStart ++ Punycode.encode s)) := by
  have hpercent : percentDecode? s = some s := by
    have hnot : '%' ∉ s := fun hmem => Bool.noConfusion (h _ hmem)
    rw [percentDecode?, if_neg (by simpa using hnot)]
  have hhead : s.head? ≠ some '[' := fun heq =>
    Bool.noConfusion (h _ (List.mem_of_mem_head? heq))
  have hdot := dot_not_mem_encoded hne h hlength
  have haddress : looksLikeIpv4 (Label.encodedStart ++ Punycode.encode s) = false := by
    rw [looksLikeIpv4, dottedParts, splitOnChar_of_not_mem hdot]
    rfl
  rw [readHost_of_head? hhead, hpercent, Option.bind_some,
    domainToAscii?_of_isIdeograph hne h hlength]
  dsimp only
  rw [hostOfDomain, haddress]
  rfl

/-- A URL whose host is such a label. -/
theorem readUrl_of_isIdeograph {scheme : List Char} (hkind : schemeKind scheme = .special) :
    readUrl (scheme ++ ':' :: '/' :: '/' :: (s ++ ['/'])) = .ok {
      scheme
      authority? := some ⟨[], [], .domain (Label.encodedStart ++ Punycode.encode s), none⟩
      path := .segments [[]]
      query? := none
      fragment? := none } := by
  have hcontent : ∀ c ∈ s, isControlOrSpace c = false ∧ endsAuthority .special c = false := by
    intro c hc
    have hle := le_of_isIdeograph (h c hc)
    have hend : c ≠ '/' ∧ c ≠ '\\' ∧ c ≠ '?' ∧ c ≠ '#' := by
      refine ⟨?_, ?_, ?_, ?_⟩ <;> (rintro rfl; exact Bool.noConfusion (h _ hc))
    exact ⟨decide_eq_false (by omega), by simp [endsAuthority, isSlash, hend]⟩
  have hinfo : splitUserInfo s = (none, s) :=
    splitUserInfo_of_not_mem fun hmem => Bool.noConfusion (h _ hmem)
  have hhost : splitHost false (s ++ []) = (s, []) := by
    refine splitHost_append (fun c hc => ?_) (.inl rfl)
    refine ⟨?_, ?_⟩ <;> (rintro rfl; exact Bool.noConfusion (h _ hc))
  rw [List.append_nil] at hhost
  rw [readUrl_of_authority hkind hne hcontent (by decide), readAuthority_special hinfo hhost,
    if_neg hne, readHost_of_isIdeograph hne h hlength]
  rfl

end

end AmpMarkup.Url
