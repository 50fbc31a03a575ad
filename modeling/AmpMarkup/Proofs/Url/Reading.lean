import AmpMarkup.Proofs.Url.Host
import AmpMarkup.Proofs.Url.Path
import AmpMarkup.Proofs.Url.Scheme

namespace AmpMarkup

open Text Url

/-!
# Special URLs are read back

What has been read as a URL with a special scheme is in normal form, and what is written for it is
read as the same URL; only a domain name with a label that is not decoded again cannot be read. The
normal form does not depend on the scheme, apart from the port that a scheme stands for.

* `Authority.IsNormal`, `Url.IsNormal` — what is known of the parts of a special URL that is read.
* `isNormal_of_readUrl`, `Url.IsNormal.withScheme` — where such URLs come from.
* `readAuthority_write`, `readTail_write` — the parts are read back.
* `Url.IsNormal.readUrl_write` — hence the whole.
-/

variable {c : Char} {s rest : List Char} {u : Url}

namespace Url

variable {scheme : List Char} {a : Authority} {port? : Option Nat}

/-! ### Normal form -/

/-- Nothing in the user, the password and the host has to be encoded, and the port is a number that
    the scheme does not stand for. -/
structure Authority.IsNormal (scheme : List Char) (a : Authority) : Prop where
  user : IsFreeOf userSet a.user
  password : IsFreeOf userSet a.password
  host : a.host.IsRead
  port : ∀ p, a.port? = some p → p ≤ 65535 ∧ defaultPort? scheme ≠ some p

/-- A URL with a special scheme as it is read. -/
structure IsNormal (u : Url) : Prop where
  kind : schemeKind u.scheme = .special
  authority : ∃ a, u.authority? = some a ∧ a.IsNormal u.scheme
  path : IsPath u.path
  query : ∀ q, u.query? = some q → IsFreeOf specialQuerySet q
  fragment : ∀ f, u.fragment? = some f → IsFreeOf fragmentSet f

/-- The host has a label that is not decoded again. -/
def isOverlong (u : Url) : Bool := u.authority?.any (·.host.isOverlong)

/-- An authority that has been read is in the form in which it is written. -/
theorem isNormal_of_readAuthority {rest' : List Char}
    (h : readAuthority scheme .special s rest = .ok (a, rest')) : a.IsNormal scheme := by
  obtain ⟨userInfo?, hostText, digits, ha, hhost, hport, -⟩ := exists_of_readAuthority h
  refine ⟨?_, ?_, isRead_of_readHost hhost, fun p hp => ?_⟩
  · rw [ha]
    exact isFreeOf_percentEncode keepsCodes_userSet _
  · rw [ha]
    exact isFreeOf_percentEncode keepsCodes_userSet _
  · obtain ⟨⟨-, hle⟩, hof⟩ := readPort_eq_ok_iff.mp hport
    rw [hp, portOf] at hof
    split at hof
    · cases hof
    · rename_i hcond
      cases hof
      simp only [Bool.or_eq_true, not_or, decide_eq_true_eq] at hcond
      exact ⟨hle, hcond.2⟩

/-- What is read as a special URL is in normal form. -/
theorem isNormal_of_readUrl (h : readUrl s = .ok u) (hkind : schemeKind u.scheme = .special) :
    u.IsNormal := by
  obtain ⟨rest, -, hread⟩ := readWithAuthority_of_readUrl h hkind
  obtain ⟨a, rest', hauthority, hu⟩ := exists_of_readWithAuthority hread
  refine ⟨hkind, ⟨a, by rw [hu]; rfl, isNormal_of_readAuthority hauthority⟩, ?_, fun q hq => ?_,
    fun f hf => ?_⟩
  · rw [hu]
    exact isPath_readPathAfterAuthority _
  · rw [hu] at hq
    obtain ⟨x, -, rfl⟩ := Option.map_eq_some_iff.mp hq
    exact isFreeOf_percentEncode keepsCodes_specialQuerySet x
  · rw [hu] at hf
    obtain ⟨x, -, rfl⟩ := Option.map_eq_some_iff.mp hf
    exact isFreeOf_percentEncode keepsCodes_fragmentSet x

/-- Another special scheme changes nothing in the normal form. -/
theorem IsNormal.withScheme (h : u.IsNormal) (hkind : schemeKind scheme = .special) :
    (u.withScheme scheme).IsNormal := by
  obtain ⟨a, ha, hnormal⟩ := h.authority
  refine ⟨hkind, ?_, h.path, h.query, h.fragment⟩
  by_cases hdefault : a.port? = defaultPort? scheme
  · refine ⟨{ a with port? := none }, ?_, hnormal.user, hnormal.password, hnormal.host, by simp⟩
    rw [Url.withScheme, ha, Option.map_some, if_pos hdefault]
  · refine ⟨a, ?_, hnormal.user, hnormal.password, hnormal.host, fun p hp => ?_⟩
    · rw [Url.withScheme, ha, Option.map_some, if_neg hdefault]
    · exact ⟨(hnormal.port p hp).1, fun heq => hdefault (hp.trans heq.symm)⟩

/-- Which labels are too long does not depend on the scheme. -/
theorem isOverlong_withScheme (u : Url) (scheme : List Char) :
    (u.withScheme scheme).isOverlong = u.isOverlong := by
  rw [isOverlong, isOverlong, Url.withScheme]
  cases u.authority? with
  | none => rfl
  | some a =>
    rw [Option.map_some, Option.any_some, Option.any_some]
    split <;> rfl

/-! ### The authority -/

/-- The user information ends at the last at sign. -/
theorem splitUserInfo_append {info after : List Char} (h : '@' ∉ after) :
    splitUserInfo (info ++ '@' :: after) = (some info, after) := by
  rw [splitUserInfo, reverse_takeWhile_reverse h, take_length_sub, if_pos (by simp)]

/-- Without an at sign there is no user information. -/
theorem splitUserInfo_of_not_mem (h : '@' ∉ s) : splitUserInfo s = (none, s) := by
  rw [splitUserInfo, if_neg (by simpa using h)]

/-- What follows the host. -/
def portSuffix (port? : Option Nat) : List Char :=
  match port? with
  | none => []
  | some port => ':' :: decimal port

/-- What is written behind the slashes. -/
def Authority.content (a : Authority) : List Char :=
  a.writeUserInfo ++ (a.host.write ++ portSuffix a.port?)

/-- An authority is written behind two slashes. -/
theorem Authority.write_eq (a : Authority) : a.write = '/' :: '/' :: a.content := by
  rw [Authority.write, Authority.content, List.append_assoc, List.append_assoc]
  rfl

/-- The port is written with a colon and digits. -/
theorem mem_portSuffix (h : c ∈ portSuffix port?) : c = ':' ∨ c.isDigit = true := by
  cases port? with
  | none => cases h
  | some port =>
    rcases List.mem_cons.mp h with rfl | h
    · exact .inl rfl
    · exact .inr (isDigit_of_mem_decimal h)

/-- What is before the `@` of an authority, and what is behind it. -/
def userInfo? (a : Authority) : Option (List Char) :=
  if a.user.isEmpty && a.password.isEmpty then none
  else some (a.user ++ if a.password.isEmpty then [] else ':' :: a.password)

/-- The user information is written with an at sign behind it, if there is any. -/
theorem Authority.writeUserInfo_append (a : Authority) (s : List Char) : a.writeUserInfo ++ s =
    match userInfo? a with
    | none => s
    | some info => info ++ '@' :: s := by
  rw [Authority.writeUserInfo, userInfo?]
  cases a.user.isEmpty && a.password.isEmpty <;> simp

namespace Authority.IsNormal

variable (h : a.IsNormal scheme)
include h

/-- An authority that is written gives back its user information. -/
theorem splitUserInfo_write :
    splitUserInfo a.content =
      (userInfo? a, a.host.write ++ portSuffix a.port?) := by
  have hat : '@' ∉ a.host.write ++ portSuffix a.port? := by
    intro hmem
    rcases List.mem_append.mp hmem with hmem | hmem
    · exact Bool.noConfusion (h.host.not_delimits hmem)
    · rcases mem_portSuffix hmem with hat | hdigit
      · cases hat
      · cases hdigit
  rw [Authority.content, Authority.writeUserInfo_append]
  cases hinfo : userInfo? a with
  | none => exact splitUserInfo_of_not_mem hat
  | some info => exact splitUserInfo_append hat

/-- User and password are found again. -/
theorem authorityOf_write : authorityOf (userInfo? a) a.host a.port? = a := by
  -- The user has no colon, so the first colon is the one before the password.
  have huser : ∀ c ∈ a.user, decide (c ≠ ':') = true := fun c hc => by
    simpa using fun heq : c = ':' => h.user.not_mem (by decide) (heq ▸ hc)
  have hfirst : ((userInfo? a).getD []).takeWhile (· ≠ ':') = a.user := by
    rw [userInfo?]
    cases hpassword : a.password with
    | nil =>
      cases hempty : a.user.isEmpty with
      | true => exact (List.isEmpty_iff.mp hempty).symm
      | false => simpa using huser
    | cons c cs =>
      simpa using takeWhile_append_cons (t := c :: cs) huser (by decide)
  have hsecond : (((userInfo? a).getD []).dropWhile (· ≠ ':')).drop 1 = a.password := by
    rw [userInfo?]
    cases hpassword : a.password with
    | nil =>
      cases hempty : a.user.isEmpty with
      | true => rfl
      | false =>
        have hdrop := List.dropWhile_eq_nil_iff.mpr huser
        simpa using congrArg (List.drop 1) hdrop
    | cons c cs =>
      have hdrop := dropWhile_append_cons (t := c :: cs) huser
        (by decide : decide (':' ≠ ':') = false)
      simpa using congrArg (List.drop 1) hdrop
  rw [authorityOf, hfirst, hsecond, percentEncode_of_isFreeOf h.user,
    percentEncode_of_isFreeOf h.password]

/-- The port is found again. -/
theorem readPort_portText : readPort scheme (portText (portSuffix a.port?)) = .ok a.port? := by
  cases hport : a.port? with
  | none => rfl
  | some port =>
    have hdigits : portText (portSuffix (some port)) = decimal port := by
      refine List.takeWhile_eq_self_iff.mpr fun c hc => ?_
      simpa using fun heq : c = '\\' => absurd (heq ▸ isDigit_of_mem_decimal hc) (by decide)
    have hnumber : numberInBase 10 (decimal port) = port :=
      numberInBase_toDigits (by decide) (by decide) port
    obtain ⟨hle, hdefault⟩ := h.port port hport
    rw [hdigits, readPort_eq_ok_iff, portOf, hnumber, if_neg]
    · exact ⟨⟨List.all_eq_true.mpr fun c hc => isDigit_of_mem_decimal hc, hle⟩, rfl⟩
    · simpa [decimal_ne_nil] using hdefault

/-- An authority is read back, unless its host cannot be. -/
theorem readAuthority_write (rest : List Char) :
    readAuthority scheme .special a.content rest =
      if a.host.isOverlong then .error .invalidDomain else .ok (a, rest) := by
  have hafter : portSuffix a.port? = [] ∨ (portSuffix a.port?).head? = some ':' := by
    cases a.port? with
    | none => exact .inl rfl
    | some port => exact .inr rfl
  have hnothing : (portSuffix a.port?).dropWhile (· ≠ '\\') = [] := by
    refine List.dropWhile_eq_nil_iff.mpr fun c hc => ?_
    rcases mem_portSuffix hc with rfl | hdigit
    · decide
    · simpa using fun heq : c = '\\' => absurd (heq ▸ hdigit) (by decide)
  rw [readAuthority_special h.splitUserInfo_write (h.host.splitHost_write hafter),
    if_neg h.host.write_ne_nil, h.host.readHost_write, h.readPort_portText, hnothing]
  cases a.host.isOverlong with
  | true => rfl
  | false =>
    show Except.ok (authorityOf (userInfo? a) a.host a.port?, [] ++ rest) = _
    rw [h.authorityOf_write]
    rfl

/-- Something is written for an authority. -/
theorem content_ne_nil : a.content ≠ [] := by
  simp [Authority.content, h.host.write_ne_nil]

/-- No character of an authority ends it, and none is lost. -/
theorem mem_content (hc : c ∈ a.content) :
    isControlOrSpace c = false ∧ endsAuthority .special c = false := by
  have hdelimits : c = '@' ∨ delimits c = false := by
    have huser : isAscii c = true ∧ userSet c = false → delimits c = false :=
      eq_false_of_free (by decide)
    rcases List.mem_append.mp hc with hc | hc
    · rw [Authority.writeUserInfo] at hc
      split at hc
      · cases hc
      · rcases List.mem_append.mp hc with hc | hc
        · rcases List.mem_append.mp hc with hc | hc
          · exact .inr (huser (h.user c hc))
          · split at hc
            · cases hc
            · rcases List.mem_cons.mp hc with rfl | hc
              · exact .inr (by decide)
              · exact .inr (huser (h.password c hc))
        · exact .inl (List.mem_singleton.mp hc)
    · rcases List.mem_append.mp hc with hc | hc
      · exact .inr (h.host.not_delimits hc)
      · rcases mem_portSuffix hc with rfl | hdigit
        · exact .inr (by decide)
        · exact .inr (not_delimits_of_free (free_of_isDigit hdigit))
  rcases hdelimits with rfl | hdelimits
  · decide
  · rw [delimits, Bool.or_eq_false_iff] at hdelimits
    have hnot : c ≠ '/' ∧ c ≠ '\\' ∧ c ≠ '?' ∧ c ≠ '#' := by
      have := hdelimits.2
      simp only [List.contains_cons, Bool.or_eq_false_iff, beq_eq_false_iff_ne] at this
      exact ⟨this.2.1, this.2.2.1, this.2.2.2.1, this.2.2.2.2.1⟩
    refine ⟨hdelimits.1, ?_⟩
    simp [endsAuthority, isSlash, hnot]

end Authority.IsNormal

/-! ### Path, query and fragment -/

/-- A part with the mark before it. -/
def marked (mark : Char) (part? : Option (List Char)) : List Char :=
  match part? with
  | none => []
  | some content => mark :: content

/-- What is behind the first mark. -/
def behind (mark : Char) (s : List Char) : Option (List Char) :=
  match s.dropWhile (· ≠ mark) with
  | [] => none
  | _ :: rest => some rest

section

variable {mark : Char} {part? : Option (List Char)}

/-- What is marked consists of the mark and the part. -/
theorem mem_marked (h : c ∈ marked mark part?) :
    c = mark ∨ ∃ part, part? = some part ∧ c ∈ part := by
  cases part? with
  | none => cases h
  | some part => exact (List.mem_cons.mp h).imp_right fun hc => ⟨part, rfl, hc⟩

/-- The mark is none of the characters before it. -/
theorem ne_of_not_mem (h : mark ∉ s) : ∀ c ∈ s, decide (c ≠ mark) = true := fun c hc => by
  simpa using fun heq : c = mark => h (heq ▸ hc)

/-- What stands before the mark is what has been written there. -/
theorem takeWhile_marked (h : mark ∉ s) : (s ++ marked mark part?).takeWhile (· ≠ mark) = s := by
  cases part? with
  | none =>
    rw [marked, List.append_nil]
    exact List.takeWhile_eq_self_iff.mpr (ne_of_not_mem h)
  | some content => exact takeWhile_append_cons (ne_of_not_mem h) (by simp)

/-- What stands behind the mark is the part that has been written there. -/
theorem behind_marked (h : mark ∉ s) : behind mark (s ++ marked mark part?) = part? := by
  rw [behind]
  cases part? with
  | none => rw [marked, List.append_nil, List.dropWhile_eq_nil_iff.mpr (ne_of_not_mem h)]
  | some content => rw [marked, dropWhile_append_cons (ne_of_not_mem h) (by simp)]

end

/-- What is written behind the authority. -/
def writeTail (u : Url) : List Char := u.path.write ++ marked '?' u.query? ++ marked '#' u.fragment?

/-- A URL with an authority is its scheme, a colon, two slashes, the authority and what follows. -/
theorem write_eq (ha : u.authority? = some a) : u.write =
    u.scheme ++ ':' :: '/' :: '/' :: (a.content ++ u.writeTail) := by
  rw [write, ha, Option.map_some, Option.getD_some, Authority.write_eq, writeTail]
  simp only [List.append_assoc, List.cons_append, List.nil_append]
  rfl

namespace IsNormal

variable (h : u.IsNormal)
include h

/-- Nothing of what is written behind the authority is lost. -/
theorem mem_writeTail (hc : c ∈ u.writeTail) : isControlOrSpace c = false := by
  rcases List.mem_append.mp hc with hc | hc
  · rcases List.mem_append.mp hc with hc | hc
    · exact eq_false_of_free (by decide) (mem_write_path h.path hc)
    · rcases mem_marked hc with rfl | ⟨q, hquery, hc⟩
      · decide
      · exact eq_false_of_free (by decide) (h.query q hquery c hc)
  · rcases mem_marked hc with rfl | ⟨f, hfragment, hc⟩
    · decide
    · exact eq_false_of_free (by decide) (h.fragment f hfragment c hc)

/-- What follows the authority begins with a slash. -/
theorem exists_writeTail : ∃ rest, u.writeTail = '/' :: rest := by
  obtain ⟨rest, hrest⟩ := exists_write h.path
  exact ⟨_, by rw [writeTail, hrest]; rfl⟩

/-- Path, query and fragment are read back. -/
theorem readTail_write :
    readTail u.scheme .special u.authority? (readPathAfterAuthority .special) u.writeTail = u := by
  have hpath : ∀ mark, pathSet mark = true → mark ∉ u.path.write := fun mark hmark hmem => by
    rw [(mem_write_path h.path hmem).2] at hmark
    cases hmark
  have hhash : '#' ∉ u.path.write ++ marked '?' u.query? := by
    intro hmem
    rcases List.mem_append.mp hmem with hmem | hmem
    · exact hpath '#' (by decide) hmem
    · rcases mem_marked hmem with heq | ⟨q, hquery, hmem⟩
      · cases heq
      · exact (h.query q hquery).not_mem (by decide) hmem
  have hquery : u.query?.map (percentEncode specialQuerySet) = u.query? := by
    cases hq : u.query? with
    | none => rfl
    | some q => rw [Option.map_some, percentEncode_of_isFreeOf (h.query q hq)]
  have hfragment : u.fragment?.map (percentEncode fragmentSet) = u.fragment? := by
    cases hf : u.fragment? with
    | none => rfl
    | some f => rw [Option.map_some, percentEncode_of_isFreeOf (h.fragment f hf)]
  have hbefore : u.writeTail.takeWhile (· ≠ '#') = u.path.write ++ marked '?' u.query? :=
    takeWhile_marked hhash
  show ({ scheme := u.scheme, authority? := u.authority?, path := _,
          query? := (behind '?' (u.writeTail.takeWhile (· ≠ '#'))).map
            (percentEncode specialQuerySet),
          fragment? := (behind '#' u.writeTail).map (percentEncode fragmentSet) } : Url) = u
  rw [hbefore, takeWhile_marked (hpath '?' (by decide)), behind_marked (hpath '?' (by decide)),
    writeTail, behind_marked hhash, hquery, hfragment, readPathAfterAuthority_write h.path]

end IsNormal

/-! ### The whole URL -/

/-- The special schemes. -/
theorem scheme_cases (h : schemeKind scheme = .special) : scheme = "http".toList ∨
    scheme = "ws".toList ∨ scheme = "https".toList ∨ scheme = "wss".toList ∨
      scheme = "ftp".toList := by
  have hport : (defaultPort? scheme).isSome = true := by
    rw [schemeKind] at h
    split at h
    · cases h
    · split at h
      · assumption
      · cases h
  rw [defaultPort?] at hport
  split at hport
  · tauto
  · split at hport
    · tauto
    · split at hport
      · tauto
      · cases hport

/-- A special scheme is recognized at the beginning of a text, and is in lower case. -/
theorem chars_of_special (h : schemeKind scheme = .special) :
    scheme.head?.any Char.isAlpha = true ∧ (∀ c ∈ scheme, isSchemeChar c = true) ∧
      scheme.map Char.toLower = scheme := by
  rcases scheme_cases h with rfl | rfl | rfl | rfl | rfl <;> decide

/-- Where nothing is insignificant everything counts. -/
theorem significantTail_of_forall (h : ∀ c ∈ s, isControlOrSpace c = false) :
    significantTail s = s := by
  have hend : trimEnd isControlOrSpace s = s := by
    have happend := trimEnd_append h []
    rwa [List.append_nil, show trimEnd isControlOrSpace [] = [] from rfl,
      List.append_nil] at happend
  rw [significantTail, hend, List.filter_eq_self]
  intro c hc
  rw [isTabOrLineEnd_of_not (h c hc)]
  rfl

/-- The authority is what stands between the two slashes and the path. -/
theorem readUrl_of_authority {content tail : List Char} (hkind : schemeKind scheme = .special)
    (hne : content ≠ [])
    (hcontent : ∀ c ∈ content, isControlOrSpace c = false ∧ endsAuthority .special c = false)
    (htail : ∀ c ∈ '/' :: tail, isControlOrSpace c = false) :
    readUrl (scheme ++ ':' :: '/' :: '/' :: (content ++ '/' :: tail)) =
      (readAuthority scheme .special content ('/' :: tail)).map fun p =>
        readTail scheme .special (some p.1) (readPathAfterAuthority .special) p.2 := by
  obtain ⟨hhead, hscheme, hlower⟩ := chars_of_special hkind
  have hcount : ∀ c ∈ '/' :: '/' :: (content ++ '/' :: tail), isControlOrSpace c = false := by
    intro c hc
    rw [List.mem_cons, List.mem_cons, List.mem_append] at hc
    rcases hc with rfl | rfl | hc | hc
    · decide
    · decide
    · exact (hcontent c hc).1
    · exact htail c hc
  -- More than two slashes would be skipped as well, but the authority begins with none.
  have hslashes : ('/' :: '/' :: (content ++ '/' :: tail)).dropWhile (isSlash .special) =
      content ++ '/' :: tail := by
    rw [List.dropWhile_cons_of_pos (by decide), List.dropWhile_cons_of_pos (by decide)]
    obtain ⟨c, cs, rfl⟩ := List.exists_cons_of_ne_nil hne
    have hc := (hcontent c List.mem_cons_self).2
    rw [endsAuthority, Bool.or_eq_false_iff, Bool.or_eq_false_iff] at hc
    rw [List.cons_append, List.dropWhile_cons_of_neg (by simp [hc.1.1])]
  have hends : ∀ c ∈ content, (!endsAuthority .special c) = true := fun c hc => by
    rw [(hcontent c hc).2]
    rfl
  have hslash : (!endsAuthority .special '/') = false := by decide
  rw [readUrl_of_scheme hhead hscheme _ (by rw [hlower]; exact hkind), hlower,
    significantTail_of_forall hcount, hslashes, readWithAuthority_eq,
    takeWhile_append_cons hends hslash, dropWhile_append_cons hends hslash]

namespace IsNormal

variable (h : u.IsNormal)
include h

/-- No character of a URL is lost. -/
theorem mem_write (hc : c ∈ u.write) : isControlOrSpace c = false := by
  obtain ⟨a, ha, hnormal⟩ := h.authority
  rw [write_eq ha] at hc
  simp only [List.mem_append, List.mem_cons] at hc
  rcases hc with hc | rfl | rfl | rfl | hc | hc
  · exact not_isControlOrSpace_of_isSchemeChar ((chars_of_special h.kind).2.1 c hc)
  · decide
  · decide
  · decide
  · exact (hnormal.mem_content hc).1
  · exact h.mem_writeTail hc

/-- What is written for a URL is read as that URL, unless its host cannot be read. -/
theorem readUrl_write :
    readUrl u.write = if u.isOverlong then .error .invalidDomain else .ok u := by
  obtain ⟨a, ha, hnormal⟩ := h.authority
  have hoverlong : u.isOverlong = a.host.isOverlong := by rw [isOverlong, ha, Option.any_some]
  obtain ⟨rest, hrest⟩ := h.exists_writeTail
  have htail : ∀ c ∈ '/' :: rest, isControlOrSpace c = false := fun c hc =>
    h.mem_writeTail (hrest ▸ hc)
  rw [write_eq ha, hrest, readUrl_of_authority h.kind hnormal.content_ne_nil
    (fun c hc => hnormal.mem_content hc) htail, hnormal.readAuthority_write, hoverlong]
  cases a.host.isOverlong with
  | true => rfl
  | false =>
    show Except.ok (readTail u.scheme .special (some a) (readPathAfterAuthority .special)
      ('/' :: rest)) = _
    rw [← ha, ← hrest, h.readTail_write]
    rfl

end IsNormal

end Url

end AmpMarkup
