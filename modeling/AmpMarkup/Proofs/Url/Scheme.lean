import AmpMarkup.Proofs.Text.Ascii
import AmpMarkup.Proofs.Text.Character
import AmpMarkup.Proofs.Url.Parts
import AmpMarkup.Url.Basic

namespace AmpMarkup

open Text Url

/-!
# URLs with a special scheme

What a reading of a URL has found, part by part, where its scheme is a special one. The scheme
itself is only looked at for the port that it stands for.

* `readAuthority_special`, `readWithAuthority_eq` — the readings as equations.
* `exists_of_readAuthority` — what is known of the parts of an authority that is read.
* `readWithAuthority_under` — under another special scheme the same text is read alike, up to the
  port.
* `readWithAuthority_of_readUrl` — a special URL is one with an authority.
* `readUrl_of_scheme` — how a text is read that begins with a scheme.
* `withScheme?_of_readUrl` — a special URL has a host, and can therefore be given another scheme.
-/

variable {c : Char} {s rest rest' : List Char} {u : Url}

namespace Url

variable {scheme digits : List Char} {kind : SchemeKind} {a : Authority} {host : Host}
  {port? : Option Nat}

/-! ### Authorities -/

/-- The authority that is put together from what its parts were read as. -/
def authorityOf (userInfo? : Option (List Char)) (host : Host) (port? : Option Nat) :
    Authority where
  user := percentEncode userSet ((userInfo?.getD []).takeWhile (· ≠ ':'))
  password := percentEncode userSet (((userInfo?.getD []).dropWhile (· ≠ ':')).drop 1)
  host := host
  port? := port?

/-- The text of the port, which follows a colon. -/
def portText (after : List Char) : List Char := (after.drop 1).takeWhile (· ≠ '\\')

/-- Under a special scheme an authority has a host, and its port is a number. -/
theorem readAuthority_special {userInfo? : Option (List Char)}
    {hostAndPort hostText after : List Char}
    (hinfo : splitUserInfo s = (userInfo?, hostAndPort))
    (hhost : splitHost false hostAndPort = (hostText, after)) :
    readAuthority scheme .special s rest =
      if hostText = [] then .error .emptyHost
      else (readHost hostText).bind fun host => (readPort scheme (portText after)).map fun port? =>
        (authorityOf userInfo? host port?, after.dropWhile (· ≠ '\\') ++ rest) := by
  have hmissing : hostIsMissing .special userInfo? hostText after rest = hostText.isEmpty := by
    simp [hostIsMissing]
  rw [readAuthority, hinfo]
  dsimp only
  rw [hhost]
  dsimp only
  rw [hmissing]
  cases hostText with
  | nil => rfl
  | cons c cs =>
    rw [if_neg (by simp), if_neg (by simp), if_neg (by simp)]
    cases readHost (c :: cs) with
    | error e => rfl
    | ok host =>
      show (readPort scheme (portText after)).bind _ = (readPort scheme (portText after)).map _
      cases readPort scheme (portText after) <;> rfl

/-- The port that digits stand for, unless it is the one that the scheme stands for. -/
def portOf (scheme digits : List Char) : Option Nat :=
  if digits.isEmpty || defaultPort? scheme = some (numberInBase 10 digits) then none
  else some (numberInBase 10 digits)

/-- A port is read if it has digits only and is small enough. -/
theorem readPort_eq_ok_iff : readPort scheme digits = .ok port? ↔
    (digits.all Char.isDigit = true ∧ numberInBase 10 digits ≤ 65535) ∧
      port? = portOf scheme digits := by
  rw [← decide_eq_true_iff (p := numberInBase 10 digits ≤ 65535), ← Bool.and_eq_true, readPort]
  by_cases h : (digits.all Char.isDigit && decide (numberInBase 10 digits ≤ 65535)) = true
  · rw [if_pos h]
    exact ⟨fun hok => ⟨h, (Except.ok.inj hok).symm⟩, fun hok => congrArg Except.ok hok.2.symm⟩
  · rw [if_neg h]
    exact ⟨fun herror => absurd herror (by simp), fun hok => absurd hok.1 h⟩

/-- The parts of an authority that is read, and that its text is one under every scheme. -/
theorem exists_of_readAuthority (h : readAuthority scheme .special s rest = .ok (a, rest')) :
    ∃ userInfo? hostText digits, a = authorityOf userInfo? a.host a.port? ∧
      readHost hostText = .ok a.host ∧ readPort scheme digits = .ok a.port? ∧
      ∀ scheme' port?, readPort scheme' digits = .ok port? →
        readAuthority scheme' .special s rest =
          .ok (authorityOf userInfo? a.host port?, rest') := by
  obtain ⟨userInfo?, hostAndPort, hinfo⟩ : ∃ i t, splitUserInfo s = (i, t) := ⟨_, _, rfl⟩
  obtain ⟨hostText, after, hhost⟩ : ∃ t r, splitHost false hostAndPort = (t, r) := ⟨_, _, rfl⟩
  simp only [readAuthority_special hinfo hhost] at h ⊢
  by_cases hnil : hostText = []
  · rw [if_pos hnil] at h
    cases h
  rw [if_neg hnil] at h
  cases hread : readHost hostText with
  | error e =>
    rw [hread] at h
    cases h
  | ok host =>
    rw [hread] at h
    cases hport : readPort scheme (portText after) with
    | error e =>
      rw [Except.bind, hport] at h
      cases h
    | ok port? =>
      rw [Except.bind, hport] at h
      cases h
      refine ⟨userInfo?, hostText, portText after, rfl, hread, hport,
        fun scheme' port?' hport' => ?_⟩
      rw [if_neg hnil, Except.bind, hport']
      rfl

/-! ### URLs with an authority -/

/-- A URL with an authority is read as its authority and what follows. -/
theorem readWithAuthority_eq (scheme : List Char) (kind : SchemeKind) (s : List Char) :
    readWithAuthority scheme kind s =
      (readAuthority scheme kind (s.takeWhile fun c => !endsAuthority kind c)
        (s.dropWhile fun c => !endsAuthority kind c)).map fun p =>
          readTail scheme kind (some p.1) (readPathAfterAuthority kind) p.2 := by
  rw [readWithAuthority]
  cases readAuthority scheme kind (s.takeWhile fun c => !endsAuthority kind c)
    (s.dropWhile fun c => !endsAuthority kind c) <;> rfl

/-- A URL that has been read has an authority and what follows. -/
theorem exists_of_readWithAuthority (h : readWithAuthority scheme kind s = .ok u) :
    ∃ a rest, readAuthority scheme kind (s.takeWhile fun c => !endsAuthority kind c)
        (s.dropWhile fun c => !endsAuthority kind c) = .ok (a, rest) ∧
      u = readTail scheme kind (some a) (readPathAfterAuthority kind) rest := by
  rw [readWithAuthority_eq] at h
  cases hread : readAuthority scheme kind (s.takeWhile fun c => !endsAuthority kind c)
      (s.dropWhile fun c => !endsAuthority kind c) with
  | error e =>
    rw [hread] at h
    cases h
  | ok p =>
    rw [hread] at h
    exact ⟨p.1, p.2, rfl, (Except.ok.inj h).symm⟩

/-- Reading a URL with an authority keeps the scheme. -/
theorem scheme_readWithAuthority (h : readWithAuthority scheme kind s = .ok u) :
    u.scheme = scheme := by
  obtain ⟨a, rest, -, rfl⟩ := exists_of_readWithAuthority h
  rfl

/-- `u` as its text would have been read under another scheme: with `port?` as its port. -/
def under (u : Url) (scheme : List Char) (port? : Option Nat) : Url :=
  { u with scheme, authority? := u.authority?.map ({ · with port? }) }

/-- Special schemes are read alike, up to the port that they stand for. -/
theorem readWithAuthority_under (h : readWithAuthority scheme .special s = .ok u)
    (scheme' : List Char) :
    ∃ port?, readWithAuthority scheme' .special s = .ok (u.under scheme' port?) := by
  obtain ⟨a, rest, hread, rfl⟩ := exists_of_readWithAuthority h
  obtain ⟨userInfo?, hostText, digits, ha, -, hport, hother⟩ := exists_of_readAuthority hread
  have hport' : readPort scheme' digits = .ok (portOf scheme' digits) :=
    readPort_eq_ok_iff.mpr ⟨(readPort_eq_ok_iff.mp hport).1, rfl⟩
  refine ⟨portOf scheme' digits, ?_⟩
  rw [readWithAuthority_eq, hother scheme' _ hport', ha]
  rfl

/-! ### Texts of URLs -/

/-- Reading a file URL keeps the scheme. -/
theorem scheme_readFile (h : readFile scheme s = .ok u) : u.scheme = scheme := by
  unfold readFile at h
  dsimp only at h
  split at h
  · split at h
    · split at h
      · cases h
        rfl
      · rename_i after _ _
        cases hread : readHost (after.takeWhile fun c => !endsAuthority .file c) with
        | error e =>
          rw [hread] at h
          cases h
        | ok host =>
          rw [hread] at h
          cases h
          rfl
    · cases h
      rfl
  · cases h
    rfl

/-- Reading any other URL keeps the scheme. -/
theorem scheme_readGeneral (h : readGeneral scheme s = .ok u) : u.scheme = scheme := by
  unfold readGeneral at h
  split at h
  · exact scheme_readWithAuthority h
  · cases h
    rfl
  · cases h
    rfl

/-- What is read as a special URL has an authority behind its scheme. -/
theorem readWithAuthority_of_readUrl (h : readUrl s = .ok u)
    (hkind : schemeKind u.scheme = .special) :
    ∃ rest, splitScheme? (significant s) = some (u.scheme, rest) ∧
      readWithAuthority u.scheme .special (rest.dropWhile (isSlash .special)) = .ok u := by
  rw [readUrl] at h
  split at h
  · cases h
  · rename_i scheme rest hsplit
    split at h
    · rw [scheme_readWithAuthority h]
      exact ⟨rest, hsplit, h⟩
    · rename_i hfile
      rw [scheme_readFile h, hfile] at hkind
      cases hkind
    · rename_i hgeneral
      rw [scheme_readGeneral h, hgeneral] at hkind
      cases hkind

/-- The characters of a text that count if something stands before it. -/
def significantTail (s : List Char) : List Char :=
  (trimEnd isControlOrSpace s).filter fun c => !isTabOrLineEnd c

/-- Tabs and line ends are among the control characters. -/
theorem isTabOrLineEnd_of_not (h : isControlOrSpace c = false) : isTabOrLineEnd c = false := by
  rw [isControlOrSpace, decide_eq_false_iff_not] at h
  rw [isTabOrLineEnd]
  simp only [Bool.or_eq_false_iff, decide_eq_false_iff_not]
  refine ⟨⟨?_, ?_⟩, ?_⟩ <;> (rintro rfl; exact h (by decide))

/-- What stands before a significant text is significant. -/
theorem significant_append {pre : List Char} (hne : pre ≠ [])
    (hpre : ∀ c ∈ pre, isControlOrSpace c = false) (s : List Char) :
    significant (pre ++ s) = pre ++ significantTail s := by
  have hkept : pre.filter (fun c => !isTabOrLineEnd c) = pre := by
    rw [List.filter_eq_self]
    intro c hc
    rw [isTabOrLineEnd_of_not (hpre c hc)]
    rfl
  rw [significant, trim_append hne hpre, List.filter_append, hkept, significantTail]

/-- The characters of schemes are significant. -/
theorem not_isControlOrSpace_of_isSchemeChar (h : isSchemeChar c = true) :
    isControlOrSpace c = false := by
  rw [isControlOrSpace, decide_eq_false_iff_not]
  simp only [isSchemeChar, Char.isAlphanum, Bool.or_eq_true, isAlpha_iff_toNat, beq_iff_eq,
    Char.isDigit_iff_toNat] at h
  have h0 : '0'.toNat = 48 := rfl
  rcases h with (((h | h) | rfl) | rfl) | rfl
  · omega
  · omega
  · decide
  · decide
  · decide

/-- The scheme of a text ends at its first colon. -/
theorem splitScheme?_append {pre : List Char} (hpre : pre.head?.any Char.isAlpha = true)
    (hall : ∀ c ∈ pre, isSchemeChar c = true) (s : List Char) :
    splitScheme? (pre ++ ':' :: s) = some (pre.map Char.toLower, s) := by
  have hcolon : isSchemeChar ':' = false := by decide
  have hhead : (pre ++ ':' :: s).head? = pre.head? := by
    cases pre with
    | nil => cases hpre
    | cons c cs => rfl
  rw [splitScheme?, hhead, hpre, dropWhile_append_cons hall hcolon,
    takeWhile_append_cons hall hcolon]
  rfl

/-- A text that begins with a special scheme. -/
theorem readUrl_of_scheme {pre : List Char} (hpre : pre.head?.any Char.isAlpha = true)
    (hall : ∀ c ∈ pre, isSchemeChar c = true) (s : List Char)
    (hkind : schemeKind (pre.map Char.toLower) = .special) :
    readUrl (pre ++ ':' :: s) = readWithAuthority (pre.map Char.toLower) .special
      ((significantTail s).dropWhile (isSlash .special)) := by
  have hcontrol : ∀ c ∈ pre ++ [':'], isControlOrSpace c = false := by
    intro c hc
    rcases List.mem_append.mp hc with hc | hc
    · exact not_isControlOrSpace_of_isSchemeChar (hall c hc)
    · rw [List.mem_singleton.mp hc]
      decide
  have hsplit : splitScheme? (significant (pre ++ ':' :: s)) =
      some (pre.map Char.toLower, significantTail s) := by
    rw [List.append_cons, significant_append (by simp) hcontrol, ← List.append_cons]
    exact splitScheme?_append hpre hall _
  rw [readUrl, hsplit]
  dsimp only
  rw [hkind]

/-! ### Other schemes -/

/-- No host of a special scheme is taken as it is. -/
theorem readHost_ne_named {name : List Char} : readHost s ≠ .ok (.named name) := by
  intro h
  unfold readHost at h
  split at h
  · unfold readBracketed at h
    split at h
    · split at h <;> cases h
    · cases h
  · split at h
    · unfold hostOfDomain at h
      split at h
      · cases h
      · split at h
        · split at h <;> cases h
        · cases h
    · cases h

/-- A special URL has a host, and can therefore be given every other special scheme. -/
theorem withScheme?_of_readUrl (h : readUrl s = .ok u) (hkind : schemeKind u.scheme = .special)
    (scheme : List Char) : u.withScheme? scheme = some (u.withScheme scheme) := by
  obtain ⟨rest, -, hread⟩ := readWithAuthority_of_readUrl h hkind
  obtain ⟨a, rest', hauthority, hu⟩ := exists_of_readWithAuthority hread
  obtain ⟨-, hostText, -, -, hhost, -⟩ := exists_of_readAuthority hauthority
  have hnamed : a.host ≠ .named [] := fun hnamed => readHost_ne_named (hnamed ▸ hhost)
  have hhas : u.hasHost = true := by
    rw [hu, hasHost]
    simpa [readTail] using hnamed
  rw [withScheme?, if_pos ⟨by rw [hkind]; decide, hhas⟩]

end Url

end AmpMarkup
