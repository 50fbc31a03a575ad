import AmpMarkup.Proofs.Url.Address
import AmpMarkup.Proofs.Url.DomainName
import AmpMarkup.Url.Basic

namespace AmpMarkup.Url

open AmpMarkup.Text

/-!
# Hosts are read back

* `Host.IsRead` — the hosts that are read from some text; `isRead_of_readHost`.
* `Host.isOverlong` — a domain name with a label that is not decoded again.
* `Host.IsRead.readHost_write` — every other host is read back from what is written for it.
* `Host.IsRead.splitHost_write`, `Host.IsRead.not_delimits` — within an authority it is found again.
-/

variable {s t after : List Char} {c : Char} {host : Host}

namespace Host

/-- The hosts that are read from some text. -/
inductive IsRead : Host → Prop where
  | domain {s name : List Char} : domainToAscii? s = some name →
    hostOfDomain name = .ok (.domain name) → IsRead (.domain name)
  | ipv4 (address : UInt32) : IsRead (.ipv4 address)
  | ipv6 {groups : List Nat} : AreGroups groups → IsRead (.ipv6 groups)

/-- A domain name with a label that is too long to be decoded. -/
def isOverlong : Host → Bool
  | domain name => (splitOnChar '.' name).any Label.isOverlong
  | _ => false

end Host

/-! ### What is read -/

/-- A host without brackets is decoded, mapped and then read as an address or a name. -/
theorem readHost_of_head? (h : s.head? ≠ some '[') : readHost s =
    match (percentDecode? s).bind domainToAscii? with
    | some name => hostOfDomain name
    | none => .error .invalidDomain := by
  unfold readHost
  split
  · exact absurd rfl h
  · rfl

/-- A host in brackets is read as an address. -/
theorem readBracketed_append (inside : List Char) : readBracketed (inside ++ [']']) =
    (readIpv6? inside).elim (.error .invalidIpv6) fun groups => .ok (.ipv6 groups) := by
  rw [readBracketed, List.getLast?_concat, if_pos rfl, List.dropLast_concat]
  cases readIpv6? inside <;> rfl

/-- The host of a mapped name is one that can be read. -/
theorem isRead_of_hostOfDomain {name : List Char} (hname : domainToAscii? s = some name)
    (h : hostOfDomain name = .ok host) : host.IsRead := by
  have hread := h
  unfold hostOfDomain at h
  split at h
  · cases h
  · split at h
    · split at h
      · cases h
        exact .ipv4 _
      · cases h
    · cases h
      exact .domain hname hread

/-- A host that has been read is one that can be read. -/
theorem isRead_of_readHost (h : readHost s = .ok host) : host.IsRead := by
  unfold readHost at h
  split at h
  · unfold readBracketed at h
    split at h
    · split at h
      · rename_i hgroups
        cases h
        exact .ipv6 (areGroups_of_readIpv6? hgroups)
      · cases h
    · cases h
  · split at h
    · rename_i hname
      obtain ⟨decoded, -, hname⟩ := Option.bind_eq_some_iff.mp hname
      exact isRead_of_hostOfDomain hname h
    · cases h

/-! ### Reading what is written -/

/-- Digits are free in domain names. -/
theorem free_of_isDigit (h : c.isDigit = true) :
    isAscii c = true ∧ forbiddenInDomain c = false := by
  have hascii : isAscii c = true := by
    rw [Char.isDigit_iff_toNat] at h
    rw [isAscii_iff]
    have : '9'.toNat = 57 := rfl
    omega
  have hall := forall_ascii (p := fun c => !c.isDigit || !forbiddenInDomain c) (by decide) hascii
  exact ⟨hascii, by simpa [h] using hall⟩

/-- An address in dotted form has no forbidden character. -/
theorem isFreeOf_writeIpv4 (a : UInt32) : IsFreeOf forbiddenInDomain (writeIpv4 a) := by
  intro c hc
  rcases mem_writeIpv4 hc with rfl | hc
  · decide
  · exact free_of_isDigit hc

/-- Text without a percent sign that is a domain name is looked up as it is. -/
theorem readHost_of_isFreeOf (h : IsFreeOf forbiddenInDomain s) : readHost s =
    match domainToAscii? s with
    | some name => hostOfDomain name
    | none => .error .invalidDomain := by
  have hpercent : percentDecode? s = some s := by
    rw [percentDecode?, if_neg]
    simpa using h.not_mem (c := '%') (by decide)
  have hhead : s.head? ≠ some '[' := fun heq =>
    h.not_mem (c := '[') (by decide) (List.mem_of_mem_head? heq)
  rw [readHost_of_head? hhead, hpercent, Option.bind_some]

/-- An address in dotted form is read as itself. -/
theorem readHost_writeIpv4 (a : UInt32) : readHost (writeIpv4 a) = .ok (.ipv4 a) := by
  have hne : writeIpv4 a ≠ [] := fun h => by
    have hsplit := splitOnChar_writeIpv4 a
    rw [h] at hsplit
    exact decimal_ne_nil _ (List.cons_eq_cons.mp hsplit).1.symm
  have hplain : ∀ part ∈ splitOnChar '.' (writeIpv4 a),
      Label.encodedStart.isPrefixOf part = false := by
    intro part hpart
    rw [splitOnChar_writeIpv4] at hpart
    obtain ⟨n, -, rfl⟩ := List.mem_map.mp hpart
    obtain ⟨c, cs, hdigits⟩ := List.exists_cons_of_ne_nil (decimal_ne_nil n)
    have hc : 'x' ≠ c := by
      rintro rfl
      have hdigit := isDigit_of_mem_decimal (hdigits ▸ List.mem_cons_self : 'x' ∈ decimal n)
      cases hdigit
    rw [hdigits, Label.encodedStart, List.isPrefixOf]
    simp [hc]
  rw [readHost_of_isFreeOf (isFreeOf_writeIpv4 a),
    domainToAscii?_eq_self (isFreeOf_writeIpv4 a) hplain]
  dsimp only
  rw [hostOfDomain, if_neg (by simpa using hne), if_pos (looksLikeIpv4_writeIpv4 a),
    readIpv4?_writeIpv4]

/-! ### Hosts within an authority -/

/-- A control, a space, or a delimiter of authorities. -/
def delimits (c : Char) : Bool :=
  c.toNat ≤ 32 || ['@', '/', '\\', '?', '#'].contains c

/-- What is free in domain names is no delimiter. -/
theorem not_delimits_of_free (h : isAscii c = true ∧ forbiddenInDomain c = false) :
    delimits c = false :=
  eq_false_of_free (by decide) h

/-- A character other than a colon outside brackets goes on with the host. -/
theorem splitHost_cons (inBrackets : Bool) (h : ¬ (c = ':' ∧ (!inBrackets) = true)) :
    splitHost inBrackets (c :: s) =
      let p := splitHost (if c = '[' then true else if c = ']' then false else inBrackets) s
      (c :: p.1, p.2) := by
  rw [splitHost, if_neg h]

/-- Nothing or a port follows the host. -/
theorem splitHost_of_after (h : after = [] ∨ after.head? = some ':') :
    splitHost false after = ([], after) := by
  cases after with
  | nil => rfl
  | cons c rest =>
    rcases h with h | h
    · cases h
    · cases h
      rfl

/-- Outside brackets the host ends at the colon. -/
theorem splitHost_append (hs : ∀ c ∈ s, c ≠ ':' ∧ c ≠ '[')
    (h : after = [] ∨ after.head? = some ':') : splitHost false (s ++ after) = (s, after) := by
  induction s with
  | nil => exact splitHost_of_after h
  | cons c s ih =>
    obtain ⟨hcolon, hbracket⟩ := hs c List.mem_cons_self
    rw [List.cons_append, splitHost_cons false fun heq => hcolon heq.1, if_neg hbracket, ite_self,
      ih fun x hx => hs x (List.mem_cons_of_mem c hx)]

/-- Inside brackets there may be colons. -/
theorem splitHost_brackets (hs : ∀ c ∈ s, c ≠ '[' ∧ c ≠ ']')
    (h : after = [] ∨ after.head? = some ':') :
    splitHost true (s ++ ']' :: after) = (s ++ [']'], after) := by
  induction s with
  | nil =>
    rw [List.nil_append, splitHost_cons true (by simp), if_neg (by decide), if_pos rfl,
      splitHost_of_after h]
    rfl
  | cons c s ih =>
    obtain ⟨hopen, hclose⟩ := hs c List.mem_cons_self
    rw [List.cons_append, splitHost_cons true (by simp), if_neg hopen, if_neg hclose,
      ih fun x hx => hs x (List.mem_cons_of_mem c hx)]
    rfl

/-- An address in groups has neither delimiters nor brackets, apart from its colons. -/
theorem mem_writeIpv6_cases {groups : List Nat} (h : c ∈ writeIpv6 groups) :
    delimits c = false ∧ c ≠ '[' ∧ c ≠ ']' := by
  rcases mem_writeIpv6 h with rfl | ⟨m, hm, rfl⟩
  · decide
  · exact (by decide : ∀ m < 16, delimits m.digitChar = false ∧ m.digitChar ≠ '[' ∧
      m.digitChar ≠ ']') m hm

namespace Host.IsRead

/-- What is written for a host is a domain name, or it stands in brackets. -/
theorem write_cases (h : host.IsRead) : IsFreeOf forbiddenInDomain host.write ∨
    ∃ groups, host.write = '[' :: writeIpv6 groups ++ [']'] := by
  cases h with
  | domain hname _ => exact .inl (domainToAscii?_domainToAscii? hname).1
  | ipv4 a => exact .inl (isFreeOf_writeIpv4 a)
  | @ipv6 groups _ => exact .inr ⟨groups, rfl⟩

/-- A host that is written has no delimiter. -/
theorem not_delimits (h : host.IsRead) (hc : c ∈ host.write) : delimits c = false := by
  rcases h.write_cases with hfree | ⟨groups, hwrite⟩
  · exact not_delimits_of_free (hfree c hc)
  · rw [hwrite, List.cons_append, List.mem_cons, List.mem_append, List.mem_singleton] at hc
    rcases hc with rfl | hc | rfl
    · decide
    · exact (mem_writeIpv6_cases hc).1
    · decide

/-- The host is found again before a port. -/
theorem splitHost_write (h : host.IsRead) (hafter : after = [] ∨ after.head? = some ':') :
    splitHost false (host.write ++ after) = (host.write, after) := by
  rcases h.write_cases with hfree | ⟨groups, hwrite⟩
  · refine splitHost_append (fun c hc => ?_) hafter
    have hmem : ∀ {x}, forbiddenInDomain x = true → c ≠ x := by
      rintro x hx rfl
      exact hfree.not_mem hx hc
    exact ⟨hmem (by decide), hmem (by decide)⟩
  · rw [hwrite, List.append_assoc, List.cons_append, splitHost_cons false (by decide), if_pos rfl,
      List.singleton_append, splitHost_brackets (fun c hc => (mem_writeIpv6_cases hc).2) hafter]
    rfl

/-- Something is written for every host. -/
theorem write_ne_nil (h : host.IsRead) : host.write ≠ [] := by
  cases h with
  | domain _ hhost =>
    rintro rfl
    cases hhost
  | ipv4 a =>
    intro hnil
    have hread := readHost_writeIpv4 a
    rw [show writeIpv4 a = [] from hnil] at hread
    cases hread
  | ipv6 _ => exact List.cons_ne_nil _ _

/-- What is written for a host is read as that host, unless a label is too long to be decoded. -/
theorem readHost_write (h : host.IsRead) :
    readHost host.write = if host.isOverlong then .error .invalidDomain else .ok host := by
  cases h with
  | @domain s name hname hhost =>
    obtain ⟨hfree, hagain⟩ := domainToAscii?_domainToAscii? hname
    rw [Host.write, readHost_of_isFreeOf hfree, hagain, isOverlong]
    cases (splitOnChar '.' name).any Label.isOverlong with
    | true => rfl
    | false => exact hhost
  | ipv4 a => exact readHost_writeIpv4 a
  | @ipv6 groups hgroups =>
    show readBracketed (writeIpv6 groups ++ [']']) = .ok (.ipv6 groups)
    rw [readBracketed_append, readIpv6?_writeIpv6 hgroups, Option.elim_some]

end Host.IsRead

end AmpMarkup.Url
