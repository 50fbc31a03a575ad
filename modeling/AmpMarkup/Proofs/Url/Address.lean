import AmpMarkup.Proofs.Url.Parts
import AmpMarkup.Proofs.Text.Character
import AmpMarkup.Url.Address
import Mathlib.Data.List.Induction
import Mathlib.Data.List.TakeWhile

namespace AmpMarkup.Url

open AmpMarkup.Text

/-!
# Network addresses are read back

* `numberInBase_toDigits` — a number is read back from its digits.
* `readIpv4?_writeIpv4`, `looksLikeIpv4_writeIpv4` — four bytes.
* `AreGroups` — the groups of an address, `areGroups_of_readIpv6?` that all that are read are such.
* `exists_longestZeroRun` — where the zeros are that are left out.
* `readIpv6?_writeIpv6` — eight groups.
-/

variable {s t : List Char} {c : Char} {base n : Nat} {gs : List Nat}

/-! ### Numbers -/

/-- A further digit multiplies the number by its base. -/
theorem numberInBase_append_singleton (base : Nat) (s : List Char) (c : Char) :
    numberInBase base (s ++ [c]) = base * numberInBase base s + (hexValue? c).getD 0 := by
  rw [numberInBase, List.foldl_append, numberInBase]
  rfl

/-- The digit for a small number is read with that value. -/
theorem hexValue?_digitChar (h : n < 16) : hexValue? n.digitChar = some n := by
  have hall : ∀ n < 16, hexValue? n.digitChar = some n := by decide
  exact hall n h

/-- The digits of a number, from the last one on. -/
theorem toDigits_induction {P : Nat → Prop} (hbase : 1 < base)
    (hdigit : ∀ n < base, P n) (hstep : ∀ n, base ≤ n → P (n / base) → P n) (n : Nat) : P n := by
  induction n using Nat.strongRecOn with
  | ind n ih =>
    by_cases h : n < base
    · exact hdigit n h
    · have hle := Nat.le_of_not_lt h
      exact hstep n hle (ih _ (Nat.div_lt_self (by omega) hbase))

/-- A number that takes several digits is the number without its last digit, followed by that
    digit. -/
theorem toDigits_of_base_le (hbase : 1 < base) (h : base ≤ n) :
    Nat.toDigits base n = Nat.toDigits base (n / base) ++ [(n % base).digitChar] := by
  rw [Nat.toDigits_eq_if hbase, if_neg (Nat.not_lt.mpr h)]

/-- The digits of a number are read as that number. -/
theorem numberInBase_toDigits (hbase : 1 < base) (hle : base ≤ 16) (n : Nat) :
    numberInBase base (Nat.toDigits base n) = n := by
  induction n using toDigits_induction hbase with
  | hdigit n hn =>
    rw [Nat.toDigits_of_lt_base hn, numberInBase, List.foldl_cons, List.foldl_nil,
      hexValue?_digitChar (by omega), Option.getD_some]
    omega
  | hstep n hn ih =>
    have hmod := Nat.mod_lt n (by omega : 0 < base)
    rw [toDigits_of_base_le hbase hn, numberInBase_append_singleton, ih,
      hexValue?_digitChar (by omega), Option.getD_some, Nat.div_add_mod]

/-- The digits of a number are digits of its base. -/
theorem mem_toDigits (hbase : 1 < base) (h : c ∈ Nat.toDigits base n) :
    ∃ m < base, c = m.digitChar := by
  induction n using toDigits_induction hbase with
  | hdigit n hn =>
    rw [Nat.toDigits_of_lt_base hn, List.mem_singleton] at h
    exact ⟨n, hn, h⟩
  | hstep n hn ih =>
    rw [toDigits_of_base_le hbase hn, List.mem_append, List.mem_singleton] at h
    rcases h with h | rfl
    · exact ih h
    · exact ⟨_, Nat.mod_lt n (by omega), rfl⟩

/-- A number in decimal form has digits only. -/
theorem isDigit_of_mem_decimal (h : c ∈ decimal n) : c.isDigit = true :=
  Nat.isDigit_of_mem_toDigits (by decide) (by decide) h

/-- A number in decimal form has a digit. -/
theorem decimal_ne_nil (n : Nat) : decimal n ≠ [] := Nat.toDigits_ne_nil

/-- Only zero begins with a zero. -/
theorem head?_decimal (h : n ≠ 0) : (decimal n).head? ≠ some '0' := by
  have hten : 1 < 10 := by decide
  rw [decimal]
  induction n using toDigits_induction hten with
  | hdigit n hn =>
    have hall : ∀ n < 10, n ≠ 0 → [n.digitChar].head? ≠ some '0' := by decide
    rw [Nat.toDigits_of_lt_base hn]
    exact hall n hn h
  | hstep n hn ih =>
    rw [toDigits_of_base_le hten hn, List.head?_append_of_ne_nil _ Nat.toDigits_ne_nil]
    exact ih (by omega)

/-- A decimal number announces no other base. -/
theorem splitBase_decimal (n : Nat) : splitBase (decimal n) = (10, decimal n) := by
  by_cases h : n = 0
  · rw [h]
    rfl
  · have hhead := head?_decimal h
    unfold splitBase
    split
    · rename_i heq
      rw [heq] at hhead
      exact absurd rfl hhead
    · rename_i heq
      rw [heq] at hhead
      exact absurd rfl hhead
    · rename_i heq
      rw [heq] at hhead
      exact absurd rfl hhead
    · rfl

/-- A number in decimal form is read as itself, since it has no zeros in front. -/
theorem readIpv4Number?_decimal (n : Nat) : readIpv4Number? (decimal n) = some n := by
  have hne : (decimal n).isEmpty = false := List.isEmpty_eq_false_iff.mpr (decimal_ne_nil n)
  have hdigits : ((decimal n).all fun c => (hexValue? c).any (· < 10)) = true := by
    rw [List.all_eq_true]
    intro c hc
    obtain ⟨m, hm, rfl⟩ := mem_toDigits (by decide) hc
    rw [hexValue?_digitChar (by omega)]
    simpa using hm
  rw [readIpv4Number?, hne, if_neg Bool.false_ne_true, splitBase_decimal]
  dsimp only
  rw [if_pos hdigits, decimal, numberInBase_toDigits (by decide) (by decide)]

/-! ### Four bytes -/

/-- A number in decimal form has no point. -/
theorem dot_not_mem_decimal (n : Nat) : '.' ∉ decimal n := fun h =>
  Bool.noConfusion (isDigit_of_mem_decimal h)

/-- An address in dotted form has four parts, one for each byte. -/
theorem splitOnChar_writeIpv4 (a : UInt32) :
    splitOnChar '.' (writeIpv4 a) = (ipv4Bytes a).map decimal := by
  rw [writeIpv4, splitOnChar_joinWithChar (by simp [ipv4Bytes])]
  intro part hpart
  obtain ⟨n, -, rfl⟩ := List.mem_map.mp hpart
  exact dot_not_mem_decimal n

/-- An address in dotted form has no empty part that would be left out. -/
theorem dottedParts_writeIpv4 (a : UInt32) :
    dottedParts (writeIpv4 a) = (ipv4Bytes a).map decimal := by
  rw [dottedParts, splitOnChar_writeIpv4, if_neg]
  simp [ipv4Bytes, decimal_ne_nil]

/-- What is written as an address looks like one. -/
theorem looksLikeIpv4_writeIpv4 (a : UInt32) : looksLikeIpv4 (writeIpv4 a) = true := by
  have hlast : ((ipv4Bytes a).map decimal).getLast? = some (decimal (a.toNat % 256)) := by
    simp [ipv4Bytes]
  rw [looksLikeIpv4, dottedParts_writeIpv4, hlast]
  dsimp only
  rw [readIpv4Number?_decimal]
  simp

/-- Four bytes are read back. -/
theorem readIpv4?_writeIpv4 (a : UInt32) : readIpv4? (writeIpv4 a) = some a := by
  have hnumbers : ((ipv4Bytes a).map decimal).mapM readIpv4Number? = some (ipv4Bytes a) := by
    rw [mapM_eq_some_iff, List.forall₂_map_left_iff, List.forall₂_same]
    exact fun n _ => readIpv4Number?_decimal n
  have hlt := a.toNat_lt
  have hvalue : (List.foldl (fun n b => 256 * n + b) 0
      [a.toNat / 16777216, a.toNat / 65536 % 256, a.toNat / 256 % 256]) * 256 + a.toNat % 256 =
      a.toNat := by
    simp only [List.foldl_cons, List.foldl_nil]
    omega
  have hbytes : ([a.toNat / 16777216, a.toNat / 65536 % 256, a.toNat / 256 % 256].all (· ≤ 255)) =
      true := by
    simp only [List.all_cons, List.all_nil, Bool.and_true, Bool.and_eq_true, decide_eq_true_eq]
    omega
  have hlast : (ipv4Bytes a).getLast? = some (a.toNat % 256) := rfl
  have hinit : (ipv4Bytes a).dropLast =
      [a.toNat / 16777216, a.toNat / 65536 % 256, a.toNat / 256 % 256] := rfl
  -- Three bytes are given, so the last number has room for one more.
  have hroom : Nat.pow 256 (4 - [a.toNat / 16777216, a.toNat / 65536 % 256,
      a.toNat / 256 % 256].length) = 256 := rfl
  rw [readIpv4?, dottedParts_writeIpv4, hnumbers, Option.bind_some, ipv4OfNumbers?, hlast]
  dsimp only
  rw [hinit, hroom, hvalue, if_pos ⟨Nat.le_refl 4, hbytes, Nat.mod_lt _ (by decide)⟩,
    UInt32.ofNat_toNat]

/-- The characters of an address of four bytes. -/
theorem mem_writeIpv4 {a : UInt32} (h : c ∈ writeIpv4 a) : c = '.' ∨ c.isDigit = true := by
  rcases mem_joinWithChar h with rfl | ⟨part, hpart, hc⟩
  · exact .inl rfl
  · obtain ⟨n, -, rfl⟩ := List.mem_map.mp hpart
    exact .inr (isDigit_of_mem_decimal hc)

/-! ### Groups -/

/-- Eight numbers of two bytes each. -/
def AreGroups (gs : List Nat) : Prop := gs.length = 8 ∧ ∀ g ∈ gs, g < 65536

/-- No digit is above 15. -/
theorem hexValue?_le {n : Nat} (h : hexValue? c = some n) : n ≤ 15 := by
  have hle : ∀ {a b : Char}, a ≤ b → a.toNat ≤ b.toNat := fun h => UInt32.le_iff_toNat_le.mp h
  unfold hexValue? at h
  split at h
  · rename_i hdigit
    rw [Char.isDigit_iff_toNat] at hdigit
    have : '9'.toNat = 57 := rfl
    cases h
    omega
  · split at h
    · rename_i hrange
      have := hle hrange.2
      have : 'f'.toNat = 102 := rfl
      cases h
      omega
    · split at h
      · rename_i hrange
        have := hle hrange.2
        have : 'F'.toNat = 70 := rfl
        cases h
        omega
      · cases h

/-- A number with so many hexadecimal digits is bounded accordingly. -/
theorem numberInBase_lt (s : List Char) : numberInBase 16 s < Nat.pow 16 s.length := by
  induction s using List.reverseRecOn with
  | nil => decide
  | append_singleton s c ih =>
    have hpow : Nat.pow 16 (s.length + 1) = Nat.pow 16 s.length * 16 := rfl
    rw [numberInBase_append_singleton, List.length_append, List.length_singleton, hpow]
    have hvalue : (hexValue? c).getD 0 ≤ 15 := by
      cases h : hexValue? c with
      | none => exact Nat.zero_le _
      | some n => exact hexValue?_le h
    omega

/-- A group is a number of 16 bits. -/
theorem lt_of_readGroup? (h : readGroup? s = some n) : n < 65536 := by
  unfold readGroup? at h
  split at h
  · rename_i hcond
    cases h
    calc numberInBase 16 s < Nat.pow 16 s.length := numberInBase_lt s
      _ ≤ Nat.pow 16 4 := Nat.pow_le_pow_right (by decide) hcond.2.1
  · cases h

/-- A part of an embedded address is a byte. -/
theorem le_of_readByte? (h : readByte? s = some n) : n ≤ 255 := by
  unfold readByte? at h
  split at h
  · rename_i hcond
    cases h
    exact hcond.2.2.2
  · cases h

/-- An embedded address gives two groups. -/
theorem lt_of_readTwoGroups? (h : readTwoGroups? s = some gs) : ∀ g ∈ gs, g < 65536 := by
  unfold readTwoGroups? at h
  split at h
  · rename_i a b c d hbytes
    cases h
    have hle : ∀ n ∈ [a, b, c, d], n ≤ 255 := fun n hn => by
      obtain ⟨part, -, hpart⟩ := exists_of_mem_mapM hbytes hn
      exact le_of_readByte? hpart
    simp only [List.forall_mem_cons, List.not_mem_nil, false_implies, implies_true, and_true]
      at hle ⊢
    omega
  · cases h

/-- All groups on one side are numbers of 16 bits. -/
theorem lt_of_readGroups? {isEnd : Bool} (h : readGroups? isEnd s = some gs) :
    ∀ g ∈ gs, g < 65536 := by
  unfold readGroups? at h
  dsimp only at h
  split at h
  · rename_i groups last hgroups hlast
    have hinit : ∀ g ∈ groups, g < 65536 := fun g hg => by
      obtain ⟨part, -, hpart⟩ := exists_of_mem_mapM hgroups hg
      exact lt_of_readGroup? hpart
    split at h
    · rename_i group hgroup
      cases h
      intro g hg
      rcases List.mem_append.mp hg with hg | hg
      · exact hinit g hg
      · exact List.mem_singleton.mp hg ▸ lt_of_readGroup? hgroup
    · split at h
      · obtain ⟨two, htwo, rfl⟩ := Option.map_eq_some_iff.mp h
        intro g hg
        rcases List.mem_append.mp hg with hg | hg
        · exact hinit g hg
        · exact lt_of_readTwoGroups? htwo g hg
      · cases h
  · cases h

/-- The groups on one side of a gap. -/
def readSide? (isEnd : Bool) (s : List Char) : Option (List Nat) :=
  if s.isEmpty then some [] else readGroups? isEnd s

/-- With a gap the groups are those before it, some zeros and those behind it. -/
theorem readIpv6?_of_gap {before after : List Char} (h : splitAtGap? s = some (before, after)) :
    readIpv6? s = (readSide? false before).bind fun left => (readSide? true after).bind fun right =>
      if left.length + right.length ≤ 7 then
        some (left ++ List.replicate (8 - left.length - right.length) 0 ++ right)
      else none := by
  rw [readIpv6?, h]
  cases before <;> cases after <;> rfl

/-- All groups that are read from one side are numbers of 16 bits. -/
theorem lt_of_readSide? {isEnd : Bool} (h : readSide? isEnd s = some gs) : ∀ g ∈ gs, g < 65536 := by
  unfold readSide? at h
  split at h
  · cases h
    simp
  · exact lt_of_readGroups? h

/-- Whatever is read as an address has eight groups. -/
theorem areGroups_of_readIpv6? (h : readIpv6? s = some gs) : AreGroups gs := by
  cases hgap : splitAtGap? s with
  | none =>
    rw [readIpv6?, hgap] at h
    obtain ⟨groups, hgroups, hlength⟩ := Option.bind_eq_some_iff.mp h
    split at hlength
    · cases hlength
      exact ⟨‹_›, lt_of_readGroups? hgroups⟩
    · cases hlength
  | some sides =>
    rw [readIpv6?_of_gap hgap] at h
    obtain ⟨left, hleft, h⟩ := Option.bind_eq_some_iff.mp h
    obtain ⟨right, hright, h⟩ := Option.bind_eq_some_iff.mp h
    split at h
    · cases h
      refine ⟨?_, fun g hg => ?_⟩
      · simp only [List.length_append, List.length_replicate]
        omega
      · rcases List.mem_append.mp hg with hg | hg
        · rcases List.mem_append.mp hg with hg | hg
          · exact lt_of_readSide? hleft g hg
          · rw [List.eq_of_mem_replicate hg]
            decide
        · exact lt_of_readSide? hright g hg
    · cases h

/-! ### Groups written and read -/

/-- The digit for a small number is hexadecimal. -/
theorem isHexDigit_digitChar (h : n < 16) : isHexDigit n.digitChar = true := by
  rw [isHexDigit, hexValue?_digitChar h]
  rfl

/-- A group in hexadecimal form is read as itself. -/
theorem readGroup?_toDigits (h : n < 65536) : readGroup? (Nat.toDigits 16 n) = some n := by
  have hlength : (Nat.toDigits 16 n).length ≤ 4 :=
    (Nat.length_toDigits_le_iff (by decide) (by decide)).mpr h
  have hdigits : (Nat.toDigits 16 n).all isHexDigit = true := by
    rw [List.all_eq_true]
    intro c hc
    obtain ⟨m, hm, rfl⟩ := mem_toDigits (by decide) hc
    exact isHexDigit_digitChar hm
  rw [readGroup?, if_pos ⟨Nat.length_toDigits_pos, hlength, hdigits⟩,
    numberInBase_toDigits (by decide) (by decide)]

/-- A group in hexadecimal form has no colon. -/
theorem colon_not_mem_toDigits (n : Nat) : ':' ∉ Nat.toDigits 16 n := by
  intro h
  obtain ⟨m, hm, heq⟩ := mem_toDigits (by decide) h
  exact (by decide : ∀ m < 16, ':' ≠ m.digitChar) m hm heq

/-- The groups that are written are parted by colons. -/
theorem splitOnChar_writeGroups (hne : gs ≠ []) :
    splitOnChar ':' (writeGroups gs) = gs.map (Nat.toDigits 16) := by
  refine splitOnChar_joinWithChar (by simpa using hne) fun part hpart => ?_
  obtain ⟨n, -, rfl⟩ := List.mem_map.mp hpart
  exact colon_not_mem_toDigits n

/-- Groups between colons are read back. -/
theorem readGroups?_writeGroups (isEnd : Bool) (hne : gs ≠ []) (hlt : ∀ g ∈ gs, g < 65536) :
    readGroups? isEnd (writeGroups gs) = some gs := by
  obtain ⟨init, last, rfl⟩ : ∃ init last, gs = init ++ [last] :=
    ⟨gs.dropLast, gs.getLast hne, (List.dropLast_append_getLast hne).symm⟩
  have hinit : (init.map (Nat.toDigits 16)).mapM readGroup? = some init := by
    rw [mapM_eq_some_iff, List.forall₂_map_left_iff, List.forall₂_same]
    exact fun n hn => readGroup?_toDigits (hlt n (List.mem_append_left _ hn))
  have hlast := readGroup?_toDigits (hlt last (by simp))
  rw [readGroups?, splitOnChar_writeGroups hne, List.map_append, List.map_singleton,
    List.dropLast_concat, hinit, List.getLast?_concat]
  dsimp only
  rw [hlast]

theorem writeGroups_cons_cons (g g' : Nat) (rest : List Nat) :
    writeGroups (g :: g' :: rest) = Nat.toDigits 16 g ++ ':' :: writeGroups (g' :: rest) := rfl

/-- Something is written for some groups. -/
theorem writeGroups_ne_nil (hne : gs ≠ []) : writeGroups gs ≠ [] := by
  intro h
  have hsplit := splitOnChar_writeGroups hne
  rw [h, splitOnChar] at hsplit
  cases gs with
  | nil => exact hne rfl
  | cons g rest => exact Nat.toDigits_ne_nil (List.cons_eq_cons.mp hsplit).1.symm

/-- Groups that have been written are read as they were. -/
theorem readSide?_writeGroups (isEnd : Bool) (hlt : ∀ g ∈ gs, g < 65536) :
    readSide? isEnd (writeGroups gs) = some gs := by
  cases gs with
  | nil => rfl
  | cons g rest =>
    rw [readSide?, if_neg, readGroups?_writeGroups isEnd (by simp) hlt]
    rw [List.isEmpty_iff]
    exact writeGroups_ne_nil (by simp)

/-! ### The gap -/

/-- A gap is looked for behind every character but a colon. -/
theorem splitAtGap?_cons_of_ne (h : c ≠ ':') :
    splitAtGap? (c :: s) = (splitAtGap? s).map fun p => (c :: p.1, p.2) := by
  rw [splitAtGap?]
  exact fun _ hc => absurd hc h

/-- A gap does not begin before a colon. -/
theorem splitAtGap?_append (h : ':' ∉ s) (t : List Char) :
    splitAtGap? (s ++ t) = (splitAtGap? t).map fun p => (s ++ p.1, p.2) := by
  induction s with
  | nil => simp
  | cons c s ih =>
    obtain ⟨hc, hs⟩ := List.ne_and_not_mem_of_not_mem_cons h
    rw [List.cons_append, splitAtGap?_cons_of_ne (Ne.symm hc), ih hs, Option.map_map]
    rfl

/-- One colon is no gap. -/
theorem splitAtGap?_colon (h : t.head? ≠ some ':') :
    splitAtGap? (':' :: t) = (splitAtGap? t).map fun p => (':' :: p.1, p.2) := by
  rw [splitAtGap?]
  rintro rest - rfl
  exact h rfl

/-- Groups that are written do not begin with a colon. -/
theorem head?_writeGroups_append (hne : gs ≠ []) (t : List Char) :
    (writeGroups gs ++ t).head? ≠ some ':' := by
  obtain ⟨g, rest, rfl⟩ := List.exists_cons_of_ne_nil hne
  obtain ⟨c, cs, hdigits⟩ := List.exists_cons_of_ne_nil (Nat.toDigits_ne_nil (n := g) (b := 16))
  have hc : c ≠ ':' := by
    rintro rfl
    exact colon_not_mem_toDigits g (hdigits ▸ List.mem_cons_self)
  cases rest with
  | nil =>
    rw [writeGroups, List.map_singleton, joinWithChar, hdigits]
    simpa using hc
  | cons g' rest =>
    rw [writeGroups_cons_cons, hdigits]
    simpa using hc

/-- Groups hold no gap, and none begins with their last digit. -/
theorem splitAtGap?_writeGroups_append (gs : List Nat) (t : List Char) :
    splitAtGap? (writeGroups gs ++ t) =
      (splitAtGap? t).map fun p => (writeGroups gs ++ p.1, p.2) := by
  induction gs with
  | nil => simp [writeGroups, joinWithChar]
  | cons g rest ih =>
    cases rest with
    | nil => exact splitAtGap?_append (colon_not_mem_toDigits g) t
    | cons g' rest =>
      rw [writeGroups_cons_cons, List.append_assoc, splitAtGap?_append (colon_not_mem_toDigits g),
        List.cons_append, splitAtGap?_colon (head?_writeGroups_append (by simp) t), ih,
        Option.map_map, Option.map_map]
      congr 1
      funext p
      simp

/-! ### Eight groups -/

/-- The run of zeros that is left out. -/
theorem exists_longestZeroRun (start : Nat) (gs : List Nat) :
    ∃ pre post, gs = pre ++ List.replicate (longestZeroRun start gs).2 0 ++ post ∧
      (longestZeroRun start gs).1 = start + pre.length := by
  induction gs generalizing start with
  | nil => exact ⟨[], [], rfl, rfl⟩
  | cons g rest ih =>
    rw [longestZeroRun]
    dsimp only
    split
    · refine ⟨[], (g :: rest).dropWhile (· = 0), ?_, rfl⟩
      have hzeros : (g :: rest).takeWhile (· = 0) =
          List.replicate (leadingZeros (g :: rest)) 0 := by
        rw [List.eq_replicate_iff]
        refine ⟨rfl, fun n hn => ?_⟩
        simpa using List.mem_takeWhile_imp hn
      rw [List.nil_append, ← hzeros, List.takeWhile_append_dropWhile]
    · obtain ⟨pre, post, hrest, hstart⟩ := ih (start + 1)
      refine ⟨g :: pre, post, ?_, ?_⟩
      · rw [List.cons_append, List.cons_append, ← hrest]
      · rw [hstart, List.length_cons]
        omega

/-- Eight groups are read back. -/
theorem readIpv6?_writeIpv6 (h : AreGroups gs) : readIpv6? (writeIpv6 gs) = some gs := by
  obtain ⟨hlength, hlt⟩ := h
  obtain ⟨pre, post, hgs, hstart⟩ := exists_longestZeroRun 0 gs
  obtain ⟨run, hrun⟩ : ∃ run, run = longestZeroRun 0 gs := ⟨_, rfl⟩
  rw [← hrun] at hgs hstart
  rw [Nat.zero_add] at hstart
  rw [writeIpv6, ← hrun]
  dsimp only
  split
  · rename_i hlong
    -- What stands before and after the zeros is written on both sides of the gap.
    have hpre : gs.take run.1 = pre := by
      rw [hgs, hstart, List.append_assoc, List.take_left' rfl]
    have hpost : gs.drop (run.1 + run.2) = post := by
      rw [hgs, hstart]
      exact List.drop_left' (by simp)
    have hcount : pre.length + run.2 + post.length = 8 := by
      rw [← hlength, hgs]
      simp [Nat.add_assoc]
    have hgap : splitAtGap? (writeGroups pre ++ [':', ':'] ++ writeGroups post) =
        some (writeGroups pre, writeGroups post) := by
      rw [List.append_assoc, splitAtGap?_writeGroups_append]
      simp [splitAtGap?]
    have hleft : ∀ g ∈ pre, g < 65536 := fun g hg => hlt g (by rw [hgs]; simp [hg])
    have hright : ∀ g ∈ post, g < 65536 := fun g hg => hlt g (by rw [hgs]; simp [hg])
    rw [hpre, hpost, readIpv6?_of_gap hgap, readSide?_writeGroups false hleft,
      readSide?_writeGroups true hright, Option.bind_some, Option.bind_some, if_pos (by omega),
      (by omega : 8 - pre.length - post.length = run.2), ← hgs]
  · have hne : gs ≠ [] := by
      rintro rfl
      cases hlength
    have hgap : splitAtGap? (writeGroups gs) = none := by
      have := splitAtGap?_writeGroups_append gs []
      rwa [List.append_nil] at this
    rw [readIpv6?, hgap]
    dsimp only
    rw [readGroups?_writeGroups true hne hlt, Option.bind_some, if_pos hlength]

/-- The characters of an address of eight groups. -/
theorem mem_writeIpv6 (h : c ∈ writeIpv6 gs) : c = ':' ∨ ∃ m < 16, c = m.digitChar := by
  have hgroups : ∀ {gs : List Nat}, c ∈ writeGroups gs → c = ':' ∨ ∃ m < 16, c = m.digitChar := by
    intro gs hc
    rcases mem_joinWithChar hc with rfl | ⟨part, hpart, hc⟩
    · exact .inl rfl
    · obtain ⟨n, -, rfl⟩ := List.mem_map.mp hpart
      exact .inr (mem_toDigits (by decide) hc)
  unfold writeIpv6 at h
  dsimp only at h
  split at h
  · rcases List.mem_append.mp h with h | h
    · rcases List.mem_append.mp h with h | h
      · exact hgroups h
      · exact .inl (by simpa using h)
    · exact hgroups h
  · exact hgroups h

end AmpMarkup.Url
