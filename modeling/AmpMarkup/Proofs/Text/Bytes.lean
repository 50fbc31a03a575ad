import AmpMarkup.Proofs.Text.Character
import AmpMarkup.Text.Bytes
import Mathlib.Data.List.TakeWhile

namespace AmpMarkup.Text

/-!
# Scanning bytes is scanning characters

A byte of a character beyond ASCII is at least 128. A test that no such byte tells from another one
is passed by all bytes of a character or by none, so scanning with it from one boundary ends at the
next one that the same test finds among the characters.

* `byteAt?_isSome_iff`, `cut?_append`, `slice?_isSome_iff` — when a byte or a part is there.
* `IsRest s i rest` — `rest` is what `s` goes on with at the byte `i`, which is a boundary.
* `IsAsciiTest p` — a test as above; `IsRest.skipWhile?`, `IsRest.testAt?` — what it finds.
-/

variable {s pre post rest : List Char} {i j k : Nat} {c : Char} {p q : Char → Bool}

/-! ### The bytes of a text -/

@[simp] theorem bytes_nil : bytes [] = [] := rfl

@[simp] theorem bytes_cons (c : Char) (s : List Char) :
    bytes (c :: s) = String.utf8EncodeChar c ++ bytes s :=
  List.flatMap_cons

@[simp] theorem bytes_append (s t : List Char) : bytes (s ++ t) = bytes s ++ bytes t :=
  List.flatMap_append

@[simp] theorem byteLength_nil : byteLength [] = 0 := rfl

@[simp] theorem byteLength_cons (c : Char) (s : List Char) :
    byteLength (c :: s) = c.utf8Size + byteLength s := by
  rw [byteLength, bytes_cons, List.length_append, String.length_utf8EncodeChar, byteLength]

@[simp] theorem byteLength_append (s t : List Char) :
    byteLength (s ++ t) = byteLength s + byteLength t := by
  rw [byteLength, bytes_append, List.length_append, byteLength, byteLength]

/-- The number of bytes is that of the UTF-8 form. -/
theorem byteLength_eq_utf8ByteSize (s : List Char) :
    byteLength s = (String.ofList s).utf8ByteSize := by
  rw [← String.size_toByteArray, String.toByteArray_ofList, List.utf8Encode]
  simp [byteLength, bytes]

/-- Every character takes a byte at least. -/
theorem byteLength_pos (c : Char) (s : List Char) : 0 < byteLength (c :: s) := by
  rw [byteLength_cons]
  exact Nat.add_pos_left c.utf8Size_pos _

/-- A rest takes no more bytes than the whole. -/
theorem byteLength_le_of_suffix (h : rest <:+ s) : byteLength rest ≤ byteLength s := by
  obtain ⟨pre, rfl⟩ := h
  rw [byteLength_append]
  exact Nat.le_add_left _ _

/-- A boundary is the end of a first part. -/
theorem isBoundary_iff : IsBoundary s i ↔ ∃ pre post, s = pre ++ post ∧ byteLength pre = i := by
  rw [IsBoundary, String.Pos.Raw.isValid_iff_exists_append]
  constructor
  · rintro ⟨s₁, s₂, hs, hi⟩
    refine ⟨s₁.toList, s₂.toList, ?_, ?_⟩
    · rw [← String.toList_append, ← hs, String.toList_ofList]
    · rw [byteLength_eq_utf8ByteSize, String.ofList_toList]
      exact (congrArg String.Pos.Raw.byteIdx hi).symm
  · rintro ⟨pre, post, rfl, rfl⟩
    refine ⟨String.ofList pre, String.ofList post, String.ofList_append, ?_⟩
    rw [byteLength_eq_utf8ByteSize]
    rfl

/-! ### What is read and cut -/

/-- A byte is read exactly if it is in range. -/
theorem byteAt?_isSome_iff : (byteAt? s i).isSome = true ↔ i < byteLength s := by
  simp [byteAt?, byteLength]

/-- A text is cut between two of its parts. -/
theorem cut?_append (pre post : List Char) :
    cut? (pre ++ post) (byteLength pre) = some (pre, post) := by
  induction pre with
  | nil => cases post <;> rfl
  | cons c pre ih =>
    have hpos := c.utf8Size_pos
    obtain ⟨n, hn⟩ : ∃ n, byteLength (c :: pre) = n + 1 :=
      Nat.exists_eq_add_one.mpr (byteLength_pos c pre)
    have hrest : n + 1 - c.utf8Size = byteLength pre := by
      rw [← hn, byteLength_cons, Nat.add_sub_cancel_left]
    have hle : c.utf8Size ≤ n + 1 := by
      rw [← hn, byteLength_cons]
      exact Nat.le_add_right _ _
    rw [hn, List.cons_append, cut?, if_pos hle, hrest, ih, Option.map_some]

/-- A text that has been cut is its two parts, the first of which has as many bytes as were asked
    for. -/
theorem eq_append_of_cut? (h : cut? s i = some (pre, post)) :
    s = pre ++ post ∧ byteLength pre = i := by
  fun_induction cut? s i generalizing pre with
  | case1 => cases h; exact ⟨rfl, rfl⟩
  | case2 => cases h
  | case3 c s i hle ih =>
    rw [Option.map_eq_some_iff] at h
    obtain ⟨⟨before, after⟩, hcut, heq⟩ := h
    cases heq
    obtain ⟨rfl, hlen⟩ := ih hcut
    refine ⟨rfl, ?_⟩
    rw [byteLength_cons, hlen]
    omega
  | case4 => cases h

/-- A slice between two boundaries is what stands between them. -/
theorem slice?_append (pre inside post : List Char) :
    slice? (pre ++ (inside ++ post)) (byteLength pre) (byteLength (pre ++ inside)) =
      some inside := by
  have hlen : byteLength (pre ++ inside) - byteLength pre = byteLength inside := by
    rw [byteLength_append, Nat.add_sub_cancel_left]
  have hle : byteLength pre ≤ byteLength (pre ++ inside) := by
    rw [byteLength_append]
    exact Nat.le_add_right _ _
  rw [slice?, if_pos hle, cut?_append, hlen]
  simp [cut?_append]

/-- Of two first parts the one with fewer bytes is a first part of the other. -/
theorem exists_between {pre' post' : List Char} (h : pre ++ post = pre' ++ post')
    (hle : byteLength pre ≤ byteLength pre') :
    ∃ inside, pre' = pre ++ inside ∧ post = inside ++ post' := by
  rcases List.append_eq_append_iff.mp h with h | ⟨inside, hpre, hpost⟩
  · exact h
  · have hnil : inside = [] := by
      cases inside with
      | nil => rfl
      | cons c inside =>
        have hpos := byteLength_pos c inside
        rw [hpre, byteLength_append] at hle
        omega
    subst hnil
    exact ⟨[], by simpa using hpre.symm, by simpa using hpost.symm⟩

/-- A slice is there exactly if both ends are boundaries, in this order and inside the text. -/
theorem slice?_isSome_iff : (slice? s i j).isSome = true ↔
    i ≤ j ∧ j ≤ byteLength s ∧ IsBoundary s i ∧ IsBoundary s j := by
  simp only [isBoundary_iff]
  constructor
  · intro h
    obtain ⟨inside, h⟩ := Option.isSome_iff_exists.mp h
    simp only [slice?, Option.ite_none_right_eq_some, Option.bind_eq_bind,
      Option.bind_eq_some_iff] at h
    obtain ⟨hle, ⟨before, after⟩, hfirst, ⟨inside', post⟩, hsecond, -⟩ := h
    obtain ⟨rfl, rfl⟩ := eq_append_of_cut? hfirst
    obtain ⟨rfl, hlen⟩ := eq_append_of_cut? hsecond
    refine ⟨hle, ?_, ⟨_, _, rfl, rfl⟩, ⟨before ++ inside', post, ?_, ?_⟩⟩
    · simp only [byteLength_append]
      omega
    · rw [List.append_assoc]
    · rw [byteLength_append, hlen]
      omega
  · rintro ⟨hle, -, ⟨before, after, rfl, rfl⟩, ⟨upTo, post, heq, rfl⟩⟩
    obtain ⟨inside, rfl, rfl⟩ := exists_between heq hle
    rw [slice?_append]
    rfl

/-! ### What a text goes on with -/

/-- The text goes on with `rest` at the byte `i`, which is a boundary. -/
def IsRest (s : List Char) (i : Nat) (rest : List Char) : Prop :=
  ∃ pre, s = pre ++ rest ∧ byteLength pre = i

/-- A boundary is not behind the end. -/
theorem IsBoundary.le_byteLength (h : IsBoundary s i) : i ≤ byteLength s := by
  obtain ⟨pre, post, rfl, rfl⟩ := isBoundary_iff.mp h
  rw [byteLength_append]
  exact Nat.le_add_right _ _

/-- A boundary is where some rest begins. -/
theorem isBoundary_iff_isRest : IsBoundary s i ↔ ∃ rest, IsRest s i rest := by
  rw [isBoundary_iff]
  exact exists_comm

namespace IsRest

/-- The whole text is the rest at its start. -/
theorem start (s : List Char) : IsRest s 0 s := ⟨[], rfl, rfl⟩

/-- Where a rest begins there is a boundary. -/
theorem isBoundary (h : IsRest s i rest) : IsBoundary s i := isBoundary_iff_isRest.mpr ⟨rest, h⟩

/-- Behind a part of the rest the remaining rest begins. -/
theorem add (h : IsRest s i (pre ++ rest)) : IsRest s (i + byteLength pre) rest := by
  obtain ⟨before, rfl, rfl⟩ := h
  exact ⟨before ++ pre, (List.append_assoc _ _ _).symm, byteLength_append _ _⟩

/-- At the end nothing is left. -/
theorem stop (s : List Char) : IsRest s (byteLength s) [] := ⟨s, (List.append_nil s).symm, rfl⟩

/-- The bytes before a rest and those of the rest are all bytes. -/
theorem add_byteLength (h : IsRest s i rest) : i + byteLength rest = byteLength s := by
  obtain ⟨before, rfl, rfl⟩ := h
  rw [byteLength_append]

/-- Where nothing follows the text ends. -/
theorem eq_byteLength (h : IsRest s i []) : i = byteLength s := h.add_byteLength

/-- The bytes that are left are those of the rest. -/
theorem bytes_drop (h : IsRest s i rest) : (bytes s).drop i = bytes rest := by
  obtain ⟨before, rfl, rfl⟩ := h
  rw [bytes_append, byteLength, List.drop_left]

/-- A rest with a character begins before the end. -/
theorem lt_byteLength (h : IsRest s i (c :: rest)) : i < byteLength s := by
  have hlen := h.add_byteLength
  have hpos := byteLength_pos c rest
  omega

/-- The shorter the rest, the later it begins. -/
theorem lt_of_length_lt (h : IsRest s i pre) (h' : IsRest s j post)
    (hlt : post.length < pre.length) : i < j := by
  have hlen := h.add_byteLength
  have hlen' := h'.add_byteLength
  obtain ⟨before, rfl, -⟩ := h
  obtain ⟨before', heq, -⟩ := h'
  cases pre with
  | nil => simp at hlt
  | cons c pre =>
    have hpost : post <:+ before ++ c :: pre := heq ▸ List.suffix_append before' post
    have hpre : pre <:+ before ++ c :: pre :=
      (List.suffix_cons c pre).trans (List.suffix_append before _)
    have hsuffix := List.suffix_of_suffix_length_le hpost hpre (Nat.le_of_lt_succ hlt)
    have hle := byteLength_le_of_suffix hsuffix
    have hpos := c.utf8Size_pos
    rw [byteLength_cons] at hlen
    omega

/-- The slice over a part of the rest is that part. -/
theorem slice? (h : IsRest s i (pre ++ rest)) : slice? s i (i + byteLength pre) = some pre := by
  obtain ⟨before, rfl, rfl⟩ := h
  rw [← byteLength_append, slice?_append]

/-- The slice from the beginning of a rest is the rest. -/
theorem sliceFrom? (h : IsRest s i rest) : sliceFrom? s i = some rest := by
  have hall : IsRest s i (rest ++ []) := (List.append_nil rest).symm ▸ h
  have hslice := hall.slice?
  rwa [h.add_byteLength] at hslice

end IsRest

/-! ### Tests of bytes -/

/-- A character has a first byte. -/
theorem exists_utf8EncodeChar_eq_cons (c : Char) : ∃ b bs, String.utf8EncodeChar c = b :: bs := by
  refine List.exists_cons_of_length_pos ?_
  rw [String.length_utf8EncodeChar]
  exact c.utf8Size_pos

/-- A character of ASCII is its own only byte. -/
theorem utf8EncodeChar_of_isAscii (h : isAscii c = true) :
    String.utf8EncodeChar c = [c.val.toUInt8] := by
  refine String.utf8EncodeChar_eq_singleton (Char.utf8Size_eq_one_iff.mpr ?_)
  exact UInt32.le_iff_toNat_le.mpr (Nat.le_of_lt_succ (isAscii_iff.mp h))

/-- A character of ASCII takes one byte. -/
theorem utf8Size_of_isAscii (h : isAscii c = true) : c.utf8Size = 1 := by
  rw [← String.length_utf8EncodeChar, utf8EncodeChar_of_isAscii h, List.length_singleton]

/-- A character of ASCII is read back from its byte. -/
theorem ofUInt8_of_isAscii (h : isAscii c = true) : Char.ofUInt8 c.val.toUInt8 = c := by
  have hlt : c.val.toNat < 128 := isAscii_iff.mp h
  refine Char.toNat_inj.mp ?_
  show c.val.toUInt8.toUInt32.toNat = c.val.toNat
  rw [UInt8.toNat_toUInt32, UInt32.toNat_toUInt8]
  omega

/-- A byte read as a character has the same number. -/
theorem toNat_ofUInt8 (b : UInt8) : (Char.ofUInt8 b).toNat = b.toNat := by
  show b.toUInt32.toNat = b.toNat
  rw [UInt8.toNat_toUInt32]

/-- All bytes of a character beyond ASCII are beyond ASCII. -/
theorem isAscii_ofUInt8_of_mem (h : isAscii c = false) {b : UInt8}
    (hb : b ∈ String.utf8EncodeChar c) : isAscii (Char.ofUInt8 b) = false := by
  have hbyte : ∀ n, (UInt8.ofNat n).toNat = n % 256 := fun n => UInt8.toNat_ofNat'
  have hlarge : ¬ c.val.toNat ≤ 127 := by
    rw [← Bool.not_eq_true, isAscii_iff] at h
    exact fun hle => h (Nat.lt_succ_of_le hle)
  rw [← Bool.not_eq_true, isAscii_iff, toNat_ofUInt8, Nat.not_lt]
  simp only [String.utf8EncodeChar, if_neg hlarge] at hb
  split at hb
  · simp only [List.mem_cons, List.not_mem_nil, or_false] at hb
    rcases hb with rfl | rfl <;> (rw [hbyte]; omega)
  · split at hb <;> simp only [List.mem_cons, List.not_mem_nil, or_false] at hb
    · rcases hb with rfl | rfl | rfl <;> (rw [hbyte]; omega)
    · rcases hb with rfl | rfl | rfl | rfl <;> (rw [hbyte]; omega)

/-- The blanks are characters of ASCII. -/
theorem isAscii_of_isAsciiBlank (h : isAsciiBlank c = true) : isAscii c = true := by
  simp only [isAsciiBlank, Bool.or_eq_true, beq_iff_eq] at h
  rcases h with (((rfl | rfl) | rfl) | rfl) | rfl <;> decide

/-- The test does not tell characters beyond ASCII apart. -/
def IsAsciiTest (p : Char → Bool) : Prop :=
  ∀ a b, isAscii a = false → isAscii b = false → p a = p b

namespace IsAsciiTest

/-- What can be tested on a single byte can be denied there. -/
theorem not (hp : IsAsciiTest p) : IsAsciiTest fun c => !p c :=
  fun a b ha hb => congrArg (!·) (hp a b ha hb)

/-- Two tests that can be done on a single byte can be done there together. -/
theorem and (hp : IsAsciiTest p) (hq : IsAsciiTest q) : IsAsciiTest fun c => p c && q c :=
  fun a b ha hb => congrArg₂ (· && ·) (hp a b ha hb) (hq a b ha hb)

/-- That one of two tests holds can be told from a single byte if each of them can. -/
theorem or (hp : IsAsciiTest p) (hq : IsAsciiTest q) : IsAsciiTest fun c => p c || q c :=
  fun a b ha hb => congrArg₂ (· || ·) (hp a b ha hb) (hq a b ha hb)

/-- A test that only characters of ASCII pass. -/
theorem of_isAscii (h : ∀ c, p c = true → isAscii c = true) : IsAsciiTest p := by
  have hout : ∀ a, isAscii a = false → p a = false := by
    intro a ha
    rw [← Bool.not_eq_true]
    intro hp
    rw [h a hp] at ha
    cases ha
  exact fun a b ha hb => (hout a ha).trans (hout b hb).symm

/-- A given character of ASCII can be told from a single byte. -/
theorem eq {x : Char} (hx : isAscii x = true) : IsAsciiTest (· = x) :=
  of_isAscii fun _ hc => of_decide_eq_true hc ▸ hx

/-- A character other than a given one of ASCII can be told from a single byte. -/
theorem ne {x : Char} (hx : isAscii x = true) : IsAsciiTest (· ≠ x) := by
  have hne := (eq hx).not
  simpa only [ne_eq, decide_not] using hne

/-- A blank can be told from a single byte. -/
theorem isAsciiBlank : IsAsciiTest isAsciiBlank := of_isAscii fun _ => isAscii_of_isAsciiBlank

/-- A character and its bytes are tested alike. -/
theorem apply_byte (hp : IsAsciiTest p) {b : UInt8} (hb : b ∈ String.utf8EncodeChar c) :
    p (Char.ofUInt8 b) = p c := by
  cases hc : isAscii c with
  | true =>
    rw [utf8EncodeChar_of_isAscii hc, List.mem_singleton] at hb
    rw [hb, ofUInt8_of_isAscii hc]
  | false => exact hp _ _ (isAscii_ofUInt8_of_mem hc hb) hc

/-- The bytes before the first one that fails are those of the characters before the first one. -/
theorem takeWhile_bytes (hp : IsAsciiTest p) (s : List Char) :
    (bytes s).takeWhile (fun b => p (Char.ofUInt8 b)) = bytes (s.takeWhile p) := by
  induction s with
  | nil => rfl
  | cons c s ih =>
    rw [bytes_cons]
    cases hc : p c with
    | true =>
      rw [List.takeWhile_cons_of_pos hc, bytes_cons, ← ih]
      exact List.takeWhile_append_of_pos fun b hb => (hp.apply_byte hb).trans hc
    | false =>
      rw [List.takeWhile_cons_of_neg (by simp [hc]), bytes_nil]
      obtain ⟨b, bs, hbytes⟩ := exists_utf8EncodeChar_eq_cons c
      have hb := hp.apply_byte (hbytes ▸ List.mem_cons_self : b ∈ String.utf8EncodeChar c)
      rw [hbytes, List.cons_append, List.takeWhile_cons_of_neg (by simp [hb, hc])]

end IsAsciiTest

/-! ### Scanning -/

/-- The byte at a place in range is the first of those from there on. -/
theorem exists_byteAt? (h : k < byteLength s) : ∃ b,
    byteAt? s k = some (Char.ofUInt8 b) ∧ (bytes s).drop k = b :: (bytes s).drop (k + 1) := by
  refine ⟨(bytes s)[k], ?_, List.drop_eq_getElem_cons h⟩
  rw [byteAt?, List.getElem?_eq_getElem h, Option.map_some]

/-- Scanning goes over all bytes that pass the test. -/
theorem skipWhile?_eq (p : Char → Bool) (s : List Char) (k : Nat) : skipWhile? p s k =
    some (k + (((bytes s).drop k).takeWhile fun b => p (Char.ofUInt8 b)).length) := by
  fun_induction skipWhile? p s k with
  | case1 k hk x hbyte hx ih =>
    obtain ⟨b, hb, hdrop⟩ := exists_byteAt? hk
    rw [hbyte, Option.some.injEq] at hb
    rw [ih, hdrop, List.takeWhile_cons_of_pos (hb ▸ hx), List.length_cons]
    exact congrArg some (by omega)
  | case2 k hk x hbyte hx =>
    obtain ⟨b, hb, hdrop⟩ := exists_byteAt? hk
    rw [hbyte, Option.some.injEq] at hb
    rw [hdrop, List.takeWhile_cons_of_neg (hb ▸ hx), List.length_nil, Nat.add_zero]
  | case3 k hk hbyte =>
    obtain ⟨b, hb, -⟩ := exists_byteAt? hk
    rw [hbyte] at hb
    cases hb
  | case4 k hk =>
    rw [List.drop_of_length_le (Nat.not_lt.mp hk), List.takeWhile_nil, List.length_nil,
      Nat.add_zero]

namespace IsRest

/-- From a boundary on scanning goes over the characters that pass the test. -/
theorem skipWhile? (h : IsRest s i rest) (hp : IsAsciiTest p) :
    skipWhile? p s i = some (i + byteLength (rest.takeWhile p)) := by
  rw [skipWhile?_eq, h.bytes_drop, hp.takeWhile_bytes, byteLength]

/-- A rest is the characters that pass a test followed by what is left. -/
theorem split (h : IsRest s i rest) (p : Char → Bool) :
    IsRest s i (rest.takeWhile p ++ rest.dropWhile p) := by
  rwa [List.takeWhile_append_dropWhile]

/-- Behind the characters that pass a test the remaining rest begins. -/
theorem dropWhile (h : IsRest s i rest) (p : Char → Bool) :
    IsRest s (i + byteLength (rest.takeWhile p)) (rest.dropWhile p) :=
  (h.split p).add

/-- The slice over the characters that pass a test is those characters. -/
theorem slice?_takeWhile (h : IsRest s i rest) (p : Char → Bool) :
    Text.slice? s i (i + byteLength (rest.takeWhile p)) = some (rest.takeWhile p) :=
  (h.split p).slice?

/-- Behind a character of ASCII there is the next boundary. -/
theorem tail (h : IsRest s i (c :: rest)) (hc : isAscii c = true) : IsRest s (i + 1) rest := by
  have hadd : IsRest s (i + byteLength [c]) rest := add h
  rwa [byteLength_cons, utf8Size_of_isAscii hc] at hadd

/-- The first byte of the rest is tested as its first character is. -/
theorem byteAt? (h : IsRest s i (c :: rest)) :
    ∃ b, byteAt? s i = some b ∧ ∀ p, IsAsciiTest p → p b = p c := by
  obtain ⟨b, hbyte, hdrop⟩ := exists_byteAt? h.lt_byteLength
  refine ⟨_, hbyte, fun p hp => hp.apply_byte ?_⟩
  have hbytes := h.bytes_drop
  rw [hdrop, bytes_cons] at hbytes
  obtain ⟨x, xs, hcons⟩ := exists_utf8EncodeChar_eq_cons c
  rw [hcons, List.cons_append, List.cons.injEq] at hbytes
  rw [hcons, hbytes.1]
  exact List.mem_cons_self

/-- The byte at a character of ASCII is that character. -/
theorem byteAt?_of_isAscii (h : IsRest s i (c :: rest)) (hc : isAscii c = true) :
    Text.byteAt? s i = some c := by
  obtain ⟨b, hbyte, htest⟩ := h.byteAt?
  have heq := htest _ (IsAsciiTest.eq hc)
  rw [decide_eq_true rfl, decide_eq_true_iff] at heq
  rw [hbyte, heq]

/-- Where a search for `x` has ended, the cursor is moved behind it unless it is at the end. -/
theorem drop_one {x : Char} (h : IsRest s i (rest.dropWhile (· ≠ x))) (hx : isAscii x = true) :
    IsRest s (if i < byteLength s then i + 1 else i) ((rest.dropWhile (· ≠ x)).drop 1) := by
  have hhead := List.head?_dropWhile_not (· ≠ x) rest
  cases hdrop : rest.dropWhile (· ≠ x) with
  | nil =>
    rw [hdrop] at h
    rwa [if_neg h.eq_byteLength.not_lt]
  | cons y rest' =>
    rw [hdrop] at h hhead
    have hy : y = x := by simpa using hhead
    rw [if_pos h.lt_byteLength]
    exact h.tail (hy ▸ hx)

/-- A guarded test of the next byte is one of the next character. -/
theorem testAt? (h : IsRest s i (c :: rest)) (hp : IsAsciiTest p) :
    testAt? p s i = some (p c) := by
  obtain ⟨b, hbyte, htest⟩ := h.byteAt?
  rw [Text.testAt?, if_pos h.lt_byteLength, hbyte, Option.map_some, htest p hp]

/-- At the end there is nothing to test. -/
theorem testAt?_nil (h : IsRest s i []) (p : Char → Bool) : Text.testAt? p s i = some false := by
  rw [Text.testAt?, if_neg h.eq_byteLength.not_lt]

end IsRest

end AmpMarkup.Text
