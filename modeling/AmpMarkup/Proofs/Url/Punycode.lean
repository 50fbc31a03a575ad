import AmpMarkup.Proofs.Text.Character
import AmpMarkup.Proofs.Url.Parts
import AmpMarkup.Url.Punycode
import Mathlib.Tactic.Ring

namespace AmpMarkup.Url.Punycode

open AmpMarkup.Text

/-!
# Punycode is read back

The decoder inserts the characters in the order in which the encoder counted its way to them, so in
between it holds what the encoder had in mind: the text without the characters that are still to
come.

* `readDelta?_digits` — a distance is read back from its digits.
* `IsBefore`, `pairwise_insertions` — the order of the insertions.
* `textWithout` — a text without some of its characters; `Pending` — what is left of the
  insertions at any time.
* `decode?_encode` — the written form of a text stands for that text.
* `mem_encode`, `getLast?_encode`, `mem_of_decode?` — the characters of a written form and of its
  text.
* `length_encode` — how long the written form of a text is at least whose code points are far from
  each other.
-/

variable {s a b : List Char} {c : Char} {bias k n delta : Nat} {e : Char × Nat}
  {pending : List (Char × Nat)}

/-! ### Digits -/

/-- Every digit is read with its value. -/
theorem digitValue?_digit (h : n < 36) : digitValue? (digit n) = some n := by
  have hall : ∀ n < 36, digitValue? (digit n) = some n := by decide
  exact hall n h

/-- No threshold is above 26. -/
theorem threshold_le (bias k : Nat) : threshold bias k ≤ 26 := by unfold threshold; omega

/-- All that is written for a number are digits. -/
theorem mem_digits (h : c ∈ digits bias k delta) : ∃ n < 36, c = digit n := by
  induction k, delta using digits.induct bias with
  | case1 k delta t hlt =>
    rw [digits, if_pos hlt, List.mem_singleton] at h
    have := threshold_le bias k
    exact ⟨delta, by omega, h⟩
  | case2 k delta t hge ih =>
    rw [digits, if_neg hge, List.mem_cons] at h
    rcases h with rfl | h
    · have hpos := threshold_pos bias k
      have hle := threshold_le bias k
      have hmod := Nat.mod_lt (delta - threshold bias k) (by omega : 0 < 36 - threshold bias k)
      exact ⟨_, by omega, rfl⟩
    · exact ih h

/-- A number takes a digit at least. -/
theorem digits_ne_nil (bias k delta : Nat) : digits bias k delta ≠ [] := by
  rw [digits]
  split <;> simp

/-- A distance is read back from its digits, and what follows is left. -/
theorem readDelta?_digits (bias k weight sum delta : Nat) (after : List Char) :
    readDelta? bias k weight sum (digits bias k delta ++ after) =
      some (sum + delta * weight, after) := by
  induction k, delta using digits.induct bias generalizing weight sum with
  | case1 k delta t hlt =>
    have hle := threshold_le bias k
    have hlt' : delta < threshold bias k := hlt
    rw [digits, if_pos hlt]
    simp only [List.singleton_append, readDelta?]
    rw [digitValue?_digit (by omega)]
    simp only [if_pos hlt']
  | case2 k delta t hge ih =>
    have hpos := threshold_pos bias k
    have hle := threshold_le bias k
    have hge' : ¬ delta < threshold bias k := hge
    rw [digits, if_neg hge]
    obtain ⟨base, hbase⟩ : ∃ base, base = 36 - threshold bias k := ⟨_, rfl⟩
    obtain ⟨rest, hrest⟩ : ∃ rest, rest = delta - threshold bias k := ⟨_, rfl⟩
    have hmod := Nat.mod_lt rest (by omega : 0 < base)
    have hdiv := Nat.mod_add_div rest base
    have ih' := ih (weight * base) (sum + (threshold bias k + rest % base) * weight)
    rw [hbase, hrest] at ih' hmod
    rw [List.cons_append, readDelta?, digitValue?_digit (by omega)]
    dsimp only
    rw [if_neg (by omega)]
    refine ih'.trans (congrArg some (Prod.ext ?_ rfl))
    -- The quotient and the rest make up what is above the threshold.
    have hdelta : delta = threshold bias k + (rest % base + base * (rest / base)) := by omega
    calc sum + (threshold bias k + (delta - threshold bias k) % (36 - threshold bias k)) * weight
          + (delta - threshold bias k) / (36 - threshold bias k)
            * (weight * (36 - threshold bias k))
        = sum + (threshold bias k + (rest % base + base * (rest / base))) * weight := by
          rw [← hbase, ← hrest]
          ring
      _ = sum + delta * weight := by rw [← hdelta]

/-! ### The order of the insertions -/

/-- The order in which characters are inserted: by their code points, and from left to right. -/
def IsBefore (x y : Char × Nat) : Prop :=
  x.1.toNat < y.1.toNat ∨ x.1.toNat = y.1.toNat ∧ x.2 < y.2

/-- The insertions are the characters outside ASCII with their positions. -/
theorem mem_insertions : e ∈ insertions s ↔ e ∈ s.zipIdx ∧ isAscii e.1 = false := by
  rw [insertions, List.mem_mergeSort, List.mem_filter]
  simp

/-- Sorting by code points is stable, so equal characters keep their order. -/
theorem pairwise_insertions (s : List Char) : (insertions s).Pairwise IsBefore := by
  have htrans : ∀ x y z : Char × Nat, decide (x.1.toNat ≤ y.1.toNat) = true →
      decide (y.1.toNat ≤ z.1.toNat) = true → decide (x.1.toNat ≤ z.1.toNat) = true := by
    simp only [decide_eq_true_eq]
    omega
  have htotal : ∀ x y : Char × Nat,
      (decide (x.1.toNat ≤ y.1.toNat) || decide (y.1.toNat ≤ x.1.toNat)) = true := by
    simp only [Bool.or_eq_true, decide_eq_true_eq]
    omega
  rw [insertions]
  generalize hl : (s.zipIdx.filter fun e => !isAscii e.1) = l
  have hplaces : l.Pairwise fun x y => x.2 < y.2 := by
    rw [← hl]
    refine List.Pairwise.filter _ ?_
    rw [← List.pairwise_map (f := Prod.snd) (R := (· < ·)), List.zipIdx_map_snd]
    exact List.pairwise_lt_range'
  have hsorted := List.pairwise_mergeSort htrans htotal l
  rw [List.pairwise_iff_forall_sublist] at hsorted ⊢
  intro x y hxy
  rcases Nat.lt_or_eq_of_le (of_decide_eq_true (hsorted hxy)) with hlt | heq
  · exact .inl hlt
  -- The characters with one code point stand in the result as they stood before.
  · have hpairwise : (l.filter (·.1.toNat = y.1.toNat)).Pairwise
        fun x y => decide (x.1.toNat ≤ y.1.toNat) = true := by
      rw [List.pairwise_iff_forall_sublist]
      intro u v huv
      have hu := List.of_mem_filter (huv.subset List.mem_cons_self)
      have hv := List.of_mem_filter (huv.subset (List.mem_cons_of_mem u List.mem_cons_self))
      simp only [decide_eq_true_eq] at hu hv ⊢
      omega
    have hsub := (List.sublist_mergeSort htrans htotal hpairwise List.filter_sublist).filter
      (·.1.toNat = y.1.toNat)
    rw [List.filter_filter, List.filter_congr fun _ _ => Bool.and_self _] at hsub
    have hsame := hsub.eq_of_length ((List.mergeSort_perm l _).filter _).length_eq.symm
    have hxy' := hxy.filter (·.1.toNat = y.1.toNat)
    rw [← hsame, List.filter_cons_of_pos (by simpa using heq),
      List.filter_cons_of_pos (by simp)] at hxy'
    refine .inr ⟨heq, List.pairwise_iff_forall_sublist.mp hplaces ?_⟩
    exact hxy'.trans List.filter_sublist

/-! ### What is there in between -/

/-- The text without the characters `pending`; `start` is its place in the whole. -/
def textWithout (pending : List (Char × Nat)) (s : List Char) (start : Nat) : List Char :=
  ((s.zipIdx start).filter (· ∉ pending)).map Prod.fst

/-- What is left of two parts without some insertions is what is left of each of them. -/
theorem textWithout_append (pending : List (Char × Nat)) (a b : List Char) (start : Nat) :
    textWithout pending (a ++ b) start =
      textWithout pending a start ++ textWithout pending b (start + a.length) := by
  rw [textWithout, List.zipIdx_append, List.filter_append, List.map_append, textWithout,
    textWithout]

/-- What is left of one character is that character, unless it is still to be inserted. -/
theorem textWithout_singleton (pending : List (Char × Nat)) (c : Char) (start : Nat) :
    textWithout pending [c] start = if (c, start) ∈ pending then [] else [c] := by
  rw [textWithout, List.zipIdx_singleton, List.filter_singleton]
  by_cases h : (c, start) ∈ pending <;> simp [h]

/-- If nothing is to be inserted then the text is complete. -/
theorem textWithout_nil (s : List Char) (start : Nat) : textWithout [] s start = s := by
  rw [textWithout, List.filter_eq_self.mpr fun _ _ => by simp, List.zipIdx_map_fst]

/-- Only what is missing in the text makes a difference. -/
theorem textWithout_congr {pending' : List (Char × Nat)} {start : Nat}
    (h : ∀ x ∈ s.zipIdx start, x ∈ pending ↔ x ∈ pending') :
    textWithout pending s start = textWithout pending' s start := by
  rw [textWithout, textWithout,
    List.filter_congr fun x hx => decide_eq_decide.mpr (not_congr (h x hx))]

/-- What is still to be inserted into `s`, in its order: everything that is left is outside ASCII
    and does not come before what has been inserted. -/
structure Pending (s : List Char) (pending : List (Char × Nat)) : Prop where
  mem : ∀ e ∈ pending, e ∈ s.zipIdx
  ordered : pending.Pairwise IsBefore
  done : ∀ x ∈ s.zipIdx, x ∉ pending → ∀ e ∈ pending, x.1.toNat ≤ e.1.toNat

/-- At first all insertions are still to be made. -/
theorem pending_insertions (s : List Char) : Pending s (insertions s) where
  mem e he := (mem_insertions.mp he).1
  ordered := pairwise_insertions s
  done x hx hnot e he := by
    have hx' : isAscii x.1 = true := by
      by_contra hascii
      exact hnot (mem_insertions.mpr ⟨hx, by simpa using hascii⟩)
    have he' := (mem_insertions.mp he).2
    rw [isAscii_iff] at hx'
    rw [← Bool.not_eq_true, isAscii_iff] at he'
    omega

/-- At the start only ASCII is there. -/
theorem textWithout_insertions (s : List Char) :
    textWithout (insertions s) s 0 = s.filter isAscii := by
  have hpending : ∀ x ∈ s.zipIdx, (decide (x ∉ insertions s)) = (isAscii ∘ Prod.fst) x := by
    intro x hx
    rw [Function.comp_apply, Bool.eq_iff_iff, decide_eq_true_iff, mem_insertions]
    simp [hx]
  rw [textWithout, List.filter_congr hpending, ← List.filter_map, List.zipIdx_map_fst]

/-- How many characters that are not pending stand before the place of the next one. -/
def target (s : List Char) (e : Char × Nat) : Nat :=
  (s.take e.2).countP fun x => x.toNat ≤ e.1.toNat

/-- Of two equal characters the later one has the greater target. -/
theorem target_lt {m : Nat} (hmem : (c, n) ∈ s.zipIdx) (hlt : n < m) :
    target s (c, n) < target s (c, m) := by
  rw [List.mk_mem_zipIdx_iff_getElem?] at hmem
  have hnext : target s (c, n) + 1 = (s.take (n + 1)).countP fun x => x.toNat ≤ c.toNat := by
    rw [List.take_add_one, hmem, List.countP_append, target]
    simp
  rw [Nat.lt_iff_add_one_le, hnext]
  exact (List.take_prefix_take_left hlt).sublist.countP_le

namespace Pending

/-- The next character with what stands before and after it. -/
theorem exists_split (h : Pending s ((c, n) :: pending)) :
    ∃ a b, s = a ++ c :: b ∧ a.length = n := by
  have hmem := h.mem _ List.mem_cons_self
  rw [List.mk_mem_zipIdx_iff_getElem?, List.getElem?_eq_some_iff] at hmem
  obtain ⟨hlt, hget⟩ := hmem
  refine ⟨s.take n, s.drop (n + 1), ?_, by simp [Nat.le_of_lt hlt]⟩
  rw [← hget, List.getElem_cons_drop, List.take_append_drop]

/-- After the first insertion the others are still to be made. -/
theorem tail (h : Pending s (e :: pending)) : Pending s pending where
  mem x hx := h.mem x (List.mem_cons_of_mem e hx)
  ordered := h.ordered.of_cons
  done x hx hnot y hy := by
    by_cases hxe : x = e
    · rcases List.rel_of_pairwise_cons h.ordered hy with hlt | ⟨heq, -⟩
      · exact hxe ▸ Nat.le_of_lt hlt
      · exact hxe ▸ Nat.le_of_eq heq
    · exact h.done x hx (by simp [hxe, hnot]) y (List.mem_cons_of_mem e hy)

/-- A character with a smaller place than the next one is there exactly if its code point is not
    greater. -/
theorem not_mem_iff (h : Pending s (e :: pending)) {x : Char × Nat} (hx : x ∈ s.zipIdx)
    (hplace : x.2 < e.2) : x ∉ e :: pending ↔ x.1.toNat ≤ e.1.toNat := by
  constructor
  · exact fun hnot => h.done x hx hnot e List.mem_cons_self
  · intro hle hmem
    rcases List.mem_cons.mp hmem with rfl | hmem
    · omega
    · rcases List.rel_of_pairwise_cons h.ordered hmem with hlt | ⟨-, hlt⟩ <;> omega

/-- The next character goes to its target. -/
theorem insertIdx_textWithout (h : Pending s ((c, n) :: pending)) :
    target s (c, n) ≤ (textWithout ((c, n) :: pending) s 0).length ∧
    (textWithout ((c, n) :: pending) s 0).insertIdx (target s (c, n)) c =
      textWithout pending s 0 := by
  obtain ⟨a, b, rfl, rfl⟩ := h.exists_split
  have hnot : (c, a.length) ∉ pending := by
    intro hmem
    rcases List.rel_of_pairwise_cons h.ordered hmem with hlt | ⟨-, hlt⟩
    · exact absurd hlt (Nat.lt_irrefl _)
    · exact absurd hlt (Nat.lt_irrefl _)
  have hother : ∀ x : Char × Nat, x.2 ≠ a.length → (x ∈ (c, a.length) :: pending ↔ x ∈ pending) :=
    fun x hx => by
      rw [List.mem_cons]
      exact or_iff_right fun heq => hx (heq ▸ rfl)
  have hbefore : textWithout ((c, a.length) :: pending) a 0 = textWithout pending a 0 :=
    textWithout_congr fun x hx => hother x (by have := List.snd_lt_of_mem_zipIdx hx; omega)
  have hafter : textWithout ((c, a.length) :: pending) b (a.length + 1) =
      textWithout pending b (a.length + 1) :=
    textWithout_congr fun x hx => hother x (by have := List.le_snd_of_mem_zipIdx hx; omega)
  -- The next character itself is missing first and is there afterwards.
  have hwith : textWithout ((c, a.length) :: pending) (a ++ c :: b) 0 =
      textWithout pending a 0 ++ textWithout pending b (a.length + 1) := by
    rw [List.append_cons, textWithout_append, textWithout_append, hbefore]
    simp only [List.length_append, List.length_singleton, Nat.zero_add, hafter]
    rw [textWithout_singleton, if_pos List.mem_cons_self, List.append_nil]
  have hwithout : textWithout pending (a ++ c :: b) 0 =
      textWithout pending a 0 ++ c :: textWithout pending b (a.length + 1) := by
    rw [List.append_cons, textWithout_append, textWithout_append]
    simp only [List.length_append, List.length_singleton, Nat.zero_add]
    rw [textWithout_singleton, if_neg hnot, List.append_assoc, List.singleton_append]
  have htarget : target (a ++ c :: b) (c, a.length) = (textWithout pending a 0).length := by
    rw [target, List.take_left' rfl, ← hbefore, textWithout, List.length_map,
      ← List.countP_eq_length_filter]
    conv_lhs => rw [← List.zipIdx_map_fst 0 a, List.countP_map]
    refine List.countP_congr fun x hx => ?_
    have hx' : x ∈ (a ++ c :: b).zipIdx := by
      rw [List.zipIdx_append]
      exact List.mem_append_left _ hx
    rw [decide_eq_true_iff, h.not_mem_iff hx' (by have := List.snd_lt_of_mem_zipIdx hx; omega)]
    simp
  rw [htarget, hwith, hwithout]
  exact ⟨by simp, List.modifyTailIdx_add (List.cons c) 0 _ _⟩

end Pending

/-! ### Decoding -/

/-- One distance is read, and the character it leads to is inserted. -/
theorem decodeInsertions?_of_read {text after : List Char} (code index : Nat)
    (h : readDelta? bias 36 1 0 s = some (delta, after)) :
    decodeInsertions? code index bias text s =
      let size := text.length + 1
      let code := code + (index + delta) / size
      let place := (index + delta) % size
      if code.isValidChar then
        decodeInsertions? code (place + 1) (adapt delta size (index == 0))
          (text.insertIdx place (Char.ofNat code)) after
      else none := by
  cases s with
  | nil => cases h
  | cons x xs =>
    rw [decodeInsertions?]
    split
    · rename_i hnone
      rw [h] at hnone
      cases hnone
    · rename_i delta' after' hsome
      rw [h] at hsome
      cases hsome
      rfl

/-- What is written for the pending characters leads to the whole text. The counter has not passed
    the next of them yet. -/
theorem decodeInsertions?_encodeInsertions {code index : Nat} (h : Pending s pending)
    (hindex : index ≤ (textWithout pending s 0).length)
    (hcounter : ∀ e ∈ pending, code ≤ e.1.toNat ∧ (code = e.1.toNat → index ≤ target s e)) :
    decodeInsertions? code index bias (textWithout pending s 0)
      (encodeInsertions s code index bias (textWithout pending s 0).length pending) = some s := by
  induction pending generalizing code index bias with
  | nil => rw [encodeInsertions, decodeInsertions?, textWithout_nil]
  | cons e rest ih =>
    obtain ⟨c, n⟩ := e
    obtain ⟨hle, hinsert⟩ := h.insertIdx_textWithout
    obtain ⟨hcode, htarget⟩ := hcounter _ List.mem_cons_self
    dsimp only at hcode htarget
    obtain ⟨text, htext⟩ : ∃ text, text = textWithout ((c, n) :: rest) s 0 := ⟨_, rfl⟩
    rw [← htext] at hle hinsert hindex ⊢
    obtain ⟨place, hplace⟩ : ∃ place, place = target s (c, n) := ⟨_, rfl⟩
    rw [← hplace] at hle hinsert htarget
    -- From the counter to the next character it is `delta` steps.
    obtain ⟨delta, hdelta⟩ :
        ∃ delta, delta = (c.toNat - code) * (text.length + 1) + place - index := ⟨_, rfl⟩
    have htotal : index + delta = place + (text.length + 1) * (c.toNat - code) := by
      rw [hdelta, Nat.mul_comm]
      rcases Nat.eq_or_lt_of_le hcode with heq | hlt
      · have := htarget heq
        omega
      · have := Nat.le_mul_of_pos_right (text.length + 1) (Nat.sub_pos_of_lt hlt)
        omega
    have hquot : code + (index + delta) / (text.length + 1) = c.toNat := by
      rw [htotal, Nat.add_mul_div_left _ _ (Nat.succ_pos _), Nat.div_eq_of_lt (by omega)]
      omega
    have hmod : (index + delta) % (text.length + 1) = place := by
      rw [htotal, Nat.add_mul_mod_self_left, Nat.mod_eq_of_lt (by omega)]
    have hlength : text.length + 1 = (textWithout rest s 0).length := by
      rw [← hinsert, List.length_insertIdx_of_le_length hle]
    have hwritten : encodeInsertions s code index bias text.length ((c, n) :: rest) =
        digits bias 36 delta ++ encodeInsertions s c.toNat (place + 1)
          (adapt delta (text.length + 1) (index == 0)) (text.length + 1) rest := by
      rw [hdelta, hplace]
      rfl
    rw [hwritten, decodeInsertions?_of_read code index (readDelta?_digits ..)]
    simp only [Nat.zero_add, Nat.mul_one, hquot, hmod]
    have hvalid : c.toNat.isValidChar := c.valid
    rw [if_pos hvalid, Char.ofNat_toNat, hinsert, hlength]
    refine ih h.tail (by omega) fun e he => ?_
    rcases List.rel_of_pairwise_cons h.ordered he with hlt | ⟨heq, hlt⟩
    · exact ⟨Nat.le_of_lt hlt, fun heq => absurd heq (Nat.ne_of_lt hlt)⟩
    · refine ⟨Nat.le_of_eq heq, fun _ => ?_⟩
      have hchar : c = e.1 := Char.toNat_inj.mp heq
      have := target_lt (m := e.2) (h.mem _ List.mem_cons_self) hlt
      rw [hplace]
      exact hchar ▸ this

/-! ### Characters of a written form -/

/-- All that is written for insertions are digits. -/
theorem mem_encodeInsertions {code index size : Nat}
    (h : c ∈ encodeInsertions s code index bias size pending) : ∃ n < 36, c = digit n := by
  induction pending generalizing code index bias size with
  | nil => cases h
  | cons e rest ih =>
    rw [encodeInsertions, List.mem_append] at h
    exact h.elim mem_digits ih

/-- Something is written for insertions if there are any. -/
theorem encodeInsertions_ne_nil {code index size : Nat} (h : pending ≠ []) :
    encodeInsertions s code index bias size pending ≠ [] := by
  cases pending with
  | nil => exact absurd rfl h
  | cons e rest =>
    rw [encodeInsertions]
    exact List.append_ne_nil_of_left_ne_nil (digits_ne_nil _ _ _) _

/-- A digit is not a hyphen. -/
theorem digit_ne_hyphen (h : n < 36) : digit n ≠ '-' := by
  have hall : ∀ n < 36, digit n ≠ '-' := by decide
  exact hall n h

/-- No hyphen is written for insertions. -/
theorem hyphen_not_mem_encodeInsertions {code index size : Nat} :
    '-' ∉ encodeInsertions s code index bias size pending := by
  intro h
  obtain ⟨n, hn, heq⟩ := mem_encodeInsertions h
  exact digit_ne_hyphen hn heq.symm

/-- A written form holds characters of ASCII of the text, hyphens and digits. -/
theorem mem_encode (h : c ∈ encode s) :
    c ∈ s ∧ isAscii c = true ∨ c = '-' ∨ ∃ n < 36, c = digit n := by
  rw [encode, List.mem_append] at h
  rcases h with h | h
  · split at h
    · cases h
    · rcases List.mem_append.mp h with h | h
      · exact .inl (List.mem_filter.mp h)
      · exact .inr (.inl (List.mem_singleton.mp h))
  · exact .inr (.inr (mem_encodeInsertions h))

/-- A text with a character outside ASCII has an insertion. -/
theorem insertions_ne_nil (h : s.all isAscii = false) : insertions s ≠ [] := by
  obtain ⟨x, hx, hascii⟩ := List.all_eq_false.mp h
  obtain ⟨n, hn, hget⟩ := List.getElem_of_mem hx
  have hmem : (x, n) ∈ insertions s := mem_insertions.mpr
    ⟨List.mk_mem_zipIdx_iff_getElem?.mpr (List.getElem?_eq_some_iff.mpr ⟨hn, hget⟩),
      by simpa using hascii⟩
  exact List.ne_nil_of_mem hmem

/-- A written form of a text that is not in ASCII ends with a digit. -/
theorem getLast?_encode (h : s.all isAscii = false) : (encode s).getLast? ≠ some '-' := by
  intro hlast
  rw [encode, List.getLast?_append_of_ne_nil _ (encodeInsertions_ne_nil (insertions_ne_nil h))]
    at hlast
  exact hyphen_not_mem_encodeInsertions (List.mem_of_getLast? hlast)

/-! ### Reading a written form -/

/-- The last hyphen parts the characters of ASCII from what is written for the insertions. -/
theorem splitAtLastHyphen?_encode (s : List Char) :
    splitAtLastHyphen? (encode s) = some (s.filter isAscii,
      encodeInsertions s initialCode 0 initialBias (s.filter isAscii).length (insertions s)) := by
  obtain ⟨deltas, hdeltas⟩ : ∃ deltas, deltas = encodeInsertions s initialCode 0 initialBias
    (s.filter isAscii).length (insertions s) := ⟨_, rfl⟩
  have hnot : '-' ∉ deltas := hdeltas ▸ hyphen_not_mem_encodeInsertions
  rw [encode, ← hdeltas]
  cases hbasic : s.filter isAscii with
  | nil =>
    rw [List.isEmpty_nil, if_pos rfl, List.nil_append, splitAtLastHyphen?,
      if_neg (by simpa using hnot)]
  | cons x xs =>
    -- The last hyphen is the one that the encoder has put there.
    rw [List.isEmpty_cons, if_neg Bool.false_ne_true, List.append_assoc, List.singleton_append,
      splitAtLastHyphen?, if_pos (by simp), reverse_takeWhile_reverse hnot]
    dsimp only
    rw [take_length_sub, List.isEmpty_cons, if_neg Bool.false_ne_true]

/-- The written form of a text stands for that text. -/
theorem decode?_encode (s : List Char) : decode? (encode s) = some s := by
  have hascii : (s.filter isAscii).all isAscii = true := by
    rw [List.all_filter]
    simp
  rw [decode?, splitAtLastHyphen?_encode]
  dsimp only
  rw [if_pos hascii, ← textWithout_insertions]
  refine decodeInsertions?_encodeInsertions (pending_insertions s) (Nat.zero_le _) fun e he => ?_
  have hcode := (mem_insertions.mp he).2
  rw [← Bool.not_eq_true, isAscii_iff] at hcode
  exact ⟨by unfold initialCode; omega, fun _ => Nat.zero_le _⟩

/-! ### Characters of a text that is read -/

/-- Only characters outside ASCII are inserted. -/
theorem mem_of_decodeInsertions? {code index : Nat} {text result : List Char}
    (h : decodeInsertions? code index bias text s = some result) (hcode : initialCode ≤ code)
    (hc : c ∈ result) (hascii : isAscii c = true) : c ∈ text := by
  induction code, index, bias, text, s using decodeInsertions?.induct with
  | case1 code index bias text =>
    rw [decodeInsertions?] at h
    rwa [Option.some.inj h]
  | case2 code index bias text x rest hnone =>
    rw [decodeInsertions?] at h
    split at h
    · cases h
    · rename_i hsome
      rw [hnone] at hsome
      cases hsome
  | case3 code index bias text x rest delta after hread size total code' place hvalid ih =>
    rw [decodeInsertions?_of_read _ _ hread] at h
    dsimp only at h
    rw [if_pos hvalid] at h
    have hle : initialCode ≤ code' := Nat.le_add_right_of_le hcode
    have hplace : place ≤ text.length :=
      Nat.le_of_lt_succ (Nat.mod_lt total (Nat.succ_pos text.length))
    rcases (List.mem_insertIdx hplace).mp (ih h hle) with rfl | hmem
    · rw [isAscii_iff, toNat_ofNat hvalid] at hascii
      exact absurd hascii (Nat.not_lt.mpr hle)
    · exact hmem
  | case4 code index bias text x rest delta after hread size total code' hvalid =>
    rw [decodeInsertions?_of_read _ _ hread] at h
    dsimp only at h
    rw [if_neg hvalid] at h
    cases h

/-- The characters in ASCII of a text are in its written form. -/
theorem mem_of_decode? {text : List Char} (h : decode? s = some text) (hc : c ∈ text)
    (hascii : isAscii c = true) : c ∈ s := by
  unfold decode? at h
  split at h
  · cases h
  · rename_i basic deltas hsplit
    split at h
    · have hbasic := mem_of_decodeInsertions? h (Nat.le_refl _) hc hascii
      -- The text that the decoder begins with is a part of the written form, or empty.
      unfold splitAtLastHyphen? at hsplit
      split at hsplit
      · dsimp only at hsplit
        split at hsplit
        · cases hsplit
        · cases hsplit
          exact List.mem_of_mem_take hbasic
      · cases hsplit
        cases hbasic
    · cases h

/-! ### Lengths -/

/-- A number from the threshold on is written as its lowest digit and what is left of it. -/
theorem digits_of_threshold_le (h : threshold bias k ≤ delta) : digits bias k delta =
    digit (threshold bias k + (delta - threshold bias k) % (36 - threshold bias k)) ::
      digits bias (k + 36) ((delta - threshold bias k) / (36 - threshold bias k)) := by
  rw [digits, if_neg (Nat.not_lt.mpr h)]

/-- Whatever the bias is, two digits do not reach to 936. -/
theorem three_le_length_digits (h : 936 ≤ delta) : 3 ≤ (digits bias k delta).length := by
  have hfirst := threshold_le bias k
  have hsecond := threshold_le bias (k + 36)
  have hrest : 26 ≤ (delta - threshold bias k) / (36 - threshold bias k) := by
    rw [Nat.le_div_iff_mul_le (by omega)]
    omega
  have hlast := List.length_pos_iff.mpr (digits_ne_nil bias (k + 36 + 36)
    (((delta - threshold bias k) / (36 - threshold bias k) - threshold bias (k + 36)) /
      (36 - threshold bias (k + 36))))
  rw [digits_of_threshold_le (by omega), digits_of_threshold_le (by omega), List.length_cons,
    List.length_cons]
  omega

/-- Characters that are 23 code points apart take three digits each, from the forty-third on. -/
theorem length_encodeInsertions {rest : List Char} {code index size : Nat} (hindex : index ≤ size)
    (h : (code :: rest.map Char.toNat).IsChain (· + 23 ≤ ·)) :
    3 * rest.length ≤
      (encodeInsertions s code index bias size (rest.zipIdx size)).length + 3 * (42 - size) := by
  induction rest generalizing code index bias size with
  | nil => exact Nat.zero_le _
  | cons c rest ih =>
    rw [List.map_cons, List.isChain_cons_cons] at h
    obtain ⟨target, htarget⟩ :
        ∃ target, target = (s.take size).countP fun x => x.toNat ≤ c.toNat := ⟨_, rfl⟩
    have hle : target ≤ size := by
      rw [htarget]
      exact List.countP_le_length.trans (List.length_take_le _ _)
    -- For each of the code points in between the counter runs through all places.
    have hmul : 23 * (size + 1) ≤ (c.toNat - code) * (size + 1) :=
      Nat.mul_le_mul_right _ (by omega)
    obtain ⟨delta, hdelta⟩ :
        ∃ delta, delta = (c.toNat - code) * (size + 1) + target - index := ⟨_, rfl⟩
    have hnext : 3 * rest.length ≤ (encodeInsertions s c.toNat (target + 1)
        (adapt delta (size + 1) (index == 0)) (size + 1) (rest.zipIdx (size + 1))).length +
          3 * (42 - (size + 1)) := ih (by omega) h.2
    rw [List.zipIdx_cons, encodeInsertions, ← htarget, ← hdelta, List.length_append,
      List.length_cons]
    by_cases hsize : 42 ≤ size
    · have hdigits : 3 ≤ (digits bias 36 delta).length := three_le_length_digits (by omega)
      omega
    · omega

/-- Characters outside ASCII in the order of their code points are inserted in that order. -/
theorem insertions_of_isChain (h : (initialCode :: s.map Char.toNat).IsChain (· + 23 ≤ ·)) :
    insertions s = s.zipIdx ∧ s.filter isAscii = [] := by
  have htrans : Trans (fun a b : Nat => a + 23 ≤ b) (fun a b : Nat => a + 23 ≤ b)
      (fun a b : Nat => a + 23 ≤ b) := ⟨fun hab hbc => by omega⟩
  obtain ⟨hcodes, hordered⟩ := List.pairwise_cons.mp h.pairwise
  have hnot : ∀ c ∈ s, isAscii c = false := by
    intro c hc
    have hcode := hcodes _ (List.mem_map_of_mem hc)
    have hinitial : initialCode = 128 := rfl
    rw [← Bool.not_eq_true, isAscii_iff]
    omega
  refine ⟨?_, List.filter_eq_nil_iff.mpr fun c hc => by simp [hnot c hc]⟩
  have hplaces : s.zipIdx.Pairwise fun a b => a.1.toNat + 23 ≤ b.1.toNat := by
    rw [← List.zipIdx_map_fst 0 s, List.map_map, List.pairwise_map] at hordered
    exact hordered
  rw [insertions, List.filter_eq_self.mpr fun e he => by
    simp [hnot e.1 (List.fst_mem_of_mem_zipIdx he)]]
  exact List.mergeSort_of_pairwise (hplaces.imp fun hab => decide_eq_true (by omega))

/-- Characters that are far apart take three digits each, up to a constant. -/
theorem length_encode (h : (initialCode :: s.map Char.toNat).IsChain (· + 23 ≤ ·)) :
    3 * s.length ≤ (encode s).length + 126 := by
  obtain ⟨hinsertions, hascii⟩ := insertions_of_isChain h
  rw [encode, hinsertions, hascii]
  exact length_encodeInsertions (Nat.le_refl 0) h

end AmpMarkup.Url.Punycode
