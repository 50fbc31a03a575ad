import AmpMarkup.Text.LineDiff
import AmpMarkup.Text.LineDiffForm
import AmpMarkup.Proofs.Text.Ascii

namespace AmpMarkup.Text

/-!
# A comparison of lines shows where the lists part

* `firstMismatch?_eq_none_iff`, `exists_commonBeginning` — the search ends behind the longest
  beginning that both lists have, and finds nothing in equal lists only.
* `diffRows` — the rows of a report; `mem_diffRows_iff` and `pairwise_diffRows` — they are the rows
  that have to be shown, each once and in order.
* `lineDiff_self`, `lineDiff_eq` — a report is made of the header, the rows and the two lengths.
* `lineDiff_shows_parting` — what a report says about any two lists.
-/

variable {expected actual l r p : List String} {k i : Nat}

/-! ### The first difference -/

/-- Lists without a mismatch are the same. -/
theorem firstMismatch?_eq_none_iff : firstMismatch? l r = none ↔ l = r := by
  induction l generalizing r with
  | nil => cases r <;> simp [firstMismatch?]
  | cons a l ih =>
    cases r with
    | nil => simp [firstMismatch?]
    | cons b r =>
      rw [firstMismatch?]
      split
      · simp [*]
      · simp [*]

/-- A common beginning can be extended by a line in front of both. -/
theorem IsCommonBeginning.cons (h : IsCommonBeginning p l r) (a : String) :
    IsCommonBeginning (a :: p) (a :: l) (a :: r) := by
  refine ⟨?_, ?_, fun q hl hr => ?_⟩
  · exact List.cons_prefix_cons.mpr ⟨rfl, h.left⟩
  · exact List.cons_prefix_cons.mpr ⟨rfl, h.right⟩
  · cases q with
    | nil => exact Nat.zero_le _
    | cons b q =>
      have hle := h.longest q (List.cons_prefix_cons.mp hl).2 (List.cons_prefix_cons.mp hr).2
      simpa using hle

/-- Lists that differ at once have no line in common. -/
theorem isCommonBeginning_nil (h : l.head? ≠ r.head?) : IsCommonBeginning [] l r := by
  refine ⟨List.nil_prefix, List.nil_prefix, fun q hl hr => ?_⟩
  cases q with
  | nil => exact Nat.le_refl 0
  | cons a q =>
    obtain ⟨l', rfl⟩ := hl
    obtain ⟨r', rfl⟩ := hr
    exact absurd rfl h

/-- The lists part behind their longest common beginning, on a line of the longer one. -/
theorem exists_commonBeginning (h : firstMismatch? l r = some k) :
    ∃ p, IsCommonBeginning p l r ∧ p.length = k ∧ k < max l.length r.length := by
  induction l generalizing r k with
  | nil =>
    cases r with
    | nil => cases h
    | cons b r =>
      obtain rfl := Option.some.inj h
      exact ⟨[], isCommonBeginning_nil (by simp), rfl, by simp⟩
  | cons a l ih =>
    cases r with
    | nil =>
      obtain rfl := Option.some.inj h
      exact ⟨[], isCommonBeginning_nil (by simp), rfl, by simp⟩
    | cons b r =>
      rw [firstMismatch?] at h
      split at h
      -- Two equal lines: the lists part where what follows does.
      · subst b
        obtain ⟨j, hj, rfl⟩ := Option.map_eq_some_iff.mp h
        obtain ⟨p, hp, rfl, hlt⟩ := ih hj
        refine ⟨a :: p, hp.cons a, rfl, ?_⟩
        simp only [List.length_cons]
        omega
      · obtain rfl := Option.some.inj h
        exact ⟨[], isCommonBeginning_nil (by simpa), rfl, by simp⟩

/-! ### The rows of a report -/

/-- The row of one side for the line with index `i`. -/
def diffRow (expected actual : List String) (k i : Nat) (side : DiffSide) : DiffRow where
  line := i + 1
  side := side
  marked := i = k
  content? := (side.lines expected actual)[i]?

/-- The two rows of each line in the window around the line with index `k`. -/
def diffRows (expected actual : List String) (k : Nat) : List DiffRow :=
  let (start, stop) := diffWindow k (max expected.length actual.length)
  (List.range' start (stop - start)).flatMap fun i =>
    [diffRow expected actual k i .expected, diffRow expected actual k i .actual]

/-- A row that is to be shown is the row of its side for a line of the window. -/
theorem isShown_iff {row : DiffRow} : row.IsShown expected actual k ↔
    ∃ i side, row = diffRow expected actual k i side ∧ i < max expected.length actual.length ∧
      k ≤ i + 2 ∧ i ≤ k + 2 := by
  constructor
  · intro h
    obtain ⟨line, side, marked, content?⟩ := row
    obtain ⟨hpos, hle, habove, hbelow, hcontent, hmarked⟩ := h
    obtain ⟨i, rfl⟩ := Nat.exists_eq_add_of_le' hpos
    simp only [Nat.add_sub_cancel] at *
    refine ⟨i, side, ?_, by omega, by omega, by omega⟩
    have hmark : marked = decide (i = k) := by
      rw [Bool.eq_iff_iff, hmarked, decide_eq_true_iff]
      omega
    rw [diffRow, hmark, hcontent]
  · rintro ⟨i, side, rfl, hlt, habove, hbelow⟩
    refine ⟨?_, ?_, ?_, ?_, ?_, ?_⟩ <;> simp only [diffRow, Nat.add_sub_cancel, decide_eq_true_iff]
      <;> omega

/-- The rows that are written are those that are to be shown. -/
theorem mem_diffRows_iff {row : DiffRow} :
    row ∈ diffRows expected actual k ↔ row.IsShown expected actual k := by
  rw [isShown_iff, diffRows]
  simp only [diffWindow, List.mem_flatMap, List.mem_range'_1, List.mem_cons, List.not_mem_nil,
    or_false]
  -- What is left is that the window is the lines at most two away, as far as the lists go.
  constructor
  · rintro ⟨i, hi, rfl | rfl⟩
    · exact ⟨i, .expected, rfl, by omega, by omega, by omega⟩
    · exact ⟨i, .actual, rfl, by omega, by omega, by omega⟩
  · rintro ⟨i, side, rfl, hlt, habove, hbelow⟩
    refine ⟨i, by omega, ?_⟩
    cases side with
    | expected => exact .inl rfl
    | actual => exact .inr rfl

/-- The rows are written in order. -/
theorem pairwise_diffRows : (diffRows expected actual k).Pairwise DiffRow.Before := by
  rw [diffRows]
  simp only [diffWindow]
  rw [List.pairwise_flatMap]
  refine ⟨fun i _ => ?_, (List.pairwise_lt_range' 1).imp fun {i j} hij a ha b hb => ?_⟩
  · simp [diffRow, DiffRow.Before]
  -- The rows of an earlier line all come first.
  · have hline : a.line = i + 1 ∧ b.line = j + 1 := by
      simp only [List.mem_cons, List.not_mem_nil, or_false] at ha hb
      constructor
      · rcases ha with rfl | rfl <;> rfl
      · rcases hb with rfl | rfl <;> rfl
    exact .inl (by omega)

/-! ### How a report is written -/

/-- The number of a line is padded on the left to four places. -/
theorem padNumber_eq (n : Nat) :
    padNumber n = String.ofList ((toString n).toList.leftpad 4 ' ') := by
  apply String.ext
  rw [padNumber, String.toList_append, toList_pushn, String.toList_ofList, List.leftpad,
    String.length_toList]

/-- Rows that are written end with a line break. -/
theorem DiffRow.exists_join_write_eq {rows : List DiffRow} {last : DiffRow}
    (h : rows.getLast? = some last) :
    ∃ rest, String.join (rows.map DiffRow.write) = rest ++ "\n" := by
  obtain ⟨before, rfl⟩ := List.getLast?_eq_some_iff.mp h
  obtain ⟨rest, hrest⟩ : ∃ rest, last.write = rest ++ "\n" := ⟨_, rfl⟩
  refine ⟨String.join (before.map DiffRow.write) ++ rest, ?_⟩
  simp only [hrest, List.map_append, List.map_singleton, String.join_append, String.join_cons,
    String.join_nil, String.append_empty, String.append_assoc]

/-- The lengths do not look like the announcement of a difference. -/
theorem writeLengths_ne_header (expected actual : List String) (rest : String) :
    writeLengths expected actual ≠ "first mismatch at line " ++ rest := by
  intro heq
  have hhead := congrArg (List.head? ∘ String.toList) heq
  unfold writeLengths at hhead
  simp at hhead

/-- The two rows of a line, one after the other. -/
theorem diffEntry_eq : diffEntry expected actual k i =
    (diffRow expected actual k i .expected).write ++
      (diffRow expected actual k i .actual).write := by
  unfold diffEntry diffRow DiffRow.write
  simp only [padNumber_eq, DiffSide.lines, decide_eq_true_eq, String.append_assoc]

/-- Lists that are the same differ in no line, so only their lengths are written. -/
theorem lineDiff_self (l : List String) : lineDiff l l = writeLengths l l := by
  have hnone : firstMismatch? l l = none := firstMismatch?_eq_none_iff.mpr rfl
  unfold lineDiff diffExcerpt writeLengths
  simp only [hnone, String.empty_append]

/-- Rows that are written group by group are written one after the other. -/
theorem join_flatMap (ns : List Nat) (f : Nat → List DiffRow) :
    String.join (ns.map fun i => String.join ((f i).map DiffRow.write)) =
      String.join ((ns.flatMap f).map DiffRow.write) := by
  apply String.ext
  simp [String.toList_join, List.flatMap_map, List.flatMap_assoc]

/-- Lists that part have at least one line to show, so the rows have a first and a last one, and the
    header names their lines. -/
theorem lineDiff_eq (h : firstMismatch? expected actual = some k)
    (hk : k < max expected.length actual.length) :
    ∃ first last, (diffRows expected actual k).head? = some first ∧
      (diffRows expected actual k).getLast? = some last ∧
      lineDiff expected actual = writeDiffHeader (k + 1) first.line last.line ++
        String.join ((diffRows expected actual k).map DiffRow.write) ++
          writeLengths expected actual := by
  -- The line on which the lists part is in the window, so the window is not empty.
  obtain ⟨start, len, hwindow⟩ : ∃ start len, diffWindow k (max expected.length actual.length) =
      (start, start + (len + 1)) := by
    refine ⟨k - 2, min (k + 3) (max expected.length actual.length) - (k - 2) - 1, ?_⟩
    rw [diffWindow, Prod.mk.injEq]
    omega
  have hrows : diffRows expected actual k = (List.range' start (len + 1)).flatMap fun i =>
      [diffRow expected actual k i .expected, diffRow expected actual k i .actual] := by
    simp only [diffRows, hwindow, Nat.add_sub_cancel_left]
  refine ⟨diffRow expected actual k start .expected,
    diffRow expected actual k (start + len) .actual, ?_, ?_, ?_⟩
  · rw [hrows, List.range'_succ]
    rfl
  · rw [hrows, List.range'_1_concat, List.flatMap_append]
    simp
  -- The excerpt is joined line by line, the rows are joined one by one.
  · have hentries : diffEntry expected actual k = fun i => String.join
        ([diffRow expected actual k i .expected, diffRow expected actual k i .actual].map
          DiffRow.write) := by
      funext i
      simp [diffEntry_eq, String.join_cons]
    unfold lineDiff diffExcerpt writeDiffHeader writeLengths
    simp only [h, hwindow, Nat.add_sub_cancel_left, hentries, join_flatMap, hrows, diffRow,
      Nat.add_assoc, String.append_assoc]

/-! ### What a report says -/

/-- A report begins with the announcement of a difference exactly if the lists differ, and of equal
    lists it gives the two lengths and nothing else. Where they differ, it names the line behind the
    longest beginning that they share, which one of them may lack, and the first and the last line
    that are shown. These are the lines of the longer list from two lines before to two lines after
    the one that is named: one row for each side, in order, with a marker on the line that is named
    and nowhere else. The two lengths stand on a line of their own at the end of every report. -/
theorem lineDiff_shows_parting (expected actual : List String) :
    ((∃ rest, lineDiff expected actual = "first mismatch at line " ++ rest) ↔
      expected ≠ actual) ∧
    (expected = actual → lineDiff expected actual = writeLengths expected actual) ∧
    (expected ≠ actual → ∃ (p : List String) (rows : List DiffRow) (first last : DiffRow),
      IsCommonBeginning p expected actual ∧ rows.Pairwise DiffRow.Before ∧
      (∀ row, row ∈ rows ↔ row.IsShown expected actual p.length) ∧
      rows.head? = some first ∧ rows.getLast? = some last ∧
      lineDiff expected actual = writeDiffHeader (p.length + 1) first.line last.line ++
        String.join (rows.map DiffRow.write) ++ writeLengths expected actual) ∧
    ∃ text, lineDiff expected actual = text ++ writeLengths expected actual ∧
      (text = "" ∨ ∃ rest, text = rest ++ "\n") := by
  by_cases heq : expected = actual
  · subst heq
    have htext := lineDiff_self expected
    refine ⟨iff_of_false ?_ (not_not_intro rfl), fun _ => htext, fun hne => absurd rfl hne, "", ?_,
      .inl rfl⟩
    · rintro ⟨rest, hrest⟩
      exact writeLengths_ne_header expected expected rest (htext.symm.trans hrest)
    · rw [htext, String.empty_append]
  · obtain ⟨k, hk⟩ := Option.ne_none_iff_exists'.mp fun hnone =>
      heq (firstMismatch?_eq_none_iff.mp hnone)
    obtain ⟨p, hp, rfl, hlt⟩ := exists_commonBeginning hk
    obtain ⟨first, last, hfirst, hlast, htext⟩ := lineDiff_eq hk hlt
    refine ⟨iff_of_true ?_ heq, fun h => absurd h heq, fun _ => ⟨p, _, first, last, hp,
      pairwise_diffRows, fun _ => mem_diffRows_iff, hfirst, hlast, htext⟩, _, htext, .inr ?_⟩
    · rw [htext]
      unfold writeDiffHeader
      simp only [String.append_assoc]
      exact ⟨_, rfl⟩
    -- The line break before the lengths is that of the last row.
    · obtain ⟨rest, hrest⟩ := DiffRow.exists_join_write_eq hlast
      refine ⟨writeDiffHeader (p.length + 1) first.line last.line ++ rest, ?_⟩
      rw [hrest, String.append_assoc]

/-- The second list ends within the first. -/
example : lineDiff ["a", "b", "c"] ["a"] =
    "first mismatch at line 2 (showing 1..=3):\n" ++
    "     1  expected: a\n     1    actual: a\n" ++
    ">    2  expected: b\n>    2    actual: <missing>\n" ++
    "     3  expected: c\n     3    actual: <missing>\n" ++
    "expected 3 lines, actual 1 lines\n" := by decide +kernel

end AmpMarkup.Text
