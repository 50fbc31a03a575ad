import AmpMarkup.Proofs.Url.Parts
import AmpMarkup.Proofs.Url.Percent
import AmpMarkup.Url.Basic

namespace AmpMarkup.Url

open AmpMarkup.Text

/-!
# Paths are read back

The segments of a path are encoded and hold neither a slash nor a backslash, and none is a dot. So
when they are followed again each is found where it was.

* `IsSegment` — the segments that are left; `isSegment_of_followSegments`.
* `followSegments_of_isSegment` — following them changes nothing.
* `IsPath` — the paths of special URLs; `isPath_readPathAfterAuthority`.
* `readPathAfterAuthority_write` — such a path is read back.
-/

variable {s segment : List Char} {c : Char} {done list : List (List Char)} {path : Path}

/-! ### Dots -/

/-- The dots of a path hold no other codes. -/
theorem hasDotCodesOnly_of_dots (h : (isDot segment || isDoubleDot segment) = true) :
    hasDotCodesOnly segment = true := by
  rw [← hasDotCodesOnly_map_toLower]
  rw [Bool.or_eq_true, isDot, isDoubleDot, Bool.or_eq_true, decide_eq_true_iff, decide_eq_true_iff,
    List.contains_eq_mem, decide_eq_true_iff] at h
  rcases h with (rfl | h) | h
  · rfl
  · rw [h]
    rfl
  · have hall : ∀ form ∈ ["..", ".%2e", "%2e.", "%2e%2e"],
        hasDotCodesOnly form.toList = true := by decide
    have hform := hall _ h
    rwa [String.toList_ofList] at hform

/-! ### Segments -/

/-- A segment that stays where it is. -/
structure IsSegment (segment : List Char) : Prop where
  free : IsFreeOf pathSet segment
  slash : '/' ∉ segment
  backslash : '\\' ∉ segment
  dots : (isDot segment || isDoubleDot segment) = false

/-- The empty segment is one that can be written. -/
theorem isSegment_nil : IsSegment [] :=
  ⟨fun _ h => absurd h List.not_mem_nil, List.not_mem_nil, List.not_mem_nil, by decide⟩

/-- Encoding makes no dots. -/
theorem isSegment_percentEncode (hslash : '/' ∉ segment) (hbackslash : '\\' ∉ segment)
    (hdots : (isDot segment || isDoubleDot segment) = false) :
    IsSegment (percentEncode pathSet segment) where
  free := isFreeOf_percentEncode keepsCodes_pathSet segment
  slash h := hslash (mem_of_mem_percentEncode h (by decide) (by decide))
  backslash h := hbackslash (mem_of_mem_percentEncode h (by decide) (by decide))
  dots := by
    rw [Bool.eq_false_iff]
    intro h
    rw [percentEncode_eq_self (by decide) (hasDotCodesOnly_of_dots h), hdots] at h
    cases h

/-- Going up adds no segment. -/
theorem mem_of_mem_stepUp {x : List Char} (h : x ∈ stepUp done) : x ∈ done := by
  cases done with
  | nil => exact h
  | cons last before =>
    rw [stepUp] at h
    split at h
    · exact h
    · exact List.mem_cons_of_mem last h

/-- Whatever segments are followed, those that are left stay where they are. -/
theorem isSegment_of_followSegments (hdone : ∀ x ∈ done, IsSegment x)
    (hlist : ∀ x ∈ list, '/' ∉ x ∧ '\\' ∉ x) : ∀ x ∈ followSegments done list, IsSegment x := by
  induction list generalizing done with
  | nil => simpa [followSegments] using hdone
  | cons segment rest ih =>
    obtain ⟨next, hnext⟩ : ∃ next, next =
      if isDoubleDot segment then stepUp done
      else if isDot segment then done
      else percentEncode pathSet segment :: done := ⟨_, rfl⟩
    have hall : ∀ x ∈ next, IsSegment x := by
      rw [hnext]
      split
      · exact fun x hx => hdone x (mem_of_mem_stepUp hx)
      · split
        · exact hdone
        · rename_i hdouble hdot
          obtain ⟨hslash, hbackslash⟩ := hlist segment List.mem_cons_self
          exact List.forall_mem_cons.mpr
            ⟨isSegment_percentEncode hslash hbackslash (by simp [hdouble, hdot]), hdone⟩
    rw [followSegments, ← hnext]
    split
    · -- A dot at the end leaves an empty segment.
      intro x hx
      rcases List.mem_cons.mp (List.mem_reverse.mp hx) with rfl | hx
      · exact isSegment_nil
      · exact hall x hx
    · exact ih hall fun x hx => hlist x (List.mem_cons_of_mem segment hx)

/-- There is always a segment. -/
theorem followSegments_ne_nil (h : done ≠ [] ∨ list ≠ []) : followSegments done list ≠ [] := by
  induction list generalizing done with
  | nil => simpa [followSegments] using h
  | cons segment rest ih =>
    rw [followSegments]
    split
    · simp
    · rename_i hlast
      apply ih
      cases rest with
      | cons _ _ => exact .inr (List.cons_ne_nil _ _)
      | nil =>
        simp only [List.isEmpty_nil, Bool.true_and, Bool.or_eq_true, not_or, Bool.not_eq_true]
          at hlast
        simp [hlast]

/-- Segments without dots stay as they are. -/
theorem followSegments_of_isSegment (h : ∀ x ∈ list, IsSegment x) :
    followSegments done list = done.reverse ++ list := by
  induction list generalizing done with
  | nil => simp [followSegments]
  | cons segment rest ih =>
    obtain ⟨hfree, -, -, hdots⟩ := h segment List.mem_cons_self
    have hdots' := hdots
    rw [Bool.or_eq_false_iff] at hdots'
    rw [followSegments]
    simp only [hdots'.1, hdots'.2, Bool.or_self, Bool.and_false, Bool.false_eq_true, if_false]
    rw [percentEncode_of_isFreeOf hfree, ih fun x hx => h x (List.mem_cons_of_mem segment hx),
      List.reverse_cons, List.append_assoc, List.singleton_append]

/-! ### Paths -/

/-- The paths of special URLs. -/
inductive IsPath : Path → Prop where
  | segments {list : List (List Char)} : list ≠ [] → (∀ x ∈ list, IsSegment x) →
    IsPath (.segments list)

/-- A path that has been read is one that can be written. -/
theorem isPath_readPath (s : List Char) : IsPath (.segments (readPath .special s)) := by
  rw [readPath, if_neg (by decide)]
  refine .segments (followSegments_ne_nil (.inr (splitOnChar_ne_nil _ _)))
    (isSegment_of_followSegments (by simp) fun x hx =>
      ⟨not_mem_of_mem_splitOnChar hx, fun hc => ?_⟩)
  obtain ⟨y, -, hy⟩ := List.mem_map.mp (mem_of_mem_splitOnChar hx hc).1
  split at hy
  · cases hy
  · contradiction

/-- A path that has been read behind an authority is one that can be written. -/
theorem isPath_readPathAfterAuthority (s : List Char) :
    IsPath (readPathAfterAuthority .special s) := by
  cases s with
  | nil => exact isPath_readPath []
  | cons c rest => exact isPath_readPath _

/-- Every segment is written with a slash before it. -/
theorem write_segments (hne : list ≠ []) :
    (Path.segments list).write = '/' :: joinWithChar '/' list := by
  rw [Path.write]
  induction list with
  | nil => exact absurd rfl hne
  | cons x rest ih =>
    rw [List.flatMap_cons]
    cases rest with
    | nil => simp [joinWithChar]
    | cons y rest =>
      rw [ih (List.cons_ne_nil _ _)]
      rfl

/-- A path is read back. -/
theorem readPathAfterAuthority_write (h : IsPath path) :
    readPathAfterAuthority .special path.write = path := by
  obtain ⟨hne, hsegments⟩ := h
  rename_i list
  have hbackslash : (joinWithChar '/' list).map (fun c => if c = '\\' then '/' else c) =
      joinWithChar '/' list := by
    refine (List.map_congr_left fun c hc => if_neg ?_).trans (List.map_id _)
    rintro rfl
    rcases mem_joinWithChar hc with h | ⟨x, hx, hc⟩
    · cases h
    · exact (hsegments x hx).backslash hc
  rw [write_segments hne, readPathAfterAuthority, if_pos (by decide), readPath,
    if_neg (by decide), hbackslash, splitOnChar_joinWithChar hne fun x hx => (hsegments x hx).slash,
    followSegments_of_isSegment hsegments]
  rfl

/-- A path begins with a slash. -/
theorem exists_write (h : IsPath path) : ∃ rest, path.write = '/' :: rest := by
  obtain ⟨hne, -⟩ := h
  exact ⟨_, write_segments hne⟩

/-- The characters of a path. -/
theorem mem_write_path (h : IsPath path) (hc : c ∈ path.write) :
    isAscii c = true ∧ pathSet c = false := by
  obtain ⟨hne, hsegments⟩ := h
  rw [write_segments hne, List.mem_cons] at hc
  rcases hc with rfl | hc
  · decide
  · rcases mem_joinWithChar hc with rfl | ⟨x, hx, hc⟩
    · decide
    · exact (hsegments x hx).free c hc

end AmpMarkup.Url
