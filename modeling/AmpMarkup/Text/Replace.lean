namespace AmpMarkup.Text

/-!
# Text — replacing every occurrence

* `replaceAll pat new s` — every occurrence of `pat` in `s`, found from left to right and without
  overlaps, replaced by `new`. What `new` brings in is not searched again. An empty `pat` occurs
  nowhere.
-/

/-- Walks over `s`; the first `covered` characters belong to an occurrence already replaced. -/
def replaceFrom (pat new : List Char) (covered : Nat) : List Char → List Char
  | [] => []
  | c :: rest =>
    match covered with
    | n + 1 => replaceFrom pat new n rest
    | 0 =>
      if pat ≠ [] ∧ pat.isPrefixOf (c :: rest) then
        new ++ replaceFrom pat new (pat.length - 1) rest
      else c :: replaceFrom pat new 0 rest

/-- Every occurrence of `pat` in `s`, from left to right, replaced by `new`. -/
def replaceAll (pat new s : List Char) : List Char := replaceFrom pat new 0 s

@[simp] theorem replaceAll_nil (pat new : List Char) : replaceAll pat new [] = [] := rfl

/-- A character that starts no occurrence stays. -/
theorem replaceAll_cons_of_not_isPrefixOf {pat : List Char} {c : Char} {rest : List Char}
    (new : List Char) (h : pat.isPrefixOf (c :: rest) = false) :
    replaceAll pat new (c :: rest) = c :: replaceAll pat new rest := by
  simp [replaceAll, replaceFrom, h]

end AmpMarkup.Text
