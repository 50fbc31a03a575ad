import AmpMarkup.Text.Ascii

namespace AmpMarkup.Url.Punycode

open AmpMarkup.Text

/-!
# Punycode

A text is written with letters, digits and hyphens only: first its ASCII characters, then, after a
hyphen, how to insert the others one by one. They are inserted in the order of their code points,
equal ones from left to right, and each is given by how far a counter has to move on that runs
through all code points and, for each, all places of the text so far.

* `digits`, `readDelta?` — a distance as digits to the base 36, least significant first; a digit
  below a threshold is the last. The thresholds follow the size of the distances (`adapt`).
* `encode s` — the written form of a text.
* `decode? s` — the text of a written form; none if it is not well formed.
-/

/-! ### Digits -/

/-- Letters stand for 0 to 25, digits for 26 to 35. -/
def digit (n : Nat) : Char := if n < 26 then Char.ofNat (97 + n) else Char.ofNat (22 + n)

/-- The value of a digit; letters may be of either case. -/
def digitValue? (c : Char) : Option Nat :=
  if c.isLower then some (c.toNat - 97)
  else if c.isUpper then some (c.toNat - 65)
  else if c.isDigit then some (c.toNat - 22)
  else none

/-- A digit below this value is the last one; `k` is 36 for the first digit, 72 for the second and
    so on. -/
def threshold (bias k : Nat) : Nat := min 26 (max 1 (k - bias))

/-- No threshold is zero. -/
theorem threshold_pos (bias k : Nat) : 1 ≤ threshold bias k := by unfold threshold; omega

/-- A distance as digits. -/
def digits (bias k delta : Nat) : List Char :=
  let t := threshold bias k
  if delta < t then [digit delta]
  else digit (t + (delta - t) % (36 - t)) :: digits bias (k + 36) ((delta - t) / (36 - t))
termination_by delta
decreasing_by
  have h₁ := threshold_pos bias k
  have h₂ := Nat.div_le_self (delta - threshold bias k) (36 - threshold bias k)
  omega

/-- Reads the digits of a distance, of which `sum` is known so far and the next digit counts
    `weight` times. Gives what follows the digits. -/
def readDelta? (bias k weight sum : Nat) : List Char → Option (Nat × List Char)
  | [] => none
  | c :: rest =>
    match digitValue? c with
    | none => none
    | some d =>
      if d < threshold bias k then some (sum + d * weight, rest)
      else readDelta? bias (k + 36) (weight * (36 - threshold bias k)) (sum + d * weight) rest

/-- Reading a number takes a digit at least. -/
theorem readDelta?_length_lt {bias k weight sum : Nat} {s rest : List Char} {delta : Nat}
    (h : readDelta? bias k weight sum s = some (delta, rest)) : rest.length < s.length := by
  induction s generalizing k weight sum with
  | nil => simp [readDelta?] at h
  | cons c s ih =>
    unfold readDelta? at h
    split at h
    · simp at h
    · split at h
      · simp only [Option.some.injEq, Prod.mk.injEq] at h
        simp [h.2]
      · have := ih h
        simp only [List.length_cons]
        omega

/-! ### The bias -/

/-- Divides by 35 until at most 455 are left; gives the rest and 36 for every division. -/
def scaleDown (delta k : Nat) : Nat × Nat :=
  if 455 < delta then scaleDown (delta / 35) (k + 36) else (delta, k)
termination_by delta
decreasing_by omega

/-- The bias after a distance in a text that is now `size` characters long. -/
def adapt (delta size : Nat) (first : Bool) : Nat :=
  let damped := if first then delta / 700 else delta / 2
  let (rest, k) := scaleDown (damped + damped / size) 0
  k + 36 * rest / (rest + 38)

/-- The bias before the first distance. -/
def initialBias : Nat := 72

/-- The code point at which the counter starts. -/
def initialCode : Nat := 128

/-! ### Encoding -/

/-- The characters outside ASCII with their places, in the order in which they are inserted. -/
def insertions (s : List Char) : List (Char × Nat) :=
  (s.zipIdx.filter fun e => !isAscii e.1).mergeSort fun a b => a.1.toNat ≤ b.1.toNat

/-- The distances to the insertions. The counter stands at the place `index` of the code point
    `code`, and `size` characters are there already. -/
def encodeInsertions (s : List Char) (code index bias size : Nat) :
    List (Char × Nat) → List Char
  | [] => []
  | (c, place) :: rest =>
    let target := (s.take place).countP fun x => x.toNat ≤ c.toNat
    let delta := (c.toNat - code) * (size + 1) + target - index
    digits bias 36 delta
      ++ encodeInsertions s c.toNat (target + 1) (adapt delta (size + 1) (index == 0)) (size + 1)
        rest

/-- The written form of a text. -/
def encode (s : List Char) : List Char :=
  let basic := s.filter isAscii
  (if basic.isEmpty then [] else basic ++ ['-'])
    ++ encodeInsertions s initialCode 0 initialBias basic.length (insertions s)

/-! ### Decoding -/

/-- Inserts characters into `text` as the distances say. -/
def decodeInsertions? (code index bias : Nat) (text : List Char) (s : List Char) :
    Option (List Char) :=
  match s with
  | [] => some text
  | c :: rest =>
    match _h : readDelta? bias 36 1 0 (c :: rest) with
    | none => none
    | some (delta, after) =>
      let size := text.length + 1
      let total := index + delta
      let code := code + total / size
      let place := total % size
      if code.isValidChar then
        decodeInsertions? code (place + 1) (adapt delta size (index == 0))
          (text.insertIdx place (Char.ofNat code)) after
      else none
termination_by s.length
decreasing_by exact readDelta?_length_lt _h

/-- What stands before the last hyphen and what stands after it; without a hyphen nothing, and
    everything. None if there is nothing before the hyphen. -/
def splitAtLastHyphen? (s : List Char) : Option (List Char × List Char) :=
  if s.contains '-' then
    let after := (s.reverse.takeWhile (· ≠ '-')).reverse
    let before := s.take (s.length - after.length - 1)
    if before.isEmpty then none else some (before, after)
  else some ([], s)

/-- The text of a written form. -/
def decode? (s : List Char) : Option (List Char) :=
  match splitAtLastHyphen? s with
  | none => none
  | some (basic, deltas) =>
    if basic.all isAscii then decodeInsertions? initialCode 0 initialBias basic deltas else none

end AmpMarkup.Url.Punycode
