import AmpMarkup.Url.DomainName

namespace AmpMarkup.Url

open AmpMarkup.Text

/-!
# Network addresses

* `looksLikeIpv4 s` — a name whose last part is a number has to be an address.
* `readIpv4? s` — up to four numbers, decimal, octal or hexadecimal; the last one fills the bytes
  that the others leave.
* `readIpv6? s` — eight groups of up to four hexadecimal digits; `::` stands for as many zero
  groups as are missing, and the last two groups may be written as an address of four bytes.
* `writeIpv4`, `writeIpv6` — the normal forms.
-/

/-! ### Four bytes -/

/-- The number that digits stand for in a base. -/
def numberInBase (base : Nat) (digits : List Char) : Nat :=
  digits.foldl (fun n c => base * n + (hexValue? c).getD 0) 0

/-- The base that the beginning of a number announces, and its digits. -/
def splitBase (s : List Char) : Nat × List Char :=
  match s with
  | '0' :: 'x' :: rest | '0' :: 'X' :: rest => (16, rest)
  | '0' :: c :: rest => (8, c :: rest)
  | _ => (10, s)

/-- A number of an address, in any of the three bases; `0x` alone is zero. -/
def readIpv4Number? (s : List Char) : Option Nat :=
  if s.isEmpty then none
  else
    let (base, digits) := splitBase s
    if digits.all fun c => (hexValue? c).any (· < base) then some (numberInBase base digits)
    else none

/-- The parts between dots; a dot at the end counts for nothing. -/
def dottedParts (s : List Char) : List (List Char) :=
  let parts := splitOnChar '.' s
  if parts.length > 1 ∧ parts.getLast? = some [] then parts.dropLast else parts

/-- Is the last part a number? -/
def looksLikeIpv4 (s : List Char) : Bool :=
  match (dottedParts s).getLast? with
  | none => false
  | some last => (!last.isEmpty && last.all Char.isDigit) || (readIpv4Number? last).isSome

/-- Numbers of one byte each and a last one for the bytes that remain. -/
def ipv4OfNumbers? (numbers : List Nat) : Option UInt32 :=
  match numbers.getLast? with
  | none => none
  | some last =>
    let bytes := numbers.dropLast
    let room := Nat.pow 256 (4 - bytes.length)
    if numbers.length ≤ 4 ∧ bytes.all (· ≤ 255) ∧ last < room then
      some (.ofNat (bytes.foldl (fun n b => 256 * n + b) 0 * room + last))
    else none

/-- An address of four bytes. -/
def readIpv4? (s : List Char) : Option UInt32 :=
  ((dottedParts s).mapM readIpv4Number?).bind ipv4OfNumbers?

/-- The four bytes of an address, the highest first. -/
def ipv4Bytes (a : UInt32) : List Nat :=
  let n := a.toNat
  [n / 16777216, n / 65536 % 256, n / 256 % 256, n % 256]

/-- A natural number in decimal. -/
def decimal (n : Nat) : List Char := Nat.toDigits 10 n

/-- Four decimal numbers with dots between them. -/
def writeIpv4 (a : UInt32) : List Char := joinWithChar '.' ((ipv4Bytes a).map decimal)

/-! ### Eight groups -/

/-- One to four hexadecimal digits. -/
def readGroup? (s : List Char) : Option Nat :=
  if 1 ≤ s.length ∧ s.length ≤ 4 ∧ s.all isHexDigit then some (numberInBase 16 s) else none

/-- A byte in decimal, without superfluous zeros. -/
def readByte? (s : List Char) : Option Nat :=
  if s ≠ [] ∧ s.all Char.isDigit ∧ (s.head? ≠ some '0' ∨ s.length = 1)
      ∧ numberInBase 10 s ≤ 255 then
    some (numberInBase 10 s)
  else none

/-- Four bytes as two groups. -/
def readTwoGroups? (s : List Char) : Option (List Nat) :=
  match (splitOnChar '.' s).mapM readByte? with
  | some [a, b, c, d] => some [256 * a + b, 256 * c + d]
  | _ => none

/-- Groups between colons; if `isEnd`, the last may be four bytes. -/
def readGroups? (isEnd : Bool) (s : List Char) : Option (List Nat) :=
  let parts := splitOnChar ':' s
  match parts.dropLast.mapM readGroup?, parts.getLast? with
  | some groups, some last =>
    match readGroup? last with
    | some group => some (groups ++ [group])
    | none => if isEnd then (readTwoGroups? last).map (groups ++ ·) else none
  | _, _ => none

/-- What stands before and after the first `::`. -/
def splitAtGap? : List Char → Option (List Char × List Char)
  | ':' :: ':' :: rest => some ([], rest)
  | c :: rest => (splitAtGap? rest).map fun (before, after) => (c :: before, after)
  | [] => none

/-- The eight groups of an address. -/
def readIpv6? (s : List Char) : Option (List Nat) :=
  match splitAtGap? s with
  | none =>
    (readGroups? true s).bind fun groups => if groups.length = 8 then some groups else none
  | some (before, after) => do
    let left ← if before.isEmpty then some [] else readGroups? false before
    let right ← if after.isEmpty then some [] else readGroups? true after
    if left.length + right.length ≤ 7 then
      some (left ++ List.replicate (8 - left.length - right.length) 0 ++ right)
    else none

/-- The number of zero groups at the beginning. -/
def leadingZeros (groups : List Nat) : Nat := (groups.takeWhile (· = 0)).length

/-- Where the longest run of zero groups starts and how long it is; the first one of those that are
    equally long. `start` is the place of the list in the address. -/
def longestZeroRun (start : Nat) : List Nat → Nat × Nat
  | [] => (start, 0)
  | g :: rest =>
    let here := (start, leadingZeros (g :: rest))
    let later := longestZeroRun (start + 1) rest
    if later.2 ≤ here.2 then here else later

/-- Groups in hexadecimal with colons between them. -/
def writeGroups (groups : List Nat) : List Char :=
  joinWithChar ':' (groups.map (Nat.toDigits 16))

/-- An address with its longest run of two or more zero groups written as `::`. -/
def writeIpv6 (groups : List Nat) : List Char :=
  let (start, length) := longestZeroRun 0 groups
  if 2 ≤ length then
    writeGroups (groups.take start) ++ [':', ':'] ++ writeGroups (groups.drop (start + length))
  else writeGroups groups

end AmpMarkup.Url
