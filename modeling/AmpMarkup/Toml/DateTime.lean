import AmpMarkup.Toml.Reader

namespace AmpMarkup.Toml

/-!
# Dates and times

* `Date`, `Time`, `Offset`, `DateTime` — a date, a time of day, or both, then perhaps with an
  offset from universal time.
* `DateTime.reader` — reads one; `DateTime.write` — the normal form.
-/

/-- A day of the calendar. -/
structure Date where
  year : Nat
  month : Nat
  day : Nat
  deriving DecidableEq, Repr

/-- A time of day; a leap second is number 60. -/
structure Time where
  hour : Nat
  minute : Nat
  second : Nat
  nanosecond : Nat
  deriving DecidableEq, Repr

/-- How far local time is from universal time. -/
inductive Offset where
  /-- Universal time itself. -/
  | universal
  /-- Minutes ahead of universal time. -/
  | minutes (n : Int)
  deriving DecidableEq, Repr

/-- A date, a time of day, or both; only both together may have an offset. -/
inductive DateTime where
  | date (d : Date)
  | time (t : Time)
  | both (d : Date) (t : Time) (offset? : Option Offset)
  deriving DecidableEq, Repr

/-- The number that decimal digits stand for. -/
def decimalValue (digits : List Char) : Nat :=
  digits.foldl (fun n c => 10 * n + (c.toNat - 48)) 0

/-- `n` in decimal with zeros before it to make `width` digits. -/
def padded (width n : Nat) : String :=
  let digits := toString n
  "".pushn '0' (width - digits.length) ++ digits

/-! ### Reading -/

/-- A number of exactly `n` digits. -/
def fixedDigits (n : Nat) : Reader Nat := do
  let digits ← (List.replicate n ()).mapM fun _ => satisfy Char.isDigit
  return decimalValue digits

/-- A number of two digits in a range. -/
def twoDigits (least most : Nat) : Reader Nat := do
  let n ← fixedDigits 2
  if least ≤ n ∧ n ≤ most then return n else failure

/-- The number of days of a month; every fourth year has a leap day, but of the years that end a
    century only every fourth. -/
def daysInMonth (year month : Nat) : Nat :=
  if month = 2 then
    if year % 4 = 0 ∧ (year % 100 ≠ 0 ∨ year % 400 = 0) then 29 else 28
  else if [4, 6, 9, 11].contains month then 30
  else 31

/-- A date, whose day is one that the month has. -/
def Date.reader : Reader Date := do
  let year ← fixedDigits 4
  expect '-'
  let month ← twoDigits 1 12
  expect '-'
  let day ← twoDigits 1 (daysInMonth year month)
  return { year, month, day }

/-- A fraction of a second in nanoseconds; further digits are dropped. -/
def fractionReader : Reader Nat := do
  expect '.'
  let digits ← takeWhile₁ Char.isDigit
  let kept := digits.take 9
  return decimalValue kept * Nat.pow 10 (9 - kept.length)

/-- A time of day; seconds may have a fraction. -/
def Time.reader : Reader Time := do
  let hour ← twoDigits 0 23
  expect ':'
  let minute ← twoDigits 0 59
  expect ':'
  let second ← twoDigits 0 60
  let nanosecond := (← optionally fractionReader).getD 0
  return { hour, minute, second, nanosecond }

/-- A letter for universal time, or hours and minutes with a sign. -/
def Offset.reader : Reader Offset := do
  let mark ← satisfy fun c => c == 'Z' || c == 'z' || c == '+' || c == '-'
  if mark == 'Z' || mark == 'z' then return .universal
  let hours ← twoDigits 0 23
  expect ':'
  let minutes ← twoDigits 0 59
  let ahead : Int := hours * 60 + minutes
  return .minutes (if mark == '-' then -ahead else ahead)

/-- A time after a date, and what offset it has. -/
def timeAfterDate : Reader (Time × Option Offset) := do
  let _ ← satisfy fun c => c == 'T' || c == 't' || c == ' '
  let t ← Time.reader
  return (t, ← optionally Offset.reader)

/-- A date, with a time after it if there is one, or else a time. -/
def DateTime.reader : Reader DateTime := (do
  let d ← Date.reader
  match ← optionally timeAfterDate with
  | none => return .date d
  | some (t, offset?) => return .both d t offset?) <|> .time <$> Time.reader

/-! ### Writing -/

/-- The parts of a date, with hyphens between them. -/
def Date.write (d : Date) : String :=
  padded 4 d.year ++ "-" ++ padded 2 d.month ++ "-" ++ padded 2 d.day

/-- The fraction is written without zeros at its end. -/
def Time.write (t : Time) : String :=
  let fraction := (padded 9 t.nanosecond).toList.reverse.dropWhile (· == '0')
  padded 2 t.hour ++ ":" ++ padded 2 t.minute ++ ":" ++ padded 2 t.second
    ++ if fraction.isEmpty then "" else "." ++ String.ofList fraction.reverse

/-- An offset as it is read; that of universal time is the capital letter. -/
def Offset.write : Offset → String
  | universal => "Z"
  | minutes n =>
    (if n < 0 then "-" else "+") ++ padded 2 (n.natAbs / 60) ++ ":" ++ padded 2 (n.natAbs % 60)

/-- A date and a time have a capital `T` between them. -/
def DateTime.write : DateTime → String
  | date d => d.write
  | time t => t.write
  | both d t offset? => d.write ++ "T" ++ t.write ++ ((offset?.map Offset.write).getD "")

end AmpMarkup.Toml
