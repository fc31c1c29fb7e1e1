import Guardrail.Decimal.Notation
import Guardrail.Decimal.Reading
import Guardrail.Text.Search
import Guardrail.Time.Calendar

/-!
# Timestamps

Points in time with nanoseconds. They are written as date and time in UTC; a text may give them with
an offset, with a blank for the `T`, and with blanks between its parts.
-/

namespace Guardrail.Time

/-- A point in time. In a leap second there are more than a billion nanoseconds. -/
structure Timestamp where
  /-- Seconds since the start of 1970 in UTC. -/
  seconds : Int
  nanos : Nat
  deriving DecidableEq, Repr, Inhabited

namespace Timestamp

/-- The nanoseconds of a second. -/
def billion : Nat := 1000000000

/-- A text without the blanks at its start. -/
def skipBlanks (cs : List Char) : List Char :=
  cs.dropWhile Text.isBlank

/-- Up to `width` digits, at least one. -/
def digits? (width : Nat) (cs : List Char) : Option (Nat × List Char) :=
  let digits := (cs.take width).takeWhile Char.isDigit
  if digits.isEmpty then none else some (Decimal.natOfDigits digits, cs.drop digits.length)

/-- Up to `width` digits, at least one, behind blanks. -/
def number? (width : Nat) (cs : List Char) : Option (Nat × List Char) :=
  digits? width (skipBlanks cs)

/-- A year behind blanks: at most four digits, or any number of them right behind a sign. -/
def year? (cs : List Char) : Option (Int × List Char) :=
  match skipBlanks cs with
  | '-' :: rest => (digits? rest.length rest).map fun (n, rest) => (-(n : Int), rest)
  | '+' :: rest => (digits? rest.length rest).map fun (n, rest) => ((n : Int), rest)
  | cs => (digits? 4 cs).map fun (n, rest) => ((n : Int), rest)

/-- A character behind blanks. -/
def mark? (c : Char) (cs : List Char) : Option (List Char) :=
  match skipBlanks cs with
  | d :: rest => if d = c then some rest else none
  | [] => none

/-- The nanoseconds behind a point; digits after the ninth do not count. -/
def fraction? : List Char → Option (Nat × List Char)
  | '.' :: cs => do
    let (n, rest) ← if (cs.head?.any Char.isDigit) then number? 9 cs else none
    let places := cs.length - rest.length
    return (n * Decimal.tenTo (9 - places), rest.dropWhile Char.isDigit)
  | cs => some (0, cs)

/-- Two digits. -/
def pair? : List Char → Option (Nat × List Char)
  | a :: b :: rest =>
    if a.isDigit && b.isDigit then some (Decimal.natOfDigits [a, b], rest) else none
  | _ => none

/-- An offset from UTC in seconds: `Z`, `UTC`, or a sign with hours and minutes. -/
def offset? (cs : List Char) : Option (Int × List Char) :=
  match cs with
  | c :: rest =>
    if c = 'Z' ∨ c = 'z' then some (0, rest)
    else
      match Text.after? ['u', 't', 'c'] ((cs.take 3).map Char.toLower) with
      | some _ => some (0, cs.drop 3)
      | none => do
        let sign : Int ←
          if c = '+' then some 1 else if c = '-' ∨ c = '\u2212' then some (-1) else none
        let (hours, rest) ← pair? rest
        let (minutes, rest) ← pair? (rest.dropWhile fun d => d = ':' || Text.isBlank d)
        if minutes < 60 && hours < 24 then some (sign * (3600 * hours + 60 * minutes), rest)
        else none
  | [] => none

/-- Whether a timestamp can lie in a year. -/
def hasYear (year : Int) : Bool :=
  -262143 ≤ year && year ≤ 262142

/-- The date in UTC. -/
def date (t : Timestamp) : Date := Date.ofDays (t.seconds / 86400)

/-- The timestamp that a text gives. -/
def ofText? (s : String) : Option Timestamp := do
  let (year, cs) ← year? s.toList
  let cs ← mark? '-' cs
  let (month, cs) ← number? 2 cs
  let cs ← mark? '-' cs
  let (day, cs) ← number? 2 cs
  let cs ←
    match cs with
    | c :: cs => if c = 'T' ∨ c = 't' ∨ c = ' ' then some cs else none
    | [] => none
  let (hour, cs) ← number? 2 cs
  let cs ← mark? ':' cs
  let (minute, cs) ← number? 2 cs
  let cs ← mark? ':' cs
  let (second, cs) ← number? 2 cs
  let (nanos, cs) ← fraction? cs
  let (offset, cs) ← offset? (skipBlanks cs)
  let date : Date := { year, month, day }
  if date.isValid && hasYear year && hour < 24 && minute < 60 && second ≤ 60 &&
      (skipBlanks cs).isEmpty then
    let clock : Int := 3600 * hour + 60 * minute + min second 59
    let t : Timestamp :=
      { seconds := date.toDays * 86400 + clock - offset
        nanos := if second = 60 then billion + nanos else nanos }
    if hasYear t.date.year then some t else none
  else none

/-- A number with zeros in front, up to a width. -/
def padded (width n : Nat) : String :=
  let digits := Decimal.digitText n
  String.ofList (List.replicate (width - digits.length) '0') ++ digits

/-- The text of a year: four digits, and a sign outside of the years 0 to 9999. -/
def yearText (year : Int) : String :=
  if 0 ≤ year && year ≤ 9999 then padded 4 year.toNat
  else (if year < 0 then "-" else "+") ++ padded 4 year.natAbs

/-- The text of a fraction of a second: nothing, or three, six or nine places. -/
def fractionText (nanos : Nat) : String :=
  if nanos = 0 then ""
  else if nanos % 1000000 = 0 then "." ++ padded 3 (nanos / 1000000)
  else if nanos % 1000 = 0 then "." ++ padded 6 (nanos / 1000)
  else "." ++ padded 9 nanos

/-- The text of a timestamp, in UTC. -/
def toText (t : Timestamp) : String :=
  let date := t.date
  let clock := (t.seconds % 86400).toNat
  let second := clock % 60 + t.nanos / billion
  yearText date.year ++ "-" ++ padded 2 date.month ++ "-" ++ padded 2 date.day ++ "T" ++
    padded 2 (clock / 3600) ++ ":" ++ padded 2 (clock / 60 % 60) ++ ":" ++ padded 2 second ++
    fractionText (t.nanos % billion) ++ "Z"

end Timestamp

end Guardrail.Time
