import CommandLine.Decimal.Integer
import CommandLine.Text.Blank

/-!
Dates of the Gregorian calendar and timestamps. `Date.read?` takes a year, a month and a day joined
by dashes, with a year of up to four digits or of any number of digits behind a sign.
`Timestamp.read?` takes the fixed-width form with a time and an offset from universal time.
-/

namespace CommandLine

/-- A date of the Gregorian calendar, extended to all years. -/
structure Date where
  year : Int
  month : Nat
  day : Nat
deriving DecidableEq, Repr

namespace Date

def isLeap (year : Int) : Bool :=
  year % 4 == 0 && (year % 100 != 0 || year % 400 == 0)

def daysIn (year : Int) (month : Nat) : Nat :=
  match month with
  | 2 => if isLeap year then 29 else 28
  | 4 | 6 | 9 | 11 => 30
  | _ => 31

/-- The years that dates range over. -/
def firstYear : Int := -262143

def lastYear : Int := 262142

/-- The date with these numbers, if there is one. -/
def ofNumbers? (year : Int) (month day : Nat) : Option Date :=
  if firstYear ≤ year ∧ year ≤ lastYear ∧ 1 ≤ month ∧ month ≤ 12 ∧ 1 ≤ day ∧
      day ≤ daysIn year month then
    some ⟨year, month, day⟩
  else none

/-- The number written by the first digits of a text, at least one and at most `limit` of them, and
what follows. -/
def number? (limit : Nat) (s : List Char) : Option (Nat × List Char) :=
  let digits := (s.take limit).takeWhile Decimal.isDigit
  (Decimal.natural? digits).map fun n => (n, s.drop digits.length)

/-- The year at the head of a text, and what follows. -/
def year? : List Char → Option (Int × List Char)
  | '-' :: s => (number? s.length s).map fun (n, rest) => (-(n : Int), rest)
  | '+' :: s => (number? s.length s).map fun (n, rest) => ((n : Int), rest)
  | s => (number? 4 s).map fun (n, rest) => ((n : Int), rest)

def expect? (c : Char) : List Char → Option (List Char)
  | d :: rest => if c = d then some rest else none
  | [] => none

/-- The date that a text writes. Blanks may stand before each number. -/
def read? (s : List Char) : Option Date := do
  let blanks := List.dropWhile Text.isBlank
  let (year, s) ← year? (blanks s)
  let s ← expect? '-' s
  let (month, s) ← number? 2 (blanks s)
  let s ← expect? '-' s
  let (day, s) ← number? 2 (blanks s)
  if s.isEmpty then ofNumbers? year month day else none

/-- The number with zeros in front, up to the given width. -/
def padded (width n : Nat) : String :=
  let digits := Nat.toDigits 10 n
  String.ofList (List.replicate (width - digits.length) '0' ++ digits)

/-- Years beyond four digits, and those before year zero, have a sign. -/
def writtenYear (year : Int) : String :=
  if 0 ≤ year ∧ year ≤ 9999 then padded 4 year.toNat
  else (if year < 0 then "-" else "+") ++ padded 4 year.natAbs

def write (d : Date) : String :=
  writtenYear d.year ++ "-" ++ padded 2 d.month ++ "-" ++ padded 2 d.day

end Date

/-- A date, a time of the day and an offset from universal time in minutes. -/
structure Timestamp where
  date : Date
  hour : Nat
  minute : Nat
  /-- A leap second is second sixty. -/
  second : Nat
  nanosecond : Nat
  offset : Int
deriving DecidableEq, Repr

namespace Timestamp

/-- The number written by exactly `width` digits, and what follows. -/
def fixed? (width : Nat) (s : List Char) : Option (Nat × List Char) :=
  let digits := s.take width
  if digits.length = width ∧ digits.all Decimal.isDigit then
    (Decimal.natural? digits).map fun n => (n, s.drop width)
  else none

/-- The fraction of a second behind a point, in nanoseconds; further digits are dropped. -/
def fraction? : List Char → Option (Nat × List Char)
  | '.' :: s => do
    let (n, rest) ← Date.number? 9 s
    let width := ((s.take 9).takeWhile Decimal.isDigit).length
    return (n * Nat.pow 10 (9 - width), rest.dropWhile Decimal.isDigit)
  | s => some (0, s)

/-- The offset that ends a timestamp, in minutes. -/
def offset? : List Char → Option Int
  | ['Z'] | ['z'] => some 0
  | '+' :: s => (hoursAndMinutes? s).map fun n => (n : Int)
  | '-' :: s | '−' :: s => (hoursAndMinutes? s).map fun n => -(n : Int)
  | _ => none
where
  /-- Hours and minutes, as minutes. -/
  hoursAndMinutes? (s : List Char) : Option Nat := do
    let (hours, s) ← fixed? 2 s
    let s ← Date.expect? ':' s
    let (minutes, s) ← fixed? 2 s
    if s.isEmpty ∧ hours ≤ 23 ∧ minutes ≤ 59 then some (60 * hours + minutes) else none

def isSeparator (c : Char) : Bool := c == 'T' || c == 't' || c == ' '

/-- The timestamp that a text writes. -/
def read? (s : List Char) : Option Timestamp := do
  let (year, s) ← fixed? 4 s
  let s ← Date.expect? '-' s
  let (month, s) ← fixed? 2 s
  let s ← Date.expect? '-' s
  let (day, s) ← fixed? 2 s
  let date ← Date.ofNumbers? year month day
  let separator :: s := s | none
  if !isSeparator separator then none
  let (hour, s) ← fixed? 2 s
  let s ← Date.expect? ':' s
  let (minute, s) ← fixed? 2 s
  let s ← Date.expect? ':' s
  let (second, s) ← fixed? 2 s
  let (nanosecond, s) ← fraction? s
  let offset ← offset? s
  if hour ≤ 23 ∧ minute ≤ 59 ∧ second ≤ 60 then
    some ⟨date, hour, minute, second, nanosecond, offset⟩
  else none

/-- A fraction of a second with three, six or nine digits, or none. -/
def writtenFraction (nanosecond : Nat) : String :=
  if nanosecond = 0 then ""
  else if nanosecond % 1000000 = 0 then "." ++ Date.padded 3 (nanosecond / 1000000)
  else if nanosecond % 1000 = 0 then "." ++ Date.padded 6 (nanosecond / 1000)
  else "." ++ Date.padded 9 nanosecond

def writtenOffset (offset : Int) : String :=
  (if offset < 0 then "-" else "+") ++ Date.padded 2 (offset.natAbs / 60) ++ ":"
    ++ Date.padded 2 (offset.natAbs % 60)

def write (t : Timestamp) : String :=
  t.date.write ++ "T" ++ Date.padded 2 t.hour ++ ":" ++ Date.padded 2 t.minute ++ ":"
    ++ Date.padded 2 t.second ++ writtenFraction t.nanosecond ++ writtenOffset t.offset

end Timestamp

end CommandLine
