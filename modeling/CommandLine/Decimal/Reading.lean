import CommandLine.Decimal.Integer

/-!
Reading doubles. A number is an optional sign, then digits with at most one point among them, then
optionally `e` and a signed exponent; or one of the words for the special values, in any case.
`double?` rounds the number to the nearest double, ties to even.
-/

namespace CommandLine.Decimal

/-- A run of digits at the head of a text, and what follows it. -/
def spanDigits (s : List Char) : List Char × List Char :=
  s.span isDigit

/-- The exponent that ends a number: nothing, or `e`, an optional sign and digits. -/
def exponent? : List Char → Option Int
  | [] => some 0
  | c :: rest => if c = 'e' ∨ c = 'E' then integer? rest else none

/-- The decimal written without sign, as digits and a power of ten. -/
def unsigned? (s : List Char) : Option (Nat × Int) :=
  let (whole, rest) := spanDigits s
  let (fraction, rest) := match rest with
    | '.' :: rest => spanDigits rest
    | rest => ([], rest)
  (natural? (whole ++ fraction)).bind fun n =>
    (exponent? rest).map fun e => (n, e - fraction.length)

/-- The nearest double to `digits * 10 ^ exponent`. Beyond the magnitudes of doubles the power is
not multiplied out. -/
def nearest (digits : Nat) (exponent : Int) : Float :=
  let magnitude := exponent + (Nat.toDigits 10 digits).length
  if digits = 0 ∨ magnitude < -330 then 0.0
  else if 320 < magnitude then 1.0 / 0.0
  else Float.ofScientific digits (exponent < 0) exponent.natAbs

/-- The words for the special values, in lower case. -/
def special? (s : List Char) : Option Float :=
  let word := String.ofList (s.map Char.toLower)
  if word = "inf" ∨ word = "infinity" then some (1.0 / 0.0)
  else if word = "nan" then some (0.0 / 0.0)
  else none

def magnitude? (s : List Char) : Option Float :=
  special? s <|> (unsigned? s).map fun (digits, exponent) => nearest digits exponent

/-- The double that a text writes. -/
def double? : List Char → Option Float
  | '-' :: s => (magnitude? s).map fun x => -x
  | '+' :: s => magnitude? s
  | s => magnitude? s

end CommandLine.Decimal
