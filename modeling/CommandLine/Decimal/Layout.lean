import CommandLine.Decimal.Shortest

/-!
The written form of doubles. A `Layout` records the decisions of one format: which numbers are
written positionally, whether whole numbers keep a point, and how special values read. `plain` is
the form of numbers in running text, `interchange` the form of numbers in JSON.
-/

namespace CommandLine.Decimal

/-- The decisions of a written form of doubles. -/
structure Layout where
  /-- The powers of ten of the leading digit for which a number is written without exponent. -/
  positional : Int → Bool
  /-- A whole number is written with a point and a zero after it. -/
  keepsPoint : Bool
  /-- Which of two equally near decimals of the same length is written. -/
  tie : Tie
  notANumber : String
  infinite : String
  negativeInfinite : String

namespace Layout

/-- Digits without exponent, the point being after, inside or before them. -/
def positionally (layout : Layout) (digits : List Char) (exponent : Int) : List Char :=
  let point := digits.length + exponent
  if 0 ≤ exponent then
    digits ++ List.replicate exponent.toNat '0' ++ if layout.keepsPoint then ['.', '0'] else []
  else if 0 < point then digits.take point.toNat ++ '.' :: digits.drop point.toNat
  else ['0', '.'] ++ List.replicate (-point).toNat '0' ++ digits

/-- Digits with the power of ten of the leading one. -/
def scientifically (digits : List Char) (power : Int) : List Char :=
  let mantissa := match digits with
    | first :: second :: rest => first :: '.' :: second :: rest
    | short => short
  mantissa ++ 'e' :: (if power < 0 then '-' else '+') :: Nat.toDigits 10 power.natAbs

/-- A decimal without trailing zeros. -/
def strip (d : Scaled) : List Char × Int :=
  let digits := Nat.toDigits 10 d.digits
  let kept := (digits.reverse.dropWhile (· == '0')).reverse
  if kept.isEmpty then (['0'], 0) else (kept, d.exponent + (digits.length - kept.length : Nat))

/-- The written form of a decimal. -/
def scaled (layout : Layout) (d : Scaled) : List Char :=
  let (digits, exponent) := strip d
  let power := exponent + digits.length - 1
  if layout.positional power then layout.positionally digits exponent
  else scientifically digits power

/-- The written form of a double: the fewest digits that read back, with the sign in front. -/
def write (layout : Layout) (x : Float) : String :=
  if x.isNaN then layout.notANumber
  else
    let negative := x.toBits.toNat >>> 63 = 1
    if x.isInf then if negative then layout.negativeInfinite else layout.infinite
    else
      let digits := layout.scaled ((Double.ofBits x.toBits).shortest layout.tie)
      String.ofList (if negative then '-' :: digits else digits)

/-- Numbers in running text never have an exponent, and whole numbers no point. -/
def plain : Layout where
  positional := fun _ => true
  keepsPoint := false
  tie := .upward
  notANumber := "NaN"
  infinite := "inf"
  negativeInfinite := "-inf"

/-- Numbers in JSON are written positionally from `0.00001` up to sixteen digits before the point.
JSON has no word for the special values. -/
def interchange : Layout where
  positional := fun power => -5 ≤ power && power < 16
  keepsPoint := true
  tie := .toEven
  notANumber := "null"
  infinite := "null"
  negativeInfinite := "null"

end Layout

end CommandLine.Decimal
