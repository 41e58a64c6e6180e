/-!
The fewest decimal digits that identify a double. A double stands for all the reals that round to
it; `Double.shortest` takes the coarsest decimal grid with a point among them, and on that grid the
point nearest to the double. All of it is exact arithmetic on naturals.
-/

namespace CommandLine.Decimal

/-- The number `digits * 10 ^ exponent`. -/
structure Scaled where
  digits : Nat
  exponent : Int
deriving DecidableEq, Repr

/-- A finite double without its sign, `significand * 2 ^ exponent`. -/
structure Double where
  significand : Nat
  exponent : Int
  /-- Below a power of two the doubles lie twice as close as above it. -/
  narrowBelow : Bool
deriving DecidableEq, Repr

/-- Which of two equally near decimals is chosen. -/
inductive Tie where
  | toEven
  | upward
deriving DecidableEq, Repr

namespace Double

/-- The double with the given bits, for bits of a finite value. The sign bit is ignored. -/
def ofBits (bits : UInt64) : Double :=
  let biased : Nat := (bits.toNat >>> 52) % 0x800
  let fraction : Nat := bits.toNat % 0x10000000000000
  if biased = 0 then ⟨fraction, -1074, false⟩
  else ⟨0x10000000000000 + fraction, (biased : Int) - 1075, fraction == 0 && biased != 1⟩

/-- `a * 10 ^ i` against `n * 2 ^ j`, multiplied out. -/
def compareScaled (a : Nat) (i : Int) (n : Nat) (j : Int) : Ordering :=
  compare ((a * Nat.pow 10 i.toNat) <<< (-j).toNat) ((n <<< j.toNat) * Nat.pow 10 (-i).toNat)

/-- The decimal lies among the reals that round to the double. These reach half way to either
neighbour, and both ends belong to them when the significand is even. -/
def readsBack (x : Double) (d : Scaled) : Bool :=
  let below := if x.narrowBelow then 4 * x.significand - 1 else 4 * x.significand - 2
  let above := 4 * x.significand + 2
  let atEnds := x.significand % 2 == 0
  let left := compareScaled d.digits d.exponent below (x.exponent - 2)
  let right := compareScaled d.digits d.exponent above (x.exponent - 2)
  (left == .gt || (atEnds && left == .eq)) && (right == .lt || (atEnds && right == .eq))

/-- The greatest multiple of `10 ^ unit` that is at most the double, as a number of units. -/
def floorOn (x : Double) (unit : Int) : Nat :=
  ((x.significand <<< x.exponent.toNat) * Nat.pow 10 (-unit).toNat)
    / (Nat.pow 10 unit.toNat <<< (-x.exponent).toNat)

/-- The point of the grid `10 ^ unit` next to the double that reads back, if one does. -/
def nearestOn? (tie : Tie) (x : Double) (unit : Int) : Option Scaled :=
  let lower : Scaled := ⟨x.floorOn unit, unit⟩
  let upper : Scaled := ⟨x.floorOn unit + 1, unit⟩
  match x.readsBack lower, x.readsBack upper with
  | false, false => none
  | true, false => some lower
  | false, true => some upper
  | true, true =>
    -- twice the double against the sum of its two neighbours on the grid
    match compareScaled (2 * lower.digits + 1) unit x.significand (x.exponent + 1), tie with
    | .gt, _ => some lower
    | .lt, _ => some upper
    | .eq, .upward => some upper
    | .eq, .toEven => some (if lower.digits % 2 = 0 then lower else upper)

/-- The units of the grids, from the coarsest on; doubles lie between `10 ^ -324` and
`10 ^ 309`. -/
def units : List Int :=
  (List.range 650).map fun (n : Nat) => (309 : Int) - n

/-- The exact decimal value. -/
def exact (x : Double) : Scaled :=
  if x.exponent < 0 then ⟨x.significand * Nat.pow 5 (-x.exponent).toNat, x.exponent⟩
  else ⟨x.significand <<< x.exponent.toNat, 0⟩

/-- The fewest digits that read back, of these the nearest. -/
def shortest (tie : Tie) (x : Double) : Scaled :=
  if x.significand = 0 then ⟨0, 0⟩
  else (units.findSome? (x.nearestOn? tie)).getD x.exact

theorem readsBack_of_nearestOn? {tie : Tie} {x : Double} {unit : Int} {d : Scaled}
    (h : x.nearestOn? tie unit = some d) : x.readsBack d = true := by
  simp only [nearestOn?] at h
  split at h <;> grind

end Double

end CommandLine.Decimal
