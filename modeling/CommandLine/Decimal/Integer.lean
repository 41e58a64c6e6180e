/-!
Integers in decimal text: an optional sign and at least one digit. `integer?` reads one of any
size, and `word?` refuses what does not fit in 64 signed bits.
-/

namespace CommandLine.Decimal

/-- The value of a character as a decimal digit, `0` to `9` only. -/
def digit? (c : Char) : Option Nat :=
  if '0'.toNat ≤ c.toNat ∧ c.toNat ≤ '9'.toNat then some (c.toNat - '0'.toNat) else none

def isDigit (c : Char) : Bool := (digit? c).isSome

/-- The natural written by a list of digits, read from the left onto `acc`. -/
def naturalFrom? (acc : Nat) : List Char → Option Nat
  | [] => some acc
  | c :: rest => (digit? c).bind fun d => naturalFrom? (10 * acc + d) rest

/-- The natural written by digits, of which there is at least one. -/
def natural? : List Char → Option Nat
  | [] => none
  | digits => naturalFrom? 0 digits

/-- The integer written by an optional sign and digits, of any size. -/
def integer? : List Char → Option Int
  | '-' :: digits => (natural? digits).map fun n => -(n : Int)
  | '+' :: digits => (natural? digits).map fun n => (n : Int)
  | digits => (natural? digits).map fun n => (n : Int)

/-- The integers of 64 signed bits. -/
def FitsWord (n : Int) : Prop := -0x8000000000000000 ≤ n ∧ n < 0x8000000000000000

instance (n : Int) : Decidable (FitsWord n) := inferInstanceAs (Decidable (_ ∧ _))

/-- The integer that a text writes, if it fits in 64 signed bits. -/
def word? (text : List Char) : Option Int :=
  (integer? text).filter fun n => FitsWord n

end CommandLine.Decimal
