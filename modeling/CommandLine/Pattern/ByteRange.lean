import CommandLine.Pattern.CharacterSet

/-!
Sets of characters as ranges of encoded bytes. A set parts into sequences of up to four ranges of
bytes, such that the encodings of its characters are just those texts whose bytes lie in the ranges
of a sequence, one by one.
-/

namespace CommandLine.Pattern

/-- The bytes between two, which belong to it. -/
structure ByteRange where
  low : UInt8
  high : UInt8
deriving DecidableEq

namespace ByteRange

/-- The largest codes that are encoded in one byte, in two and in three. -/
def lastCodes : List Nat := [0x7F, 0x7FF, 0xFFFF]

/-- Where the codes from one to another have to be cut so that the parts keep to whole blocks of a
size: the last code of the first part. -/
def blockCut? (low high size : Nat) : Option Nat :=
  if low / size = high / size then none
  else if low % size ≠ 0 then some (low / size * size + size - 1)
  else if high % size ≠ size - 1 then some (high / size * size - 1)
  else none

/-- Where the codes from one to another have to be cut: where the number of bytes grows, and where
a byte that is not the last one changes while those behind it do not take all their values. -/
def cut? (low high : Nat) : Option Nat :=
  match lastCodes.find? fun m => low ≤ m && m < high with
  | some m => some m
  | none =>
    if high ≤ 0x7F then none
    else [64, 64 * 64, 64 * 64 * 64].findSome? (blockCut? low high)

/-- The bytes of a code. -/
def encode (code : Nat) : List UInt8 := String.utf8EncodeChar (Char.ofNat code)

/-- The sequences of the codes from one to another. -/
def sequences (low high : Nat) : List (List ByteRange) :=
  match cut? low high with
  | none => [List.zipWith ByteRange.mk (encode low) (encode high)]
  | some m =>
    if _h : low ≤ m ∧ m < high then sequences low m ++ sequences (m + 1) high
    else [List.zipWith ByteRange.mk (encode low) (encode high)]
termination_by high - low

end ByteRange

/-- The sequences of a set, in ascending order. -/
def CharacterSet.sequences (s : CharacterSet) : List (List ByteRange) :=
  s.ranges.flatMap fun r => ByteRange.sequences r.1 r.2

end CommandLine.Pattern
