/-!
The edit distance of two texts: how many characters have to be inserted, deleted or replaced, at
least, to make one of the other. It is computed row by row. A row holds the distances of one
beginning of the left text from every beginning of the right text, the shortest first.
-/

namespace CommandLine.Text

/-- The distances of a longer beginning of the left text, which ends in `c`, from the beginnings of
the right text. Given are the distance of the shorter left text from the same beginning of the right
text (`above`), the distance of the longer left text from it (`beside`), the rest of the right text,
and the rest of the row above. -/
def fillRow (c : Char) : Nat → Nat → List Char → List Nat → List Nat
  | above, beside, r :: right, next :: row =>
    let distance := min (min (next + 1) (beside + 1)) (above + if c = r then 0 else 1)
    distance :: fillRow c next distance right row
  | _, _, _, _ => []

/-- The row of a left text that is longer by the character `c`. -/
def nextRow (right : List Char) (row : List Nat) (c : Char) : List Nat :=
  match row with
  | [] => []
  | above :: row => (above + 1) :: fillRow c above (above + 1) right row

/-- The row of a left text. -/
def distanceRow (left right : List Char) : List Nat :=
  left.foldl (nextRow right) (List.range (right.length + 1))

/-- How many characters have to be inserted, deleted or replaced to make one text of the other. -/
def editDistance (left right : String) : Nat :=
  ((distanceRow left.toList right.toList).getLast?).getD 0

end CommandLine.Text
