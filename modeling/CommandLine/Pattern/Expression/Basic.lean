import CommandLine.Pattern.CharacterSet

/-!
Regular expressions as trees. The functions that build them keep a simplest form: a sequence holds
no sequence, nothing empty and no two literals beside each other; a choice holds no choice, and is a
set where all its parts are sets or all are characters; and what all parts of a choice begin with
stands before it.
-/

namespace CommandLine.Pattern

/-- How a place between characters lies to words. -/
inductive WordPlace where
  | boundary
  | noBoundary
  | start
  | stop
  | halfStart
  | halfStop
deriving DecidableEq

/-- A place between characters. -/
inductive Place where
  | textStart
  | textEnd
  /-- The start of a line, where lines may end with a carriage return or not. -/
  | lineStart (carriageReturns : Bool)
  | lineEnd (carriageReturns : Bool)
  | word (place : WordPlace) (ascii : Bool)
deriving DecidableEq

/-- A regular expression. -/
inductive Expression where
  | empty
  | literal (text : List Char)
  /-- A character of a set, as a code point or as a byte. -/
  | oneOf (set : CharacterSet) (asByte : Bool)
  | place (p : Place)
  | repeated (least : Nat) (most? : Option Nat) (greedy : Bool) (body : Expression)
  | group (number : Nat) (body : Expression)
  | sequence (parts : List Expression)
  | choice (parts : List Expression)

namespace Expression

mutual

/-- The expressions are built alike. -/
def same : Expression → Expression → Bool
  | empty, empty => true
  | literal s, literal t => s == t
  | oneOf s a, oneOf t b => s == t && a == b
  | place p, place q => p == q
  | repeated l m g x, repeated l' m' g' y => l == l' && m == m' && g == g' && same x y
  | group n x, group k y => n == k && same x y
  | sequence xs, sequence ys => sameEach xs ys
  | choice xs, choice ys => sameEach xs ys
  | _, _ => false

def sameEach : List Expression → List Expression → Bool
  | [], [] => true
  | x :: xs, y :: ys => same x y && sameEach xs ys
  | _, _ => false

end

/-! ## Facts -/

/-- What is known of the texts that an expression matches. -/
structure Facts where
  /-- The least number of bytes, if no part matches nothing at all. -/
  least? : Option Nat
  /-- The greatest number of bytes, if there is one. -/
  most? : Option Nat
  /-- They stand at the start of the whole text. -/
  fromStart : Bool := false
  /-- They stand at the end of the whole text. -/
  toEnd : Bool := false

namespace Facts

/-- A fact holds of some part that has nothing but places before it. -/
def leads (fact : Facts → Bool) : List Facts → Bool
  | [] => false
  | f :: rest => fact f || (f.most? == some 0 && leads fact rest)

def sequence (parts : List Facts) : Facts where
  least? := (parts.mapM least?).map fun sizes => sizes.foldl (· + ·) 0
  most? := (parts.mapM most?).map fun sizes => sizes.foldl (· + ·) 0
  fromStart := leads fromStart parts
  toEnd := leads toEnd parts.reverse

def choice (parts : List Facts) : Facts where
  least? := (parts.mapM least?).bind List.min?
  most? := (parts.mapM most?).bind List.max?
  fromStart := parts.all fromStart
  toEnd := parts.all toEnd

def repeated (least : Nat) (most? : Option Nat) (body : Facts) : Facts where
  least? := body.least?.map (least * ·)
  most? := do return (← most?) * (← body.most?)
  fromStart := 0 < least && body.fromStart
  toEnd := 0 < least && body.toEnd

/-- The number of bytes of a character, given its code. -/
def width (code : Nat) : Nat := (Char.ofNat code).utf8Size

def ofSet (set : CharacterSet) : Facts where
  least? := set.ranges.head?.map fun r => width r.1
  most? := set.ranges.getLast?.map fun r => width r.2

end Facts

mutual

def facts : Expression → Facts
  | empty => ⟨some 0, some 0, false, false⟩
  | literal text =>
    let bytes := (text.map Char.utf8Size).sum
    { least? := some bytes, most? := some bytes }
  | oneOf set _ => .ofSet set
  | place p => ⟨some 0, some 0, p == .textStart, p == .textEnd⟩
  | repeated least most? _ body => .repeated least most? (facts body)
  | group _ body => facts body
  | sequence parts => .sequence (factsOfEach parts)
  | choice parts => .choice (factsOfEach parts)

def factsOfEach : List Expression → List Facts
  | [] => []
  | x :: xs => facts x :: factsOfEach xs

end

/-! ## Building -/

/-- What matches nothing at all. -/
def nothing : Expression := oneOf ∅ true

/-- A character of a set. -/
def ofSet (set : CharacterSet) (asByte : Bool) : Expression :=
  if set = ∅ then nothing
  else match set.single? with
    | some c => literal [c]
    | none => oneOf set asByte

/-- An expression over and over. One that matches places only comes once at most. -/
def times (least : Nat) (most? : Option Nat) (greedy : Bool) (body : Expression) : Expression :=
  let (least, most?) :=
    if (facts body).most? = some 0 then (min least 1, some (min (most?.getD 1) 1))
    else (least, most?)
  if most? = some 0 then empty
  else if least = 1 ∧ most? = some 1 then body
  else repeated least most? greedy body

/-- Puts a part of a sequence before others. -/
def before : Expression → List Expression → List Expression
  | empty, rest => rest
  | literal s, literal t :: rest => literal (s ++ t) :: rest
  | x, rest => x :: rest

/-- Expressions one after the other. -/
def concat (parts : List Expression) : Expression :=
  let flat := parts.flatMap fun
    | sequence inner => inner
    | x => [x]
  match flat.foldr before [] with
  | [] => empty
  | [x] => x
  | flat => sequence flat

/-- The one character that an expression is. -/
def character? : Expression → Option Char
  | literal [c] => some c
  | _ => none

/-- The set of which an expression is a character. -/
def set? : Expression → Option CharacterSet
  | oneOf set _ => some set
  | _ => none

/-- The set of which a choice is a character. -/
def union? (parts : List Expression) : Option CharacterSet :=
  ((parts.mapM character?).map fun cs => cs.foldr (fun c s => .singleton c ∪ s) ∅).or
    ((parts.mapM set?).map fun sets => sets.foldr (· ∪ ·) ∅)

/-- Either of some expressions, with nothing before it. -/
def either (parts : List Expression) : Expression :=
  let flat := parts.flatMap fun
    | choice inner => inner
    | x => [x]
  match flat with
  | [] => nothing
  | [x] => x
  | flat =>
    match union? flat with
    | some set => ofSet set false
    | none => choice flat

/-- How many parts two sequences have in common at their start. -/
def commonLength : List Expression → List Expression → Nat
  | x :: xs, y :: ys => if same x y then commonLength xs ys + 1 else 0
  | _, _ => 0

/-- The parts of a sequence. -/
def parts? : Expression → Option (List Expression)
  | sequence parts => some parts
  | _ => none

/-- A choice of sequences that begin alike, with that in front of a choice of the rests. -/
def factored? (parts : List Expression) : Option Expression :=
  match parts.mapM parts? with
  | some (first :: others) =>
    let n := (others.map (commonLength first)).foldl min first.length
    if n = 0 then none
    else
      let rests := (first :: others).map fun sequence => concat (sequence.drop n)
      some (concat (first.take n ++ [either rests]))
  | _ => none

/-- Either of some expressions. -/
def alternation (parts : List Expression) : Expression :=
  match either parts with
  | choice flat => (factored? flat).getD (choice flat)
  | x => x

end Expression

end CommandLine.Pattern
