import CommandLine.Pattern.Regex.Escape

/-!
Classes of characters in brackets: characters, ranges, other classes, and operators between them.
-/

namespace CommandLine.Pattern.Regex

/-- An operator between sets. -/
inductive SetOperator where
  | both
  | difference
  | symmetricDifference

/-- A class whose brackets are open. -/
structure OpenClass where
  /-- What the class does not hold is meant. -/
  negated : Bool := false
  /-- How deep the items since the last operator nest. -/
  items : List Nat := []
  /-- The characters of these items. -/
  set : CharacterSet := ∅
  /-- The last operator, if there is one, and how deep that nests which stands before it, and its
  characters. -/
  left? : Option (SetOperator × Nat × CharacterSet) := none

namespace OpenClass

def unionDepth (o : OpenClass) : Nat :=
  match o.items with
  | [] => 0
  | [d] => d
  | ds => 1 + ds.foldl max 0

/-- How deep the class so far nests. -/
def depth (o : OpenClass) : Nat :=
  match o.left? with
  | none => o.unionDepth
  | some (_, left, _) => 1 + max left o.unionDepth

/-- The characters so far. Case is settled on both sides of an operator. -/
def value (m : Mode) (o : OpenClass) : CharacterSet :=
  match o.left? with
  | none => o.set
  | some (.both, _, left) => m.fold left ∩ m.fold o.set
  | some (.difference, _, left) => m.fold left \ m.fold o.set
  | some (.symmetricDifference, _, left) =>
    (m.fold left).symmetricDifference (m.fold o.set)

/-- The characters of the class when its brackets close here. -/
def closed (m : Mode) (o : OpenClass) : CharacterSet :=
  if o.negated then (m.fold (o.value m)).complement else m.fold (o.value m)

def add (o : OpenClass) (depth : Nat) (set : CharacterSet) : OpenClass :=
  { o with items := depth :: o.items, set := o.set ∪ set }

/-- Puts an operator behind the class so far. -/
def operator (m : Mode) (o : OpenClass) (op : SetOperator) : OpenClass :=
  { o with items := [], set := ∅, left? := some (op, o.depth, o.value m) }

end OpenClass

/-- Classes by name. -/
def asciiClassLines? : String → Option (List String)
  | "alnum" => some ["30-39 41-5A 61-7A"]
  | "alpha" => some ["41-5A 61-7A"]
  | "ascii" => some ["0-7F"]
  | "blank" => some ["9 20"]
  | "cntrl" => some ["0-1F 7F"]
  | "digit" => some ["30-39"]
  | "graph" => some ["21-7E"]
  | "lower" => some ["61-7A"]
  | "print" => some ["20-7E"]
  | "punct" => some ["21-2F 3A-40 5B-60 7B-7E"]
  | "space" => some ["9-D 20"]
  | "upper" => some ["41-5A"]
  | "word" => some ["30-39 41-5A 5F 61-7A"]
  | "xdigit" => some ["30-39 41-46 61-66"]
  | _ => none

/-- A class such as `[:alpha:]`, behind its opening bracket: whether it is negated, its characters
apart from that, and what follows. -/
def asciiClass? : List Char → Option ((Bool × CharacterSet) × List Char)
  | ':' :: rest =>
    let (negated, rest) := match rest with
      | '^' :: rest => (true, rest)
      | rest => (false, rest)
    match rest.dropWhile (· != ':') with
    | ':' :: ']' :: after =>
      (asciiClassLines? (String.ofList (rest.takeWhile (· != ':')))).map fun lines =>
        ((negated, .ofText lines), after)
    | _ => none
  | _ => none

/-- Opens a class behind its bracket: dashes at its start stand for themselves, and so does a
closing bracket at its start. In byte mode a negated class is refused. -/
def openClass? (m : Mode) (s : List Char) : Option (OpenClass × List Char) :=
  let (negated, s) := match m.skip s with
    | '^' :: rest => (true, m.skip rest)
    | s => (false, s)
  if negated && !m.unicode then none
  else
    let (dashes, s) := run m (· == '-') none s
    let start : OpenClass :=
      { negated, items := dashes.map fun _ => 0,
        set := if dashes.isEmpty then ∅ else .singleton '-' }
    match dashes, s with
    | [], ']' :: rest => some (start.add 0 (.singleton ']'), m.skip rest)
    | _, s => some (start, s)

/-- One end of a range, or an item by itself. Classes of bytes hold ASCII characters only. -/
def classItem? (m : Mode) : List Char → Option (Primitive × List Char)
  | '\\' :: rest => (escape? m rest).filter fun (p, _) => itemAllowed p
  | c :: rest => if itemAllowed (.literal c false) then some (.literal c false, rest) else none
  | [] => none
where
  itemAllowed : Primitive → Bool
    | .literal c _ => m.unicode || c.toNat < 0x80
    | .set _ => true
    | .place _ => false

/-- The character behind a dash and blanks, which tells whether the dash makes a range. -/
def peek? (m : Mode) (s : List Char) : Option Char :=
  if m.verbose then
    match s.dropWhile Text.isBlank with
    | '#' :: rest => (rest.dropWhile Text.isBlank).head?
    | s => s.head?
  else s.head?

/-- The characters of an item by itself. -/
def Primitive.characters : Primitive → CharacterSet
  | literal c _ => .singleton c
  | set s => s
  | place _ => ∅

/-- The characters of an item or a range, and what follows. -/
def classRange? (m : Mode) (s : List Char) : Option (CharacterSet × List Char) := do
  let (p, rest) ← classItem? m s
  let rest := m.skip rest
  match rest with
  | [] => none
  | '-' :: after =>
    if peek? m after == some ']' || peek? m after == some '-' then some (p.characters, rest)
    else
      let (q, rest) ← classItem? m (m.skip after)
      match p, q with
      | .literal a _, .literal b _ =>
        if a ≤ b then some (.interval a.toNat b.toNat, rest) else none
      | _, _ => none
  | rest => some (p.characters, rest)

/-- Reads a class whose brackets are open, in the classes that it is nested in: its depth, its
characters, and what follows. Each step takes a character at least. -/
def class? (m : Mode) : (steps : Nat) → List OpenClass → OpenClass → List Char →
    Option ((Nat × CharacterSet) × List Char)
  | 0, _, _, _ => none
  | steps + 1, outer, o, s =>
    match m.skip s with
    | [] => none
    | '[' :: rest =>
      match asciiClass? rest with
      | some ((negated, set), after) =>
        let set := m.fold set
        if negated && !m.unicode then none
        else class? m steps outer (o.add 0 (if negated then set.complement else set)) after
      | none =>
        match openClass? m rest with
        | some (inner, after) => class? m steps (o :: outer) inner after
        | none => none
    | ']' :: rest =>
      match outer with
      | [] => some ((1 + o.depth, o.closed m), rest)
      | parent :: outer => class? m steps outer (parent.add (1 + o.depth) (o.closed m)) rest
    | '&' :: '&' :: rest => class? m steps outer (o.operator m .both) rest
    | '-' :: '-' :: rest => class? m steps outer (o.operator m .difference) rest
    | '~' :: '~' :: rest => class? m steps outer (o.operator m .symmetricDifference) rest
    | s =>
      match classRange? m s with
      | some (set, rest) => class? m steps outer (o.add 0 set) rest
      | none => none

end CommandLine.Pattern.Regex
