import CommandLine.Pattern.Expression.Automaton
import CommandLine.Pattern.Regex.Brackets
import CommandLine.Text.Letter

/-!
Regular expressions. `isRegex` tells whether a text is a regular expression over Unicode text,
without look-around and back-references, that stays within the limits on nesting and on the size of
its automata.

The reader goes through the text once and keeps the groups that are open.
-/

namespace CommandLine.Pattern.Regex

/-- What has been read as a whole. -/
structure Item where
  /-- How deep it nests. -/
  depth : Nat
  /-- A repetition may follow. -/
  repeatable : Bool
  tree : Expression

/-- A group whose parenthesis is open. -/
structure OpenGroup where
  /-- The mode to return to when the group closes. -/
  outside : Mode
  /-- Its number, if what it matches is kept. -/
  number? : Option Nat := none
  /-- The finished alternatives, the last one first. -/
  alternatives : List Item := []
  /-- The items of the current alternative, the last one first. -/
  items : List Item := []

/-- The groups that have been opened and that keep what they match. -/
structure Groups where
  count : Nat := 0
  names : List (List Char) := []

/-- Expressions one after the other, of which the last one stands first. -/
def sequence : List Item → Item
  | [] => ⟨0, true, .empty⟩
  | [x] => x
  | l => ⟨1 + (l.map (·.depth)).foldl max 0, true, .concat (l.reverse.map (·.tree))⟩

/-- Either of some expressions, of which the last one stands first. -/
def choice : List Item → Item
  | [x] => x
  | l => ⟨1 + (l.map (·.depth)).foldl max 0, true, .alternation (l.reverse.map (·.tree))⟩

namespace OpenGroup

def add (g : OpenGroup) (depth : Nat) (tree : Expression) : OpenGroup :=
  { g with items := ⟨depth, true, tree⟩ :: g.items }

/-- Adds what matches the empty text and cannot be repeated. -/
def addSwitches (g : OpenGroup) : OpenGroup :=
  { g with items := ⟨0, false, .empty⟩ :: g.items }

def nextAlternative (g : OpenGroup) : OpenGroup :=
  { g with alternatives := sequence g.items :: g.alternatives, items := [] }

/-- All that was read in the group. -/
def content (g : OpenGroup) : Item := choice (sequence g.items :: g.alternatives)

/-- The group as a whole. -/
def closed (g : OpenGroup) : Expression :=
  match g.number? with
  | some n => .group n g.content.tree
  | none => g.content.tree

/-- The last item repeated between `least` and `most` times. -/
def repeat? (g : OpenGroup) (least : Nat) (most? : Option Nat) (greedy : Bool) :
    Option OpenGroup :=
  match g.items with
  | x :: items =>
    if x.repeatable then
      some { g with items := ⟨1 + x.depth, true, .times least most? greedy x.tree⟩ :: items }
    else none
  | [] => none

end OpenGroup

/-- Behind a repetition: a question mark makes it prefer less. -/
def lazyMark : List Char → Bool × List Char
  | '?' :: rest => (true, rest)
  | s => (false, s)

/-- The switches up to the end of a group's head: those set, those cleared, and what follows from
`:` or `)` on. A letter comes once, and `-` once and not last. -/
def switches? (seen : List Char) : List Char → Option (List Char × List Char)
  | [] => none
  | c :: rest =>
    if c == ':' || c == ')' then if seen.head? == some '-' then none else some (seen, c :: rest)
    else if "imsUuRx-".toList.contains c && !seen.contains c then switches? (c :: seen) rest
    else none

/-- The name of a group, behind its opening angle bracket, and what follows the closing one. -/
def groupName? (s : List Char) : Option (List Char × List Char) :=
  let isStart := fun c => c == '_' || Text.isLetter c
  let isRest := fun c => isStart c || c == '.' || c == '[' || c == ']' || Text.isNumeral c
  match s.dropWhile (· != '>') with
  | [] => none
  | _ :: rest =>
    match s.takeWhile (· != '>') with
    | [] => none
    | c :: name => if isStart c && name.all isRest then some (c :: name, rest) else none

/-- Reads the rest of an expression, given the groups that are open around the current one and all
groups so far. Each step takes a character at least. -/
def expression? : (steps : Nat) → Mode → List OpenGroup → OpenGroup → Groups →
    List Char → Option Item
  | 0, _, _, _, _, _ => none
  | steps + 1, m, outer, g, groups, s =>
    let keeping : OpenGroup := { outside := m, number? := some (groups.count + 1) }
    let named := fun (s : List Char) =>
      match groupName? s with
      | some (name, rest) =>
        if groups.names.contains name then none
        else expression? steps m (g :: outer) keeping ⟨groups.count + 1, name :: groups.names⟩ rest
      | none => none
    let repeated := fun (least : Nat) (most? : Option Nat) (rest : List Char) =>
      let (marked, rest) := lazyMark rest
      match g.repeat? least most? (marked == m.lazy) with
      | some g => expression? steps m outer g groups rest
      | none => none
    let added := fun (tree : Expression) (rest : List Char) =>
      expression? steps m outer (g.add 0 tree) groups rest
    match m.skip s with
    | [] => if outer.isEmpty then some g.content else none
    | '(' :: rest =>
      match m.skip rest with
      | '?' :: '=' :: _ | '?' :: '!' :: _ | '?' :: '<' :: '=' :: _ | '?' :: '<' :: '!' :: _ => none
      | '?' :: 'P' :: '<' :: rest => named rest
      | '?' :: '<' :: rest => named rest
      | '?' :: rest =>
        match switches? [] rest with
        | some (seen, ':' :: rest) =>
          expression? steps (m.switch seen) (g :: outer) { outside := m } groups rest
        | some (c :: seen, _ :: rest) =>
          expression? steps (m.switch (c :: seen)) outer g.addSwitches groups rest
        | _ => none
      | rest =>
        expression? steps m (g :: outer) keeping { groups with count := groups.count + 1 } rest
    | ')' :: rest =>
      match outer with
      | [] => none
      | parent :: outer =>
        expression? steps g.outside outer (parent.add (1 + g.content.depth) g.closed) groups rest
    | '|' :: rest => expression? steps m outer g.nextAlternative groups rest
    | '[' :: rest =>
      match (openClass? m rest).bind fun (o, rest) => class? m steps [] o rest with
      | some ((depth, set), rest) =>
        expression? steps m outer (g.add depth (m.ofSet set)) groups rest
      | none => none
    | '?' :: rest => repeated 0 (some 1) rest
    | '*' :: rest => repeated 0 none rest
    | '+' :: rest => repeated 1 none rest
    | '{' :: rest =>
      match bounds? m rest with
      | some ((least, most?), rest) => repeated least most? (m.skip rest)
      | none => none
    | '\\' :: rest =>
      match escape? m rest with
      | some (.literal c _, rest) => added (m.literal c) rest
      | some (.set set, rest) => added (m.ofSet set) rest
      | some (.place p, rest) => added (.place p) rest
      | none => none
    | '.' :: rest => if m.unicode then added m.dot rest else none
    | '^' :: rest => added (.place m.start) rest
    | '$' :: rest => added (.place m.stop) rest
    | c :: rest => added (m.literal c) rest

/-- How deep groups, repetitions and classes may nest. -/
def depthLimit : Nat := 250

end Regex

/-- The text is a regular expression within the limits. -/
def isRegex (s : List Char) : Bool :=
  match Regex.expression? (s.length + 1) {} [] { outside := {} } {} s with
  | some item => item.depth ≤ Regex.depthLimit && item.tree.fits
  | none => false

end CommandLine.Pattern
