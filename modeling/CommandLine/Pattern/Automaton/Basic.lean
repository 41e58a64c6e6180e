/-!
The size of automata. An automaton reads bytes; it is laid down part by part behind the states that
there are already, and a part does not fit when the automaton would outgrow its limit.

A part is known by how it grows an automaton. That may depend on the states that there are already.
-/

namespace CommandLine.Pattern

/-- How far an automaton has grown. -/
structure Extent where
  states : Nat := 0
  /-- The bytes that states take beyond their common size. -/
  surplus : Nat := 0

namespace Extent

/-- The bytes of a state, of a transition that it lists, and of a state that it branches to. -/
def stateSize : Nat := 32
def transitionSize : Nat := 8
def branchSize : Nat := 4

/-- How many bytes an automaton may take. -/
def limit : Nat := 10 * 1024 * 1024

def size (e : Extent) : Nat := stateSize * e.states + e.surplus

/-- With some more states and bytes, if they fit. -/
def grow? (e : Extent) (states surplus : Nat) : Option Extent :=
  let grown : Extent := ⟨e.states + states, e.surplus + surplus⟩
  if grown.size ≤ limit then some grown else none

end Extent

/-- A part of an automaton. -/
structure Part where
  /-- Lays the part down, if it fits: the automaton with it, and whether its last state branches,
  so that every link from there takes room. -/
  lay? : Extent → Option (Extent × Bool)

namespace Part

/-- What a link from the last state of a part takes. -/
def linkSize (branches : Bool) : Nat := if branches then Extent.branchSize else 0

/-- States one after the other, none of which branches. -/
def plain (states : Nat) : Part where
  lay? e := (e.grow? states 0).map (·, false)

/-- A choice between ranges of bytes. -/
def bytes (ranges : Nat) : Part where
  lay? e := (e.grow? 2 (ranges * Extent.transitionSize)).map (·, false)

/-- Lays down parts behind another, each linked to the one before it. -/
def link? : List Part → Extent × Bool → Option (Extent × Bool)
  | [], laid => some laid
  | part :: parts, (e, branches) =>
    match (e.grow? 0 (linkSize branches)).bind part.lay? with
    | some laid => link? parts laid
    | none => none

/-- Parts one after the other. -/
def inTurn : List Part → Part
  | [] => plain 1
  | part :: parts => ⟨fun e => (part.lay? e).bind (link? parts)⟩

/-- Lays down a part so many times behind another. -/
def linkTimes? (part : Part) : Nat → Extent × Bool → Option (Extent × Bool)
  | 0, laid => some laid
  | n + 1, (e, branches) =>
    match (e.grow? 0 (linkSize branches)).bind part.lay? with
    | some laid => linkTimes? part n laid
    | none => none

/-- A part so many times. -/
def times (part : Part) : Nat → Part
  | 0 => plain 1
  | n + 1 => ⟨fun e => (part.lay? e).bind (linkTimes? part n)⟩

/-- A part behind a state that branches to it and around it. -/
def optional (part : Part) : Part where
  lay? e := do
    let (e, branches) ← part.lay? (← e.grow? 1 0)
    let e ← e.grow? 1 (2 * Extent.branchSize + linkSize branches)
    return (e, false)

/-- A part any number of times. One that may take no bytes needs a way around the loop. -/
def anyTimes (part : Part) (takesBytes : Bool) : Part where
  lay? e :=
    if takesBytes then do
      let (e, branches) ← part.lay? (← e.grow? 1 Extent.branchSize)
      return (← e.grow? 0 (linkSize branches), true)
    else do
      let (e, branches) ← part.lay? e
      return (← e.grow? 3 (4 * Extent.branchSize + linkSize branches), false)

/-- A part so many times at least, which is more than none. -/
def atLeast (part : Part) (n : Nat) : Part where
  lay? e := do
    let (e, branches) ← (part.times n).lay? e
    return (← e.grow? 1 (Extent.branchSize + linkSize branches), true)

/-- Lays down a part so many times behind another, with a way around from each to the end. -/
def linkOptionals? (part : Part) : Nat → Extent × Bool → Option (Extent × Bool)
  | 0, laid => some laid
  | n + 1, (e, branches) =>
    match (e.grow? 1 (linkSize branches + 2 * Extent.branchSize)).bind part.lay? with
    | some laid => linkOptionals? part n laid
    | none => none

/-- A part between `least` and `most` times. -/
def between (part : Part) (least most : Nat) : Part where
  lay? e := do
    let (e, branches) ← (part.times least).lay? e
    let (e, branches) ← linkOptionals? part (most - least) (← e.grow? 1 0, branches)
    return (← e.grow? 0 (linkSize branches), false)

/-- Lays down alternatives that all have a branch to them and lead to the same end. -/
def branch? : List Part → Extent → Option Extent
  | [], e => some e
  | part :: parts, e =>
    match part.lay? e with
    | some (e, branches) =>
      match e.grow? 0 (Extent.branchSize + linkSize branches) with
      | some e => branch? parts e
      | none => none
    | none => none

/-- Either of some parts. The state that branches to all of them and the common end come after the
first two. -/
def oneOf : List Part → Part
  | [] => bytes 0
  | [part] => part
  | first :: second :: parts =>
    ⟨fun e => do
      let e ← branch? [first, second] e
      let e ← branch? parts (← e.grow? 2 0)
      return (e, false)⟩

end Part

end CommandLine.Pattern
