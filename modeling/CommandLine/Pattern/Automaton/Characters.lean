import CommandLine.Pattern.Automaton.Basic
import CommandLine.Pattern.ByteRange
import Std.Data.HashMap

/-!
Automata that read a character of a set. Sets beyond ASCII are read by the bytes of their
characters, and states are shared as far as a table of limited size remembers them. What falls to
the same slot of the table depends on the numbers of the states, so that a set does not take the
same room everywhere.
-/

namespace CommandLine.Pattern.Part

/-- A hash of numbers, one after the other. -/
def hash (numbers : List UInt64) : UInt64 :=
  numbers.foldl (fun h n => (h ^^^ n) * 1099511628211) 14695981039346656037

/-- How many slots the table has, reading forwards and reading backwards. -/
def forwardSlots : UInt64 := 10000
def backwardSlots : UInt64 := 1000

/-- The states that may be shared, by slots; in every slot there is the last one that fell to it. -/
structure Shared (κ : Type) where
  extent : Extent
  slots : Std.HashMap Nat (κ × Nat) := ∅

namespace Shared

/-- A new state that takes some bytes beyond its size, and takes the slot: its number. -/
def add? (shared : Shared κ) (slot : Nat) (key : κ) (surplus : Nat) : Option (Nat × Shared κ) :=
  match shared with
  | ⟨extent, slots⟩ =>
    (extent.grow? 1 surplus).map fun grown =>
      (extent.states, ⟨grown, slots.insert slot (key, extent.states)⟩)

/-- The number of a state that the table remembers, or of a new one. -/
def state? [BEq κ] (shared : Shared κ) (slot : Nat) (key : κ) (surplus : Nat) :
    Option (Nat × Shared κ) :=
  match shared.slots[slot]? with
  | some (known, number) =>
    if known == key then some (number, shared) else shared.add? slot key surplus
  | none => shared.add? slot key surplus

end Shared

/-- Reading forwards, states are shared that list the same ranges with links to the same states. -/
abbrev Forwards := Shared (List (ByteRange × Nat))

def Forwards.node? (shared : Forwards) (links : List (ByteRange × Nat)) :
    Option (Nat × Forwards) :=
  let numbers := links.flatMap fun (r, next) =>
    [r.low.toUInt64, r.high.toUInt64, next.toUInt64]
  shared.state? (hash numbers % forwardSlots).toNat links (links.length * Extent.transitionSize)

/-- Lays down what is left of some sequences, the ends first: the number of the state where they
start. -/
def Forwards.sequences? (target : Nat) : (limit : Nat) → List (List ByteRange) → Forwards →
    Option (Nat × Forwards)
  | 0, _, shared => some (target, shared)
  | _, [[]], shared => some (target, shared)
  | limit + 1, sequences, shared => do
    let groups := sequences.splitBy fun a b => a.head? == b.head?
    let (links, shared) ← groups.foldlM (fun (links, shared) group => do
      let (next, shared) ← Forwards.sequences? target limit (group.map List.tail) shared
      match group with
      | (r :: _) :: _ => return ((r, next) :: links, shared)
      | _ => return (links, shared)) ([], shared)
    shared.node? links.reverse

/-- Reading backwards, states are shared that read the same range on the way to the same state. -/
abbrev Backwards := Shared (Nat × ByteRange)

/-- Lays down a sequence, the first range last. -/
def Backwards.sequence? : List ByteRange → Nat → Backwards → Option Backwards
  | [], _, shared => do
    let e ← shared.extent.grow? 0 Extent.branchSize
    return { shared with extent := e }
  | r :: rest, next, shared =>
    let slot := hash [next.toUInt64, r.low.toUInt64, r.high.toUInt64] % backwardSlots
    match shared.state? slot.toNat (next, r) 0 with
    | some (number, shared) => Backwards.sequence? rest number shared
    | none => none

def Backwards.sequences? (target : Nat) : List (List ByteRange) → Backwards → Option Backwards
  | [], shared => some shared
  | s :: rest, shared =>
    match Backwards.sequence? s target shared with
    | some shared => Backwards.sequences? target rest shared
    | none => none

/-- A character of a set. -/
def character (backwards : Bool) (set : CharacterSet) : Part :=
  if set.isAscii then bytes set.ranges.length
  else
    let sequences := set.sequences
    if backwards then
      ⟨fun e => do
        let shared ← Backwards.sequences? (e.states + 1) sequences ⟨← e.grow? 2 0, ∅⟩
        return (shared.extent, false)⟩
    else
      ⟨fun e => do
        let (_, shared) ← Forwards.sequences? e.states 4 sequences ⟨← e.grow? 1 0, ∅⟩
        return (shared.extent, false)⟩

end CommandLine.Pattern.Part
