import CommandLine.Pattern.Automaton.Basic

/-!
Automata that read either of some texts. The texts are the paths of a tree. A node lists its
branches, except that a text that ends there parts the branches of the texts before it from those of
the texts after it.
-/

namespace CommandLine.Pattern.Part

/-- What is left of the texts that go through a node, apart where a text ends. -/
def chunks (texts : List (List UInt8)) : List (List (List UInt8)) :=
  texts.foldr (fun text parts =>
    match text, parts with
    | [], parts => [] :: parts
    | text, part :: parts => (text :: part) :: parts
    | text, [] => [[text]]) [[]]

/-- Only one of the texts counts that end before any text goes on. -/
def withoutRepeatedEnd (texts : List (List UInt8)) : List (List UInt8) :=
  match texts with
  | [] :: rest => [] :: rest.dropWhile (·.isEmpty)
  | texts => texts

/-- The texts of a chunk by their first bytes, without those bytes. -/
def branches (chunk : List (List UInt8)) : List (List (List UInt8)) :=
  let sorted := chunk.mergeSort fun a b => a.headD 0 ≤ b.headD 0
  (sorted.splitBy fun a b => a.head? == b.head?).map fun group => group.map List.tail

/-- Lays down a node, and the nodes below it that some text goes on from. -/
def node? (texts : List (List UInt8)) (e : Extent) :
    Option (Extent × List (List (List UInt8))) := do
  let parts := chunks (withoutRepeatedEnd texts)
  let lists := (parts.map branches).filter (!·.isEmpty)
  let listed := lists.foldl (fun n l => n + if l.length = 1 then 0 else l.length) 0
  let links := lists.length + (parts.length - 1)
  let e ← e.grow? (lists.length + 1)
    (listed * Extent.transitionSize + links * Extent.branchSize)
  return (e, lists.flatten.filter fun texts => texts.any (!·.isEmpty))

/-- Lays down the nodes of a level, and the nodes below it. -/
def level? : List (List (List UInt8)) → Extent → List (List (List UInt8)) →
    Option (Extent × List (List (List UInt8)))
  | [], e, below => some (e, below)
  | texts :: nodes, e, below =>
    match node? texts e with
    | some (e, more) => level? nodes e (more ++ below)
    | none => none

/-- Lays down a tree level by level, so many of them at most. -/
def levels? : (limit : Nat) → List (List (List UInt8)) → Extent → Option Extent
  | limit + 1, node :: nodes, e =>
    match level? (node :: nodes) e [] with
    | some (e, below) => levels? limit below e
    | none => none
  | _, _, e => some e

/-- Either of some texts, none of which is empty. -/
def oneOfTexts (texts : List (List UInt8)) : Part where
  lay? e := do
    let longest := (texts.map List.length).foldl max 0
    return (← levels? (longest + 1) [texts] (← e.grow? 1 0), false)

end CommandLine.Pattern.Part
