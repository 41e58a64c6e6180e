import CommandLine.Pattern.Automaton.Characters
import CommandLine.Pattern.Automaton.Texts
import CommandLine.Pattern.Expression.Basic

/-!
Automata of expressions. An expression has one automaton that finds where its matches end, and one
that reads backwards and finds where they start; `fits` tells whether both keep to the limit.
-/

namespace CommandLine.Pattern.Expression

/-- The texts of an expression that is a choice between literals. -/
def text? : Expression → Option (List Char)
  | literal text => some text
  | _ => none

/-- The bytes of a text, in the order in which they are read. -/
def bytesOf (backwards : Bool) (text : List Char) : List UInt8 :=
  let bytes := text.flatMap String.utf8EncodeChar
  if backwards then bytes.reverse else bytes

mutual

/-- The part of an automaton that reads an expression. Only an automaton that reads forwards keeps
where groups begin and end. -/
def part (backwards : Bool) : Expression → Part
  | empty | place _ => .plain 1
  | literal text => .plain (text.map Char.utf8Size).sum
  | oneOf set _ => .character backwards set
  | repeated least most? _ body =>
    match least, most? with
    | 0, some 1 => (part backwards body).optional
    | 0, none => (part backwards body).anyTimes (0 < (facts body).least?.getD 0)
    | least, none => (part backwards body).atLeast least
    | least, some most =>
      if least = most then (part backwards body).times least
      else (part backwards body).between least most
  | group _ body =>
    if backwards then part backwards body else .inTurn [.plain 1, part backwards body, .plain 1]
  | sequence parts =>
    .inTurn (if backwards then (partOfEach backwards parts).reverse else partOfEach backwards parts)
  | choice parts =>
    match parts.mapM text? with
    | some texts => .oneOfTexts (texts.map (bytesOf backwards))
    | none => .oneOf (partOfEach backwards parts)

def partOfEach (backwards : Bool) : List Expression → List Part
  | [] => []
  | x :: xs => part backwards x :: partOfEach backwards xs

end

/-- What leads to a match: any bytes, unless matches are known to stand at the end of the text at
which reading begins. -/
def lead (backwards : Bool) (x : Expression) : Part :=
  if (if backwards then (facts x).toEnd else (facts x).fromStart) then .plain 1
  else (Part.bytes 1).anyTimes true

/-- The whole automaton of an expression. The match itself counts as a group. -/
def automaton (backwards : Bool) (x : Expression) : Part :=
  if backwards then .inTurn [lead true x, part true x, .plain 1]
  else .inTurn [lead false x, .plain 1, part false x, .plain 1, .plain 1]

/-- Both automata of an expression keep to the limit. -/
def fits (x : Expression) : Bool :=
  ((automaton false x).lay? {}).isSome && ((automaton true x).lay? {}).isSome

end CommandLine.Pattern.Expression
