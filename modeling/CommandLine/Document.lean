/-!
JSON documents as they are written. Numbers are kept as their text, and objects keep the order of
their members and may repeat a name.
-/

namespace CommandLine

/-- A JSON document. -/
inductive Document where
  | null
  | bool (b : Bool)
  /-- A number, as it is written. -/
  | number (digits : String)
  | text (s : String)
  | array (items : List Document)
  | object (members : List (String × Document))

namespace Document

/-- The integer as a number. -/
def integer (n : Int) : Document := .number (toString n)

/-- The text, or nothing. -/
def optionalText : Option String → Document
  | none => .null
  | some s => .text s

/-- A character inside a JSON text: quotes, backslashes and controls are escaped. -/
def escapeChar : Char → List Char
  | '"' => ['\\', '"']
  | '\\' => ['\\', '\\']
  | '\x08' => ['\\', 'b']
  | '\t' => ['\\', 't']
  | '\n' => ['\\', 'n']
  | '\x0c' => ['\\', 'f']
  | '\r' => ['\\', 'r']
  | c =>
    if c.toNat < 0x10 then ['\\', 'u', '0', '0', '0', Nat.digitChar c.toNat]
    else if c.toNat < 0x20 then ['\\', 'u', '0', '0', '1', Nat.digitChar (c.toNat - 0x10)]
    else [c]

/-- A JSON text with its quotes. -/
def quoteText (s : String) : String :=
  String.ofList ('"' :: s.toList.flatMap escapeChar ++ ['"'])

mutual

/-- The document without any blanks. -/
def compact : Document → String
  | .null => "null"
  | .bool b => if b then "true" else "false"
  | .number digits => digits
  | .text s => quoteText s
  | .array items => "[" ++ ",".intercalate (compactItems items) ++ "]"
  | .object members => "\x7b" ++ ",".intercalate (compactMembers members) ++ "\x7d"

/-- The written items of an array. -/
def compactItems : List Document → List String
  | [] => []
  | d :: rest => compact d :: compactItems rest

/-- The written members of an object. -/
def compactMembers : List (String × Document) → List String
  | [] => []
  | (name, d) :: rest => (quoteText name ++ ":" ++ compact d) :: compactMembers rest

end

/-- Lines between brackets, each indented one step further than the brackets. -/
def block (depth : Nat) (left right : String) : List String → String
  | [] => left ++ right
  | lines =>
    let inner := "\n" ++ "".pushn ' ' (2 * (depth + 1))
    left ++ inner ++ ("," ++ inner).intercalate lines ++ "\n" ++ "".pushn ' ' (2 * depth) ++ right

mutual

/-- The document with one item or member a line, indented by two blanks a level. -/
def pretty (depth : Nat) : Document → String
  | .array items => block depth "[" "]" (prettyItems (depth + 1) items)
  | .object members => block depth "\x7b" "\x7d" (prettyMembers (depth + 1) members)
  | .null => "null"
  | .bool b => if b then "true" else "false"
  | .number digits => digits
  | .text s => quoteText s

/-- The written items of an array. -/
def prettyItems (depth : Nat) : List Document → List String
  | [] => []
  | d :: rest => pretty depth d :: prettyItems depth rest

/-- The written members of an object. -/
def prettyMembers (depth : Nat) : List (String × Document) → List String
  | [] => []
  | (name, d) :: rest => (quoteText name ++ ": " ++ pretty depth d) :: prettyMembers depth rest

end

end Document

end CommandLine
