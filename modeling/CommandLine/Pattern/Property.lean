import CommandLine.Pattern.Property.Age
import CommandLine.Pattern.Property.Break

/-!
Properties of characters in patterns. Names are compared loosely: case, blanks, underscores and
dashes do not count, nor does a leading `is`. A class names a category, a script or a binary
property, or gives the value of a property after `=`, `:` or `!=`.
-/

namespace CommandLine.Pattern.Property

/-- A name without what does not count. -/
def loose (name : List Char) : String :=
  let (is, rest) := match name with
    | i :: s :: rest =>
      if (i == 'i' || i == 'I') && (s == 's' || s == 'S') then (true, rest) else (false, name)
    | _ => (false, name)
  let kept := rest.filter fun c => c.toNat < 0x80 && c != ' ' && c != '_' && c != '-'
  let word := String.ofList (kept.map Char.toLower)
  -- the one name that starts with these letters and keeps them
  if is && word == "c" then "isc" else word

/-- The rule with a loose name, in a table. -/
def lookup? (table : List (List String × Rule)) (name : String) : Option Rule :=
  (table.find? (·.1.contains name)).map (·.2)

/-- The rule of a general category, or of a group of them. -/
def category? (name : String) : Option Rule :=
  match name with
  | "any" => some .any
  | "ascii" => some (.listed ["0-7F"])
  | "assigned" => some (.any \ .categories [.unassigned])
  | _ => (Category.named.find? (·.1.contains name)).map fun entry => .categories entry.2

/-- The characters with a value of a property, both given by their loose names. -/
def valued? (property value : String) : Option CharacterSet :=
  match property with
  | "gc" | "generalcategory" => (category? value).map Rule.characters
  | "sc" | "script" => (Script.named? value).map Script.characters
  | "scx" | "scriptextensions" => (Script.named? value).map Script.extended
  | "age" => Version.charactersAt? value
  | "gcb" | "graphemeclusterbreak" => (lookup? clusterBreaks value).map Rule.characters
  | "wb" | "wordbreak" => (lookup? wordBreaks value).map Rule.characters
  | "sb" | "sentencebreak" => (lookup? sentenceBreaks value).map Rule.characters
  | _ => none

/-- The characters with a property that a loose name tells: a binary property, a category or a
script. -/
def named? (name : String) : Option CharacterSet :=
  ((lookup? binary name).or (category? name)).map Rule.characters
    |>.or ((Script.named? name).map Script.characters)

/-- What stands before and after the first occurrence of two characters, if they occur. -/
def cutAtPair? (a b : Char) : List Char → Option (List Char × List Char)
  | x :: y :: rest =>
    if x = a ∧ y = b then some ([], rest)
    else (cutAtPair? a b (y :: rest)).map fun (before, after) => (x :: before, after)
  | _ => none

/-- What stands before and after the first such character, if there is one. -/
def cutWhere? (p : Char → Bool) (s : List Char) : Option (List Char × List Char) :=
  match s.dropWhile fun c => !p c with
  | [] => none
  | _ :: after => some (s.takeWhile fun c => !p c, after)

/-- The class that a text between braces denotes, if it denotes one: its characters, or those that
it does not hold when the mark is set. -/
def class? (text : List Char) : Option (CharacterSet × Bool) :=
  match cutAtPair? '!' '=' text with
  | some (property, value) =>
    (valued? (loose property) (loose value)).map fun set => (set, true)
  | none =>
    match cutWhere? (· == ':') text with
    | some (property, value) => (valued? (loose property) (loose value)).map fun set => (set, false)
    | none =>
      match cutWhere? (· == '=') text with
      | some (property, value) =>
        (valued? (loose property) (loose value)).map fun set => (set, false)
      | none => (named? (loose text)).map fun set => (set, false)

/-! ## Classes with letters of their own -/

/-- Digits, in any script. -/
def digits : Rule := .categories [.decimalNumber]

/-- What words are made of. -/
def wordCharacters : Rule :=
  alphabetic ∪ .categories [.nonspacingMark, .spacingMark, .enclosingMark, .decimalNumber,
    .connectorPunctuation] ∪ .listed ["200C-200D"]

end CommandLine.Pattern.Property
