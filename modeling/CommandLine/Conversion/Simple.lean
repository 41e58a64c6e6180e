import CommandLine.Conversion.Basic

/-!
Simple converters, to be registered under keys of one's own.
-/

namespace CommandLine.Converter

/-- The text backwards. -/
def reversed : Converter := fun text => .ok (.text (String.ofList text.toList.reverse))

/-- The parts of a text between separators. -/
def split (separator : Char) : List Char → List (List Char)
  | [] => [[]]
  | c :: rest =>
    if c = separator then [] :: split separator rest
    else match split separator rest with
      | [] => [[c]]
      | part :: parts => (c :: part) :: parts

/-- The list of the parts of a text between commas. -/
def commaSeparated : Converter := fun text =>
  .ok (.list ((split ',' text.toList).map fun part => .text (String.ofList part)))

/-- The text in angle brackets, as a value of the type named by the key. -/
def wrapped (key : String) : Converter := fun text => .ok (.custom key ("<" ++ text ++ ">"))

/-- One value for every text. -/
def constant (value : Value) : Converter := fun _ => .ok value

/-- Refuses every text, with a reason in front of it. -/
def refusing (reason : String) : Converter := fun text =>
  .error (.described (reason ++ ": " ++ text))

end CommandLine.Converter
