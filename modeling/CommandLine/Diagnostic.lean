import CommandLine.Text.Quoted

/-!
The notation of diagnostics: records with named fields, lists in brackets, pairs, and quoted texts.
-/

namespace CommandLine.Diagnostic

/-- Items in brackets. -/
def listOf (items : List String) : String :=
  "[" ++ ", ".intercalate items ++ "]"

/-- Texts in brackets, each quoted. -/
def texts (l : List String) : String :=
  listOf (l.map Text.quote)

/-- Names bound to texts, in braces. -/
def bindings (l : List (String × String)) : String :=
  let entries := l.map fun (name, value) => Text.quote name ++ ": " ++ Text.quote value
  "\x7b" ++ ", ".intercalate entries ++ "\x7d"

def pair (a b : String) : String := "(" ++ a ++ ", " ++ b ++ ")"

def optional : Option String → String
  | none => "None"
  | some a => "Some(" ++ a ++ ")"

def flag (b : Bool) : String := if b then "true" else "false"

/-- A record with its fields. -/
def record (name : String) (fields : List (String × String)) : String :=
  name ++ " \x7b " ++ ", ".intercalate (fields.map fun (field, value) => field ++ ": " ++ value)
    ++ " \x7d"

/-- A record of which only some fields are shown. -/
def partialRecord (name : String) (fields : List (String × String)) : String :=
  name ++ " \x7b " ++ String.join (fields.map fun (field, value) => field ++ ": " ++ value ++ ", ")
    ++ ".. \x7d"

end CommandLine.Diagnostic
