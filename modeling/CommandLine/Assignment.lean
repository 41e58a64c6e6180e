import CommandLine.Fault
import CommandLine.Table
import CommandLine.Text.Blank

/-!
Assignments `key=value`, and the global tokens `-Dkey=value` that override properties for one
invocation.
-/

namespace CommandLine

namespace Assignment

/-- Reads `key=value`. The key is trimmed and not blank, the value is taken as it is. -/
def read? (text : String) : Option (String × String) :=
  match Text.cutAt? '=' text.toList with
  | some (key, value) =>
    let key := Text.trimChars key
    if key.isEmpty then none else some (String.ofList key, String.ofList value)
  | none => none

/-- Reads `key=value` where the settings ask for one. -/
def ofSetting (text : String) : Except Fault (String × String) :=
  match read? text with
  | some assignment => .ok assignment
  | none => .error (.settings (.notAnAssignment text))

/-- What follows `-D` in a token that overrides a property. -/
def override? (token : String) : Option String :=
  match token.toList with
  | '-' :: 'D' :: assignment =>
    if assignment.contains '=' then some (String.ofList assignment) else none
  | _ => none

/-- The overrides among some tokens, later ones winning, and the other tokens. -/
def extractOverrides (tokens : List String) : Except Fault (Table String × List String) :=
  go ∅ tokens
where
  /-- Adds the overrides of the tokens to those found before. -/
  go (found : Table String) : List String → Except Fault (Table String × List String)
    | [] => .ok (found, [])
    | token :: rest =>
      match override? token with
      | none => (go found rest).map fun (overrides, others) => (overrides, token :: others)
      | some assignment =>
        match read? assignment with
        | none => .error (.unknownOption token)
        | some (key, value) => go (found.insert key value) rest

end Assignment

end CommandLine
