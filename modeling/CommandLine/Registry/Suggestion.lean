import CommandLine.Registry.Basic
import CommandLine.Text.EditDistance

/-!
Suggestions for unknown command names: the first command that the name is the beginning of, or else
the nearest one, if it is near enough.
-/

namespace CommandLine.Registry

/-- The first of the names with the least edit distance from a text, and that distance. -/
def nearest? (text : String) : List String → Option (String × Nat)
  | [] => none
  | name :: rest =>
    let distance := Text.editDistance text name
    match nearest? text rest with
    | none => some (name, distance)
    | some other => if distance ≤ other.2 then some (name, distance) else some other

/-- How far a suggestion may be from a text of the given length. -/
def reach (length : Nat) : Nat :=
  if length ≤ 4 then 1 else if length ≤ 8 then 2 else 3

/-- The command name that a text may have been meant for. -/
def suggest? (r : Registry) (text : String) : Option String :=
  if text.isEmpty then none
  else match r.names.find? fun name => text.toList.isPrefixOf name.toList with
    | some name => some name
    | none =>
      match nearest? text r.names with
      | some (name, distance) => if distance ≤ reach text.length then some name else none
      | none => none

/-- The command of a name. -/
def lookup (r : Registry) (name : String) : Except Fault Command :=
  match r.find? name with
  | some command => .ok command
  | none => .error (.unknownCommand name (r.suggest? name))

end CommandLine.Registry
