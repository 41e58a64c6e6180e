import CommandLine.Fault
import CommandLine.Text.Blank

/-!
Raw lines. A line is a pipeline of stages separated by `|`, a stage is a list of fields separated
by blanks. `'` and `"` open a quoted region that only the same character closes, and a backslash
takes the next character as it is, inside a region and outside. Directly after an escaped
backslash the closing quote of a region is literal.

`Line.stages` reads a line. `Line.ofStages` writes one in the plainest way, every character behind
a backslash.
-/

namespace CommandLine.Line

/-- Where a scan stands: outside of quotes, or inside a region. A region is shielded when its
quote, coming next, would not close it. -/
inductive Mode where
  | bare
  | quoted (quote : Char) (shielded : Bool)
deriving DecidableEq, Repr

/-- The mode after an escaped character. -/
def Mode.afterEscape (escaped : Char) : Mode → Mode
  | bare => bare
  | quoted quote _ => quoted quote (escaped == '\\')

def isQuote (c : Char) : Bool := c == '\'' || c == '"'

/-- The fields of a stage once the open field, if there is one, has been closed. -/
def closeField (fields : List String) : Option (List Char) → List String
  | none => fields
  | some field => fields ++ [String.ofList field]

/-- The open field with one more character. -/
def extend (field : Option (List Char)) (c : Char) : Option (List Char) :=
  some (field.getD [] ++ [c])

/-- The stages from the current one on, given the fields that it has so far and the field that is
open, if any. -/
def scan : Mode → List String → Option (List Char) → List Char →
    Except Fault (List (List String))
  | .quoted quote _, _, _, [] => .error (.malformedInput (.unmatchedQuote quote))
  | .bare, fields, field, [] =>
    match closeField fields field with
    | [] => .error .emptyCommand
    | stage => .ok [stage]
  | _, _, _, ['\\'] => .error (.malformedInput .trailingEscape)
  | mode, fields, field, '\\' :: c :: rest =>
    scan (mode.afterEscape c) fields (extend field c) rest
  | .quoted quote shielded, fields, field, c :: rest =>
    if c = quote ∧ shielded = false then scan .bare fields field rest
    else scan (.quoted quote false) fields (extend field c) rest
  | .bare, fields, field, c :: rest =>
    if isQuote c then scan (.quoted c false) fields (some (field.getD [])) rest
    else if c = '|' then
      match closeField fields field with
      | [] => .error .emptyCommand
      | stage => (scan .bare [] none rest).map (stage :: ·)
    else if Text.isBlank c then scan .bare (closeField fields field) none rest
    else scan .bare fields (extend field c) rest

/-- The stages of a line, each with at least one field. -/
def stages (line : String) : Except Fault (List (List String)) :=
  scan .bare [] none line.toList

/-- A field with a backslash before every character; an empty one is a pair of quotes. -/
def ofField (field : String) : String :=
  if field.isEmpty then "\"\"" else String.ofList (field.toList.flatMap fun c => ['\\', c])

/-- A line with the given stages. -/
def ofStages (stages : List (List String)) : String :=
  "|".intercalate (stages.map fun fields => " ".intercalate (fields.map ofField))

end CommandLine.Line
