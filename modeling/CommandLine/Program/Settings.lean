import CommandLine.Assignment
import CommandLine.Document
import CommandLine.Program.Request
import CommandLine.Surroundings

/-!
The settings of the program: where the catalog is, and what names resolve to. Assignments are read
first, the properties before the defaults; then the catalog has to be a file, and then no property
name may look like the start of a reference.
-/

namespace CommandLine

/-- The settings of the program. -/
structure Settings where
  debug : Bool := false
  catalogPath? : Option String := none
  properties : Table String := ∅
  defaults : Table String := ∅

namespace Settings

/-- The table that some assignments make, later ones in place of earlier ones. -/
def assign (table : Table String) : List String → Except Fault (Table String)
  | [] => .ok table
  | text :: rest => (Assignment.ofSetting text).bind fun (key, value) =>
    assign (table.insert key value) rest

/-- A text that holds the start of a reference. -/
def opensReference : List Char → Bool
  | [] => false
  | '$' :: '{' :: _ => true
  | _ :: rest => opensReference rest

/-- Refuses settings that cannot be used. -/
def validate (s : Settings) (around : Surroundings) : Except Fault Settings :=
  match s.catalogPath?.filter fun path => (around.file? path).isNone with
  | some path => .error (.settings (.missingCatalog path))
  | none =>
    match s.properties.keys.find? fun name => opensReference name.toList with
    | some name => .error (.settings (.reservedName name))
    | none => .ok s

/-- The settings of a request. -/
def ofRequest (around : Surroundings) (r : Request) : Except Fault Settings := do
  match r.task.source? with
  | none => validate { debug := r.debug } around
  | some source =>
    let properties ← assign ∅ source.properties
    let defaults ← assign ∅ source.defaults
    validate { debug := r.debug, catalogPath? := some source.path, properties, defaults } around

/-- The JSON document of a table. -/
def tableDocument (t : Table String) : Document :=
  .object (t.toList.map fun (name, text) => (name, .text text))

/-- The JSON document of the settings. -/
def document (s : Settings) : Document :=
  .object
    [("debug", .bool s.debug), ("catalog_path", .optionalText s.catalogPath?),
     ("resolution", .object
       [("properties", tableDocument s.properties), ("defaults", tableDocument s.defaults)])]

end Settings

end CommandLine
