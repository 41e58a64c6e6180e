import CommandLine.Catalog.Basic
import CommandLine.Program.Report
import CommandLine.Program.Settings

/-!
The tasks of the program. A task prints one JSON document, or fails with a fault and what was being
done.
-/

namespace CommandLine

/-- A fault of a task, and what was being done, the outermost first. -/
structure Complaint where
  fault : Fault
  contexts : List String := []

namespace Program

/-- Adds what is being done to the fault of a step. -/
def during (context : String) (r : Except Fault α) : Except Complaint α :=
  r.mapError fun fault => ⟨fault, [context]⟩

/-- Loads the catalog of a file. -/
def loadCatalog (around : Surroundings) (path : String) : Except Fault Catalog :=
  match around.file? path with
  | some (.text contents) => Catalog.load contents path
  | _ => .error (.fileSystem "read" path)

/-- The engine that the settings describe. -/
def engine (around : Surroundings) (s : Settings) : Except Complaint Engine :=
  match s.catalogPath? with
  | none => .error ⟨.settings .noCatalog, []⟩
  | some path => do
    let catalog ← during "Failed to load catalog" (loadCatalog around path)
    during "Invalid catalog declarations" (Engine.ofParts
      { commands := catalog.commands, globals := catalog.globals, properties := s.properties,
        defaults := s.defaults, surroundings := around })

/-- What a task has to say. -/
def document (around : Surroundings) (s : Settings) : Task → Except Complaint Document
  | .run _ tokens => do
    let e ← engine around s
    let outcome ← during ("Failed to run: " ++ " ".intercalate tokens) (e.run tokens).1
    return outcome.document
  | .execute _ line => do
    let e ← engine around s
    let outcomes ← during ("Failed to execute line: " ++ line) (e.runLine line).1
    return .array (outcomes.map (·.document))
  | .tokenize line => do
    let stages ← during "Failed to tokenize line" (Line.stages line)
    return Line.document stages
  | .list _ => (engine around s).map Report.listing
  | .check _ => (engine around s).map Report.check

/-- What a task prints. -/
def output (around : Surroundings) (s : Settings) (task : Task) : Except Complaint String :=
  (document around s task).map fun d => d.pretty 0 ++ "\n"

end Program

end CommandLine
