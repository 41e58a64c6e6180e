import CommandLine.Program.Execution

/-!
The program. It reads its surroundings and its arguments, does one task, and prints what the task
has to say. Other programs are never started, so the width of the terminal is known from `COLUMNS`
alone.
-/

namespace CommandLine

namespace Usage

/-- The words for why no request could be read. -/
def message : Usage → String
  | help | helpForNothing =>
    "Usage: [--debug] <run|exec|tokenize|list|check|help> [OPTIONS] [ARGUMENTS]"
  | version => "0.1.0"
  | missingTask => "a task is needed"
  | unknownTask => "there is no such task"
  | missingArgument => "an argument that is needed is missing"
  | unknownArgument => "an argument is not known here"
  | invalidValue => "an option has no value that it can have"
  | repeatedOption => "an option is given twice"
  | needlessValue => "an option has a value and takes none"

/-- The message is what was asked for. -/
def isAnswer : Usage → Bool
  | help | version => true
  | _ => false

end Usage

/-- The words for a fault, after what was being done. -/
def Complaint.message (c : Complaint) : String :=
  ": ".intercalate (c.contexts ++ [c.fault.message])

namespace Surroundings

/-- The table of a block of environment variables, each of which ends in a zero character. -/
def environmentOf (block : String) : Table String :=
  (block.splitOn "\x00").foldl (fun table entry =>
    match Text.cutAt? '=' entry.toList with
    | some (name, text) => table.insert (String.ofList name) (String.ofList text)
    | none => table) ∅

/-- What the bytes of a file hold. -/
def contentsOf (bytes : ByteArray) : FileContents :=
  match String.fromUTF8? bytes with
  | some contents => .text contents
  | none => .unreadable

end Surroundings

namespace Program

/-- The environment of the process. -/
def readEnvironment : IO (Table String) := do
  try
    let bytes ← IO.FS.readBinFile "/proc/self/environ"
    return Surroundings.environmentOf ((String.fromUTF8? bytes).getD "")
  catch _ => return ∅

/-- What the file of a request holds, if there is such a file. -/
def readFile (path : String) : IO (Option FileContents) := do
  try
    return some (Surroundings.contentsOf (← IO.FS.readBinFile path))
  catch _ => return none

/-- The surroundings that a request needs. -/
def readSurroundings (r : Request) : IO Surroundings := do
  let environment ← readEnvironment
  match r.task.source? with
  | none => return { environment }
  | some source =>
    let contents ← readFile source.path
    return { environment, file? := fun path => if path = source.path then contents else none }

/-- Does what a request asks for. -/
def serve (r : Request) : IO UInt32 := do
  let around ← readSurroundings r
  match Settings.ofRequest around r with
  | .error fault =>
    IO.eprintln s!"Error: {fault.message}"
    return 1
  | .ok settings =>
    match output around settings r.task with
    | .ok printed =>
      IO.print printed
      return 0
    | .error complaint =>
      IO.eprintln s!"Error: {complaint.message}"
      return 1

end Program

end CommandLine

open CommandLine in
/-- Reads a request from the arguments and serves it. -/
def main (arguments : List String) : IO UInt32 := do
  match Request.ofArguments arguments with
  | .ok request => Program.serve request
  | .error usage =>
    if usage.isAnswer then
      IO.println usage.message
      return 0
    else
      IO.eprintln usage.message
      return 2
