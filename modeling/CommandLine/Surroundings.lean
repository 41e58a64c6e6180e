import CommandLine.Decimal.Integer
import CommandLine.Fault
import CommandLine.Table
import CommandLine.Text.Blank

/-!
The surroundings of the process: environment variables, files and other programs. The width of the
terminal is asked of the program `tput`, and of the variable `COLUMNS` where that does not help.
-/

namespace CommandLine

/-- How a program ended, and what it printed. -/
structure Ending where
  exitCode : Int := 0
  output : String
  errors : String := ""
deriving DecidableEq, Repr

/-- What a regular file holds. -/
inductive FileContents where
  | text (contents : String)
  /-- The file cannot be read, or holds no text. -/
  | unreadable
deriving DecidableEq, Repr

/-- What surrounds the process. -/
structure Surroundings where
  environment : Table String := ∅
  /-- How a program ends that is run with some arguments, if it can be started. -/
  program? : String → List String → Option Ending := fun _ _ => none
  /-- The contents of the regular file at a path, if there is one. -/
  file? : String → Option FileContents := fun _ => none

namespace Surroundings

/-- Runs a program, which has to end with code zero. -/
def probe (s : Surroundings) (program : String) (arguments : List String) : Except Fault Ending :=
  let command := program ++ " " ++ " ".intercalate arguments
  match s.program? program arguments with
  | none => .error (.process command none "" "Failed to execute command")
  | some ending =>
    if ending.exitCode = 0 then .ok ending
    else .error (.process command (some ending.exitCode) ending.output ending.errors)

/-- The number of columns that a text states: digits with or without a `+`, and at most 65535. -/
def columns? (text : String) : Option Nat :=
  let digits := match Text.trimChars text.toList with
    | '+' :: digits => digits
    | digits => digits
  (Decimal.natural? digits).filter (· < UInt16.size)

/-- The width of the terminal in columns, if it can be found out. -/
def terminalWidth? (s : Surroundings) : Option Nat :=
  match (s.probe "tput" ["cols"]).toOption.bind fun ending => columns? ending.output with
  | some width => some width
  | none => s.environment["COLUMNS"]?.bind columns?

end Surroundings

end CommandLine
