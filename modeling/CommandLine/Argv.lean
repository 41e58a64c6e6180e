/-!
Argument vectors. The tokens that start with a dash and stand before the first one that does not
are global; that first token names the command, and the rest are its arguments.
-/

namespace CommandLine

/-- An argument vector in its parts. -/
structure Argv where
  /-- The tokens before the command name. -/
  globals : List String
  /-- The command name, unless every token starts with a dash. -/
  command? : Option String
  /-- The tokens after the command name. -/
  arguments : List String
deriving DecidableEq, Repr

namespace Argv

/-- A token that starts with a dash. -/
def isDashed (token : String) : Bool :=
  token.toList.head? == some '-'

/-- The parts of a list of tokens. -/
def ofTokens (tokens : List String) : Argv :=
  match tokens.dropWhile isDashed with
  | [] => ⟨tokens, none, []⟩
  | command :: arguments => ⟨tokens.takeWhile isDashed, some command, arguments⟩

end Argv

end CommandLine
