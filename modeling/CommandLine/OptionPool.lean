import CommandLine.Decimal.Reading
import CommandLine.Fault
import CommandLine.Text.Blank

/-!
Option tokens and positionals. `Partition.ofArguments` sorts the arguments of a command into the
two kinds; the options form a pool, from which parameters take tokens by name. Taking a name takes
every token of that name, and the last of them counts.
-/

namespace CommandLine

/-- An option as it was written, with its name and its value. -/
structure OptionToken where
  name : String
  /-- What follows the first `=`, if there is one. -/
  value? : Option String
  /-- The whole token. -/
  raw : String
  /-- Some parameter took the token. -/
  taken : Bool := false
deriving DecidableEq, Repr

namespace OptionToken

/-- A dash and a number that starts with a digit or a point; such a token is no option. -/
def isNegativeNumber : List Char → Bool
  | '-' :: c :: rest =>
    (Decimal.isDigit c || c == '.') && (Decimal.unsigned? (c :: rest)).isSome
  | _ => false

/-- What follows the dashes of an option token. -/
def body? (token : List Char) : Option (List Char) :=
  match token with
  | '-' :: '-' :: body => some body
  | '-' :: c :: body => if isNegativeNumber token then none else some (c :: body)
  | _ => none

/-- The option that a token writes, if it writes one. -/
def ofToken? (token : String) : Option OptionToken :=
  (body? token.toList).map fun body =>
    match Text.cutAt? '=' body with
    | some (name, value) => ⟨String.ofList name, some (String.ofList value), token, false⟩
    | none => ⟨String.ofList body, none, token, false⟩

end OptionToken

/-- The option tokens of one argument list, in their order. -/
structure OptionPool where
  tokens : List OptionToken
deriving DecidableEq, Repr

namespace OptionPool

def isEmpty (pool : OptionPool) : Bool := pool.tokens.isEmpty

/-- The tokens of the given name that nobody has taken. -/
def available (pool : OptionPool) (name : String) : List OptionToken :=
  pool.tokens.filter fun t => !t.taken && t.name == name

/-- Takes every token of the given name. The last one, if there is one, is the match. -/
def take (name : String) (pool : OptionPool) : Option OptionToken × OptionPool :=
  ((pool.available name).getLast?,
    ⟨pool.tokens.map fun t => if t.name = name then { t with taken := true } else t⟩)

/-- Some token of one of the names has not been taken. -/
def containsAny (pool : OptionPool) (names : List String) : Bool :=
  pool.tokens.any fun t => !t.taken && names.contains t.name

/-- The tokens that nobody has taken, as written. -/
def unconsumed (pool : OptionPool) : List String :=
  (pool.tokens.filter fun t => !t.taken).map (·.raw)

/-- Fails on the first token that nobody has taken. -/
def ensureConsumed (pool : OptionPool) : Except Fault Unit :=
  match pool.unconsumed with
  | [] => .ok ()
  | raw :: _ => .error (.unknownOption raw)

end OptionPool

/-- The arguments of a command, by kind. -/
structure Partition where
  options : OptionPool
  positionals : List String
deriving DecidableEq, Repr

/-- Sorts arguments into options and positionals; after `--` every argument is positional. -/
def Partition.ofArguments : List String → Partition
  | [] => ⟨⟨[]⟩, []⟩
  | token :: rest =>
    if token = "--" then ⟨⟨[]⟩, rest⟩
    else
      let ⟨⟨options⟩, positionals⟩ := ofArguments rest
      match OptionToken.ofToken? token with
      | some option => ⟨⟨option :: options⟩, positionals⟩
      | none => ⟨⟨options⟩, token :: positionals⟩

end CommandLine
