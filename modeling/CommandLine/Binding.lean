import CommandLine.Command
import CommandLine.Conversion.Basic
import CommandLine.Expansion
import CommandLine.OptionPool
import CommandLine.Registry.Basic

/-!
Binding of arguments to parameters. Parameters are bound in the order of their declaration, from the
arguments that are left: a plain parameter takes the next positional, an option takes the tokens of
its name. What is not given comes from the default, and an option without one is null or zero if its
type allows that. The arguments have to be used up in the end. What is bound is the value alone:
nothing asks whether it was given or came from a default, so this is not recorded.
-/

namespace CommandLine

/-- The arguments that are left. -/
structure Supply where
  options : OptionPool
  positionals : List String
deriving DecidableEq, Repr

/-- What binding draws on besides the arguments. -/
structure Binder where
  converters : Converters
  resolver : Resolver
  /-- The values of internal parameters. -/
  internals : Table Value := ∅

namespace Binder

/-- The value of a raw one, as the type of the parameter wants it. -/
def convert (b : Binder) (raw : Value) (type : ValueType) (label : String) : Except Fault Value :=
  (b.converters.convert raw type label).mapError .conversion

/-- The value of a default, unless there is none or it cannot be resolved. -/
def fallback (b : Binder) (a : Attributes) (type : ValueType) (label : String) :
    Except Fault (Option Value) :=
  match a.default? with
  | none => .ok none
  | some expression => do
    match ← b.resolver.substitute expression with
    | some text => some <$> b.convert (.text text) type label
    | none => return none

/-- The name of the plain parameter that stands at an index. -/
def plainLabel (a : Attributes) (index : Nat) : String :=
  if a.name.isEmpty then s!"arg{index}" else a.name

/-- Binds a plain parameter to the next positional. -/
def plain (b : Binder) (a : Attributes) (type : ValueType) (index : Nat)
    (next? : Option String) : Except Fault Value :=
  let label := plainLabel a index
  match next? with
  | some text => b.convert (.text text) type label
  | none => do
    match ← b.fallback a type label with
    | some value => return value
    | none => .error (.missingArgument label .noPositional)

/-- What an option token stands for; one without a value is true. -/
def tokenValue (type : ValueType) (label : String) (token : OptionToken) : Except Fault Value :=
  match token.value? with
  | some text => .ok (.text text)
  | none =>
    if type.isBool then .ok (.bool true)
    else .error (.missingArgument label (.noOptionValue token.raw))

/-- Binds an option to the token that counts for it. -/
def option (b : Binder) (a : Attributes) (type : ValueType) (token? : Option OptionToken) :
    Except Fault Value :=
  let label := "--" ++ a.name
  match token? with
  | some token => do b.convert (← tokenValue type label token) type label
  | none => do
    match ← b.fallback a type label with
    | some value => return value
    | none =>
      if type.nullable then return .null
      else match type.zero? with
        | some value => return value
        | none => .error (.missingArgument label (.notGiven type.name))

/-- The value of an internal parameter, null if there is none. -/
def internal (b : Binder) (a : Attributes) : Value :=
  (b.internals[a.name]?).getD .null

mutual

/-- Binds the parameter at an index, and says which arguments are left. -/
def parameter (b : Binder) (index : Nat) : Parameter → Supply → Except Fault (Value × Supply)
  | .plain a type, s =>
    (b.plain a type index s.positionals.head?).map fun value =>
      (value, { s with positionals := s.positionals.tail })
  | .option a type, s =>
    match s.options.take a.name with
    | (token?, options) => (b.option a type token?).map fun value => (value, { s with options })
  | .bean a type members, s =>
    if a.nillable && !s.options.containsAny (Parameter.optionNamesOfAll members) then
      .ok (.null, s)
    else (b.parameters 0 members s).map fun (values, left) =>
      (.bean type ((members.map (·.name)).zip values), left)
  | .internal a, s => .ok (b.internal a, s)

/-- Binds parameters in their order, the first of which stands at an index. -/
def parameters (b : Binder) (index : Nat) :
    List Parameter → Supply → Except Fault (List Value × Supply)
  | [], s => .ok ([], s)
  | p :: rest, s =>
    (b.parameter index p s).bind fun (value, left) =>
      (b.parameters (index + 1) rest left).map fun (values, left) => (value :: values, left)

end

/-- Binds the arguments of a command. -/
def bind (b : Binder) (declared : List Parameter) (arguments : List String) :
    Except Fault (List Value) := do
  let given := Partition.ofArguments arguments
  let (values, left) ← b.parameters 0 declared ⟨given.options, given.positionals⟩
  left.options.ensureConsumed
  match left.positionals with
  | [] => return values
  | extra :: _ => .error (.unexpectedArgument extra)

/-- Binds groups of global options in their order. No group gets a positional. -/
def groups (b : Binder) : List Parameter → OptionPool → Except Fault (List Value × OptionPool)
  | [], pool => .ok ([], pool)
  | group :: rest, pool =>
    if group.isBean then
      (b.parameter 0 group ⟨pool, []⟩).bind fun (value, left) =>
        (b.groups rest left.options).map fun (values, pool) => (value :: values, pool)
    else .error (.invalidDeclaration globalOwner (.groupKind group.name))

/-- Binds the tokens before the command name. -/
def bindGlobals (b : Binder) (declared : List Parameter) (tokens : List String) :
    Except Fault (List Value) := do
  let given := Partition.ofArguments tokens
  let (values, pool) ← b.groups declared given.options
  pool.ensureConsumed
  match given.positionals with
  | [] => return values
  | stray :: _ => .error (.unknownOption stray)

end Binder

end CommandLine
