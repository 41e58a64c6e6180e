import CommandLine.Argv
import CommandLine.Assignment
import CommandLine.Binding
import CommandLine.Chain
import CommandLine.Conversion.Stock
import CommandLine.Line
import CommandLine.Registry.Suggestion
import CommandLine.Surroundings
import CommandLine.Validation

/-!
The engine, which invokes commands. `Engine.prepare` does all that comes before a chain is run: it
finds the command, binds the tokens before and after its name, and validates what was bound. A line
is run stage by stage, each of which sees the result of the one before.
-/

namespace CommandLine

/-- What an engine is made of. -/
structure Engine.Parts where
  commands : List Command := []
  /-- The groups of global options. -/
  globals : List Parameter := []
  converters : Converters := .stock
  /-- Contexts by their prefixes, later ones in place of earlier ones. -/
  contexts : List (String × Properties) := []
  defaults : Table String := ∅
  properties : Table String := ∅
  validator? : Option Validator := none
  interceptors : Interceptors := .stock
  surroundings : Surroundings := {}

/-- An engine whose declarations are sound. -/
structure Engine where
  registry : Registry
  globals : List Parameter
  converters : Converters
  resolver : Resolver
  validator? : Option Validator
  interceptors : Interceptors
  surroundings : Surroundings

/-- A place in a pipeline: the number of the stage, and the result of the stage before it. -/
structure Position where
  stage : Nat
  input : Value

/-- An invocation whose values have been bound and accepted. -/
structure Invocation where
  command : Command
  globals : List Value
  arguments : List Value

/-- What a successful invocation gives: the values as they were bound, and the result. -/
structure Outcome where
  command : String
  globals : List Value
  arguments : List Value
  result : Value

namespace Engine

/-- The resolver of an engine. -/
def Parts.resolver (p : Parts) : Resolver :=
  p.contexts.foldl (fun r (start, properties) => r.install start properties)
    ((Resolver.ofEnvironment p.surroundings.environment
      |>.install Resolver.propertyPrefix (.ofTable p.properties)).withDefaults
        (.ofTable p.defaults))

/-- The engine of some parts, if the declarations are sound. -/
def ofParts (p : Parts) : Except Fault Engine :=
  (checkGlobals p.globals).bind fun _ =>
    (Registry.ofCommands p.commands).map fun registry =>
      { registry, globals := p.globals, converters := p.converters, resolver := p.resolver,
        validator? := p.validator?, interceptors := p.interceptors,
        surroundings := p.surroundings }

/-! ## Internal parameters -/

/-- The name of the parameter that gets the name of the command. -/
def commandName : String := "command.name"

/-- The name of the parameter that gets the values of all global groups. -/
def globalValues : String := "globals"

/-- The name of the parameter that gets the value of one global group. -/
def globalValue (group : String) : String := "global." ++ group

/-- The name of the parameter that gets the number of the stage. -/
def pipelineStage : String := "pipeline.stage"

/-- The name of the parameter that gets the result of the stage before. -/
def pipelineInput : String := "pipeline.input"

/-- The name of the parameter that gets the width of the terminal. -/
def terminalWidth : String := "terminal.width"

/-- What an engine knows about an invocation, by the names of the internal parameters. -/
def internals (e : Engine) (command : Command) (globals : List Value)
    (position? : Option Position) : Table Value :=
  let known : Table Value := (∅ : Table Value)
    |>.insert commandName (.text command.name)
    |>.insert globalValues (.list globals)
  let known := (e.globals.zip globals).foldl
    (fun known (group, value) => known.insert (globalValue group.name) value) known
  let known := match position? with
    | none => known
    | some position => known
      |>.insert pipelineStage (.int position.stage)
      |>.insert pipelineInput position.input
  if command.internalNames.contains terminalWidth then
    known.insert terminalWidth ((e.surroundings.terminalWidth?.map fun n => .int n).getD .null)
  else known

/-! ## Invocations -/

/-- The resolver of one invocation. -/
def resolverWith (e : Engine) (overrides : Table String) : Resolver :=
  if overrides.isEmpty then e.resolver else e.resolver.override overrides

/-- Refuses values that the validator finds violations in. -/
def validate (e : Engine) (target : Target) (values : List Value) : Except Fault Unit :=
  match e.validator? with
  | none => .ok ()
  | some validator =>
    match validator target values with
    | [] => .ok ()
    | violations => .error (.validation violations)

/-- Finds the command that some tokens invoke, and binds and validates its values. -/
def prepare (e : Engine) (position? : Option Position) (tokens : List String) :
    Except Fault Invocation := do
  let argv := Argv.ofTokens tokens
  match argv.command? with
  | none => .error .emptyCommand
  | some name =>
    let command ← e.registry.lookup name
    let (overrides, globalTokens) ← Assignment.extractOverrides argv.globals
    let binder : Binder := { converters := e.converters, resolver := e.resolverWith overrides }
    let globals ← binder.bindGlobals e.globals globalTokens
    let arguments ← { binder with internals := e.internals command globals position? }.bind
      command.parameters argv.arguments
    e.validate command.target arguments
    return { command, globals, arguments }

/-- Invokes a command. The events are those of its chain. -/
def invoke (e : Engine) (extra : Interceptors) (position? : Option Position)
    (tokens : List String) : Except Fault Outcome × List Event :=
  match e.prepare position? tokens with
  | .error fault => (.error fault, [])
  | .ok ⟨command, globals, arguments⟩ =>
    match Chain.start { command, extra, interceptors := e.interceptors } arguments with
    | (result, context) =>
      (result.map fun result => ⟨command.name, globals, arguments, result⟩, context.events)

/-- Invokes the command in an argument vector, with interceptors for this time only. -/
def run (e : Engine) (tokens : List String) (extra : Interceptors := ∅) :
    Except Fault Outcome × List Event :=
  e.invoke extra none tokens

/-- Invokes the stages of a line in their order, up to the first that fails. -/
def runStages (e : Engine) :
    Position → List (List String) → Except Fault (List Outcome) × List Event
  | _, [] => (.ok [], [])
  | position, tokens :: rest =>
    match e.invoke ∅ (some position) tokens with
    | (.error fault, events) => (.error fault, events)
    | (.ok outcome, events) =>
      match e.runStages ⟨position.stage + 1, outcome.result⟩ rest with
      | (outcomes, later) => (outcomes.map (outcome :: ·), events ++ later)

/-- Reads a line and invokes its stages. -/
def runLine (e : Engine) (line : String) : Except Fault (List Outcome) × List Event :=
  match Line.stages line with
  | .error fault => (.error fault, [])
  | .ok stages => e.runStages ⟨0, .null⟩ stages

end Engine

/-! ## Diagnostics -/

def Resolver.diagnostic (r : Resolver) : String :=
  Diagnostic.partialRecord "SubstitutionEngine" [("prefixes", Diagnostic.texts r.prefixes)]

/-- The diagnostic of overrides that are laid over other properties, or over none. -/
def Properties.overlayDiagnostic (overrides : Table String) (below? : Option Properties) : String :=
  Diagnostic.record "OverlayContext"
    [("overrides", Diagnostic.bindings overrides.toList),
     ("has_fallback", Diagnostic.flag below?.isSome)]

def Engine.diagnostic (e : Engine) : String :=
  Diagnostic.partialRecord "CommandEngine"
    [("commands", Diagnostic.texts e.registry.names), ("globals", toString e.globals.length),
     ("substitution", e.resolver.diagnostic), ("interceptors", e.interceptors.diagnostic)]

end CommandLine
