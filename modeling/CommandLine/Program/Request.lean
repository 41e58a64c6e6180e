/-!
Requests to the program, and how they are read from its arguments. The first argument that is no
option names a task; what follows belongs to the task. Options have a long name, and some a short
one: `--name value`, `--name=value`, `-n value`, `-nvalue` and `-n=value` are the same. After `--`
nothing is an option.

The task `run` takes tokens instead of a line. An argument that is not an option of its own is its
first token, even if it starts with a dash, and so are all that follow.
-/

namespace CommandLine

/-- Why no request can be read, or which text about the program is asked for. -/
inductive Usage where
  | help
  | version
  /-- Help, because there is no argument at all. -/
  | helpForNothing
  | missingTask
  | unknownTask
  | missingArgument
  | unknownArgument
  /-- An option without its value, or with an empty one where that cannot be. -/
  | invalidValue
  /-- An option that may be given once is given again. -/
  | repeatedOption
  /-- A value for an option that takes none. -/
  | needlessValue
deriving DecidableEq, Repr

/-- Where a task gets its catalog from, and the settings as they were written. -/
structure CatalogSource where
  path : String
  properties : List String := []
  defaults : List String := []
deriving DecidableEq, Repr

/-- What the program is to do. -/
inductive Task where
  | run (source : CatalogSource) (tokens : List String)
  | execute (source : CatalogSource) (line : String)
  | tokenize (line : String)
  | list (source : CatalogSource)
  | check (source : CatalogSource)
deriving DecidableEq, Repr

/-- A task, and whether it is to be logged in detail. -/
structure Request where
  debug : Bool
  task : Task
deriving DecidableEq, Repr

/-- The source of the catalog of a task, if it takes one. -/
def Task.source? : Task → Option CatalogSource
  | run source _ | execute source _ | list source | check source => some source
  | tokenize _ => none

namespace Request

/-- The options of tasks. -/
inductive Opt where
  | debug
  | help
  | catalog
  | property
  | default
deriving DecidableEq, Repr

/-- What a task takes besides options. -/
inductive Operands where
  | none
  | line
  | tokens
deriving DecidableEq, Repr

/-- The names of the tasks. -/
inductive TaskName where
  | run
  | execute
  | tokenize
  | list
  | check
deriving DecidableEq, Repr

namespace TaskName

def ofText? : String → Option TaskName
  | "run" => some run
  | "exec" => some execute
  | "tokenize" => some tokenize
  | "list" => some list
  | "check" => some check
  | _ => none

/-- The task takes a catalog. -/
def takesCatalog : TaskName → Bool
  | tokenize => false
  | _ => true

def operands : TaskName → Operands
  | run => .tokens
  | execute | tokenize => .line
  | list | check => .none

/-- The option of a long name. -/
def long? (t : TaskName) : String → Option Opt
  | "debug" => some .debug
  | "help" => some .help
  | "catalog" => if t.takesCatalog then some .catalog else none
  | "property" => if t.takesCatalog then some .property else none
  | "default" => if t.takesCatalog then some .default else none
  | _ => none

/-- The option of a short name. -/
def short? (t : TaskName) : Char → Option Opt
  | 'h' => some .help
  | 'c' => if t.takesCatalog then some .catalog else none
  | 'P' => if t.takesCatalog then some .property else none
  | _ => none

end TaskName

/-- The option takes a value. -/
def Opt.takesValue : Opt → Bool
  | debug | help => false
  | catalog | property | default => true

/-- An option that has been begun: it waits for its value, or for its value to be taken in. -/
structure Pending where
  option : Opt
  value? : Option String
deriving DecidableEq, Repr

/-- What has been read of a task. -/
structure Draft where
  debug : Bool := false
  catalog? : Option String := none
  properties : List String := []
  defaults : List String := []
  operands : List String := []
  pending? : Option Pending := none
  /-- Nothing is an option any more. -/
  trailing : Bool := false
deriving DecidableEq, Repr

namespace Draft

/-- Takes in an option with its value. -/
def give (d : Draft) : Opt → String → Except Usage Draft
  | .catalog, value =>
    if d.catalog?.isSome then .error .repeatedOption
    else if value.isEmpty then .error .invalidValue
    else .ok { d with catalog? := some value }
  | .property, value => .ok { d with properties := d.properties ++ [value] }
  | .default, value => .ok { d with defaults := d.defaults ++ [value] }
  | .help, _ => .error .help
  | .debug, _ => if d.debug then .error .repeatedOption else .ok { d with debug := true }

/-- Takes in the option that has been begun. -/
def settle (d : Draft) : Except Usage Draft :=
  match d.pending? with
  | none => .ok d
  | some ⟨_, none⟩ => .error .invalidValue
  | some ⟨option, some value⟩ => { d with pending? := none }.give option value

/-- Takes in an option without a value of its own, or begins one that waits for a value. -/
def begin (d : Draft) (option : Opt) : Except Usage Draft :=
  d.settle.bind fun d =>
    if option.takesValue then .ok { d with pending? := some ⟨option, none⟩ }
    else d.give option ""

/-- Takes in an option with a value in the same argument. -/
def attach (d : Draft) (option : Opt) (value : String) : Except Usage Draft :=
  d.settle.bind fun d => d.give option value

/-- Takes in an argument that is no option. -/
def operand (t : TaskName) (d : Draft) (argument : String) : Except Usage Draft :=
  match t.operands with
  | .none => .error .unknownArgument
  | .line =>
    if d.operands.isEmpty then
      d.settle.map fun d => { d with operands := [argument] }
    else .error .unknownArgument
  | .tokens => d.settle.map fun d =>
    { d with operands := d.operands ++ [argument], trailing := true }

/-- Takes in an argument as the value that an option waits for, or else as an operand. -/
def plain (t : TaskName) (d : Draft) (argument : String) : Except Usage Draft :=
  match d.pending? with
  | some ⟨option, none⟩ => .ok { d with pending? := some ⟨option, some argument⟩ }
  | _ => d.operand t argument

/-- Takes in an argument with a long name. -/
def long (t : TaskName) (d : Draft) (argument name : String) (value? : Option String) :
    Except Usage Draft :=
  match t.long? name with
  | some option =>
    match value? with
    | none => d.begin option
    | some value => if option.takesValue then d.attach option value else .error .needlessValue
  | none => if t.operands = .tokens then d.plain t argument else .error .unknownArgument

/-- Takes in short names, the last of which may have its value behind it. -/
def shorts (t : TaskName) (d : Draft) : List Char → Except Usage Draft
  | [] => .ok d
  | c :: rest =>
    match t.short? c with
    | none => .error .unknownArgument
    | some option =>
      if option.takesValue then
        match rest with
        | [] => d.begin option
        | '=' :: value => d.attach option (String.ofList value)
        | value => d.attach option (String.ofList value)
      else (d.begin option).bind fun d => d.shorts t rest

/-- Takes in an argument with short names. -/
def short (t : TaskName) (d : Draft) (argument : String) (names : List Char) :
    Except Usage Draft :=
  if t.operands = .tokens && !names.all fun c => (t.short? c).isSome then d.plain t argument
  else d.shorts t names

end Draft

/-- An argument as it looks. -/
inductive Shape where
  | long (name : String) (value? : Option String)
  | short (names : List Char)
  /-- The argument after which nothing is an option. -/
  | separator
  | plain
deriving DecidableEq, Repr

/-- A long name, and what follows the first `=`. -/
def Shape.ofLong (name : List Char) : Shape :=
  match name.dropWhile (· != '=') with
  | [] => .long (String.ofList name) none
  | _ :: value => .long (String.ofList (name.takeWhile (· != '='))) (some (String.ofList value))

/-- How an argument looks. -/
def Shape.of (argument : String) : Shape :=
  match argument.toList with
  | ['-', '-'] => .separator
  | '-' :: '-' :: name => ofLong name
  | '-' :: c :: names => .short (c :: names)
  | _ => .plain

/-- Takes in one argument of a task. -/
def Draft.add (t : TaskName) (d : Draft) (argument : String) : Except Usage Draft :=
  if d.trailing then d.operand t argument
  else match Shape.of argument with
    | .separator => .ok { d with trailing := true }
    | .long name value? => d.long t argument name value?
    | .short names => d.short t argument names
    | .plain => d.plain t argument

/-- The task of a complete draft. -/
def Draft.task (t : TaskName) (d : Draft) : Except Usage Task :=
  let source? := d.catalog?.map fun path => CatalogSource.mk path d.properties d.defaults
  match t, source?, d.operands with
  | .run, some source, token :: tokens => .ok (.run source (token :: tokens))
  | .execute, some source, [line] => .ok (.execute source line)
  | .tokenize, _, [line] => .ok (.tokenize line)
  | .list, some source, _ => .ok (.list source)
  | .check, some source, _ => .ok (.check source)
  | _, _, _ => .error .missingArgument

/-- Reads the arguments of a task. -/
def ofTask (t : TaskName) (debug : Bool) (arguments : List String) : Except Usage Request := do
  let draft ← (← arguments.foldlM (Draft.add t) {}).settle
  return ⟨debug || draft.debug, ← draft.task t⟩

/-- Answers a wish for help, which may name one task. -/
def helpWish : List String → Usage
  | [] => .help
  | [name] => if name = "help" || (TaskName.ofText? name).isSome then .help else .unknownTask
  | _ => .unknownTask

/-- The options in front of a task, each without a value. -/
def frontShort (debug : Bool) : List Char → Except Usage Bool
  | [] => .ok debug
  | 'h' :: _ => .error .help
  | 'V' :: _ => .error .version
  | _ => .error .unknownArgument

/-- Takes in a long name in front of a task. -/
def frontLong (debug : Bool) (name : String) (value? : Option String) : Except Usage Bool :=
  match name with
  | "debug" =>
    if value?.isSome then .error .needlessValue
    else if debug then .error .repeatedOption else .ok true
  | "help" => .error (if value?.isSome then .needlessValue else .help)
  | "version" => .error (if value?.isSome then .needlessValue else .version)
  | _ => .error .unknownArgument

/-- What is said when there is no task. -/
def noTask (debug : Bool) : Usage :=
  if debug then .missingTask else .helpForNothing

/-- What is said about a task behind `--`, where there can be none. -/
def lateTask (name : String) : Usage :=
  if name = "help" || (TaskName.ofText? name).isSome then .unknownArgument else .unknownTask

/-- Reads the arguments from in front of a task on. -/
def fromFront (debug : Bool) : List String → Except Usage Request
  | [] => .error (noTask debug)
  | argument :: rest =>
    match TaskName.ofText? argument with
    | some t => ofTask t debug rest
    | none =>
      if argument = "help" then .error (helpWish rest)
      else match Shape.of argument with
        | .separator =>
          match rest with
          | [] => .error (noTask debug)
          | name :: _ => .error (lateTask name)
        | .long name value? => (frontLong debug name value?).bind fun debug => fromFront debug rest
        | .short names => (frontShort debug names).bind fun debug => fromFront debug rest
        | .plain => .error .unknownTask

/-- Reads the arguments of the program. -/
def ofArguments (arguments : List String) : Except Usage Request :=
  fromFront false arguments

end Request

end CommandLine
