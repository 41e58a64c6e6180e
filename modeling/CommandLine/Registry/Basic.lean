import CommandLine.Command
import CommandLine.Table

/-!
The registry of commands. Unsound declarations are refused before anything can be invoked: commands
have names of their own that do not look like options, groups hold options and groups only, what is
not positional has a name, and no option name occurs twice in a command. A registry finds commands
by an index of their names, which is in step with the list of them from the first command on.
-/

namespace CommandLine

namespace Parameter

/-- What is unsound about a parameter itself, as a member of a group or outside of one. -/
def flaw? (isMember : Bool) : Parameter → Option DeclarationFlaw
  | plain a _ => if isMember then some (.beanMember a.name) else none
  | internal a =>
    if isMember then some (.beanMember a.name)
    else if a.name.isEmpty then some .unnamedParameter else none
  | option a _ | bean a _ _ => if a.name.isEmpty then some .unnamedParameter else none

mutual

/-- The first unsound parameter among a parameter and its members, outer ones first. -/
def firstFlaw? (isMember : Bool) (p : Parameter) : Option DeclarationFlaw :=
  (p.flaw? isMember).or (match p with
    | bean _ _ members => firstFlawOfAll? true members
    | _ => none)

/-- The first unsound parameter of a list. -/
def firstFlawOfAll? (isMember : Bool) : List Parameter → Option DeclarationFlaw
  | [] => none
  | p :: rest => (firstFlaw? isMember p).or (firstFlawOfAll? isMember rest)

end

end Parameter

/-- The first element that also stands further ahead in the list. -/
def firstRepeated? [BEq α] (seen : List α) : List α → Option α
  | [] => none
  | a :: rest => if seen.contains a then some a else firstRepeated? (a :: seen) rest

/-- Refuses parameters that are unsound or share an option name. The flaws are reported for
`owner`, the repeated names for `scope`. -/
def checkParameters (owner scope : String) (parameters : List Parameter) : Except Fault Unit :=
  match Parameter.firstFlawOfAll? false parameters with
  | some flaw => .error (.invalidDeclaration owner flaw)
  | none =>
    match firstRepeated? [] (Parameter.optionNamesOfAll parameters) with
    | some name => .error (.duplicateOptionName scope name)
    | none => .ok ()

/-- The name under which global options are reported. -/
def globalOwner : String := "<global>"

/-- Refuses a group of global options that is none or is unsound. -/
def checkGlobal (group : Parameter) : Except Fault Unit :=
  if group.isBean then
    checkParameters globalOwner ("<global:" ++ group.name ++ ">") [group]
  else .error (.invalidDeclaration globalOwner (.groupKind group.name))

/-- Refuses unsound groups of global options. -/
def checkGlobals : List Parameter → Except Fault Unit
  | [] => .ok ()
  | group :: rest => (checkGlobal group).bind fun _ => checkGlobals rest

/-- Commands in the order of their declaration, and an index of their names. -/
structure Registry where
  commands : List Command
  index : Table Nat
  /-- Each name is indexed by the place of the first command that has it. -/
  index_eq (name : String) : index[name]? = commands.findIdx? (·.name == name)

namespace Registry

def empty : Registry where
  commands := []
  index := ∅
  index_eq _ := Std.TreeMap.getElem?_emptyc

/-- The registry with one more command behind the others. -/
def push (r : Registry) (command : Command) : Registry where
  commands := r.commands ++ [command]
  index := r.index.insertIfNew command.name r.commands.length
  index_eq name := by
    rw [Std.TreeMap.getElem?_insertIfNew, List.findIdx?_append, ← r.index_eq]
    by_cases hname : command.name = name
    · subst hname
      cases h : r.index[command.name]? <;> simp [Std.TreeMap.mem_iff_isSome_getElem?, h]
    · simp [hname]

@[simp] theorem commands_empty : empty.commands = [] := rfl

@[simp] theorem commands_push (r : Registry) (command : Command) :
    (r.push command).commands = r.commands ++ [command] := rfl

def names (r : Registry) : List String := r.commands.map (·.name)

def size (r : Registry) : Nat := r.commands.length

def isEmpty (r : Registry) : Bool := r.commands.isEmpty

/-- The command at the place of the name. -/
def find? (r : Registry) (name : String) : Option Command :=
  r.index[name]?.bind fun place => r.commands[place]?

theorem find?_eq (r : Registry) (name : String) :
    r.find? name = r.commands.find? (·.name == name) := by
  rw [find?, r.index_eq, List.find?_eq_bind_findIdx?_getElem?]

theorem contains_index_iff {r : Registry} {name : String} :
    r.index.contains name = true ↔ name ∈ r.names := by
  rw [Std.TreeMap.contains_eq_isSome_getElem?, r.index_eq, List.findIdx?_isSome]
  simp [names]

@[simp] theorem names_push (r : Registry) (command : Command) :
    (r.push command).names = r.names ++ [command.name] := by
  simp [names]

/-! ## Declaration -/

/-- A name that no command may have: an empty one, or one that looks like an option. -/
def isBadName (name : String) : Bool :=
  name.isEmpty || name.toList.head? == some '-'

/-- Refuses a command that cannot be declared after those of the registry. -/
def check (r : Registry) (command : Command) : Except Fault Unit :=
  if isBadName command.name then .error (.invalidDeclaration command.name .commandName)
  else if r.index.contains command.name then .error (.duplicateCommand command.name)
  else checkParameters command.name command.name command.parameters

/-- Declares commands one after the other, up to the first unsound one. -/
def declare (r : Registry) : List Command → Except Fault Registry
  | [] => .ok r
  | command :: rest => (r.check command).bind fun _ => (r.push command).declare rest

/-- The registry of some commands, if they are sound. -/
def ofCommands (commands : List Command) : Except Fault Registry := empty.declare commands

end Registry

end CommandLine
