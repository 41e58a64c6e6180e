import CommandLine.Document.Reader

/-!
Declarations as a catalog document states them, and how they are read from it. Fields that are left
out have their defaults; a name, the constants of an enum and the kind of a parameter have to be
stated.
-/

namespace CommandLine

/-- A stated enum. -/
structure EnumDeclaration where
  name : String
  constants : List String
deriving DecidableEq, Repr

/-- A stated kind of parameters. -/
inductive ParameterDeclaration.Kind where
  | plain
  | option
  | bean
  | internal
deriving DecidableEq, Repr

/-- A stated parameter. -/
inductive ParameterDeclaration where
  | mk (kind : ParameterDeclaration.Kind) (name : String) (type? default? : Option String)
      (nillable : Bool) (members : List ParameterDeclaration)
deriving Repr

/-- A stated command. -/
structure CommandDeclaration where
  name : String
  description? : Option String := none
  target : String := "echo"
  declaredIn? : Option String := none
  returns? : Option String := none
  interceptors : List String := []
  parameters : List ParameterDeclaration := []
deriving Repr

/-- All that a catalog document states. -/
structure Declarations where
  enums : List EnumDeclaration := []
  globals : List ParameterDeclaration := []
  commands : List CommandDeclaration := []
deriving Repr

namespace Reader

/-- What may be read one bracket further in, if there is room for one more. -/
def inside (inner : Nat → α) : Nat → Option α
  | 0 => none
  | room + 1 => some (inner room)

/-- A list of texts. -/
def texts (room : Nat) : Reader (List String) := list (inside (fun _ => text) room)

end Reader

/-! ## Drafts

A draft holds the fields of a declaration that have been read so far. -/

/-- What has been read of an enum. -/
structure EnumDeclaration.Draft where
  name? : Option String := none
  constants? : Option (List String) := none

namespace EnumDeclaration

def Draft.finish (d : Draft) : Option EnumDeclaration := do
  return ⟨← d.name?, ← d.constants?⟩

def fields (room : Nat) : List (Reader.Field Draft) :=
  [.of "name" (·.name?) ({ · with name? := some · }) Reader.text,
   .of "constants" (·.constants?) ({ · with constants? := some · }) (Reader.texts room)]

/-- Reads an enum. -/
def reader (room : Nat) : Reader EnumDeclaration :=
  Reader.record (Reader.inside fields room) {} Draft.finish

end EnumDeclaration

/-- What has been read of a parameter. -/
structure ParameterDeclaration.Draft where
  kind? : Option Kind := none
  name? : Option String := none
  type? : Option (Option String) := none
  default? : Option (Option String) := none
  nillable? : Option Bool := none
  members? : Option (List ParameterDeclaration) := none

namespace ParameterDeclaration

/-- The kind of a name. -/
def Kind.ofName? : String → Option Kind
  | "plain" => some plain
  | "option" => some option
  | "bean" => some bean
  | "internal" => some internal
  | _ => none

def Draft.finish (d : Draft) : Option ParameterDeclaration := do
  return .mk (← d.kind?) (d.name?.getD "") (d.type?.getD none) (d.default?.getD none)
    (d.nillable?.getD false) (d.members?.getD [])

/-- The fields of a parameter, given how a member is read. -/
def fields (room : Nat) (member? : Option (Reader ParameterDeclaration)) :
    List (Reader.Field Draft) :=
  [.of "kind" (·.kind?) ({ · with kind? := some · }) (Reader.variant (0 < room) Kind.ofName?),
   .of "name" (·.name?) ({ · with name? := some · }) Reader.text,
   .of "type" (·.type?) ({ · with type? := some · }) (Reader.orNull Reader.text),
   .of "default" (·.default?) ({ · with default? := some · }) (Reader.orNull Reader.text),
   .of "nillable" (·.nillable?) ({ · with nillable? := some · }) Reader.flag,
   .of "members" (·.members?) ({ · with members? := some · }) (Reader.list member?)]

/-- Reads a parameter. A member stands two brackets further in. -/
def reader : Nat → Reader ParameterDeclaration
  | 0 => Reader.record none {} Draft.finish
  | 1 => Reader.record (some (fields 0 none)) {} Draft.finish
  | room + 2 => Reader.record (some (fields (room + 1) (some (reader room)))) {} Draft.finish

end ParameterDeclaration

/-- What has been read of a command. -/
structure CommandDeclaration.Draft where
  name? : Option String := none
  description? : Option (Option String) := none
  target? : Option String := none
  declaredIn? : Option (Option String) := none
  returns? : Option (Option String) := none
  interceptors? : Option (List String) := none
  parameters? : Option (List ParameterDeclaration) := none

namespace CommandDeclaration

def Draft.finish (d : Draft) : Option CommandDeclaration := do
  return { name := ← d.name?, description? := d.description?.getD none,
           target := d.target?.getD "echo", declaredIn? := d.declaredIn?.getD none,
           returns? := d.returns?.getD none, interceptors := d.interceptors?.getD [],
           parameters := d.parameters?.getD [] }

def fields (room : Nat) : List (Reader.Field Draft) :=
  [.of "name" (·.name?) ({ · with name? := some · }) Reader.text,
   .of "description" (·.description?) ({ · with description? := some · })
     (Reader.orNull Reader.text),
   .of "target" (·.target?) ({ · with target? := some · }) Reader.text,
   .of "declared_in" (·.declaredIn?) ({ · with declaredIn? := some · })
     (Reader.orNull Reader.text),
   .of "returns" (·.returns?) ({ · with returns? := some · }) (Reader.orNull Reader.text),
   .of "interceptors" (·.interceptors?) ({ · with interceptors? := some · })
     (Reader.texts room),
   .of "parameters" (·.parameters?) ({ · with parameters? := some · })
     (Reader.list (Reader.inside ParameterDeclaration.reader room))]

/-- Reads a command. -/
def reader (room : Nat) : Reader CommandDeclaration :=
  Reader.record (Reader.inside fields room) {} Draft.finish

end CommandDeclaration

/-- What has been read of a catalog document. -/
structure Declarations.Draft where
  enums? : Option (List EnumDeclaration) := none
  globals? : Option (List ParameterDeclaration) := none
  commands? : Option (List CommandDeclaration) := none

namespace Declarations

def Draft.finish (d : Draft) : Option Declarations :=
  some ⟨d.enums?.getD [], d.globals?.getD [], d.commands?.getD []⟩

def fields (room : Nat) : List (Reader.Field Draft) :=
  [.of "enums" (·.enums?) ({ · with enums? := some · })
     (Reader.list (Reader.inside EnumDeclaration.reader room)),
   .of "globals" (·.globals?) ({ · with globals? := some · })
     (Reader.list (Reader.inside ParameterDeclaration.reader room)),
   .of "commands" (·.commands?) ({ · with commands? := some · })
     (Reader.list (Reader.inside CommandDeclaration.reader room))]

/-- How many brackets may be open at a time. -/
def nestingLimit : Nat := 127

/-- Reads a catalog document. -/
def read (text : String) : Except DocumentFlaw Declarations :=
  Reader.whole (Reader.record (Reader.inside fields nestingLimit) {} Draft.finish) text

end Declarations

end CommandLine
