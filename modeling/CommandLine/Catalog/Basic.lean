import CommandLine.Action
import CommandLine.Catalog.Declaration
import CommandLine.ValueType.Reading

/-!
Catalogs: the commands, global options and enums of a catalog document, with the names of types and
targets resolved. The first name that does not resolve is the flaw of the document; the enums come
first, then the globals, then the commands, each of these with its target, its results and its
parameters.
-/

namespace CommandLine

/-- Resolved declarations. -/
structure Catalog where
  commands : List Command := []
  /-- The groups of global options. -/
  globals : List Parameter := []
  /-- The enums in the order of their names. -/
  enums : List EnumType := []

namespace Catalog

/-- The enums that a document states, each once and each with some constant. -/
def resolveEnums (resolved : List EnumType) :
    List EnumDeclaration → Except CatalogFlaw (List EnumType)
  | [] => .ok resolved
  | d :: rest =>
    if d.constants.isEmpty then .error (.emptyEnum d.name)
    else if resolved.any (·.name == d.name) then .error (.repeatedEnum d.name)
    else resolveEnums (resolved ++ [⟨d.name, d.constants⟩]) rest

/-- A stated type; text if none is stated. -/
def resolveType (enums : List EnumType) : Option String → Except CatalogFlaw ValueType
  | none => .ok ⟨.text, false⟩
  | some text => ValueType.read enums text

mutual

/-- A stated parameter. The type of a group is a name of its own, and defaults to that of the group;
only groups have members. -/
def resolveParameter (enums : List EnumType) :
    ParameterDeclaration → Except CatalogFlaw Parameter
  | .mk kind name type? default? nillable members =>
    let attributes : Attributes := ⟨name, default?, nillable⟩
    match kind with
    | .plain => (resolveType enums type?).map (.plain attributes)
    | .option => (resolveType enums type?).map (.option attributes)
    | .internal => .ok (.internal attributes)
    | .bean => (resolveParameters enums members).map (.bean attributes (type?.getD name))

/-- The stated parameters, in their order. -/
def resolveParameters (enums : List EnumType) :
    List ParameterDeclaration → Except CatalogFlaw (List Parameter)
  | [] => .ok []
  | d :: rest => (resolveParameter enums d).bind fun p =>
    (resolveParameters enums rest).map (p :: ·)

end

/-- Where commands are declared that do not say where. -/
def defaultDeclaringType : String := "catalog"

/-- A stated command. -/
def resolveCommand (enums : List EnumType) (d : CommandDeclaration) :
    Except CatalogFlaw Command :=
  match Action.stock? d.target with
  | none => .error (.unknownTarget d.name d.target Action.stockNames)
  | some action => do
    let returns? ← match d.returns? with
      | none => .ok none
      | some text => some <$> ValueType.read enums text
    let parameters ← resolveParameters enums d.parameters
    return { name := d.name, description := d.description?.getD "", parameters,
             target := ⟨d.declaredIn?.getD defaultDeclaringType, d.target, returns?⟩, action,
             interceptors := d.interceptors }

/-- The stated commands, in their order. -/
def resolveCommands (enums : List EnumType) :
    List CommandDeclaration → Except CatalogFlaw (List Command)
  | [] => .ok []
  | d :: rest => (resolveCommand enums d).bind fun c => (resolveCommands enums rest).map (c :: ·)

/-- Enums in the order of their names. -/
def sortEnums (enums : List EnumType) : List EnumType :=
  enums.mergeSort fun a b => a.name ≤ b.name

/-- The catalog that a document states. -/
def resolve (d : Declarations) : Except CatalogFlaw Catalog := do
  let enums ← resolveEnums [] d.enums
  let globals ← resolveParameters enums d.globals
  let commands ← resolveCommands enums d.commands
  return ⟨commands, globals, sortEnums enums⟩

/-- Loads the catalog document that a text is. The path is the one that faults name. -/
def load (text path : String) : Except Fault Catalog :=
  match Declarations.read text with
  | .error flaw => .error (.catalog path (.document flaw))
  | .ok declarations => (resolve declarations).mapError (.catalog path)

end Catalog

end CommandLine
