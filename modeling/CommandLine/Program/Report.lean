import CommandLine.Engine
import CommandLine.Value.Written

/-!
What the program prints: outcomes, the commands of a catalog, and what a check of them finds.
-/

namespace CommandLine

/-- The JSON document of an outcome. -/
def Outcome.document (o : Outcome) : Document :=
  .object
    [("command", .text o.command), ("globals", .array (o.globals.map (·.document))),
     ("arguments", .array (o.arguments.map (·.document))), ("result", o.result.document)]

/-- The JSON document of the stages of a line. -/
def Line.document (stages : List (List String)) : Document :=
  .array (stages.map fun fields => .array (fields.map .text))

namespace Report

/-- The word for the kind of a parameter in reports. -/
def kindName : Parameter → String
  | .plain .. => "plain"
  | .option .. => "option"
  | .bean .. => "bean"
  | .internal _ => "internal"

mutual

/-- What is told about a parameter, in the order of the names. -/
def parameter (p : Parameter) : Document :=
  let default : List (String × Document) :=
    (p.default?.map fun text => ("default", .text text)).toList
  let kind : String × Document := ("kind", .text (kindName p))
  let name : String × Document := ("name", .text p.name)
  let rest : List (String × Document) :=
    [("required", .bool p.isRequired), ("type", .text p.type.name)]
  .object (default ++ match p with
    | .bean a _ members =>
      kind :: ("members", .array (parameters members)) :: name ::
        ("nillable", .bool a.nillable) :: rest
    | _ => kind :: name :: rest)

/-- What is told about parameters. -/
def parameters : List Parameter → List Document
  | [] => []
  | p :: rest => parameter p :: parameters rest

end

/-- What is told about a command, in the order of the names. -/
def command (c : Command) : Document :=
  .object
    [("description", .text c.description), ("interceptors", .array (c.interceptors.map .text)),
     ("name", .text c.name), ("parameters", .array (parameters c.parameters)),
     ("target", .text c.target.label)]

/-- What is told about the declarations of an engine. -/
def listing (e : Engine) : Document :=
  .object
    [("commands", .array (e.registry.commands.map command)),
     ("globals", .array (parameters e.globals))]

/-- A reference to an interceptor that is not in stock. -/
def lateInterceptor (c : Command) (reference : String) : String :=
  s!"command '{c.name}' references interceptor '{reference}', which must be supplied at run time"

/-- A parameter of a type that has no stock converter. -/
def lateConverter (owner name key : String) : String :=
  s!"'{name}' in '{owner}' has type '{key}' with no stock converter"

/-- The key of a type that needs a converter which is not in stock. -/
def lateKey? (type : ValueType) : Option String :=
  match type.kind with
  | .named key => if Converters.stock.contains key then none else some key
  | _ => none

mutual

/-- The warnings about the types in a parameter. -/
def typeWarnings (owner : String) : Parameter → List String
  | .plain a type | .option a type => ((lateKey? type).map (lateConverter owner a.name)).toList
  | .bean _ _ members => typeWarningsOfAll owner members
  | .internal _ => []

/-- The warnings about the types in some parameters. -/
def typeWarningsOfAll (owner : String) : List Parameter → List String
  | [] => []
  | p :: rest => typeWarnings owner p ++ typeWarningsOfAll owner rest

end

/-- The warnings about the interceptors of a command. -/
def interceptorWarnings (c : Command) : List String :=
  (c.interceptors.filter fun reference => !Interceptors.stock.contains reference).map
    (lateInterceptor c)

/-- What has to be supplied before the commands of an engine can be invoked. -/
def warnings (e : Engine) : List String :=
  (e.registry.commands.flatMap fun c =>
    interceptorWarnings c ++ typeWarningsOfAll c.name c.parameters)
    ++ typeWarningsOfAll globalOwner e.globals

/-- What a check of the declarations of an engine finds. -/
def check (e : Engine) : Document :=
  .object
    [("commands", .integer e.registry.size), ("globals", .integer e.globals.length),
     ("warnings", .array ((warnings e).map .text))]

end Report

end CommandLine
