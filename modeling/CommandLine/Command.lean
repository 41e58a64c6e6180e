import CommandLine.Fault
import CommandLine.Parameter

/-!
Commands. A command has parameters, the references of its interceptors, and an action, which takes
the bound values. The target of a command describes its action without running it.
-/

namespace CommandLine

/-- What is declared about the action of a command. -/
structure Target where
  declaringType : String
  handle : String
  returns? : Option ValueType := none
deriving DecidableEq, Repr

/-- What an interceptor sees at one moment of an invocation. -/
structure View where
  command : String
  target : Target
  /-- The number of the stage that is being run. -/
  stage : Nat
  arguments : List Value

/-- What interceptors and actions report about an invocation. -/
inductive Note where
  | message (text : String)
  | observation (interceptor : String) (view : View)
  /-- A fault that went no further. -/
  | caught (fault : Fault)
  | called (arguments : List Value)

/-- Why an action failed: with a fault, or for a cause in its own words. -/
inductive Failure where
  | fault (fault : Fault)
  | described (cause : String)

/-- What an action answers, and what it reports on the way. -/
structure Reply where
  result : Except Failure Value
  notes : List Note := []

/-- Takes the bound values of a command. -/
abbrev Action := List Value → Reply

/-- A command. -/
structure Command where
  name : String
  description : String := ""
  parameters : List Parameter := []
  target : Target
  action : Action
  /-- References to interceptors, the outermost first. -/
  interceptors : List String := []

/-- The fault of a command whose action failed. Faults pass as they are. -/
def Failure.faultOf (command : String) : Failure → Fault
  | fault f => f
  | described cause => .execution command cause

namespace Target

/-- The type and the handle. -/
def label (t : Target) : String := t.declaringType ++ "::" ++ t.handle

def diagnostic (t : Target) : String :=
  Diagnostic.record "TargetDescriptor"
    [("declaring_type", Text.quote t.declaringType), ("handle", Text.quote t.handle),
     ("returns", Diagnostic.optional (t.returns?.map (·.diagnostic)))]

end Target

namespace Command

/-- The names of the internal parameters, those inside of groups excepted. -/
def internalNames (c : Command) : List String :=
  (c.parameters.filter (·.isInternal)).map (·.name)

def diagnostic (c : Command) : String :=
  Diagnostic.partialRecord "CommandSpec"
    [("name", Text.quote c.name),
     ("parameters", Diagnostic.listOf (Parameter.diagnostics c.parameters)),
     ("target", c.target.diagnostic), ("interceptors", Diagnostic.texts c.interceptors)]

end Command

end CommandLine
