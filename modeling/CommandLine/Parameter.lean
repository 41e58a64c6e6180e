import CommandLine.ValueType

/-!
Declared parameters. A plain parameter is bound by position, an option by its name, and a bean
option is a group of options; an internal parameter is supplied by the engine.
-/

namespace CommandLine

/-- What every declaration of a parameter states. -/
structure Attributes where
  name : String
  /-- The text to fall back on; it may hold references. -/
  default? : Option String := none
  /-- A group of options of which none was given is null. -/
  nillable : Bool := false
deriving DecidableEq, Repr

/-- A declared parameter. -/
inductive Parameter where
  | plain (attributes : Attributes) (type : ValueType)
  | option (attributes : Attributes) (type : ValueType)
  | bean (attributes : Attributes) (type : String) (members : List Parameter)
  | internal (attributes : Attributes)
deriving Repr

namespace Parameter

def attributes : Parameter → Attributes
  | plain a _ | option a _ | bean a _ _ | internal a => a

def name (p : Parameter) : String := p.attributes.name

def default? (p : Parameter) : Option String := p.attributes.default?

def nillable (p : Parameter) : Bool := p.attributes.nillable

/-- The type of a parameter. Internal parameters count as nullable text. -/
def type : Parameter → ValueType
  | plain _ t | option _ t => t
  | bean _ t _ => ⟨.bean t, false⟩
  | internal _ => ⟨.text, true⟩

def members : Parameter → List Parameter
  | bean _ _ members => members
  | _ => []

def isInternal : Parameter → Bool
  | internal _ => true
  | _ => false

def isBean : Parameter → Bool
  | bean .. => true
  | _ => false

mutual

/-- The names of the options in a parameter, those of nested groups included. -/
def optionNames : Parameter → List String
  | option a _ => [a.name]
  | bean _ _ members => optionNamesOfAll members
  | _ => []

def optionNamesOfAll : List Parameter → List String
  | [] => []
  | p :: rest => optionNames p ++ optionNamesOfAll rest

end

theorem optionNamesOfAll_eq (l : List Parameter) :
    optionNamesOfAll l = l.flatMap optionNames := by
  induction l with
  | nil => rfl
  | cons p rest ih => simp [optionNamesOfAll, ih]

mutual

/-- The parameter has to be given: it has nothing to fall back on. -/
def isRequired : Parameter → Bool
  | plain a _ => a.default?.isNone
  | option a t => a.default?.isNone && !t.nullable && t.zero?.isNone
  | bean a _ members => !a.nillable && anyRequired members
  | internal _ => false

def anyRequired : List Parameter → Bool
  | [] => false
  | p :: rest => isRequired p || anyRequired rest

end

theorem anyRequired_eq (l : List Parameter) : anyRequired l = l.any isRequired := by
  induction l with
  | nil => rfl
  | cons p rest ih => simp [anyRequired, ih]

/-- The word for the kind of a parameter. -/
def kindName : Parameter → String
  | plain .. => "Plain"
  | option .. => "Option"
  | bean .. => "BeanOption"
  | internal _ => "Internal"

/-- The diagnostic of a parameter, given that of its members. -/
def describe (kind : String) (a : Attributes) (t : ValueType) (members : String) : String :=
  Diagnostic.record "ParameterSpec"
    [("kind", kind), ("name", Text.quote a.name), ("ty", t.diagnostic),
     ("default", Diagnostic.optional (a.default?.map Text.quote)), ("members", members),
     ("nillable", Diagnostic.flag a.nillable)]

mutual

def diagnostic : Parameter → String
  | plain a t => describe "Plain" a t "[]"
  | option a t => describe "Option" a t "[]"
  | bean a t members =>
    describe "BeanOption" a ⟨.bean t, false⟩ (Diagnostic.listOf (diagnostics members))
  | internal a => describe "Internal" a ⟨.text, true⟩ "[]"

def diagnostics : List Parameter → List String
  | [] => []
  | p :: rest => diagnostic p :: diagnostics rest

end

end Parameter

end CommandLine
