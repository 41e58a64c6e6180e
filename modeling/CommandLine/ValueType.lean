import CommandLine.Diagnostic
import CommandLine.Value.Basic

/-!
Declared types. A type is one of the types that the library knows, or a name under which a converter
is registered; it may be nullable. `ValueType.name` is its written form.
-/

namespace CommandLine

/-- A declared enum with its constants in the order of their declaration. -/
structure EnumType where
  name : String
  constants : List String
deriving DecidableEq, Repr

/-- A type without its nullability. -/
inductive ValueType.Kind where
  | bool
  | int
  | float
  | text
  | enum (type : EnumType)
  /-- A group of options. -/
  | bean (type : String)
  /-- The type of the values that the converter of this key makes. -/
  | named (key : String)
deriving DecidableEq, Repr

/-- A declared type. -/
structure ValueType where
  kind : ValueType.Kind
  /-- An absent value of a nullable type is null. -/
  nullable : Bool := false
deriving DecidableEq, Repr

namespace ValueType

namespace Kind

/-- The key under which the converter of a type is registered. -/
def key : Kind → String
  | bool => "bool"
  | int => "int"
  | float => "float"
  | text => "text"
  | enum type => type.name
  | bean type => type
  | named key => key

/-- The value is of this type as it stands. Integers and floats pass for each other. -/
def admits : Kind → Value → Bool
  | bool, .bool _ => true
  | int, .int _ | int, .float _ | float, .int _ | float, .float _ => true
  | text, .text _ => true
  | enum type, .enum name _ => name == type.name
  | bean type, .bean name _ => name == type
  | named key, .custom name _ => name == key
  | _, _ => false

/-- The written form of a type without its nullability. -/
def name : Kind → String
  | enum type => "enum:" ++ type.name
  | bean type => "bean:" ++ type
  | kind => kind.key

def diagnostic : Kind → String
  | bool => "Bool"
  | int => "Int"
  | float => "Float"
  | text => "Text"
  | enum type =>
    "Enum(" ++ Diagnostic.record "EnumType"
      [("name", Text.quote type.name), ("constants", Diagnostic.texts type.constants)] ++ ")"
  | bean type => "Bean(" ++ Text.quote type ++ ")"
  | named key => "Named(" ++ Text.quote key ++ ")"

end Kind

/-- The written form of a type. -/
def name (t : ValueType) : String :=
  if t.nullable then t.kind.name ++ "?" else t.kind.name

/-- The value of an absent parameter that has nothing else to fall back on. -/
def zero? (t : ValueType) : Option Value :=
  if t.nullable then none
  else match t.kind with
    | .bool => some (.bool false)
    | .int => some (.int 0)
    | .float => some (.float 0.0)
    | _ => none

def isBool (t : ValueType) : Bool := t.kind == .bool

def diagnostic (t : ValueType) : String :=
  Diagnostic.record "TypeSpec"
    [("kind", t.kind.diagnostic), ("nullable", Diagnostic.flag t.nullable)]

end ValueType

end CommandLine
