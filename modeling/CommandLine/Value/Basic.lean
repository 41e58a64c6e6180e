/-!
The values that binding produces. Texts of types that the library does not know become `custom`
values, which carry the name of their type and the text that shows them.
-/

namespace CommandLine

/-- A bound value. -/
inductive Value where
  | null
  | bool (b : Bool)
  | int (n : Int)
  | float (x : Float)
  | text (s : String)
  /-- A constant of a declared enum. -/
  | enum (type constant : String)
  /-- A group of options, with its fields in the order of their declaration. -/
  | bean (type : String) (fields : List (String × Value))
  | list (items : List Value)
  /-- The result of a converter, with the text that shows it. -/
  | custom (type shown : String)
deriving Inhabited

namespace Value

def isNull : Value → Bool
  | null => true
  | _ => false

def asBool? : Value → Option Bool
  | bool b => some b
  | _ => none

def asInt? : Value → Option Int
  | int n => some n
  | _ => none

/-- The number that a value is, integers included. -/
def asFloat? : Value → Option Float
  | float x => some x
  | int n => some (Float.ofInt n)
  | _ => none

/-- The text that a value is, or the constant. -/
def asText? : Value → Option String
  | text s => some s
  | enum _ constant => some constant
  | _ => none

/-- The first field of the given name, of a bean. -/
def field? (name : String) : Value → Option Value
  | bean _ fields => fields.lookup name
  | _ => none

/-- The word for the type of a value. -/
def label : Value → String
  | null => "null"
  | bool _ => "bool"
  | int _ => "int"
  | float _ => "float"
  | text _ => "text"
  | enum type _ => s!"enum {type}"
  | bean type _ => type
  | list _ => "list"
  | custom type _ => type

mutual

/-- Two values are the same. Floats are compared as numbers, so not-a-number is not even the same
as itself. -/
def same : Value → Value → Bool
  | null, null => true
  | bool a, bool b => a == b
  | int a, int b => a == b
  | float a, float b => a == b
  | text a, text b => a == b
  | enum s a, enum t b => s == t && a == b
  | bean s as, bean t bs => s == t && sameFields as bs
  | list as, list bs => sameItems as bs
  | custom s a, custom t b => s == t && a == b
  | _, _ => false

def sameItems : List Value → List Value → Bool
  | [], [] => true
  | a :: as, b :: bs => same a b && sameItems as bs
  | _, _ => false

def sameFields : List (String × Value) → List (String × Value) → Bool
  | [], [] => true
  | (m, a) :: as, (n, b) :: bs => m == n && same a b && sameFields as bs
  | _, _ => false

end

end Value

end CommandLine
