import CommandLine.Fault
import CommandLine.Table
import CommandLine.Text.Uppercase
import CommandLine.ValueType

/-!
Conversion of raw values. A null and a value that is of the wanted type already stay as they are; a
text becomes a constant of an enum by its upper case, and a value of any other type by the converter
registered under the key of the type. Nothing else is converted.
-/

namespace CommandLine

/-- Makes values from texts, or refuses them. -/
abbrev Converter := String → Except Refusal Value

/-- Converters by the key of the type that they convert to. -/
structure Converters where
  table : Table Converter

namespace Converters

instance : EmptyCollection Converters := ⟨⟨∅⟩⟩

def find? (c : Converters) (key : String) : Option Converter := c.table[key]?

def contains (c : Converters) (key : String) : Bool := c.table.contains key

def keys (c : Converters) : List String := c.table.keys

/-- Registers a converter, in place of one registered before under the key. -/
def register (key : String) (converter : Converter) (c : Converters) : Converters :=
  ⟨c.table.insert key converter⟩

/-- The constant of an enum that the upper case of a text names. -/
def constant (type : EnumType) (text parameter : String) : Except ConversionFailure Value :=
  let wanted := Text.uppercase text
  match type.constants.find? (· == wanted) with
  | some constant => .ok (.enum type.name constant)
  | none => .error (.unknownConstant parameter text type.name type.constants)

/-- The value that the converter of a key makes of a text. -/
def apply (c : Converters) (key text parameter : String) : Except ConversionFailure Value :=
  match c.find? key with
  | none => .error (.noConverter parameter key)
  | some converter =>
    match converter text with
    | .ok value => .ok value
    | .error cause => .error (.refused parameter text key cause)

/-- Converts a raw value for the parameter of the given name. -/
def convert (c : Converters) (raw : Value) (type : ValueType) (parameter : String) :
    Except ConversionFailure Value :=
  if raw.isNull || type.kind.admits raw then .ok raw
  else match raw with
    | .text text =>
      match type.kind with
      | .enum enumType => constant enumType text parameter
      | kind => c.apply kind.key text parameter
    | other => .error (.typeMismatch parameter type.name other.label)

def diagnostic (c : Converters) : String :=
  Diagnostic.record "ConverterRegistry" [("keys", Diagnostic.texts c.keys)]

end Converters

end CommandLine
