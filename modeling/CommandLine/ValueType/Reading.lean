import CommandLine.Fault
import CommandLine.Text.Blank
import CommandLine.ValueType

/-!
The written types of declarations: the name of a type with a `?` behind it when it is nullable.
Blanks around the text and in front of the `?` do not count.
-/

namespace CommandLine.ValueType

/-- What follows `enum:` in the name of a type. -/
def enumName? (name : List Char) : Option (List Char) :=
  match name with
  | 'e' :: 'n' :: 'u' :: 'm' :: ':' :: rest => some rest
  | _ => none

/-- The kind that a name stands for, given the declared enums. -/
def Kind.read (enums : List EnumType) (name : List Char) : Except CatalogFlaw Kind :=
  match enumName? name with
  | some wanted =>
    match enums.find? (·.name == String.ofList wanted) with
    | some type => .ok (.enum type)
    | none => .error (.unknownEnum (String.ofList wanted))
  | none =>
    match String.ofList name with
    | "" => .error .emptyTypeName
    | "bool" | "boolean" => .ok .bool
    | "int" | "integer" => .ok .int
    | "float" | "double" => .ok .float
    | "text" | "string" => .ok .text
    | key => .ok (.named key)

/-- What stands before a final `?`. -/
def withoutMark? (text : List Char) : Option (List Char) :=
  if text.getLast? = some '?' then some text.dropLast else none

/-- The type that a text stands for, given the declared enums. -/
def read (enums : List EnumType) (text : String) : Except CatalogFlaw ValueType :=
  let text := Text.trimChars text.toList
  match withoutMark? text with
  | some name => (Kind.read enums (Text.trimChars name)).map (⟨·, true⟩)
  | none => (Kind.read enums text).map (⟨·, false⟩)

end CommandLine.ValueType
