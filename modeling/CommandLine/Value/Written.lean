import CommandLine.Decimal.Layout
import CommandLine.Diagnostic
import CommandLine.Document
import CommandLine.Value.Basic

/-!
The written forms of a value: the text that shows it, its diagnostic, and its JSON document.
-/

namespace CommandLine.Value

mutual

/-- The text that shows a value. -/
def shown : Value → String
  | null => "null"
  | bool b => if b then "true" else "false"
  | int n => toString n
  | float x => Decimal.Layout.plain.write x
  | text s => s
  | enum _ constant => constant
  | bean type fields => type ++ "(" ++ ",".intercalate (shownFields fields) ++ ")"
  | list items => "[" ++ ", ".intercalate (shownItems items) ++ "]"
  | custom _ s => s

def shownItems : List Value → List String
  | [] => []
  | v :: rest => shown v :: shownItems rest

def shownFields : List (String × Value) → List String
  | [] => []
  | (name, v) :: rest => (name ++ "=" ++ shown v) :: shownFields rest

end

mutual

/-- The diagnostic of a value, which tells values of different types apart. -/
def diagnostic : Value → String
  | null => "Null"
  | bool b => "Bool(" ++ Diagnostic.flag b ++ ")"
  | int n => "Int(" ++ toString n ++ ")"
  | float x => "Float(" ++ Decimal.Layout.plain.write x ++ ")"
  | text s => "Text(" ++ Text.quote s ++ ")"
  | enum type constant => type ++ "::" ++ constant
  | bean type fields =>
    Diagnostic.record "Bean"
      [("type_name", Text.quote type), ("fields", Diagnostic.listOf (diagnosticFields fields))]
  | list items => Diagnostic.listOf (diagnosticItems items)
  | custom type s => type ++ "(" ++ Text.quote s ++ ")"

def diagnosticItems : List Value → List String
  | [] => []
  | v :: rest => diagnostic v :: diagnosticItems rest

def diagnosticFields : List (String × Value) → List String
  | [] => []
  | (name, v) :: rest =>
    Diagnostic.pair (Text.quote name) (diagnostic v) :: diagnosticFields rest

end

mutual

/-- The JSON document of a value. Beans become objects, and constants and custom values texts. -/
def document : Value → Document
  | null => .null
  | bool b => .bool b
  | int n => .integer n
  | float x => .number (Decimal.Layout.interchange.write x)
  | text s => .text s
  | enum _ constant => .text constant
  | bean _ fields => .object (documentFields fields)
  | list items => .array (documentItems items)
  | custom _ s => .text s

def documentItems : List Value → List Document
  | [] => []
  | v :: rest => document v :: documentItems rest

def documentFields : List (String × Value) → List (String × Document)
  | [] => []
  | (name, v) :: rest => (name, document v) :: documentFields rest

end

end CommandLine.Value
