/-!
What can go wrong, as causes. A `Fault` says which step failed and on what; its wording is
`Fault.message`, in one place. Faults of declarations and catalogs are build-time faults: they are
found before any command can run.
-/

namespace CommandLine

/-- Why a line cannot be read. -/
inductive Malformation where
  /-- A backslash with nothing after it. -/
  | trailingEscape
  /-- A quoted region that is never closed. -/
  | unmatchedQuote (quote : Char)
  /-- A malformation in the words of whoever reports it. -/
  | described (text : String)
deriving DecidableEq, Repr

def Malformation.message : Malformation → String
  | .trailingEscape => "trailing escape character at end of input"
  | .unmatchedQuote quote => "unmatched quote " ++ quote.toString
  | .described text => text

/-- The character to which a malformation points. -/
def Malformation.delimiter? : Malformation → Option Char
  | .trailingEscape => some '\\'
  | .unmatchedQuote quote => some quote
  | .described _ => none

/-- Why a parameter has no value. -/
inductive Lack where
  | noPositional
  /-- The option was given without the value that its type needs. -/
  | noOptionValue (token : String)
  /-- An option of the given type was not given and has nothing to fall back on. -/
  | notGiven (type : String)
deriving DecidableEq, Repr

def Lack.message : Lack → String
  | .noPositional => "no positional argument left"
  | .noOptionValue token => s!"option {token} requires a value"
  | .notGiven type => s!"required option of type {type} was not given"

/-- Why a declaration is unsound. -/
inductive DeclarationFlaw where
  /-- A command name that is empty or starts with a dash. -/
  | commandName
  /-- A group of global options that is no bean option. -/
  | groupKind (group : String)
  /-- A bean member that is neither an option nor a bean option. -/
  | beanMember (member : String)
  /-- An option, bean option or internal parameter without a name. -/
  | unnamedParameter
deriving DecidableEq, Repr

def DeclarationFlaw.message : DeclarationFlaw → String
  | .commandName => "command names must be non-empty and must not start with '-'"
  | .groupKind group => s!"global group '{group}' must be a bean option"
  | .beanMember member => s!"bean member '{member}' must be an option or a bean option"
  | .unnamedParameter => "option, bean option and internal parameters need a name"

/-- Why a converter refuses a text. -/
inductive Refusal where
  | notBoolean (text : String)
  | notInteger (text : String)
  | notNumber (text : String)
  | notOneCharacter (text : String)
  | notDate (text : String)
  | notTimestamp (text : String)
  | notRegex (text : String)
  | notGlob (text : String)
  /-- A refusal in the words of the converter. -/
  | described (text : String)
deriving DecidableEq, Repr

def Refusal.message : Refusal → String
  | .notBoolean text => s!"'{text}' is not a boolean"
  | .notInteger text => s!"'{text}' is not an integer"
  | .notNumber text => s!"'{text}' is not a number"
  | .notOneCharacter text => s!"expected exactly one character, got '{text}'"
  | .notDate text => s!"'{text}' is not a date (YYYY-MM-DD)"
  | .notTimestamp text => s!"'{text}' is not an RFC 3339 timestamp"
  | .notRegex text => s!"invalid regex '{text}'"
  | .notGlob text => s!"invalid glob '{text}'"
  | .described text => text

/-- Why a raw value is not a value of the wanted type. -/
inductive ConversionFailure where
  /-- A value that is neither text nor of the wanted type. -/
  | typeMismatch (name expected found : String)
  | noConverter (name key : String)
  /-- The text names no constant of the enum. -/
  | unknownConstant (name value enum : String) (constants : List String)
  /-- The converter of the type refused the text. -/
  | refused (name value type : String) (cause : Refusal)
deriving DecidableEq, Repr

def ConversionFailure.message : ConversionFailure → String
  | .typeMismatch name expected found =>
    s!"Type mismatch for '{name}': expected {expected}, found {found}"
  | .noConverter name key => s!"No converter registered for type '{key}' (parameter '{name}')"
  | .unknownConstant name value enum constants =>
    s!"Invalid value '{value}' for '{name}': not a constant of {enum} ("
      ++ ", ".intercalate constants ++ ")"
  | .refused name value type _ => s!"Cannot convert '{value}' to {type} for '{name}'"

/-- Why a catalog document cannot be read: it is not well formed, it ends early, or it is well
formed and has the wrong shape. -/
inductive DocumentFlaw where
  | notWellFormed
  | endsEarly
  | wrongShape
deriving DecidableEq, Repr

/-- Why a catalog cannot be loaded. -/
inductive CatalogFlaw where
  | document (flaw : DocumentFlaw)
  | emptyEnum (name : String)
  | repeatedEnum (name : String)
  | unknownTarget (command target : String) (available : List String)
  | emptyTypeName
  | unknownEnum (name : String)
deriving DecidableEq, Repr

def CatalogFlaw.message : CatalogFlaw → String
  | .document _ => "invalid catalog document"
  | .emptyEnum name => s!"enum '{name}' declares no constants"
  | .repeatedEnum name => s!"enum '{name}' is declared twice"
  | .unknownTarget command target available =>
    s!"command '{command}' uses unknown target '{target}' (available: "
      ++ ", ".intercalate available ++ ")"
  | .emptyTypeName => "empty type name"
  | .unknownEnum name => s!"unknown enum type '{name}'"

/-- Why the settings are refused. -/
inductive SettingsFlaw where
  | notAnAssignment (text : String)
  | missingCatalog (path : String)
  | noCatalog
  /-- A property name that could be read as the start of a reference. -/
  | reservedName (name : String)
  /-- A flaw in the words of whoever reports it. -/
  | described (text : String)
deriving DecidableEq, Repr

def SettingsFlaw.message : SettingsFlaw → String
  | .notAnAssignment text => s!"Expected key=value, got '{text}'"
  | .missingCatalog path => s!"Catalog file not found: {path}"
  | .noCatalog => "No catalog file configured"
  | .reservedName name => "Property names must not contain '$\x7b': " ++ name
  | .described text => text

/-- A failure of any operation of the library. -/
inductive Fault where
  | malformedInput (cause : Malformation)
  /-- An empty line, an empty stage of a pipeline, or arguments without a command name. -/
  | emptyCommand
  | unknownCommand (name : String) (suggestion : Option String)
  | missingArgument (parameter : String) (cause : Lack)
  /-- An option token that no declared option took. -/
  | unknownOption (token : String)
  /-- A positional that no parameter took. -/
  | unexpectedArgument (value : String)
  | duplicateOptionName (command option : String)
  | duplicateCommand (name : String)
  | invalidDeclaration (command : String) (flaw : DeclarationFlaw)
  | conversion (failure : ConversionFailure)
  /-- A reference that leads back to itself, with the names on the way. -/
  | cyclicSubstitution (chain : List String)
  | validation (violations : List String)
  | unresolvedInterceptor (command interceptor : String)
  /-- The target of the command failed, for the stated cause. -/
  | execution (command cause : String)
  | catalog (path : String) (flaw : CatalogFlaw)
  | fileSystem (operation path : String)
  | process (command : String) (exitCode : Option Int) (stdout stderr : String)
  | settings (flaw : SettingsFlaw)
deriving DecidableEq, Repr

namespace Fault

/-- The wording of a fault. -/
def message : Fault → String
  | malformedInput cause => "Malformed input: " ++ cause.message
  | emptyCommand => "Empty command"
  | unknownCommand name none => s!"Unknown command: {name}"
  | unknownCommand name (some suggestion) =>
    s!"Unknown command: {name} (did you mean '{suggestion}'?)"
  | missingArgument parameter cause => s!"Missing argument '{parameter}': " ++ cause.message
  | unknownOption token => s!"Unknown option: {token}"
  | unexpectedArgument value => s!"Unexpected argument: {value}"
  | duplicateOptionName command option =>
    s!"Duplicate option name '--{option}' in command '{command}'"
  | duplicateCommand name => s!"Duplicate command name: {name}"
  | invalidDeclaration command flaw => s!"Invalid declaration for '{command}': " ++ flaw.message
  | conversion failure => failure.message
  | cyclicSubstitution chain => "Cyclic substitution: " ++ "->".intercalate chain
  | validation violations => "Validation failed: " ++ "; ".intercalate violations
  | unresolvedInterceptor command interceptor =>
    s!"Unresolved interceptor '{interceptor}' for command '{command}'"
  | execution command _ => s!"Command '{command}' failed"
  | catalog _ flaw => "Catalog error: " ++ flaw.message
  | fileSystem operation path => s!"File system error: {operation} failed on {path}"
  | process command _ _ _ => s!"Process error: {command} failed"
  | settings flaw => "Configuration error: " ++ flaw.message

/-- A fault of the declarations themselves, found before anything can be invoked. -/
def isBuildTime : Fault → Bool
  | duplicateOptionName .. | duplicateCommand .. | invalidDeclaration .. | catalog .. => true
  | _ => false

end Fault

end CommandLine
