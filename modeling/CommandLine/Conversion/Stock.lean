import CommandLine.Calendar
import CommandLine.Conversion.Basic
import CommandLine.Decimal.Reading
import CommandLine.Pattern.Glob
import CommandLine.Pattern.Regex

/-!
The stock converters. Blanks around booleans, numbers, dates and timestamps do not count;
characters, paths and patterns are taken as they are.
-/

namespace CommandLine.Converters

namespace Stock

/-- The boolean that a word stands for, in lower case. -/
def truth? (word : String) : Option Bool :=
  if ["true", "yes", "on", "1"].contains word then some true
  else if ["false", "no", "off", "0"].contains word then some false
  else none

def bool : Converter := fun text =>
  match truth? (String.ofList ((Text.trimChars text.toList).map Char.toLower)) with
  | some b => .ok (.bool b)
  | none => .error (.notBoolean text)

def int : Converter := fun text =>
  match Decimal.word? (Text.trimChars text.toList) with
  | some n => .ok (.int n)
  | none => .error (.notInteger text)

def float : Converter := fun text =>
  match Decimal.double? (Text.trimChars text.toList) with
  | some x => .ok (.float x)
  | none => .error (.notNumber text)

def char : Converter := fun text =>
  match text.toList with
  | [c] => .ok (.text (String.ofList [c]))
  | _ => .error (.notOneCharacter text)

def date : Converter := fun text =>
  match Date.read? (Text.trimChars text.toList) with
  | some d => .ok (.custom "date" d.write)
  | none => .error (.notDate text)

def datetime : Converter := fun text =>
  match Timestamp.read? (Text.trimChars text.toList) with
  | some t => .ok (.custom "datetime" t.write)
  | none => .error (.notTimestamp text)

def path : Converter := fun text => .ok (.custom "path" text)

def regex : Converter := fun text =>
  if Pattern.isRegex text.toList then .ok (.custom "regex" text) else .error (.notRegex text)

def glob : Converter := fun text =>
  if Pattern.isGlob text.toList then .ok (.custom "glob" text) else .error (.notGlob text)

end Stock

/-- The registry of the stock converters. -/
def stock : Converters :=
  ⟨.ofList [("bool", Stock.bool), ("int", Stock.int), ("float", Stock.float),
    ("char", Stock.char), ("date", Stock.date), ("datetime", Stock.datetime),
    ("path", Stock.path), ("regex", Stock.regex), ("glob", Stock.glob)]⟩

end CommandLine.Converters
