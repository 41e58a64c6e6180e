import CommandLine.Pattern.Property
import CommandLine.Pattern.Regex.Mode

/-!
Escapes in regular expressions: what a backslash and the text behind it stand for.
-/

namespace CommandLine.Pattern.Regex

/-- What an escape or a single character stands for. -/
inductive Primitive where
  /-- A character; `byte` when it was written as a byte in two hexadecimal digits. -/
  | literal (c : Char) (byte : Bool)
  /-- A character of a set. -/
  | set (s : CharacterSet)
  /-- A place between characters. -/
  | place (p : Place)

/-- The character with the code that hexadecimal digits write. -/
def hexChar? (digits : List Char) : Option Char :=
  let code := Text.hexValue digits
  if code.isValidChar then some (Char.ofNat code) else none

/-- A character by its code: so many digits, or any number of them in braces. -/
def hex? (m : Mode) (width : Nat) (s : List Char) : Option (Primitive × List Char) :=
  match m.skip s with
  | '{' :: rest =>
    match run m Text.isHexDigit none (m.skip rest) with
    | (d :: ds, '}' :: rest) => (hexChar? (d :: ds)).map fun c => (.literal c false, m.skip rest)
    | _ => none
  | s =>
    let (digits, rest) := run m Text.isHexDigit (some width) s
    if digits.length = width then
      (hexChar? digits).map fun c => (.literal c (width == 2), rest)
    else none

/-- Letters, digits and blanks of ASCII. -/
def asciiDigits : CharacterSet := .ofText ["30-39"]

def asciiBlanks : CharacterSet := .ofText ["9-D 20"]

def asciiWord : CharacterSet := .ofText ["30-39 41-5A 5F 61-7A"]

def digits : CharacterSet := Property.digits.characters

def blanks : CharacterSet := .ofRanges Text.blankRanges

def wordCharacters : CharacterSet := Property.wordCharacters.characters

/-- The class that a letter behind a backslash stands for. In byte mode there are none that hold
more than ASCII. -/
def classOfLetter? (m : Mode) : Char → Option CharacterSet
  | 'd' => some (if m.unicode then digits else asciiDigits)
  | 's' => some (if m.unicode then blanks else asciiBlanks)
  | 'w' => some (if m.unicode then wordCharacters else asciiWord)
  | 'D' => if m.unicode then some digits.complement else none
  | 'S' => if m.unicode then some blanks.complement else none
  | 'W' => if m.unicode then some wordCharacters.complement else none
  | _ => none

/-- A class by Unicode property, behind its `p` or `P`: one letter, or a name in braces. In byte
mode there is none. -/
def property? (m : Mode) (negated : Bool) (s : List Char) : Option (Primitive × List Char) :=
  let class' := fun (set : CharacterSet) (complemented : Bool) =>
    Primitive.set (if negated != complemented then (m.fold set).complement else m.fold set)
  if !m.unicode then none
  else match m.skip s with
    | '{' :: rest =>
      match run m (· != '}') none (m.skip rest) with
      | (name, '}' :: rest) =>
        (Property.class? name).map fun (set, complemented) => (class' set complemented, rest)
      | _ => none
    | '\\' :: _ | [] => none
    | c :: rest =>
      (Property.named? (Property.loose [c])).map fun set => (class' set false, m.skip rest)

/-- The kinds of word boundary in braces behind `\b`. -/
def boundaryOfName? (name : List Char) : Option WordPlace :=
  match String.ofList name with
  | "start" => some .start
  | "end" => some .stop
  | "start-half" => some .halfStart
  | "end-half" => some .halfStop
  | _ => none

/-- What follows `\b`. A brace that does not open a kind of boundary is left for a repetition. -/
def boundary? (m : Mode) (s : List Char) : Option (WordPlace × List Char) :=
  let isNameChar := fun c : Char => ('a' ≤ c && c ≤ 'z') || ('A' ≤ c && c ≤ 'Z') || c == '-'
  match s with
  | '{' :: rest =>
    match run m isNameChar none (m.skip rest) with
    | ([], []) => none
    | ([], _) => some (.boundary, s)
    | (name, '}' :: rest) => (boundaryOfName? name).map fun place => (place, rest)
    | _ => none
  | _ => some (.boundary, s)

/-- The signs of the syntax, and all other ASCII characters that are neither letters nor digits,
may be escaped; only angle brackets have a meaning of their own. -/
def isEscapable (c : Char) : Bool :=
  c.toNat < 0x80 && !Decimal.isDigit c && !('a' ≤ c && c ≤ 'z') && !('A' ≤ c && c ≤ 'Z')
    && c != '<' && c != '>'

/-- The control character for which a letter behind a backslash stands. -/
def control? : Char → Option Char
  | 'a' => some '\x07'
  | 'f' => some '\x0c'
  | 't' => some '\t'
  | 'n' => some '\n'
  | 'r' => some '\r'
  | 'v' => some '\x0b'
  | _ => none

/-- What the text behind a backslash stands for. In byte mode nothing may match a part of an encoded
character. -/
def escape? (m : Mode) : List Char → Option (Primitive × List Char)
  | [] => none
  | 'x' :: rest =>
    (hex? m 2 rest).filter fun (p, _) => match p with
      | .literal c byte => m.unicode || !byte || c.toNat < 0x80
      | _ => true
  | 'u' :: rest => hex? m 4 rest
  | 'U' :: rest => hex? m 8 rest
  | 'p' :: rest => property? m false rest
  | 'P' :: rest => property? m true rest
  | 'b' :: rest => (boundary? m rest).map fun (p, rest) => (.place (.word p !m.unicode), rest)
  | 'B' :: rest => some (.place (.word .noBoundary !m.unicode), rest)
  | '<' :: rest => some (.place (.word .start !m.unicode), rest)
  | '>' :: rest => some (.place (.word .stop !m.unicode), rest)
  | 'A' :: rest => some (.place .textStart, rest)
  | 'z' :: rest => some (.place .textEnd, rest)
  | c :: rest =>
    if "dswDSW".toList.contains c then (classOfLetter? m c).map fun set => (.set set, rest)
    else
      match control? c with
      | some control => some (.literal control false, rest)
      | none => if isEscapable c then some (.literal c false, rest) else none

end CommandLine.Pattern.Regex
