import CommandLine.Decimal.Integer
import CommandLine.Fault
import CommandLine.Text.Hexadecimal

/-!
Typed reading of JSON. A reader knows what it wants and takes it from the front of a text, in one
pass, so that the first flaw of the text is the one that is reported. Words, numbers and texts in
the wrong place are read to their end first, and may be flawed themselves; lists and objects are
refused at their bracket.

The nesting of lists and objects is limited. What is read inside of brackets is therefore given as
an option: there is none where no more brackets may be opened.
-/

namespace CommandLine

/-- Takes a value from the front of a text. -/
abbrev Reader (α : Type) := List Char → Except DocumentFlaw (α × List Char)

namespace Reader

/-! ## Lexical forms -/

/-- The blanks of JSON. -/
def isBlank (c : Char) : Bool := c == ' ' || c == '\n' || c == '\t' || c == '\r'

def skipBlanks (text : List Char) : List Char := text.dropWhile isBlank

/-- The rest of a word that has been begun. -/
def word : List Char → Reader Unit
  | [], text => .ok ((), text)
  | _ :: _, [] => .error .endsEarly
  | c :: rest, d :: text => if c = d then word rest text else .error .notWellFormed

/-- Four hexadecimal digits. A text of fewer than four bytes ends early, whatever it holds. -/
def unit : Reader Nat := fun text =>
  if (String.ofList (text.take 4)).utf8ByteSize < 4 then .error .endsEarly
  else match text with
    | a :: b :: c :: d :: rest =>
      if [a, b, c, d].all Text.isHexDigit then .ok (Text.hexValue [a, b, c, d], rest)
      else .error .notWellFormed
    | _ => .error .notWellFormed

/-- A character outside of the first plane, by the two units that write it. -/
def paired (high low : Nat) : Char :=
  Char.ofNat (((high - 0xD800) <<< 10) + (low - 0xDC00) + 0x10000)

/-- The second of the two units of a character. -/
def lowUnit : Reader Nat
  | [] => .error .endsEarly
  | ['\\'] => .error .endsEarly
  | '\\' :: 'u' :: rest => (unit rest).bind fun (low, rest) =>
    if 0xDC00 ≤ low ∧ low ≤ 0xDFFF then .ok (low, rest) else .error .notWellFormed
  | _ => .error .notWellFormed

/-- A character written as one unit or two, after the `u`. -/
def escapedUnit : Reader Char := fun text =>
  (unit text).bind fun (n, rest) =>
    if 0xDC00 ≤ n ∧ n ≤ 0xDFFF then .error .notWellFormed
    else if 0xD800 ≤ n ∧ n ≤ 0xDBFF then
      (lowUnit rest).map fun (low, rest) => (paired n low, rest)
    else .ok (Char.ofNat n, rest)

/-- What an escaped character stands for, if it stands for one character. -/
def escaped? : Char → Option Char
  | '"' => some '"'
  | '\\' => some '\\'
  | '/' => some '/'
  | 'b' => some '\x08'
  | 'f' => some '\x0c'
  | 'n' => some '\n'
  | 'r' => some '\r'
  | 't' => some '\t'
  | _ => none

/-- One character of a text, with or without an escape; none at the closing quote. -/
def character : Reader (Option Char)
  | [] => .error .endsEarly
  | '"' :: rest => .ok (none, rest)
  | ['\\'] => .error .endsEarly
  | '\\' :: 'u' :: rest => (escapedUnit rest).map fun (c, rest) => (some c, rest)
  | '\\' :: c :: rest =>
    match escaped? c with
    | some c => .ok (some c, rest)
    | none => .error .notWellFormed
  | c :: rest => if c.toNat < 0x20 then .error .notWellFormed else .ok (some c, rest)

/-- The characters up to the closing quote, of which there are at most `limit`. -/
def quotedUpTo : Nat → Reader (List Char)
  | 0, _ => .error .endsEarly
  | limit + 1, text => (character text).bind fun
    | (none, rest) => .ok ([], rest)
    | (some c, rest) => (quotedUpTo limit rest).map fun (cs, rest) => (c :: cs, rest)

/-- A text, after its opening quote. -/
def quoted : Reader String := fun text =>
  (quotedUpTo (text.length + 1) text).map fun (cs, rest) => (String.ofList cs, rest)

/-! ## Numbers

No number is wanted anywhere, but one in the wrong place may be flawed. -/

/-- The leading digits of a number, as far as they fit in 64 bits, and the power of ten that they
are to be multiplied with. -/
structure Magnitude where
  significand : Nat := 0
  exponent : Int := 0

namespace Magnitude

/-- One more digit in front of the decimal point. -/
def beforePoint (m : Magnitude) (d : Nat) : Magnitude :=
  if 10 * m.significand + d < UInt64.size then { m with significand := 10 * m.significand + d }
  else { m with exponent := m.exponent + 1 }

/-- One more digit behind the decimal point. -/
def behindPoint (m : Magnitude) (d : Nat) : Magnitude :=
  if 10 * m.significand + d < UInt64.size then ⟨10 * m.significand + d, m.exponent - 1⟩ else m

/-- The number is too large for a double. -/
def isTooLarge (m : Magnitude) : Bool :=
  m.significand != 0 && m.exponent ≥ 0 &&
    (m.exponent > 308 ||
      (Float.ofNat m.significand * Float.ofScientific 1 false m.exponent.toNat).isInf)

end Magnitude

/-- Some digits, the first of which is given, added up by `add`. -/
def digits (add : Magnitude → Nat → Magnitude) (m : Magnitude) :
    List Char → Magnitude × List Char
  | [] => (m, [])
  | c :: rest =>
    match Decimal.digit? c with
    | some d => digits add (add m d) rest
    | none => (m, c :: rest)

/-- The flaw of a value that is well formed and not wanted, unless it is a number out of range. -/
def flawOf (m : Magnitude) : DocumentFlaw :=
  if m.isTooLarge then .notWellFormed else .wrongShape

/-- The value of digits, from the left. -/
def naturalOf (cs : List Char) : Nat :=
  cs.foldl (fun n c => 10 * n + (Decimal.digit? c).getD 0) 0

/-- The flaw of a number from its exponent on, after the `e`. -/
def exponentFlaw (m : Magnitude) (text : List Char) : DocumentFlaw :=
  let (negative, text) := match text with
    | '-' :: rest => (true, rest)
    | '+' :: rest => (false, rest)
    | rest => (false, rest)
  match text with
  | [] => .endsEarly
  | c :: _ =>
    if Decimal.isDigit c then
      let n : Int := naturalOf (text.takeWhile Decimal.isDigit)
      flawOf { m with exponent := if negative then m.exponent - n else m.exponent + n }
    else .notWellFormed

/-- The flaw of a number after its integer part, or after its decimals. -/
def tailFlaw (m : Magnitude) : List Char → DocumentFlaw
  | 'e' :: rest | 'E' :: rest => exponentFlaw m rest
  | _ => flawOf m

/-- The flaw of a number after its integer part. -/
def fractionFlaw (m : Magnitude) : List Char → DocumentFlaw
  | ['.'] => .endsEarly
  | '.' :: c :: rest =>
    if Decimal.isDigit c then
      let (m, rest) := digits .behindPoint m (c :: rest)
      tailFlaw m rest
    else .notWellFormed
  | text => tailFlaw m text

/-- The flaw of a number in the wrong place, after its sign. -/
def numberFlaw : List Char → DocumentFlaw
  | [] => .endsEarly
  | '0' :: rest =>
    if (rest.head?.any Decimal.isDigit) then .notWellFormed else fractionFlaw {} rest
  | c :: rest =>
    if Decimal.isDigit c then
      let (m, rest) := digits .beforePoint {} (c :: rest)
      fractionFlaw m rest
    else .notWellFormed

/-! ## Values -/

/-- The flaw of a reading that has been begun, or of the value that it yields. -/
def flawAfter (r : Except DocumentFlaw α) : DocumentFlaw :=
  match r with
  | .error flaw => flaw
  | .ok _ => .wrongShape

/-- The flaw of a text at whose front something else is wanted. -/
def unwanted : List Char → DocumentFlaw
  | 'n' :: rest => flawAfter (word ['u', 'l', 'l'] rest)
  | 't' :: rest => flawAfter (word ['r', 'u', 'e'] rest)
  | 'f' :: rest => flawAfter (word ['a', 'l', 's', 'e'] rest)
  | '"' :: rest => flawAfter (quoted rest)
  | '-' :: rest => numberFlaw rest
  | '[' :: _ | '{' :: _ => .wrongShape
  | c :: rest => if Decimal.isDigit c then numberFlaw (c :: rest) else .notWellFormed
  | [] => .endsEarly

/-- A text. -/
def text : Reader String := fun s =>
  match skipBlanks s with
  | '"' :: rest => quoted rest
  | other => .error (unwanted other)

/-- A boolean. -/
def flag : Reader Bool := fun s =>
  match skipBlanks s with
  | 't' :: rest => (word ['r', 'u', 'e'] rest).map fun (_, rest) => (true, rest)
  | 'f' :: rest => (word ['a', 'l', 's', 'e'] rest).map fun (_, rest) => (false, rest)
  | other => .error (unwanted other)

/-- A null. -/
def null : Reader Unit := fun s =>
  match skipBlanks s with
  | 'n' :: rest => word ['u', 'l', 'l'] rest
  | other => .error (unwanted other)

/-- A value, or nothing for a null. -/
def orNull (value : Reader α) : Reader (Option α) := fun s =>
  match skipBlanks s with
  | 'n' :: rest => (word ['u', 'l', 'l'] rest).map fun (_, rest) => (none, rest)
  | other => (value other).map fun (a, rest) => (some a, rest)

/-- A colon, after a name. -/
def colon : Reader Unit := fun s =>
  match skipBlanks s with
  | ':' :: rest => .ok ((), rest)
  | [] => .error .endsEarly
  | _ => .error .notWellFormed

/-- Whether a list goes on, and if so the text from its next element on. The closing bracket is
left where it is. -/
def nextElement (isFirst : Bool) : Reader Bool := fun s =>
  match skipBlanks s with
  | [] => .error .endsEarly
  | ']' :: rest => .ok (false, ']' :: rest)
  | c :: rest =>
    if isFirst then .ok (true, c :: rest)
    else if c = ',' then
      match skipBlanks rest with
      | [] => .error .endsEarly
      | ']' :: _ => .error .notWellFormed
      | other => .ok (true, other)
    else .error .notWellFormed

/-- The closing bracket of a list that has no more elements. -/
def endOfList : Reader Unit := fun s =>
  match skipBlanks s with
  | ']' :: rest => .ok ((), rest)
  | [] => .error .endsEarly
  | _ => .error .notWellFormed

/-- The elements of a list, of which there are at most `limit`. -/
def elements (element : Reader α) : Nat → Bool → Reader (List α)
  | 0, _, _ => .error .endsEarly
  | limit + 1, isFirst, s => (nextElement isFirst s).bind fun
    | (false, rest) => .ok ([], rest)
    | (true, rest) => (element rest).bind fun (a, rest) =>
      (elements element limit false rest).map fun (as, rest) => (a :: as, rest)

/-- A list. -/
def list (element? : Option (Reader α)) : Reader (List α) := fun s =>
  match skipBlanks s with
  | '[' :: rest =>
    match element? with
    | none => .error .notWellFormed
    | some element => do
      let (as, rest) ← elements element (rest.length + 1) true rest
      let (_, rest) ← endOfList rest
      return (as, rest)
  | other => .error (unwanted other)

/-! ## Records -/

/-- A field of a record that is being read: its name, and the record with a value read for it. -/
structure Field (σ : Type) where
  name : String
  isGiven : σ → Bool
  read : σ → Reader σ

/-- A field that takes what a reader yields. -/
def Field.of (name : String) (get : σ → Option α) (set : σ → α → σ) (value : Reader α) :
    Field σ where
  name
  isGiven draft := (get draft).isSome
  read draft := fun s => (value s).map fun (a, rest) => (set draft a, rest)

/-- Whether an object goes on, and if so the text after the opening quote of its next name. The
closing brace is left where it is. -/
def nextMember (isFirst : Bool) : Reader Bool := fun s =>
  match skipBlanks s with
  | [] => .error .endsEarly
  | '}' :: rest => .ok (false, '}' :: rest)
  | ',' :: rest =>
    if isFirst then .error .notWellFormed
    else match skipBlanks rest with
      | [] => .error .endsEarly
      | '"' :: rest => .ok (true, rest)
      | _ => .error .notWellFormed
  | '"' :: rest => if isFirst then .ok (true, rest) else .error .notWellFormed
  | _ => .error .notWellFormed

/-- The members of an object, of which there are at most `limit`. A name that is unknown or has
been given before is refused where it stands. -/
def members (fields : List (Field σ)) : Nat → Bool → σ → Reader σ
  | 0, _, _, _ => .error .endsEarly
  | limit + 1, isFirst, draft, s => (nextMember isFirst s).bind fun
    | (false, rest) => .ok (draft, rest)
    | (true, rest) => (quoted rest).bind fun (name, rest) =>
      match fields.find? (·.name == name) with
      | none => .error .wrongShape
      | some field =>
        if field.isGiven draft then .error .wrongShape
        else (colon rest).bind fun (_, rest) =>
          (field.read draft rest).bind fun (draft, rest) =>
            members fields limit false draft rest

/-- The fields of a record that is written as a list, in their order. Those at the end may be left
out. -/
def positional : List (Field σ) → Bool → σ → Reader σ
  | [], _, draft, s => .ok (draft, s)
  | field :: fields, isFirst, draft, s => (nextElement isFirst s).bind fun
    | (false, rest) => .ok (draft, rest)
    | (true, rest) => (field.read draft rest).bind fun (draft, rest) =>
      positional fields false draft rest

/-- What a draft makes, if it is complete. -/
def complete (finish : σ → Option α) (draft : σ) : Except DocumentFlaw α :=
  match finish draft with
  | some a => .ok a
  | none => .error .wrongShape

/-- A record, as an object or as a list of its fields. -/
def record (fields? : Option (List (Field σ))) (draft : σ) (finish : σ → Option α) :
    Reader α := fun s =>
  match skipBlanks s with
  | '[' :: rest =>
    match fields? with
    | none => .error .notWellFormed
    | some fields => do
      let (draft, rest) ← positional fields true draft rest
      let a ← complete finish draft
      let (_, rest) ← endOfList rest
      return (a, rest)
  | '{' :: rest =>
    match fields? with
    | none => .error .notWellFormed
    | some fields => do
      let (draft, rest) ← members fields (rest.length + 1) true draft rest
      let a ← complete finish draft
      return (a, rest.tail)
  | other => .error (unwanted other)

/-- The name of one of several cases. Nothing but a text may be in its place. -/
def caseName (cases : String → Option α) : Reader α := fun s =>
  match skipBlanks s with
  | '"' :: rest => do
    let (name, rest) ← quoted rest
    match cases name with
    | some a => return (a, rest)
    | none => .error .wrongShape
  | [] => .error .endsEarly
  | _ => .error .notWellFormed

/-- One of several cases without contents: its name, or an object in which the name has a null. -/
def variant (canOpen : Bool) (cases : String → Option α) : Reader α := fun s =>
  match skipBlanks s with
  | '{' :: rest =>
    if canOpen then do
      let (a, rest) ← caseName cases rest
      let (_, rest) ← colon rest
      let (_, rest) ← null rest
      match skipBlanks rest with
      | '}' :: rest => return (a, rest)
      | [] => .error .endsEarly
      | _ => .error .notWellFormed
    else .error .notWellFormed
  | other => caseName cases other

/-- A whole text. -/
def whole (value : Reader α) (s : String) : Except DocumentFlaw α := do
  let (a, rest) ← value s.toList
  if (skipBlanks rest).isEmpty then return a else .error .notWellFormed

end Reader

end CommandLine
