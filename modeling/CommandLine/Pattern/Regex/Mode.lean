import CommandLine.Decimal.Integer
import CommandLine.Pattern.CaseFolding
import CommandLine.Pattern.Expression.Basic
import CommandLine.Text.Blank

/-!
How the text of a regular expression is read: the switches that are on, the blanks that do not
count, and the numbers of a repetition.
-/

namespace CommandLine.Pattern.Regex

/-- The switches that decide how a text is read. -/
structure Mode where
  /-- Blanks and comments do not count. -/
  verbose : Bool := false
  /-- Characters are code points; otherwise they are bytes, and what could match a part of an
  encoded character is refused. -/
  unicode : Bool := true
  ignoreCase : Bool := false
  /-- `^` and `$` stand for the ends of lines. -/
  manyLines : Bool := false
  /-- `.` stands for line ends as well. -/
  dotAll : Bool := false
  /-- Lines may end with carriage returns. -/
  carriageReturns : Bool := false
  /-- Repetitions prefer less, and those with a question mark more. -/
  lazy : Bool := false

namespace Mode

/-- The set as it is when case may not count. -/
def fold (m : Mode) (s : CharacterSet) : CharacterSet :=
  if !m.ignoreCase then s else if m.unicode then s.caseClosure else s.asciiCaseClosure

/-- A character of a set. -/
def ofSet (m : Mode) (s : CharacterSet) : Expression := .ofSet s !m.unicode

/-- A character that stands for itself. -/
def literal (m : Mode) (c : Char) : Expression :=
  m.ofSet <|
    if !m.ignoreCase then .singleton c
    else if m.unicode then .caseVariants c
    else (CharacterSet.singleton c).asciiCaseClosure

/-- Any character, but the ends of lines as a rule. -/
def dot (m : Mode) : Expression :=
  m.ofSet <|
    if m.dotAll then .everything
    else if m.carriageReturns then (CharacterSet.singleton '\n' ∪ .singleton '\r').complement
    else (CharacterSet.singleton '\n').complement

def start (m : Mode) : Place := if m.manyLines then .lineStart m.carriageReturns else .textStart

def stop (m : Mode) : Place := if m.manyLines then .lineEnd m.carriageReturns else .textEnd

/-- The mode after switches, which stand with the last one first. -/
def switch (m : Mode) (seen : List Char) : Mode :=
  let letters := seen.reverse
  let on := letters.takeWhile (· != '-')
  let off := letters.dropWhile (· != '-')
  let now (letter : Char) (before : Bool) := (before || on.contains letter) && !off.contains letter
  { verbose := now 'x' m.verbose
    unicode := now 'u' m.unicode
    ignoreCase := now 'i' m.ignoreCase
    manyLines := now 'm' m.manyLines
    dotAll := now 's' m.dotAll
    carriageReturns := now 'R' m.carriageReturns
    lazy := now 'U' m.lazy }

end Mode

/-! ## Blanks and numbers -/

/-- Drops blanks, and comments from `#` to the end of their line. -/
def skipBlanks (inComment : Bool) : List Char → List Char
  | [] => []
  | c :: rest =>
    if inComment then skipBlanks (c != '\n') rest
    else if Text.isBlank c then skipBlanks false rest
    else if c == '#' then skipBlanks true rest
    else c :: rest

def Mode.skip (m : Mode) (s : List Char) : List Char :=
  if m.verbose then skipBlanks false s else s

theorem length_skipBlanks_le (inComment : Bool) (s : List Char) :
    (skipBlanks inComment s).length ≤ s.length := by
  fun_induction skipBlanks inComment s <;> grind

theorem Mode.length_skip_le (m : Mode) (s : List Char) : (m.skip s).length ≤ s.length := by
  unfold Mode.skip
  split
  · exact length_skipBlanks_le false s
  · exact Nat.le_refl _

/-- The characters of a kind at the front, at most so many if there is a limit, and what follows.
Blanks may stand between them. -/
def run (m : Mode) (p : Char → Bool) (limit? : Option Nat) : List Char → List Char × List Char
  | [] => ([], [])
  | c :: rest =>
    if limit? ≠ some 0 ∧ p c then
      (run m p (limit?.map (· - 1)) (m.skip rest)).map (c :: ·) id
    else ([], c :: rest)
termination_by s => s.length
decreasing_by
  have := m.length_skip_le rest
  simp only [List.length_cons]
  omega

/-- A count in a repetition, if it is a number of 32 bits, and what follows. -/
def count (m : Mode) (s : List Char) : Option Nat × List Char :=
  let s := s.dropWhile Text.isBlank
  let (digits, rest) := run m Decimal.isDigit none s
  ((Decimal.natural? digits).filter (· < UInt32.size), m.skip (rest.dropWhile Text.isBlank))

/-- The bounds of a repetition, behind the opening brace, and what follows the closing one. -/
def bounds? (m : Mode) (s : List Char) : Option ((Nat × Option Nat) × List Char) :=
  match count m (m.skip s) with
  | (some least, '}' :: rest) => some ((least, some least), rest)
  | (some least, ',' :: rest) =>
    match m.skip rest with
    | '}' :: rest => some ((least, none), rest)
    | s =>
      match count m s with
      | (some most, '}' :: rest) => if least ≤ most then some ((least, some most), rest) else none
      | _ => none
  | _ => none

end CommandLine.Pattern.Regex
