import CommandLine.Line

/-!
# The grammar of lines

A line consists of stages with bars between them, a stage of fields with blanks around and between
them, and a field of pieces: plain characters, escaped characters and quoted regions. `Derives`
relates the characters of a line to the stages that they stand for.

Not every line derives. A `Reading` takes any line apart in the same words, with stages that may be
empty and with an end that may break off, and `Reading.Refuses` says why the line is refused.
-/

namespace CommandLine.Line

/-! ## Quoted regions -/

/-- What stands in a quoted region. -/
inductive Item where
  /-- A backslash and a character, which is meant. -/
  | pair (c : Char)
  | single (c : Char)
deriving DecidableEq

namespace Item

def chars : Item → List Char
  | pair c => ['\\', c]
  | single c => [c]

/-- The character that is meant. -/
def value : Item → Char
  | pair c | single c => c

end Item

/-- A quote that follows these items directly is literal. -/
def shields (items : List Item) : Bool := items.getLast? == some (.pair '\\')

/-- The items can follow an opening quote, and do not close the region: a backslash always takes
the next character, and each quote among them is literal. -/
structure StaysOpen (quote : Char) (items : List Item) : Prop where
  no_backslash : .single '\\' ∉ items
  quote_literal : ∀ before after, items = before ++ .single quote :: after → shields before

/-- A quoted region, without its closing quote. -/
structure Region where
  quote : Char
  items : List Item
  isQuote_quote : isQuote quote = true
  staysOpen : StaysOpen quote items

namespace Region

def chars (r : Region) : List Char := r.quote :: r.items.flatMap Item.chars

def value (r : Region) : List Char := r.items.map Item.value

end Region

/-! ## Fields -/

/-- The character has no meaning of its own in a line. -/
structure IsPlain (c : Char) : Prop where
  not_blank : Text.isBlank c = false
  not_quote : isQuote c = false
  ne_backslash : c ≠ '\\'
  ne_bar : c ≠ '|'

/-- A piece of a field. -/
inductive Piece where
  | plain (c : Char) (h : IsPlain c)
  | escape (c : Char)
  /-- A region, closed by the first quote that is not literal. -/
  | region (r : Region) (h : shields r.items = false)

namespace Piece

def chars : Piece → List Char
  | plain c _ => [c]
  | escape c => ['\\', c]
  | region r _ => r.chars ++ [r.quote]

/-- The characters that the piece stands for. -/
def value : Piece → List Char
  | plain c _ | escape c => [c]
  | region r _ => r.value

end Piece

/-- One or more adjacent pieces. -/
structure Field where
  pieces : List Piece
  pieces_ne_nil : pieces ≠ []

namespace Field

def chars (f : Field) : List Char := f.pieces.flatMap Piece.chars

def value (f : Field) : String := String.ofList (f.pieces.flatMap Piece.value)

end Field

/-! ## Stages and lines -/

/-- Nothing but blanks. -/
def Blanks (chars : List Char) : Prop := ∀ c ∈ chars, Text.isBlank c = true

/-- One or more fields with blanks between them. -/
inductive DerivesFields : List Char → List String → Prop
  | single (f : Field) : DerivesFields f.chars [f.value]
  | cons (f : Field) {blanks rest : List Char} {fields : List String} (hne : blanks ≠ [])
      (hblanks : Blanks blanks) (hrest : DerivesFields rest fields) :
      DerivesFields (f.chars ++ blanks ++ rest) (f.value :: fields)

/-- Fields with blanks around them. -/
inductive DerivesStage : List Char → List String → Prop
  | surround {before chars after : List Char} {fields : List String} (hbefore : Blanks before)
      (hafter : Blanks after) (h : DerivesFields chars fields) :
      DerivesStage (before ++ chars ++ after) fields

/-- One or more stages with bars between them. -/
inductive Derives : List Char → List (List String) → Prop
  | single {chars : List Char} {stage : List String} (h : DerivesStage chars stage) :
      Derives chars [stage]
  | cons {chars rest : List Char} {stage : List String} {stages : List (List String)}
      (h : DerivesStage chars stage) (hrest : Derives rest stages) :
      Derives (chars ++ '|' :: rest) (stage :: stages)

/-! ## Readings -/

/-- What a stage is made of. -/
inductive Word where
  | blank (c : Char) (h : Text.isBlank c = true)
  | piece (p : Piece)

namespace Word

def chars : Word → List Char
  | blank c _ => [c]
  | piece p => p.chars

@[simp] theorem chars_blank (c : Char) (h : Text.isBlank c = true) : (blank c h).chars = [c] := rfl

@[simp] theorem chars_piece (p : Piece) : (piece p).chars = p.chars := rfl

def isBlank : Word → Bool
  | blank .. => true
  | piece _ => false

end Word

/-- A line taken apart: the stages that a bar ends, and what follows the last bar. Behind its words
there may be a region that is never closed, and a backslash with nothing behind it. -/
structure Reading where
  ended : List (List Word)
  last : List Word
  region? : Option Region
  loneEscape : Bool

namespace Reading

/-- The characters of words. -/
def charsOf (words : List Word) : List Char := words.flatMap Word.chars

/-- The characters behind the last word. -/
def rest (r : Reading) : List Char :=
  (r.region?.map Region.chars).getD [] ++ if r.loneEscape then ['\\'] else []

def chars (r : Reading) : List Char :=
  (r.ended.flatMap fun words => charsOf words ++ ['|']) ++ charsOf r.last ++ r.rest

/-- Some stage that a bar ends is empty. -/
def EndsEmpty (r : Reading) : Prop := ∃ words ∈ r.ended, ∀ w ∈ words, w.isBlank = true

/-- Why a line is refused that is taken apart like this. -/
inductive Refuses (r : Reading) : Fault → Prop
  | emptyStage (h : r.EndsEmpty) : Refuses r .emptyCommand
  | loneEscape (h : ¬ r.EndsEmpty) (hlone : r.loneEscape = true) :
      Refuses r (.malformedInput .trailingEscape)
  | openRegion (h : ¬ r.EndsEmpty) (hlone : r.loneEscape = false) {region : Region}
      (hregion : r.region? = some region) :
      Refuses r (.malformedInput (.unmatchedQuote region.quote))
  | emptyLast (h : ¬ r.EndsEmpty) (hlone : r.loneEscape = false) (hregion : r.region? = none)
      (hlast : ∀ w ∈ r.last, w.isBlank = true) : Refuses r .emptyCommand

end Reading

end CommandLine.Line
