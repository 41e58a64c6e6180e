import CommandLine.Pattern.Property.Category
import CommandLine.Pattern.Property.Script

/-!
Rules for properties of characters. A rule tells which characters have a property, by lists, general
categories and scripts; its set is made when it is asked for.
-/

namespace CommandLine.Pattern.Property

/-- Tells which characters have a property. -/
inductive Rule where
  | any
  /-- The characters of lines of intervals. -/
  | listed (lines : List String)
  /-- The characters of either of some categories. -/
  | categories (cs : List Category)
  /-- The characters of the script with a loose name. -/
  | script (name : String)
  | either (a b : Rule)
  | except (a b : Rule)

namespace Rule

instance : Union Rule := ⟨either⟩
instance : SDiff Rule := ⟨except⟩

/-- The characters that have the property. -/
def characters : Rule → CharacterSet
  | any => .everything
  | listed lines => .ofText lines
  | categories cs => cs.foldr (fun c s => c.characters ∪ s) ∅
  | script name => (Script.named? name).elim ∅ Script.characters
  | either a b => a.characters ∪ b.characters
  | except a b => a.characters \ b.characters

end Rule

end CommandLine.Pattern.Property
