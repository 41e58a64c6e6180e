/-!
Blank characters and the cutting of texts at them. `isBlank` is the `White_Space` property of
Unicode; `trim` removes a maximal run of blanks at either end, and `cutAt?` splits a text at its
first separator.
-/

namespace CommandLine.Text

/-- The closed ranges of code points with the property `White_Space`, ascending and apart. -/
def blankRanges : List (Nat × Nat) :=
  [(0x09, 0x0D), (0x20, 0x20), (0x85, 0x85), (0xA0, 0xA0), (0x1680, 0x1680), (0x2000, 0x200A),
   (0x2028, 0x2029), (0x202F, 0x202F), (0x205F, 0x205F), (0x3000, 0x3000)]

/-- A character with the property `White_Space`. -/
def isBlank (c : Char) : Bool :=
  blankRanges.any fun r => r.1 ≤ c.toNat && c.toNat ≤ r.2

/-- The text without the blanks at its ends. -/
def trimChars (s : List Char) : List Char :=
  ((s.dropWhile isBlank).reverse.dropWhile isBlank).reverse

/-- The text without the blanks at its ends. -/
def trim (s : String) : String :=
  String.ofList (trimChars s.toList)

@[simp] theorem toList_trim (s : String) : (trim s).toList = trimChars s.toList := by
  simp [trim]

@[simp] theorem trimChars_nil : trimChars [] = [] := rfl

/-- What stands before and after the first `separator`, if there is one. -/
def cutAt? (separator : Char) : List Char → Option (List Char × List Char)
  | [] => none
  | c :: rest =>
    if c = separator then some ([], rest)
    else (cutAt? separator rest).map fun (before, after) => (c :: before, after)

/-- Putting the separator back between the two parts gives the text, and the first part is free
of it. -/
theorem cutAt?_eq_some_iff {separator : Char} {s before after : List Char} :
    cutAt? separator s = some (before, after) ↔
      s = before ++ separator :: after ∧ separator ∉ before := by
  induction s generalizing before with
  | nil => simp [cutAt?]
  | cons c rest ih =>
    by_cases h : c = separator
    · subst h
      cases before <;> simp [cutAt?]
      grind
    · cases before with
      | nil => simp [cutAt?, h]
      | cons b before =>
        simp only [cutAt?, h, if_false, Option.map_eq_some_iff, Prod.mk.injEq, List.cons.injEq,
          List.cons_append, List.mem_cons, not_or, Prod.exists]
        constructor
        · rintro ⟨x, y, hxy, ⟨rfl, rfl⟩, rfl⟩
          exact ⟨⟨rfl, (ih.1 hxy).1⟩, Ne.symm h, (ih.1 hxy).2⟩
        · rintro ⟨⟨rfl, hrest⟩, _, hb⟩
          exact ⟨before, after, ih.2 ⟨hrest, hb⟩, ⟨rfl, rfl⟩, rfl⟩

theorem cutAt?_eq_none_iff {separator : Char} {s : List Char} :
    cutAt? separator s = none ↔ separator ∉ s := by
  induction s with
  | nil => simp [cutAt?]
  | cons c rest ih =>
    by_cases h : c = separator
    · simp [cutAt?, h]
    · simp [cutAt?, h, ih, Ne.symm h]

end CommandLine.Text
