import CommandLine.Proofs.Line.Exactness

/-!
# Everything can be quoted

Two ways to write the fields of a line. `Line.ofStages` puts a backslash before every character and
is always read back. `Line.ofQuoted` puts each field into quotes, with backslashes only where it has
to: before a backslash and before the quote. It is read back unless a field ends with a backslash.
That backslash is written as an escaped one, and the quote behind an escaped backslash is literal:
the region stays open, the field swallows what follows, and cannot lose it again (`scan_continues`).
-/

namespace CommandLine.Line

/-! ## Quoted fields -/

/-- A field in quotes, with a backslash before each backslash and each quote. -/
def quoteField (quote : Char) (field : String) : String :=
  String.ofList (quote ::
    field.toList.flatMap (fun c => if c = '\\' ∨ c = quote then ['\\', c] else [c]) ++ [quote])

/-- A line of one stage, with all its fields in quotes. -/
def ofQuoted (quote : Char) (fields : List String) : String :=
  " ".intercalate (fields.map (quoteField quote))

/-- What a character of a field is written as. -/
def Item.ofChar (quote c : Char) : Item := if c = '\\' ∨ c = quote then .pair c else .single c

namespace Item

theorem chars_ofChar (quote c : Char) :
    (ofChar quote c).chars = if c = '\\' ∨ c = quote then ['\\', c] else [c] := by
  unfold ofChar
  split <;> rfl

@[simp] theorem value_ofChar (quote c : Char) : (ofChar quote c).value = c := by
  unfold ofChar
  split <;> rfl

theorem ofChar_ne_single {quote c : Char} (hc : c = '\\' ∨ c = quote) (c' : Char) :
    ofChar quote c' ≠ .single c := by
  unfold ofChar
  split
  · nofun
  · rintro ⟨⟩
    contradiction

theorem ofChar_eq_pair_backslash {quote c : Char} : ofChar quote c = .pair '\\' ↔ c = '\\' := by
  constructor
  · intro h
    rw [← value_ofChar quote c, h]
    rfl
  · rintro rfl
    exact if_pos (.inl rfl)

end Item

theorem staysOpen_ofChar (quote : Char) (chars : List Char) :
    StaysOpen quote (chars.map (Item.ofChar quote)) where
  no_backslash hmem := by
    obtain ⟨c, -, hc⟩ := List.mem_map.1 hmem
    exact Item.ofChar_ne_single (.inl rfl) c hc
  quote_literal before after heq := by
    have hmem : Item.single quote ∈ chars.map (Item.ofChar quote) := by simp [heq]
    obtain ⟨c, -, hc⟩ := List.mem_map.1 hmem
    exact absurd hc (Item.ofChar_ne_single (.inr rfl) c)

theorem shields_ofChar (quote : Char) (chars : List Char) :
    shields (chars.map (Item.ofChar quote)) = (chars.getLast? == some '\\') := by
  rw [shields, List.getLast?_map]
  cases chars.getLast? with
  | none => rfl
  | some c =>
    rw [Option.map_some, Option.some_beq_some, Option.some_beq_some, beq_eq_decide, beq_eq_decide]
    exact decide_eq_decide.2 Item.ofChar_eq_pair_backslash

/-- The region that a field is written as. -/
def Region.ofField (quote : Char) (hquote : isQuote quote = true) (field : String) : Region where
  quote := quote
  items := field.toList.map (Item.ofChar quote)
  isQuote_quote := hquote
  staysOpen := staysOpen_ofChar quote field.toList

theorem toList_quoteField {quote : Char} (hquote : isQuote quote = true) (field : String) :
    (quoteField quote field).toList = (Region.ofField quote hquote field).chars ++ [quote] := by
  simp [quoteField, Region.ofField, Region.chars, List.flatMap_map, Item.chars_ofChar]

theorem Region.value_ofField {quote : Char} (hquote : isQuote quote = true) (field : String) :
    (Region.ofField quote hquote field).value = field.toList := by
  simp [Region.ofField, Region.value, Function.comp_def]

/-- A quoted field has been read once its closing quote has. Behind a backslash that quote is
literal, and the field goes on. -/
theorem scan_quoteField {quote : Char} (hquote : isQuote quote = true) (fields : List String)
    (field : String) (rest : List Char) :
    scan .bare fields none ((quoteField quote field).toList ++ rest)
      = if field.toList.getLast? = some '\\'
        then scan (.quoted quote false) fields (some (field.toList ++ [quote])) rest
        else scan .bare fields (some field.toList) rest := by
  have hshields : shields (Region.ofField quote hquote field).items
      = (field.toList.getLast? == some '\\') := shields_ofChar quote field.toList
  rw [toList_quoteField hquote, List.append_assoc, scan_region, hshields, Region.value_ofField]
  show scan (.quoted quote _) fields (some field.toList) (quote :: rest) = _
  split
  case isTrue hlast =>
    rw [scan_single (ne_backslash_of_isQuote hquote) fun _ => by simp [hlast]]
    rfl
  case isFalse hlast =>
    rw [beq_false_of_ne hlast]
    exact scan_close hquote ..

/-! ## What a scan keeps -/

/-- The first stage has the given fields, and then the open field, maybe with more characters. -/
def Continues (fields : List String) (field : Option (List Char)) (read : List (List String)) :
    Prop :=
  ∃ stage others added, read = stage :: others ∧
    closeField fields (field.map (· ++ added)) <+: stage

namespace Continues

variable {fields stage : List String} {field : Option (List Char)} {read : List (List String)}

theorem of_closeField (h : closeField fields field <+: stage) (others : List (List String)) :
    Continues fields field (stage :: others) := by
  refine ⟨stage, others, [], rfl, ?_⟩
  cases field <;> simpa using h

theorem of_append {chars : List Char} (h : Continues fields (some (field.getD [] ++ chars)) read) :
    Continues fields field read := by
  obtain ⟨stage, others, added, rfl, h⟩ := h
  cases field with
  | none =>
    have hfields : closeField fields none <+: stage := (List.prefix_append fields _).trans h
    exact of_closeField hfields others
  | some opened => exact ⟨stage, others, chars ++ added, rfl, by simpa using h⟩

theorem of_closed (h : Continues (closeField fields field) none read) :
    Continues fields field read := by
  obtain ⟨stage, others, added, rfl, h⟩ := h
  have hfields : closeField fields field <+: stage := h
  exact of_closeField hfields others

end Continues

/-- A scan keeps the fields that it has, and all the characters of the open one. -/
theorem scan_continues {mode : Mode} {fields : List String} {field : Option (List Char)}
    {rest : List Char} {read : List (List String)} (h : scan mode fields field rest = .ok read) :
    Continues fields field read := by
  fun_induction scan mode fields field rest generalizing read with
  -- the text ends, or a bar ends an empty stage
  | case1 | case2 | case4 | case9 => cases h
  | case3 fields field =>
    obtain rfl := Except.ok.inj h
    exact .of_closeField (List.prefix_refl _) []
  -- a character of the open field
  | case5 mode fields field c rest ih => exact (ih h).of_append
  | case7 quote shielded fields field c rest _ _ _ ih => exact (ih h).of_append
  | case12 fields field c rest _ _ _ _ _ ih => exact (ih h).of_append
  -- the quotes of a region
  | case6 quote shielded fields field c rest _ _ _ ih => exact ih h
  | case8 fields field c rest _ _ _ ih =>
    have hopen : Continues fields (some (field.getD [] ++ [])) read := by simpa using ih h
    exact hopen.of_append
  -- the end of a stage, and of a field
  | case10 fields field rest _ _ _ _ _ =>
    obtain ⟨others, -, rfl⟩ := Except.map_eq_ok_iff.1 h
    exact .of_closeField (List.prefix_refl _) others
  | case11 fields field c rest _ _ _ _ _ ih => exact (ih h).of_closed

theorem scan_ne_of_append {chars : List Char} (hchars : chars ≠ []) (mode : Mode)
    (fields later : List String) (field : String) (rest : List Char) :
    scan mode fields (some (field.toList ++ chars)) rest ≠ .ok [fields ++ field :: later] := by
  intro h
  obtain ⟨stage, others, added, heq, hprefix⟩ := scan_continues h
  obtain ⟨rfl, -⟩ := List.cons.inj heq
  rw [Option.map_some, closeField, List.prefix_append_right_inj] at hprefix
  have hfield : String.ofList (field.toList ++ chars ++ added) = field :=
    (List.cons_prefix_cons.1 hprefix).1
  have hlength := congrArg (fun s => s.toList.length) hfield
  simp only [String.toList_ofList, List.length_append] at hlength
  have := List.length_pos_of_ne_nil hchars
  omega

/-! ## A quoted line -/

theorem ofQuoted_singleton (quote : Char) (field : String) :
    ofQuoted quote [field] = quoteField quote field := by
  simp [ofQuoted]

theorem toList_ofQuoted_cons_cons (quote : Char) (field next : String) (others : List String) :
    (ofQuoted quote (field :: next :: others)).toList
      = (quoteField quote field).toList ++ ' ' :: (ofQuoted quote (next :: others)).toList := by
  simp [ofQuoted]

theorem quoteField_prefix_ofQuoted (quote : Char) (field : String) (others : List String) :
    (quoteField quote field).toList <+: (ofQuoted quote (field :: others)).toList := by
  cases others with
  | nil => simp only [ofQuoted_singleton, List.prefix_rfl]
  | cons next others =>
    rw [toList_ofQuoted_cons_cons]
    exact List.prefix_append _ _

/-- Fields in quotes are read back exactly if none of them ends with a backslash. -/
theorem scan_ofQuoted {quote : Char} (hquote : isQuote quote = true) (fields : List String)
    {stage : List String} (hne : stage ≠ []) :
    scan .bare fields none (ofQuoted quote stage).toList = .ok [fields ++ stage]
      ↔ ∀ field ∈ stage, field.toList.getLast? ≠ some '\\' := by
  induction stage generalizing fields with
  | nil => contradiction
  | cons field others ih =>
    rw [List.forall_mem_cons]
    by_cases hlast : field.toList.getLast? ≠ some '\\'
    · rw [iff_true_intro hlast, true_and]
      cases others with
      | nil =>
        have hread := scan_quoteField hquote fields field []
        rw [List.append_nil, if_neg hlast, scan_end (by simp [closeField])] at hread
        rw [ofQuoted_singleton, hread]
        simp [closeField]
      | cons next others =>
        rw [toList_ofQuoted_cons_cons, scan_quoteField hquote, if_neg hlast, scan_space,
          ← ih (closeField fields (some field.toList)) (List.cons_ne_nil next others)]
        simp [closeField]
    · refine iff_of_false ?_ fun h => hlast h.1
      obtain ⟨rest, hrest⟩ := quoteField_prefix_ofQuoted quote field others
      rw [← hrest, scan_quoteField hquote, if_pos (not_not.1 hlast)]
      exact scan_ne_of_append (List.cons_ne_nil quote []) _ fields others field rest

/-! ## Everything can be quoted -/

/-- **Everything can be quoted.** Stages of any fields are read back from a line with a backslash
before every character. Fields in quotes, of one kind or the other, are read back as one stage
exactly if none of them ends with a backslash. -/
theorem stages_quoted :
    (∀ written : List (List String), written ≠ [] → (∀ stage ∈ written, stage ≠ []) →
      stages (ofStages written) = .ok written) ∧
    ∀ quote, isQuote quote = true → ∀ fields : List String, fields ≠ [] →
      (stages (ofQuoted quote fields) = .ok [fields] ↔
        ∀ field ∈ fields, field.toList.getLast? ≠ some '\\') :=
  ⟨fun _ => stages_ofStages, fun _ hquote _ => scan_ofQuoted hquote []⟩

/-- A pipeline of awkward fields, and a field that quotes cannot hold: it ends with a backslash. -/
theorem stages_quoted_path :
    stages (ofStages [["a|b", ""], ["\\"]]) = .ok [["a|b", ""], ["\\"]] ∧
      stages (ofQuoted '"' ["say \"hi\"", "C:\\dir"]) = .ok [["say \"hi\"", "C:\\dir"]] ∧
      stages (ofQuoted '\'' ["C:\\", "it"]) ≠ .ok [["C:\\", "it"]] := by
  obtain ⟨hescaped, hquoted⟩ := stages_quoted
  refine ⟨hescaped _ (by simp) (by simp), ?_, ?_⟩
  · exact (hquoted '"' rfl _ (by simp)).2 (by decide)
  · exact mt (hquoted '\'' rfl _ (by simp)).1 (by decide)

end CommandLine.Line
