import CommandLine.Proofs.Fallible
import CommandLine.Proofs.Line.Grammar
import CommandLine.Proofs.Line.Written

/-!
# Reading a line is exact

`stages` answers for a line what the grammar says. The scan is followed along the pieces of fields,
which gives all that derives (`scan_of_derives`). In the other direction every line is taken apart
into words (`exists_reading`), and its reading tells whether it derives (`Reading.Whole`) or why it
is refused (`Reading.Refuses`).
-/

namespace CommandLine.Line

/-! ## Open regions -/

@[simp] theorem shields_concat_pair (items : List Item) (c : Char) :
    shields (items ++ [.pair c]) = (c == '\\') := by
  simp [shields]

@[simp] theorem shields_concat_single (items : List Item) (c : Char) :
    shields (items ++ [.single c]) = false := by
  simp [shields]

theorem ne_backslash_of_isQuote {quote : Char} (h : isQuote quote = true) : quote ≠ '\\' := by
  rintro rfl
  cases h

namespace StaysOpen

variable {quote : Char} {items : List Item}

theorem nil (quote : Char) : StaysOpen quote [] :=
  ⟨List.not_mem_nil, fun before after h => by simp at h⟩

theorem concat_pair (h : StaysOpen quote items) (c : Char) :
    StaysOpen quote (items ++ [.pair c]) where
  no_backslash := by simpa using h.no_backslash
  quote_literal before after heq := by
    rcases List.eq_nil_or_concat after with rfl | ⟨front, last, rfl⟩
    · simp at heq
    · rw [List.concat_eq_append, ← List.cons_append, ← List.append_assoc] at heq
      exact h.quote_literal before front (List.append_inj_left' heq rfl)

theorem concat_single (h : StaysOpen quote items) {c : Char} (hc : c ≠ '\\')
    (hquote : c = quote → shields items = true) : StaysOpen quote (items ++ [.single c]) where
  no_backslash := by simpa using ⟨h.no_backslash, Ne.symm hc⟩
  quote_literal before after heq := by
    rcases List.eq_nil_or_concat after with rfl | ⟨front, last, rfl⟩
    · obtain ⟨rfl, hlast⟩ := List.append_inj' heq rfl
      exact hquote (by simpa using hlast)
    · rw [List.concat_eq_append, ← List.cons_append, ← List.append_assoc] at heq
      exact h.quote_literal before front (List.append_inj_left' heq rfl)

end StaysOpen

/-! ## The scan of a region -/

theorem scan_pair (quote : Char) (shielded : Bool) (fields : List String)
    (field : Option (List Char)) (c : Char) (rest : List Char) :
    scan (.quoted quote shielded) fields field ('\\' :: c :: rest)
      = scan (.quoted quote (c == '\\')) fields (extend field c) rest := by
  rw [scan]
  rfl

theorem scan_single {quote c : Char} {shielded : Bool} (hc : c ≠ '\\')
    (hquote : c = quote → shielded = true) (fields : List String) (field : Option (List Char))
    (rest : List Char) :
    scan (.quoted quote shielded) fields field (c :: rest)
      = scan (.quoted quote false) fields (extend field c) rest := by
  rw [scan]
  · rw [if_neg]
    rintro ⟨rfl, hshielded⟩
    rw [hquote rfl] at hshielded
    cases hshielded
  all_goals simp [hc]

theorem scan_close {quote : Char} (hquote : isQuote quote = true) (fields : List String)
    (field : Option (List Char)) (rest : List Char) :
    scan (.quoted quote false) fields field (quote :: rest) = scan .bare fields field rest := by
  have hne := ne_backslash_of_isQuote hquote
  rw [scan]
  · rw [if_pos ⟨rfl, rfl⟩]
  all_goals simp [hne]

theorem scan_open {quote : Char} (hquote : isQuote quote = true) (fields : List String)
    (field : Option (List Char)) (rest : List Char) :
    scan .bare fields field (quote :: rest)
      = scan (.quoted quote false) fields (some (field.getD [])) rest := by
  have hne := ne_backslash_of_isQuote hquote
  rw [scan]
  · rw [if_pos hquote]
  all_goals simp [hne]

theorem scan_items {quote : Char} {done items : List Item} (h : StaysOpen quote (done ++ items))
    (fields : List String) (opened rest : List Char) :
    scan (.quoted quote (shields done)) fields (some opened) (items.flatMap Item.chars ++ rest)
      = scan (.quoted quote (shields (done ++ items))) fields
        (some (opened ++ items.map Item.value)) rest := by
  induction items generalizing done opened with
  | nil => simp
  | cons item items ih =>
    have hnext : StaysOpen quote ((done ++ [item]) ++ items) := by simpa using h
    have hstep : scan (.quoted quote (shields done)) fields (some opened)
        (item.chars ++ (items.flatMap Item.chars ++ rest))
          = scan (.quoted quote (shields (done ++ [item]))) fields (some (opened ++ [item.value]))
            (items.flatMap Item.chars ++ rest) := by
      cases item with
      | pair c =>
        rw [shields_concat_pair]
        exact scan_pair ..
      | single c =>
        rw [shields_concat_single]
        refine scan_single (fun hc => ?_) (fun hquote => ?_) ..
        · exact h.no_backslash (by simp [hc])
        · exact h.quote_literal done items (by simp [hquote])
    rw [List.flatMap_cons, List.append_assoc, hstep, ih hnext]
    simp

theorem scan_region (r : Region) (fields : List String) (field : Option (List Char))
    (rest : List Char) :
    scan .bare fields field (r.chars ++ rest)
      = scan (.quoted r.quote (shields r.items)) fields (some (field.getD [] ++ r.value)) rest := by
  rw [Region.chars, List.cons_append, scan_open r.isQuote_quote]
  have hopen : StaysOpen r.quote ([] ++ r.items) := r.staysOpen
  exact scan_items hopen fields (field.getD []) rest

/-! ## The scan of pieces -/

theorem scan_piece (p : Piece) (fields : List String) (field : Option (List Char))
    (rest : List Char) :
    scan .bare fields field (p.chars ++ rest)
      = scan .bare fields (some (field.getD [] ++ p.value)) rest := by
  cases p with
  | plain c h =>
    show scan .bare fields field (c :: rest) = _
    rw [scan]
    · rw [if_neg (by simp [h.not_quote]), if_neg h.ne_bar, if_neg (by simp [h.not_blank])]
      rfl
    all_goals simp [h.ne_backslash]
  | escape c => exact scan_escape fields field c rest
  | region r h =>
    rw [Piece.chars, List.append_assoc, scan_region, h]
    exact scan_close r.isQuote_quote ..

/-! ## What derives is read -/

theorem closeField_eq (fields : List String) (field : Option (List Char)) :
    closeField fields field = fields ++ closeField [] field := by
  cases field <;> simp [closeField]

theorem scan_field (f : Field) (fields : List String) (rest : List Char) :
    scan .bare fields none (f.chars ++ rest)
      = scan .bare fields (some (f.pieces.flatMap Piece.value)) rest := by
  obtain ⟨pieces, hne⟩ := f
  have hpieces : ∀ (pieces : List Piece) (opened : List Char),
      scan .bare fields (some opened) (pieces.flatMap Piece.chars ++ rest)
        = scan .bare fields (some (opened ++ pieces.flatMap Piece.value)) rest := by
    intro pieces
    induction pieces with
    | nil => simp
    | cons p pieces ih =>
      intro opened
      rw [List.flatMap_cons, List.append_assoc, scan_piece, ih]
      simp
  cases pieces with
  | nil => exact absurd rfl hne
  | cons p pieces =>
    show scan .bare fields none ((p :: pieces).flatMap Piece.chars ++ rest) = _
    rw [List.flatMap_cons, List.append_assoc, scan_piece, hpieces]
    simp

theorem scan_blanks {blanks : List Char} (h : Blanks blanks) (fields : List String)
    (field : Option (List Char)) (rest : List Char) :
    scan .bare fields field (blanks ++ rest) = if blanks = [] then scan .bare fields field rest
      else scan .bare (closeField fields field) none rest := by
  induction blanks generalizing fields field with
  | nil => rfl
  | cons c blanks ih =>
    obtain ⟨hc, hblanks⟩ := List.forall_mem_cons.1 h
    rw [List.cons_append, scan_blank hc, ih hblanks, if_neg (List.cons_ne_nil c blanks)]
    simp [closeField]

/-- Fields that have been read are among the fields of the stage, or the last one is still open. -/
theorem scan_of_derivesFields {chars : List Char} {stage : List String}
    (h : DerivesFields chars stage) (fields : List String) :
    ∃ fields' field', closeField fields' field' = fields ++ stage ∧
      ∀ rest, scan .bare fields none (chars ++ rest) = scan .bare fields' field' rest := by
  induction h generalizing fields with
  | single f =>
    exact ⟨fields, some (f.pieces.flatMap Piece.value), rfl, fun rest => scan_field f fields rest⟩
  | cons f hne hblanks hrest ih =>
    obtain ⟨fields', field', hclose, hscan⟩ := ih (fields ++ [f.value])
    refine ⟨fields', field', by simp [hclose], fun rest => ?_⟩
    rw [List.append_assoc, List.append_assoc, scan_field, scan_blanks hblanks, if_neg hne]
    exact hscan rest

theorem scan_of_derivesStage {chars : List Char} {stage : List String}
    (h : DerivesStage chars stage) : stage ≠ [] ∧ ∃ fields field, closeField fields field = stage ∧
      ∀ rest, scan .bare [] none (chars ++ rest) = scan .bare fields field rest := by
  obtain ⟨hbefore, hafter, hfields⟩ := h
  rename_i before fields after
  refine ⟨by cases hfields <;> simp, ?_⟩
  obtain ⟨fields', field', hclose, hscan⟩ := scan_of_derivesFields hfields []
  by_cases hnone : after = []
  · refine ⟨fields', field', hclose, fun rest => ?_⟩
    rw [List.append_assoc, List.append_assoc, scan_blanks hbefore, hnone]
    simpa [closeField] using hscan rest
  · refine ⟨closeField fields' field', none, hclose, fun rest => ?_⟩
    have hrest := hscan (after ++ rest)
    rw [scan_blanks hafter, if_neg hnone] at hrest
    rw [List.append_assoc, List.append_assoc, scan_blanks hbefore]
    simpa [closeField] using hrest

theorem scan_of_derives {chars : List Char} {written : List (List String)}
    (h : Derives chars written) : scan .bare [] none chars = .ok written := by
  induction h with
  | single h =>
    obtain ⟨hne, fields, field, rfl, hscan⟩ := scan_of_derivesStage h
    have hrest := hscan []
    rwa [List.append_nil, scan_end hne] at hrest
  | cons h hrest ih =>
    obtain ⟨hne, fields, field, rfl, hscan⟩ := scan_of_derivesStage h
    rw [hscan, scan_bar hne, ih]
    rfl

/-! ## Words -/

/-- The fields that words make up, after a field that may be open. -/
def fieldsOf : Option (List Char) → List Word → List String
  | field, [] => closeField [] field
  | field, .blank .. :: rest => closeField [] field ++ fieldsOf none rest
  | field, .piece p :: rest => fieldsOf (some (field.getD [] ++ p.value)) rest

namespace Reading

@[simp] theorem charsOf_nil : charsOf [] = [] := rfl

@[simp] theorem charsOf_cons (w : Word) (words : List Word) :
    charsOf (w :: words) = w.chars ++ charsOf words := rfl

/-- The stages of the line, of which some may be empty. -/
def stages (r : Reading) : List (List String) :=
  r.ended.map (fieldsOf none) ++ [fieldsOf none r.last]

/-- Nothing is missing: no stage is empty, and nothing is left open. -/
structure Whole (r : Reading) : Prop where
  not_endsEmpty : ¬ r.EndsEmpty
  no_escape : r.loneEscape = false
  no_region : r.region? = none
  last_ne_nil : ¬ ∀ w ∈ r.last, w.isBlank = true

theorem whole_or_refuses (r : Reading) : r.Whole ∨ ∃ fault, r.Refuses fault := by
  by_cases hended : r.EndsEmpty
  · exact .inr ⟨_, .emptyStage hended⟩
  cases hlone : r.loneEscape with
  | true => exact .inr ⟨_, .loneEscape hended hlone⟩
  | false =>
    cases hregion : r.region? with
    | some region => exact .inr ⟨_, .openRegion hended hlone hregion⟩
    | none =>
      by_cases hlast : ∀ w ∈ r.last, w.isBlank = true
      · exact .inr ⟨_, .emptyLast hended hlone hregion hlast⟩
      · exact .inl ⟨hended, hlone, hregion, hlast⟩

end Reading

open Reading (charsOf)

theorem scan_words (words : List Word) (fields : List String) (field : Option (List Char)) :
    ∃ fields' field', closeField fields' field' = fields ++ fieldsOf field words ∧
      ∀ rest, scan .bare fields field (charsOf words ++ rest)
        = scan .bare fields' field' rest := by
  induction words generalizing fields field with
  | nil => exact ⟨fields, field, closeField_eq fields field, fun rest => rfl⟩
  | cons w words ih =>
    cases w with
    | blank c h =>
      obtain ⟨fields', field', hclose, hscan⟩ := ih (closeField fields field) none
      refine ⟨fields', field', ?_, fun rest => ?_⟩
      · rw [hclose, fieldsOf, closeField_eq, List.append_assoc]
      · rw [← hscan]
        exact scan_blank h ..
    | piece p =>
      obtain ⟨fields', field', hclose, hscan⟩ := ih fields (some (field.getD [] ++ p.value))
      refine ⟨fields', field', hclose, fun rest => ?_⟩
      rw [← hscan, Reading.charsOf_cons, List.append_assoc]
      exact scan_piece ..

theorem fieldsOf_some_ne_nil (opened : List Char) (words : List Word) :
    fieldsOf (some opened) words ≠ [] := by
  induction words generalizing opened with
  | nil => simp [fieldsOf, closeField]
  | cons w words ih =>
    cases w with
    | blank c h => simp [fieldsOf, closeField]
    | piece p => exact ih _

theorem fieldsOf_eq_nil_iff {words : List Word} :
    fieldsOf none words = [] ↔ ∀ w ∈ words, w.isBlank = true := by
  induction words with
  | nil => simp [fieldsOf, closeField]
  | cons w words ih =>
    cases w with
    | blank c h => simpa [fieldsOf, closeField, Word.isBlank] using ih
    | piece p => simpa [fieldsOf, Word.isBlank] using fieldsOf_some_ne_nil _ words

/-! ## What a reading says of the scan -/

theorem scan_bar_empty {fields : List String} {field : Option (List Char)}
    (h : closeField fields field = []) (rest : List Char) :
    scan .bare fields field ('|' :: rest) = .error .emptyCommand := by
  rw [scan]
  · rw [if_neg (by decide), if_pos rfl, h]
  all_goals simp

theorem scan_end_empty {fields : List String} {field : Option (List Char)}
    (h : closeField fields field = []) : scan .bare fields field [] = .error .emptyCommand := by
  rw [scan, h]

theorem scan_loneEscape (mode : Mode) (fields : List String) (field : Option (List Char)) :
    scan mode fields field ['\\'] = .error (.malformedInput .trailingEscape) := by
  cases mode <;> rw [scan]

theorem scan_ended {ended : List (List Word)} (h : ∀ words ∈ ended, fieldsOf none words ≠ [])
    (rest : List Char) :
    scan .bare [] none ((ended.flatMap fun words => charsOf words ++ ['|']) ++ rest)
      = (scan .bare [] none rest).map (ended.map (fieldsOf none) ++ ·) := by
  induction ended with
  | nil => cases h : scan .bare [] none rest <;> simp [h, Except.map]
  | cons words ended ih =>
    obtain ⟨hwords, hended⟩ := List.forall_mem_cons.1 h
    obtain ⟨fields, field, hclose, hscan⟩ := scan_words words [] none
    rw [List.nil_append] at hclose
    rw [List.flatMap_cons, List.append_assoc, List.append_assoc, hscan, List.singleton_append,
      scan_bar (hclose ▸ hwords), ih hended, hclose]
    cases scan .bare [] none rest <;> rfl

/-- The scan does not get past an empty stage that a bar ends. -/
theorem scan_endsEmpty {ended : List (List Word)} (h : ∃ words ∈ ended, fieldsOf none words = [])
    (rest : List Char) :
    scan .bare [] none ((ended.flatMap fun words => charsOf words ++ ['|']) ++ rest)
      = .error .emptyCommand := by
  induction ended with
  | nil => simp at h
  | cons words ended ih =>
    obtain ⟨fields, field, hclose, hscan⟩ := scan_words words [] none
    rw [List.nil_append] at hclose
    rw [List.flatMap_cons, List.append_assoc, List.append_assoc, hscan, List.singleton_append]
    by_cases hwords : fieldsOf none words = []
    · exact scan_bar_empty (hclose.trans hwords) _
    · have hended : ∃ words ∈ ended, fieldsOf none words = [] := by
        obtain ⟨words', hmem, hnil⟩ := h
        rcases List.mem_cons.1 hmem with rfl | hmem
        · exact absurd hnil hwords
        · exact ⟨words', hmem, hnil⟩
      rw [scan_bar (hclose ▸ hwords), ih hended]
      rfl

namespace Reading

variable {r : Reading}

theorem ne_nil_of_not_endsEmpty (h : ¬ r.EndsEmpty) :
    ∀ words ∈ r.ended, fieldsOf none words ≠ [] :=
  fun words hwords hnil => h ⟨words, hwords, fieldsOf_eq_nil_iff.1 hnil⟩

theorem scan_chars (h : ¬ r.EndsEmpty) :
    ∃ fields field, closeField fields field = fieldsOf none r.last ∧
      scan .bare [] none r.chars =
        (scan .bare fields field r.rest).map (r.ended.map (fieldsOf none) ++ ·) := by
  obtain ⟨fields, field, hclose, hscan⟩ := scan_words r.last [] none
  refine ⟨fields, field, hclose, ?_⟩
  rw [chars, List.append_assoc, scan_ended (ne_nil_of_not_endsEmpty h), hscan]

theorem scan_of_whole (h : r.Whole) : scan .bare [] none r.chars = .ok r.stages := by
  obtain ⟨fields, field, hclose, hscan⟩ := scan_chars h.not_endsEmpty
  have hrest : r.rest = [] := by simp [rest, h.no_escape, h.no_region]
  have hne : closeField fields field ≠ [] := fun hnil =>
    h.last_ne_nil (fieldsOf_eq_nil_iff.1 (hclose.symm.trans hnil))
  rw [hscan, hrest, scan_end hne, hclose]
  rfl

theorem scan_of_refuses {fault : Fault} (h : r.Refuses fault) :
    scan .bare [] none r.chars = .error fault := by
  cases h with
  | emptyStage h =>
    obtain ⟨words, hwords, hblank⟩ := h
    rw [chars, List.append_assoc]
    exact scan_endsEmpty ⟨words, hwords, fieldsOf_eq_nil_iff.2 hblank⟩ _
  | loneEscape h hlone =>
    obtain ⟨fields, field, -, hscan⟩ := scan_chars h
    rw [hscan, rest, if_pos hlone]
    cases r.region? with
    | none =>
      show (scan .bare fields field ['\\']).map _ = _
      rw [scan_loneEscape]
      rfl
    | some region =>
      rw [Option.map_some, Option.getD_some, scan_region, scan_loneEscape]
      rfl
  | openRegion h hlone hregion =>
    obtain ⟨fields, field, -, hscan⟩ := scan_chars h
    rw [hscan, rest, hlone, hregion, Option.map_some, Option.getD_some, scan_region]
    rfl
  | emptyLast h hlone hregion hlast =>
    obtain ⟨fields, field, hclose, hscan⟩ := scan_chars h
    have hrest : r.rest = [] := by simp [rest, hlone, hregion]
    rw [hscan, hrest, scan_end_empty (hclose.trans (fieldsOf_eq_nil_iff.2 hlast))]
    rfl

end Reading

/-! ## What is read derives -/

theorem blanks_charsOf {words : List Word} (h : ∀ w ∈ words, w.isBlank = true) :
    Blanks (charsOf words) := by
  intro c hc
  obtain ⟨w, hw, hc⟩ := List.mem_flatMap.1 hc
  cases w with
  | blank c' hblank =>
    obtain rfl : c = c' := by simpa [Word.chars] using hc
    exact hblank
  | piece p => cases h _ hw

/-- Words are all blank or have fields with blanks around them. Behind pieces, they add to the field
of these, up to the first blank. -/
theorem derivesFields_of_words (words : List Word) :
    ((∀ w ∈ words, w.isBlank = true) ∨ ∃ before chars after, Blanks before ∧ Blanks after ∧
      charsOf words = before ++ chars ++ after ∧ DerivesFields chars (fieldsOf none words)) ∧
    ∀ pieces : List Piece, pieces ≠ [] → ∃ chars after, Blanks after ∧
      pieces.flatMap Piece.chars ++ charsOf words = chars ++ after ∧
        DerivesFields chars (fieldsOf (some (pieces.flatMap Piece.value)) words) := by
  induction words with
  | nil =>
    refine ⟨.inl nofun, fun pieces hne => ?_⟩
    exact ⟨_, [], nofun, rfl, .single ⟨pieces, hne⟩⟩
  | cons w words ih =>
    obtain ⟨ihwords, ihpieces⟩ := ih
    cases w with
    | blank c h =>
      constructor
      · rcases ihwords with hblank | ⟨before, chars, after, hbefore, hafter, hchars, hfields⟩
        · exact .inl (List.forall_mem_cons.2 ⟨rfl, hblank⟩)
        · refine .inr ⟨c :: before, chars, after, List.forall_mem_cons.2 ⟨h, hbefore⟩, hafter, ?_,
            hfields⟩
          rw [Reading.charsOf_cons, hchars]
          rfl
      · intro pieces hne
        rcases ihwords with hblank | ⟨before, chars, after, hbefore, hafter, hchars, hfields⟩
        · refine ⟨_, c :: charsOf words, List.forall_mem_cons.2 ⟨h, blanks_charsOf hblank⟩, rfl, ?_⟩
          rw [fieldsOf, fieldsOf_eq_nil_iff.2 hblank]
          exact .single ⟨pieces, hne⟩
        · refine ⟨_, after, hafter, ?_, .cons ⟨pieces, hne⟩ (List.cons_ne_nil c before)
            (List.forall_mem_cons.2 ⟨h, hbefore⟩) hfields⟩
          rw [Reading.charsOf_cons, hchars]
          simp [Field.chars]
    | piece p =>
      constructor
      · obtain ⟨chars, after, hafter, hchars, hfields⟩ := ihpieces [p] (by simp)
        refine .inr ⟨[], chars, after, nofun, hafter, ?_, ?_⟩
        · simpa using hchars
        · simpa [fieldsOf] using hfields
      · intro pieces hne
        obtain ⟨chars, after, hafter, hchars, hfields⟩ := ihpieces (pieces ++ [p]) (by simp)
        refine ⟨chars, after, hafter, ?_, ?_⟩
        · simpa using hchars
        · simpa [fieldsOf] using hfields

theorem derivesStage_of_words {words : List Word} (h : fieldsOf none words ≠ []) :
    DerivesStage (charsOf words) (fieldsOf none words) := by
  rcases (derivesFields_of_words words).1 with hblank | ⟨before, chars, after, hbefore, hafter,
    hchars, hfields⟩
  · exact absurd (fieldsOf_eq_nil_iff.2 hblank) h
  · rw [hchars]
    exact .surround hbefore hafter hfields

theorem derives_of_whole {r : Reading} (h : r.Whole) : Derives r.chars r.stages := by
  have hlast : fieldsOf none r.last ≠ [] := fun hnil => h.last_ne_nil (fieldsOf_eq_nil_iff.1 hnil)
  have hended := Reading.ne_nil_of_not_endsEmpty h.not_endsEmpty
  have hrest : r.rest = [] := by simp [Reading.rest, h.no_escape, h.no_region]
  rw [Reading.chars, hrest, List.append_nil, Reading.stages]
  generalize r.ended = ended at hended ⊢
  induction ended with
  | nil => exact .single (derivesStage_of_words hlast)
  | cons words ended ih =>
    obtain ⟨hwords, hothers⟩ := List.forall_mem_cons.1 hended
    have hderives := Derives.cons (derivesStage_of_words hwords) (ih hothers)
    simpa using hderives

/-! ## Every line has a reading -/

/-- The text behind an opening quote: the items of a region, and then its closing quote, or the end
of the text, or a backslash at the end. -/
theorem exists_items {quote : Char} {done : List Item} (h : StaysOpen quote done)
    (text : List Char) : ∃ items rest, StaysOpen quote (done ++ items) ∧
      text = items.flatMap Item.chars ++ rest ∧ (rest = [] ∨ rest = ['\\'] ∨
        shields (done ++ items) = false ∧ ∃ after, rest = quote :: after) := by
  have hnext : ∀ (item : Item) (text' : List Char), StaysOpen quote (done ++ [item]) →
      text = item.chars ++ text' → text'.length < text.length →
      ∃ items rest, StaysOpen quote (done ++ items) ∧
        text = items.flatMap Item.chars ++ rest ∧ (rest = [] ∨ rest = ['\\'] ∨
          shields (done ++ items) = false ∧ ∃ after, rest = quote :: after) := by
    intro item text' hitem htext hlength
    obtain ⟨items, rest, hopen, hitems, hrest⟩ := exists_items hitem text'
    refine ⟨item :: items, rest, by simpa using hopen, ?_, by simpa using hrest⟩
    rw [htext, hitems, List.flatMap_cons, List.append_assoc]
  cases text with
  | nil => exact ⟨[], [], by simpa using h, rfl, .inl rfl⟩
  | cons c text =>
    by_cases hc : c = '\\'
    · subst hc
      cases text with
      | nil => exact ⟨[], ['\\'], by simpa using h, rfl, .inr (.inl rfl)⟩
      | cons c text =>
        have hlength : text.length < ('\\' :: c :: text).length := by
          simp only [List.length_cons]
          omega
        exact hnext (.pair c) text (h.concat_pair c) rfl hlength
    · by_cases hclose : c = quote ∧ shields done = false
      · obtain ⟨rfl, hshields⟩ := hclose
        have hnone : shields (done ++ []) = false := by simpa using hshields
        exact ⟨[], c :: text, by simpa using h, rfl, .inr (.inr ⟨hnone, text, rfl⟩)⟩
      · refine hnext (.single c) text (h.concat_single hc fun hquote => ?_) rfl (by simp)
        simpa [hquote] using hclose
termination_by text.length

namespace Reading

/-- The reading with one more word in front. -/
def prepend (w : Word) (r : Reading) : Reading :=
  match r.ended with
  | [] => { r with last := w :: r.last }
  | words :: ended => { r with ended := (w :: words) :: ended }

theorem chars_prepend (w : Word) (r : Reading) : (prepend w r).chars = w.chars ++ r.chars := by
  obtain ⟨ended, last, region?, loneEscape⟩ := r
  cases ended <;> cases loneEscape <;> simp [prepend, chars, rest]

theorem chars_bar (r : Reading) : ({ r with ended := [] :: r.ended } : Reading).chars
    = '|' :: r.chars := by
  simp [chars, rest]

end Reading

theorem exists_reading (text : List Char) : ∃ r : Reading, r.chars = text := by
  have hnext : ∀ (w : Word) (text' : List Char), text = w.chars ++ text' →
      text'.length < text.length → ∃ r : Reading, r.chars = text := by
    intro w text' htext hlength
    obtain ⟨r, hr⟩ := exists_reading text'
    exact ⟨r.prepend w, by rw [Reading.chars_prepend, hr, htext]⟩
  cases text with
  | nil => exact ⟨⟨[], [], none, false⟩, rfl⟩
  | cons c text =>
    by_cases hescape : c = '\\'
    · subst hescape
      cases text with
      | nil => exact ⟨⟨[], [], none, true⟩, rfl⟩
      | cons c text =>
        have hlength : text.length < ('\\' :: c :: text).length := by
          simp only [List.length_cons]
          omega
        exact hnext (.piece (.escape c)) text rfl hlength
    by_cases hbar : c = '|'
    · obtain ⟨r, rfl⟩ := exists_reading text
      exact ⟨_, by rw [Reading.chars_bar, hbar]⟩
    cases hblank : Text.isBlank c with
    | true => exact hnext (.blank c hblank) text rfl (by simp)
    | false =>
      cases hquote : isQuote c with
      | false => exact hnext (.piece (.plain c ⟨hblank, hquote, hescape, hbar⟩)) text rfl (by simp)
      | true =>
        obtain ⟨items, rest, hopen, rfl, hrest⟩ := exists_items (.nil c) text
        rw [List.nil_append] at hopen hrest
        -- the region is left open, perhaps behind a backslash, or it is closed
        rcases hrest with rfl | rfl | ⟨hshields, after, rfl⟩
        · exact ⟨⟨[], [], some ⟨c, items, hquote, hopen⟩, false⟩, by
            simp [Reading.chars, Reading.rest, Region.chars]⟩
        · exact ⟨⟨[], [], some ⟨c, items, hquote, hopen⟩, true⟩, by
            simp [Reading.chars, Reading.rest, Region.chars]⟩
        · have hlength : after.length < (c :: (items.flatMap Item.chars ++ c :: after)).length := by
            simp only [List.length_cons, List.length_append]
            omega
          refine hnext (.piece (.region ⟨c, items, hquote, hopen⟩ hshields)) after ?_ hlength
          simp [Piece.chars, Region.chars]
termination_by text.length

/-! ## Exactness -/

/-- **Exactness.** A line is read as the stages for which it derives. A line that does not derive is
refused, for the reason that any reading of it gives: first for an empty stage that a bar ends, then
for a backslash at the end, then for a region that is never closed, and otherwise for an empty last
stage. -/
theorem stages_exact (line : String) :
    (∀ written, stages line = .ok written ↔ Derives line.toList written) ∧
      (∃ r : Reading, r.chars = line.toList) ∧
      ∀ r : Reading, r.chars = line.toList →
        ∀ fault, stages line = .error fault ↔ r.Refuses fault := by
  have hread : ∀ r : Reading, r.chars = line.toList →
      stages line = .ok r.stages ∧ r.Whole ∨
        ∃ fault, stages line = .error fault ∧ r.Refuses fault := by
    intro r hr
    unfold stages
    rw [← hr]
    rcases r.whole_or_refuses with hwhole | ⟨fault, hrefuses⟩
    · exact .inl ⟨Reading.scan_of_whole hwhole, hwhole⟩
    · exact .inr ⟨fault, Reading.scan_of_refuses hrefuses, hrefuses⟩
  refine ⟨fun written => ⟨fun h => ?_, scan_of_derives⟩, exists_reading _, fun r hr fault => ?_⟩
  · obtain ⟨r, hr⟩ := exists_reading line.toList
    rcases hread r hr with ⟨hok, hwhole⟩ | ⟨fault, herror, -⟩
    · obtain rfl : r.stages = written := Except.ok.inj (hok.symm.trans h)
      exact hr ▸ derives_of_whole hwhole
    · cases herror.symm.trans h
  · constructor
    · intro h
      rcases hread r hr with ⟨hok, -⟩ | ⟨fault', herror, hrefuses⟩
      · cases hok.symm.trans h
      · obtain rfl : fault' = fault := Except.error.inj (herror.symm.trans h)
        exact hrefuses
    · intro h
      unfold stages
      rw [← hr]
      exact Reading.scan_of_refuses h

/-- A region that holds an escaped backslash and then its own quote. -/
def literalQuoteSample : Region where
  quote := '\''
  items := [.pair '\\', .single '\'', .single 'x']
  isQuote_quote := rfl
  staysOpen := (((StaysOpen.nil '\'').concat_pair '\\').concat_single (by decide)
    fun _ => rfl).concat_single (by decide) nofun

/-- An empty stage before a region that is never closed. -/
def emptyStageSample : Reading where
  ended := [[.piece (.plain 'a' ⟨by decide, by decide, by decide, by decide⟩)], []]
  last := []
  region? := some literalQuoteSample
  loneEscape := false

/-- A quote behind an escaped backslash, read as the grammar says, and the first of two faults. -/
theorem stages_exact_literalQuote :
    stages "'\\\\'x'" = .ok [["\\'x"]] ∧ stages "a||'\\\\'x" = .error .emptyCommand := by
  have hfield : DerivesFields "'\\\\'x'".toList ["\\'x"] :=
    .single ⟨[.region literalQuoteSample rfl], List.cons_ne_nil _ _⟩
  have hstage : DerivesStage "'\\\\'x'".toList ["\\'x"] := by
    have hnone : Blanks [] := nofun
    simpa using DerivesStage.surround hnone hnone hfield
  constructor
  · exact ((stages_exact "'\\\\'x'").1 [["\\'x"]]).2 (.single hstage)
  · have hempty : emptyStageSample.EndsEmpty := ⟨[], by simp [emptyStageSample], nofun⟩
    exact ((stages_exact "a||'\\\\'x").2.2 emptyStageSample rfl _).2 (.emptyStage hempty)

end CommandLine.Line
