import CommandLine.Line
import Mathlib.Data.List.Basic

/-!
# Written lines are read back

`Line.ofStages` writes a line, and `stages_ofStages` reads it back: whatever characters the fields
hold, the stages are those that were written. The scan is followed along the written form: a field,
the fields of a stage, and the stages of a line.
-/

namespace CommandLine.Line

/-- A backslash before every character. -/
def escaped (chars : List Char) : List Char := chars.flatMap fun c => ['\\', c]

@[simp] theorem escaped_nil : escaped [] = [] := rfl

@[simp] theorem escaped_cons (c : Char) (chars : List Char) :
    escaped (c :: chars) = '\\' :: c :: escaped chars := rfl

theorem toList_ofField (field : String) :
    (ofField field).toList = if field.toList = [] then ['"', '"'] else escaped field.toList := by
  unfold ofField
  by_cases h : field = ""
  · subst h
    rfl
  · have hchars : field.toList ≠ [] := by simpa [String.toList_eq_nil_iff] using h
    rw [if_neg (by simpa [String.isEmpty_iff] using h), if_neg hchars, String.toList_ofList]
    rfl

/-! ## A field -/

/-- An escaped character belongs to the open field, whatever it is. -/
theorem scan_escape (fields : List String) (field : Option (List Char)) (c : Char)
    (rest : List Char) :
    scan .bare fields field ('\\' :: c :: rest) = scan .bare fields (extend field c) rest := by
  rw [scan]
  rfl

theorem scan_escaped (fields : List String) (opened chars rest : List Char) :
    scan .bare fields (some opened) (escaped chars ++ rest)
      = scan .bare fields (some (opened ++ chars)) rest := by
  induction chars generalizing opened with
  | nil => rw [escaped_nil, List.nil_append, List.append_nil]
  | cons c chars ih =>
    rw [escaped_cons, List.cons_append, List.cons_append, scan_escape, extend, Option.getD_some, ih,
      List.append_assoc, List.singleton_append]

theorem scan_ofField (fields : List String) (field : String) (rest : List Char) :
    scan .bare fields none ((ofField field).toList ++ rest)
      = scan .bare fields (some field.toList) rest := by
  rw [toList_ofField]
  cases h : field.toList with
  | nil =>
    rw [if_pos rfl]
    simp [scan, isQuote]
  | cons c chars =>
    rw [if_neg (List.cons_ne_nil _ _), escaped_cons, List.cons_append, List.cons_append,
      scan_escape]
    exact scan_escaped fields [c] chars rest

/-! ## A stage -/

theorem scan_blank {c : Char} (hc : Text.isBlank c = true) (fields : List String)
    (field : Option (List Char)) (rest : List Char) :
    scan .bare fields field (c :: rest) = scan .bare (closeField fields field) none rest := by
  have hescape : c ≠ '\\' := by
    rintro rfl
    exact absurd hc (by decide)
  have hquote : isQuote c = false := by
    simp only [isQuote, Bool.or_eq_false_iff, beq_eq_false_iff_ne]
    constructor <;> rintro rfl <;> exact absurd hc (by decide)
  have hbar : c ≠ '|' := by
    rintro rfl
    exact absurd hc (by decide)
  rw [scan]
  · rw [if_neg (by simp [hquote]), if_neg hbar, if_pos hc]
  all_goals simp [hescape]

theorem scan_space (fields : List String) (field : Option (List Char)) (rest : List Char) :
    scan .bare fields field (' ' :: rest) = scan .bare (closeField fields field) none rest :=
  scan_blank (by decide) fields field rest

/-- The fields of a stage with blanks between them. -/
def fieldChars (stage : List String) : List Char := (" ".intercalate (stage.map ofField)).toList

@[simp] theorem fieldChars_nil : fieldChars [] = [] := rfl

@[simp] theorem fieldChars_singleton (field : String) :
    fieldChars [field] = (ofField field).toList := by
  simp [fieldChars]

theorem fieldChars_cons_cons (field next : String) (rest : List String) :
    fieldChars (field :: next :: rest)
      = (ofField field).toList ++ ' ' :: fieldChars (next :: rest) := by
  simp [fieldChars]

/-- The last field of a written stage is open once the stage has been read. -/
theorem scan_fieldChars (fields stage : List String) (rest : List Char) :
    scan .bare fields none (fieldChars stage ++ rest)
      = scan .bare (fields ++ stage.dropLast) (stage.getLast?.map String.toList) rest := by
  induction stage generalizing fields with
  | nil => simp
  | cons field others ih =>
    cases others with
    | nil => simp [scan_ofField]
    | cons next others =>
      rw [fieldChars_cons_cons, List.append_assoc, scan_ofField, List.cons_append, scan_space,
        closeField, String.ofList_toList, ih]
      simp

/-- A written stage has all its fields once the last one is closed. -/
theorem closeField_dropLast (stage : List String) :
    closeField stage.dropLast (stage.getLast?.map String.toList) = stage := by
  cases h : stage.getLast? with
  | none => simp_all [closeField]
  | some last =>
    obtain ⟨front, rfl⟩ := List.getLast?_eq_some_iff.1 h
    simp [closeField]

/-! ## A line -/

theorem scan_end {fields : List String} {field : Option (List Char)}
    (h : closeField fields field ≠ []) :
    scan .bare fields field [] = .ok [closeField fields field] := by
  rw [scan]
  split
  · contradiction
  · rfl

theorem scan_bar {fields : List String} {field : Option (List Char)}
    (h : closeField fields field ≠ []) (rest : List Char) :
    scan .bare fields field ('|' :: rest)
      = (scan .bare [] none rest).map (closeField fields field :: ·) := by
  rw [scan]
  · rw [if_neg (by decide), if_pos rfl]
    split
    · contradiction
    · rfl
  all_goals simp

theorem toList_ofStages (written : List (List String)) :
    (ofStages written).toList = ['|'].intercalate (written.map fieldChars) := by
  rw [ofStages, String.toList_intercalate, List.map_map]
  rfl

theorem stages_ofStages {written : List (List String)} (hwritten : written ≠ [])
    (hstages : ∀ stage ∈ written, stage ≠ []) : stages (ofStages written) = .ok written := by
  unfold stages
  rw [toList_ofStages]
  induction written with
  | nil => contradiction
  | cons stage rest ih =>
    have hstage : closeField stage.dropLast (stage.getLast?.map String.toList) ≠ [] := by
      rw [closeField_dropLast]
      exact hstages stage List.mem_cons_self
    cases rest with
    | nil =>
      have hread := scan_fieldChars [] stage []
      rw [List.append_nil, List.nil_append, scan_end hstage, closeField_dropLast] at hread
      simpa using hread
    | cons next rest =>
      have hrest := ih (List.cons_ne_nil _ _) fun s hs => hstages s (List.mem_cons_of_mem _ hs)
      rw [List.map_cons, List.map_cons, List.intercalate_cons_cons, List.append_assoc,
        scan_fieldChars, List.nil_append, List.singleton_append, scan_bar hstage,
        closeField_dropLast, ← List.map_cons, hrest]
      rfl

theorem stages_ofStages_nil : stages (ofStages [[]]) = .error .emptyCommand := rfl

end CommandLine.Line
