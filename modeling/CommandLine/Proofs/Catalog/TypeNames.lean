import CommandLine.Catalog.Basic
import CommandLine.Proofs.Fallible
import CommandLine.Proofs.Text.Trimming
import Mathlib.Data.List.Nodup

/-!
# The types that texts stand for

A written type is the name of a type, with blanks around it and a `?` behind it that do not belong
to the name (`typeName`). `Stands` says which type a text stands for, given the declared enums, and
`Misnames` what is wrong with a text that stands for none. `read_eq_ok_iff`, `read_eq_error_iff`:
this is how types are read.
-/

namespace CommandLine.ValueType

open Text

variable {enums : List EnumType} {text name : String}

/-! ## Names -/

/-- A `?` stands behind the name of the type. -/
def isMarked (text : String) : Bool := (withoutMark? (trimChars text.toList)).isSome

/-- The name in a written type: the text without the blanks at its ends, and without a final `?` and
the blanks in front of that. -/
def typeName (text : String) : String :=
  String.ofList (match withoutMark? (trimChars text.toList) with
    | some front => trimChars front
    | none => trimChars text.toList)

theorem read_eq (enums : List EnumType) (text : String) :
    read enums text = (Kind.read enums (typeName text).toList).map (⟨·, isMarked text⟩) := by
  unfold read typeName isMarked
  dsimp only
  rw [String.toList_ofList]
  cases withoutMark? (trimChars text.toList) <;> rfl

/-- The name is empty if and only if nothing is left beside the blanks and one `?`. -/
theorem typeName_eq_empty_iff : typeName text = "" ↔ trim text = "" ∨ trim text = "?" := by
  rw [← String.toList_inj, ← String.toList_inj, ← String.toList_inj, toList_trim]
  unfold typeName withoutMark?
  rw [String.toList_ofList]
  split
  · rename_i front hfront
    obtain ⟨hlast, hfront⟩ := Option.ite_none_right_eq_some.1 hfront
    obtain rfl := Option.some.inj hfront
    have htrimmed := List.dropLast_append_getLast? _ hlast
    generalize (trimChars text.toList).dropLast = front at htrimmed ⊢
    cases front with
    | nil => simp [← htrimmed]
    | cons c front =>
      have hc := isBlank_of_trimChars_eq_cons htrimmed.symm
      simpa [← htrimmed] using trimChars_cons_ne_nil hc
  · rename_i hnone
    have hlast : (trimChars text.toList).getLast? ≠ some '?' := by simpa using hnone
    have hmark : trimChars text.toList ≠ "?".toList := fun h => hlast (by rw [h]; rfl)
    exact (or_iff_left hmark).symm

theorem enumName?_eq_some_iff {chars rest : List Char} :
    enumName? chars = some rest ↔ String.ofList chars = "enum:" ++ String.ofList rest := by
  rw [← String.toList_inj, String.toList_append]
  simp only [String.toList_ofList]
  constructor
  · intro h
    unfold enumName? at h
    split at h
    · cases h
      rfl
    · cases h
  · rintro rfl
    rfl

theorem enumName?_eq_none_iff {chars : List Char} :
    enumName? chars = none ↔ ∀ name, String.ofList chars ≠ "enum:" ++ name := by
  rw [Option.eq_none_iff_forall_ne_some]
  constructor
  · intro h name hname
    exact h name.toList (enumName?_eq_some_iff.2 (by rw [hname, String.ofList_toList]))
  · exact fun h rest hrest => h _ (enumName?_eq_some_iff.1 hrest)

/-! ## Types -/

/-- The words for the types that are known without a declaration. -/
def Kind.words : List (String × Kind) :=
  [("bool", .bool), ("boolean", .bool), ("int", .int), ("integer", .int), ("float", .float),
   ("double", .float), ("text", .text), ("string", .text)]

theorem Kind.enumName?_of_mem_words {kind : Kind} (h : (name, kind) ∈ words) :
    enumName? name.toList = none := by
  have hall : ∀ entry ∈ words, enumName? entry.1.toList = none := by decide
  exact hall _ h

/-- What the name of a kind is: a word for it, or `enum:` and the name of a declared enum. Any other
name is that of a converter. -/
inductive Kind.IsNamed (enums : List EnumType) : Kind → String → Prop
  | word {name : String} {kind : Kind} (h : (name, kind) ∈ words) : IsNamed enums kind name
  | enum {type : EnumType} (h : type ∈ enums) : IsNamed enums (.enum type) ("enum:" ++ type.name)
  | named {name : String} (hne : name ≠ "") (hword : name ∉ words.map Prod.fst)
      (henum : ∀ rest, name ≠ "enum:" ++ rest) : IsNamed enums (.named name) name

/-- What is wrong with a name that stands for no kind. -/
inductive Kind.Misnames (enums : List String) : String → CatalogFlaw → Prop
  | empty : Misnames enums "" .emptyTypeName
  | enum {name : String} (h : name ∉ enums) : Misnames enums ("enum:" ++ name) (.unknownEnum name)

theorem find?_name (hdistinct : (enums.map (·.name)).Nodup) {type : EnumType} (h : type ∈ enums) :
    enums.find? (·.name == type.name) = some type := by
  cases hfind : enums.find? (·.name == type.name) with
  | none => simpa using List.find?_eq_none.1 hfind type h
  | some found =>
    have hname : found.name = type.name := by simpa using List.find?_some hfind
    exact congrArg some
      (List.inj_on_of_nodup_map hdistinct (List.mem_of_find?_eq_some hfind) h hname)

theorem Kind.isNamed_of_read {chars : List Char} {kind : Kind} (h : read enums chars = .ok kind) :
    IsNamed enums kind (String.ofList chars) := by
  unfold read at h
  split at h
  · rename_i wanted hwanted
    split at h
    · rename_i type hfind
      cases h
      have hname : type.name = String.ofList wanted := by simpa using List.find?_some hfind
      rw [enumName?_eq_some_iff.1 hwanted, ← hname]
      exact .enum (List.mem_of_find?_eq_some hfind)
    · cases h
  · rename_i hnone
    have henum := enumName?_eq_none_iff.1 hnone
    generalize String.ofList chars = name at h henum
    split at h
    · cases h
    all_goals
      cases h
      try exact .word (by decide)
    -- what is left is a name that is none of the words
    exact .named (by assumption) (by simp_all [words]) henum

theorem Kind.read_of_mem_words {chars : List Char} {kind : Kind}
    (h : (String.ofList chars, kind) ∈ words) : read enums chars = .ok kind := by
  have hnone : enumName? chars = none := by
    rw [← String.toList_ofList (l := chars)]
    exact enumName?_of_mem_words h
  unfold read
  rw [hnone]
  generalize String.ofList chars = name at h
  simp only [words, List.mem_cons, Prod.mk.injEq, List.not_mem_nil, or_false] at h
  rcases h with ⟨rfl, rfl⟩ | ⟨rfl, rfl⟩ | ⟨rfl, rfl⟩ | ⟨rfl, rfl⟩ | ⟨rfl, rfl⟩ | ⟨rfl, rfl⟩ |
    ⟨rfl, rfl⟩ | ⟨rfl, rfl⟩
  all_goals rfl

theorem Kind.read_of_isNamed (hdistinct : (enums.map (·.name)).Nodup) {chars : List Char}
    {kind : Kind} (h : IsNamed enums kind (String.ofList chars)) :
    read enums chars = .ok kind := by
  generalize hname : String.ofList chars = name at h
  cases h with
  | word h => exact read_of_mem_words (hname ▸ h)
  | @enum type h =>
    rw [← String.ofList_toList (s := type.name)] at hname
    rw [read, enumName?_eq_some_iff.2 hname]
    dsimp only
    rw [String.ofList_toList, find?_name hdistinct h]
  | named hne hword henum =>
    rw [read, enumName?_eq_none_iff.2 (hname ▸ henum)]
    dsimp only
    rw [hname]
    split
    all_goals first
      | rfl
      | simp [words] at hword hne

theorem Kind.read_eq_ok_iff (hdistinct : (enums.map (·.name)).Nodup) {chars : List Char}
    {kind : Kind} : read enums chars = .ok kind ↔ IsNamed enums kind (String.ofList chars) :=
  ⟨isNamed_of_read, read_of_isNamed hdistinct⟩

theorem Kind.read_eq_error_iff {chars : List Char} {flaw : CatalogFlaw} :
    read enums chars = .error flaw ↔
      Misnames (enums.map (·.name)) (String.ofList chars) flaw := by
  unfold read
  constructor
  · intro h
    split at h
    · rename_i wanted hwanted
      split at h
      · cases h
      · rename_i hfind
        cases h
        rw [enumName?_eq_some_iff.1 hwanted]
        exact .enum (by simpa using hfind)
    · split at h
      · rename_i hempty
        cases h
        rw [hempty]
        exact .empty
      all_goals cases h
  · intro h
    generalize hname : String.ofList chars = name at h
    cases h with
    | empty =>
      obtain rfl : chars = [] := by simpa using hname
      rfl
    | @enum name h =>
      rw [← String.ofList_toList (s := name)] at hname
      rw [enumName?_eq_some_iff.2 hname]
      dsimp only
      rw [String.ofList_toList]
      have hfind : enums.find? (·.name == name) = none := by simpa using h
      rw [hfind]

/-- The text stands for the type, which is nullable if the text has a `?` behind the name. -/
structure Stands (enums : List EnumType) (text : String) (type : ValueType) : Prop where
  kind : Kind.IsNamed enums type.kind (typeName text)
  nullable : type.nullable = isMarked text

theorem read_eq_ok_iff (hdistinct : (enums.map (·.name)).Nodup) {type : ValueType} :
    read enums text = .ok type ↔ Stands enums text type := by
  rw [read_eq, Except.map_eq_ok_iff]
  constructor
  · rintro ⟨kind, hkind, rfl⟩
    exact ⟨by simpa using (Kind.read_eq_ok_iff hdistinct).1 hkind, rfl⟩
  · intro h
    obtain ⟨kind, nullable⟩ := type
    refine ⟨kind, (Kind.read_eq_ok_iff hdistinct).2 (by simpa using h.kind), ?_⟩
    rw [← h.nullable]

/-! ## Flaws -/

theorem read_eq_error_iff {flaw : CatalogFlaw} :
    read enums text = .error flaw ↔
      Kind.Misnames (enums.map (·.name)) (typeName text) flaw := by
  rw [read_eq, Except.map_eq_error_iff, Kind.read_eq_error_iff, String.ofList_toList]

/-- The text is not empty when blanks and one `?` are removed, and if it names an enum, this is
declared. -/
structure IsTypeText (enums : List String) (text : String) : Prop where
  nonempty : trim text ≠ "" ∧ trim text ≠ "?"
  declared : ∀ name, typeName text = "enum:" ++ name → name ∈ enums

theorem isTypeText_iff {enums : List String} :
    IsTypeText enums text ↔ ∀ flaw, ¬ Kind.Misnames enums (typeName text) flaw := by
  constructor
  · intro h flaw hflaw
    generalize hname : typeName text = name at hflaw
    cases hflaw with
    | empty => exact not_or.2 h.nonempty (typeName_eq_empty_iff.1 hname)
    | enum hnot => exact hnot (h.declared _ hname)
  · intro h
    refine ⟨not_or.1 fun hempty => ?_, fun name hname => Classical.byContradiction fun hnot => ?_⟩
    · exact h .emptyTypeName (by rw [typeName_eq_empty_iff.2 hempty]; exact .empty)
    · exact h (.unknownEnum name) (by rw [hname]; exact .enum hnot)

end CommandLine.ValueType
