import CommandLine.Proofs.Catalog.TypeNames

/-!
# Canonical names of types

A type can be written in many ways: with blanks, and with either word for its kind. Its name is one
of them, and it is read as the same type (`read_name`). So two texts stand for the same type if and
only if the types have the same name (`read_canonical`).
-/

namespace CommandLine.ValueType

open Text

variable {enums : List EnumType} {text : String} {type : ValueType}

/-! ## Names of kinds -/

/-- The name of a kind is what is read, but for a word that has a synonym. -/
theorem Kind.IsNamed.name_eq {kind : Kind} {name : String} (h : IsNamed enums kind name) :
    kind.name = name ∨ (kind.name, kind) ∈ words := by
  cases h with
  | word h =>
    have hall : ∀ entry ∈ words, (entry.2.name, entry.2) ∈ words := by decide
    exact .inr (hall _ h)
  | enum h => exact .inl rfl
  | named hne hword henum => exact .inl rfl

theorem Kind.read_name {chars : List Char} {kind : Kind} (h : read enums chars = .ok kind) :
    read enums kind.name.toList = .ok kind := by
  rcases (isNamed_of_read h).name_eq with hname | hword
  · rwa [hname, String.toList_ofList]
  · exact read_of_mem_words (by rwa [String.ofList_toList])

/-- A name can stand in a written type: no blank at its ends is lost, and something is left. -/
structure Bare (name : String) : Prop where
  trimmed : trimChars name.toList = name.toList
  ne_nil : name.toList ≠ []

theorem Kind.bare_of_mem_words {name : String} {kind : Kind} (h : (name, kind) ∈ words) :
    Bare name ∧ name.toList.getLast? ≠ some '?' := by
  have hall : ∀ entry ∈ words, trimChars entry.1.toList = entry.1.toList ∧
      entry.1.toList ≠ [] ∧ entry.1.toList.getLast? ≠ some '?' := by decide
  obtain ⟨htrimmed, hne, hlast⟩ := hall _ h
  exact ⟨⟨htrimmed, hne⟩, hlast⟩

/-! ## Names with a mark -/

@[simp] theorem withoutMark?_concat (front : List Char) :
    withoutMark? (front ++ ['?']) = some front := by
  simp [withoutMark?]

theorem withoutMark?_eq_none_iff {chars : List Char} :
    withoutMark? chars = none ↔ chars.getLast? ≠ some '?' := by
  simp [withoutMark?]

theorem Bare.marked {name : String} (h : Bare name) :
    typeName (name ++ "?") = name ∧ isMarked (name ++ "?") = true := by
  have htrimmed : trimChars (name ++ "?").toList = name.toList ++ ['?'] := by
    rw [String.toList_append]
    obtain ⟨c, rest, hname⟩ := List.exists_cons_of_ne_nil h.ne_nil
    have hc : isBlank c = false := isBlank_of_trimChars_eq_cons (h.trimmed.trans hname)
    rw [hname]
    exact trimChars_cons_append hc rest rfl (by simp)
  constructor
  · rw [typeName, htrimmed, withoutMark?_concat]
    dsimp only
    rw [h.trimmed, String.ofList_toList]
  · rw [isMarked, htrimmed, withoutMark?_concat]
    rfl

theorem Bare.unmarked {name : String} (h : Bare name) (hlast : name.toList.getLast? ≠ some '?') :
    typeName name = name ∧ isMarked name = false := by
  have hmark := withoutMark?_eq_none_iff.2 hlast
  constructor
  · rw [typeName, h.trimmed, hmark]
    dsimp only
    rw [String.ofList_toList]
  · rw [isMarked, h.trimmed, hmark]
    rfl

/-! ## Types -/

theorem bare_typeName (h : typeName text ≠ "") : Bare (typeName text) where
  trimmed := by
    unfold typeName
    rw [String.toList_ofList]
    cases withoutMark? (trimChars text.toList) <;> exact trimChars_trimChars _
  ne_nil := by simpa using h

theorem getLast?_typeName (h : isMarked text = false) :
    (typeName text).toList.getLast? ≠ some '?' := by
  have hmark : withoutMark? (trimChars text.toList) = none := by simpa [isMarked] using h
  rw [typeName, hmark, String.toList_ofList]
  exact withoutMark?_eq_none_iff.1 hmark

/-- The name of a kind is bare, and it ends with a `?` only if the text had one behind the name. -/
theorem bare_name_of_read {kind : Kind} (h : Kind.read enums (typeName text).toList = .ok kind) :
    Bare kind.name ∧ (isMarked text = false → kind.name.toList.getLast? ≠ some '?') := by
  have hnamed := Kind.isNamed_of_read h
  rw [String.ofList_toList] at hnamed
  rcases hnamed.name_eq with hname | hword
  · rw [hname]
    refine ⟨bare_typeName fun hempty => ?_, getLast?_typeName⟩
    -- no kind has an empty name
    rw [hempty] at h
    cases h
  · obtain ⟨hbare, hlast⟩ := Kind.bare_of_mem_words hword
    exact ⟨hbare, fun _ => hlast⟩

theorem read_name (h : read enums text = .ok type) : read enums type.name = .ok type := by
  rw [read_eq, Except.map_eq_ok_iff] at h
  obtain ⟨kind, hkind, rfl⟩ := h
  obtain ⟨hbare, hlast⟩ := bare_name_of_read hkind
  have hself : typeName (name ⟨kind, isMarked text⟩) = kind.name ∧
      isMarked (name ⟨kind, isMarked text⟩) = isMarked text := by
    unfold name
    cases hmark : isMarked text with
    | true => exact hbare.marked
    | false => exact hbare.unmarked (hlast hmark)
  rw [read_eq, hself.1, hself.2, Kind.read_name hkind]
  rfl

/-- **Canonical names.** Whatever enums are declared and however a type is written, its name is read
as the same type again. So two texts stand for the same type exactly if the types have one name. -/
theorem read_canonical (h : read enums text = .ok type) :
    read enums type.name = .ok type ∧
      ∀ (other : String) (type' : ValueType), read enums other = .ok type' →
        (type = type' ↔ type.name = type'.name) := by
  have hself := read_name h
  refine ⟨hself, fun other type' hother => ⟨congrArg name, fun hname => ?_⟩⟩
  rw [hname, read_name hother] at hself
  exact (Except.ok.inj hself).symm

/-- An enum whose name begins with a blank and ends with a `?`, with blanks around and two marks. -/
theorem read_canonical_enum :
    read [⟨" L?", ["A"]⟩] "\t enum: L? ? " = .ok ⟨.enum ⟨" L?", ["A"]⟩, true⟩ ∧
      read [⟨" L?", ["A"]⟩] "enum: L??" = .ok ⟨.enum ⟨" L?", ["A"]⟩, true⟩ ∧
      read [⟨" L?", ["A"]⟩] "L?? ?" = .ok ⟨.named "L??", true⟩ ∧
      ((⟨.enum ⟨" L?", ["A"]⟩, true⟩ : ValueType) = ⟨.named "L??", true⟩ ↔
        "enum: L??" = "L???") := by
  have hread : read [⟨" L?", ["A"]⟩] "\t enum: L? ? " = .ok ⟨.enum ⟨" L?", ["A"]⟩, true⟩ := rfl
  have hother : read [⟨" L?", ["A"]⟩] "L?? ?" = .ok ⟨.named "L??", true⟩ := rfl
  obtain ⟨hself, hsame⟩ := read_canonical hread
  exact ⟨hread, hself, hother, hsame _ _ hother⟩

end CommandLine.ValueType
