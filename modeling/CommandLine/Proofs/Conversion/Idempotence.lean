import CommandLine.Proofs.Conversion.Kinds

/-!
# Converting what has been converted

What a conversion makes is of the type that was wanted, so that it stays as it is when it is
converted again; a character is a text, and the converter makes of it what it is. So converting is
idempotent for every type that can be written, and for whatever parameter the second conversion is
(`convert_idempotent`). Only texts are ever changed.
-/

namespace CommandLine

open ValueType (Kind)

/-- A type admits the values of its kind. Characters are texts, which their type does not admit. -/
theorem Value.HasKind.admits {value : Value} {kind : Kind} (h : value.HasKind kind)
    (hchar : kind ≠ .named "char") : kind.admits value = true := by
  cases h with
  | char c => exact absurd rfl hchar
  | _ => simp [Kind.admits]

namespace Converters

variable {c : Converters} {raw value : Value} {type : ValueType} {parameter : String}

theorem convert_of_ne_text (h : ∀ s, raw ≠ .text s) :
    c.convert raw type parameter =
      if raw.isNull || type.kind.admits raw then .ok raw
      else .error (.typeMismatch parameter type.name raw.label) := by
  unfold convert
  split
  · rfl
  · split
    · exact absurd rfl (h _)
    · rfl

theorem eq_of_convert (h : ∀ s, raw ≠ .text s) (hvalue : c.convert raw type parameter = .ok value) :
    value = raw := by
  rw [convert_of_ne_text h] at hvalue
  split at hvalue
  · exact (Except.ok.inj hvalue).symm
  · cases hvalue

theorem convert_of_convert (h : c.convert raw type parameter = .ok value) (other : String) :
    c.convert raw type other = .ok value :=
  convert_eq_ok_iff.2 (convert_eq_ok_iff.1 h)

theorem convert_of_admits (h : type.kind.admits value = true) (parameter : String) :
    c.convert value type parameter = .ok value :=
  convert_eq_ok_iff.2 (.same (by simp [h]))

theorem convert_char (r : Recognizers) (x : Char) (hkind : type.kind = .named "char")
    (parameter : String) :
    (recognizing r).convert (.text (String.ofList [x])) type parameter =
      .ok (.text (String.ofList [x])) := by
  have hkey : type.converterKey? = some "char" :=
    ValueType.converterKey?_eq_some_iff.2 (by simp [hkind, Kind.key])
  have hmade : Stock.char (String.ofList [x]) = .ok (.text (String.ofList [x])) := by
    simp [Stock.char]
  exact convert_eq_ok_iff.2 (.made hkey rfl hmade)

/-- A value of the kind of a type is converted to itself. -/
theorem convert_of_hasKind (r : Recognizers) (h : value.HasKind type.kind) (parameter : String) :
    (recognizing r).convert value type parameter = .ok value := by
  by_cases hchar : type.kind = .named "char"
  · rw [hchar] at h
    cases h with
    | char x => exact convert_char r x hchar parameter
    | named hne shown => exact absurd rfl hne
  · exact convert_of_admits (h.admits hchar) parameter

/-- **Conversion is idempotent.** For every type that can be written, whatever the recognizers of
the stock converters accept: what a raw value is converted to is converted to itself, for any
parameter, and a raw value that is no text is not changed, or it is refused as a mismatch. -/
theorem convert_idempotent {enums : List EnumType} {text : String} {type : ValueType}
    (htype : ValueType.read enums text = .ok type) (raw : Value) (parameter : String) :
    stock = recognizing .stock ∧ ∀ r : Recognizers,
      (∀ value, (recognizing r).convert raw type parameter = .ok value →
        ∀ other, (recognizing r).convert value type other = .ok value) ∧
      ((∀ s, raw ≠ .text s) →
        (recognizing r).convert raw type parameter = .ok raw ∨
          (recognizing r).convert raw type parameter =
            .error (.typeMismatch parameter type.name raw.label)) := by
  refine ⟨stock_eq_recognizing, fun r => ⟨fun value hvalue other => ?_, fun hraw => ?_⟩⟩
  · by_cases hraw : ∃ s, raw = .text s
    · obtain ⟨s, rfl⟩ := hraw
      have hwritable := ValueType.writable_of_read htype
      exact convert_of_hasKind r
        (hasKind_of_convert_text (faithful_recognizing r) hwritable hvalue) other
    · obtain rfl := eq_of_convert (not_exists.1 hraw) hvalue
      exact convert_of_convert hvalue other
  · rw [convert_of_ne_text hraw]
    split
    · exact .inl rfl
    · exact .inr rfl

/-- A character, which is a text again, and a list, which is none. -/
theorem convert_idempotent_char :
    ValueType.read [] " char ?" = .ok ⟨.named "char", true⟩ ∧
      stock.convert (.text "x") ⟨.named "char", true⟩ "mark" = .ok (.text "x") ∧
      stock.convert (.text "x") ⟨.named "char", true⟩ "other" = .ok (.text "x") ∧
      stock.convert (.list [.text "x"]) ⟨.named "char", true⟩ "mark" =
        .error (.typeMismatch "mark" "char?" "list") := by
  have hread : ValueType.read [] " char ?" = .ok ⟨.named "char", true⟩ := rfl
  have hfirst : stock.convert (.text "x") ⟨.named "char", true⟩ "mark" = .ok (.text "x") := rfl
  obtain ⟨hstock, htext⟩ := convert_idempotent hread (.text "x") "mark"
  obtain ⟨-, hlist⟩ := convert_idempotent hread (.list [.text "x"]) "mark"
  have hagain := (htext .stock).1 (.text "x")
  have hmismatch := (hlist .stock).2 (by nofun)
  rw [← hstock] at hagain hmismatch
  exact ⟨hread, hfirst, hagain hfirst "other", hmismatch.resolve_left nofun⟩

end Converters

end CommandLine
