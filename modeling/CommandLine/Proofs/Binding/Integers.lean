import CommandLine.Conversion.Stock
import CommandLine.Proofs.Binding.Partition
import CommandLine.Proofs.Text.Trimming

/-!
# Integers from arguments

An integer in decimal is a positional, whatever its sign and its size (`not_isOption`), and
the stock converter reads it exactly or refuses it (`convert_numeral`). So a command with one
integer parameter is bound to the number that is written, by position or as the value of the option,
and otherwise the conversion fails (`bind_integer`).
-/

namespace CommandLine

open Decimal OptionToken

/-! ## Numerals as tokens -/

namespace Decimal.Numeral

variable (n : Numeral)

theorem isBlank_of_mem_chars {c : Char} (hc : c ∈ n.chars) : Text.isBlank c = false := by
  rw [chars, List.mem_append, List.mem_map] at hc
  rcases hc with hc | ⟨d, -, rfl⟩
  · obtain ⟨sign, -, rfl⟩ := Option.map_eq_some_iff.1 (Option.mem_toList.1 hc)
    cases sign <;> decide
  · revert d
    decide

theorem number_chars : Number n.chars := by
  have hdigits : Magnitude (n.digits.map digitChar ++ []) :=
    .whole (fun c hc => isDigit_of_mem_map hc) (by simpa using n.digits_ne_nil) .absent
  rw [List.append_nil] at hdigits
  exact .magnitude n.sign? hdigits

theorem isDigit_of_chars_eq {first c : Char} {rest : List Char}
    (h : n.chars = first :: c :: rest) : isDigit c := by
  have hmem : c ∈ n.digits.map digitChar := by
    unfold chars at h
    cases hsign : n.sign? with
    | none =>
      rw [hsign, show Sign.chars none = [] from rfl, List.nil_append] at h
      simp [h]
    | some sign =>
      rw [hsign, show Sign.chars (some sign) = [sign.char] from rfl, List.singleton_append] at h
      simp [(List.cons.inj h).2]
  exact isDigit_of_mem_map hmem

theorem not_isOption : ¬ IsOption n.text := by
  rintro (⟨body, hbody⟩ | ⟨c, rest, hrest, -, hnot⟩)
  · rw [toList_text] at hbody
    exact absurd (n.isDigit_of_chars_eq hbody) (by decide)
  · rw [toList_text] at hrest hnot
    exact hnot ⟨n.number_chars, .inl (n.isDigit_of_chars_eq hrest)⟩

end Decimal.Numeral

theorem Partition.ofArguments_singleton {token : String} (h : ¬ IsOption token) :
    ofArguments [token] = ⟨⟨[]⟩, [token]⟩ := by
  have hend : token ≠ "--" := by
    rintro rfl
    exact h (.inl ⟨[], rfl⟩)
  rw [ofArguments_cons hend, Option.not_isSome_iff_eq_none.1 (mt isSome_ofToken?_iff.1 h)]
  rfl

namespace Converters

theorem find?_stock_int : stock.find? "int" = some Stock.int := rfl

/-- The stock converter reads a numeral as its number, if that fits in 64 signed bits. -/
theorem convert_numeral (n : Numeral) (nullable : Bool) (parameter : String) :
    stock.convert (.text n.text) ⟨.int, nullable⟩ parameter =
      if FitsWord n.value then .ok (.int n.value)
      else .error (.refused parameter n.text "int" (.notInteger n.text)) := by
  have htrim : Text.trimChars n.text.toList = n.chars := by
    rw [Numeral.toList_text]
    exact Text.trimChars_eq_self fun c hc => n.isBlank_of_mem_chars hc
  have hread : Stock.int n.text =
      if FitsWord n.value then .ok (.int n.value) else .error (.notInteger n.text) := by
    unfold Stock.int
    rw [htrim, word?_chars]
    by_cases h : FitsWord n.value <;> simp [h]
  have hraw :
      ¬ ((Value.text n.text).isNull || ValueType.Kind.int.admits (.text n.text)) = true := by
    simp [Value.isNull, ValueType.Kind.admits]
  unfold convert
  rw [if_neg hraw]
  show stock.apply "int" n.text parameter = _
  unfold apply
  rw [find?_stock_int]
  dsimp only
  rw [hread]
  by_cases h : FitsWord n.value <;> simp [h]

end Converters

namespace Binder

variable {b : Binder} {a : Attributes} {type : ValueType}

theorem bind_positional {token : String} (h : ¬ IsOption token) :
    b.bind [.plain a type] [token] =
      (b.convert (.text token) type (plainLabel a 0)).map ([·]) := by
  have hplain : b.plain a type 0 (some token) = b.convert (.text token) type (plainLabel a 0) := rfl
  unfold bind
  simp only [Partition.ofArguments_singleton h, parameters, parameter, List.head?_cons, hplain]
  cases b.convert (.text token) type (plainLabel a 0) <;> rfl

theorem fitsWord_iff {n : Int} : FitsWord n ↔ -2 ^ 63 ≤ n ∧ n ≤ 2 ^ 63 - 1 := by
  unfold FitsWord
  omega

/-- **Integers travel exactly.** A command with one plain integer parameter that is given an integer
in decimal is bound to the number that it stands for, if that fits in 64 signed bits, and fails for
the conversion if it does not. The same holds of an integer option that is given it behind an
`=`. -/
theorem bind_integer (resolver : Resolver) (internals : Table Value) (n : Numeral) (a : Attributes)
    (nullable : Bool) :
    bind ⟨.stock, resolver, internals⟩ [.plain a ⟨.int, nullable⟩] [n.text] =
      (if -2 ^ 63 ≤ n.value ∧ n.value ≤ 2 ^ 63 - 1 then .ok [.int n.value]
       else .error (.conversion (.refused (plainLabel a 0) n.text "int" (.notInteger n.text)))) ∧
    ('=' ∉ a.name.toList →
      bind ⟨.stock, resolver, internals⟩ [.option a ⟨.int, nullable⟩]
          ["--" ++ a.name ++ "=" ++ n.text] =
        if -2 ^ 63 ≤ n.value ∧ n.value ≤ 2 ^ 63 - 1 then .ok [.int n.value]
        else
          .error (.conversion (.refused ("--" ++ a.name) n.text "int" (.notInteger n.text)))) := by
  have hconvert : ∀ label, convert ⟨.stock, resolver, internals⟩ (.text n.text) ⟨.int, nullable⟩
      label = if -2 ^ 63 ≤ n.value ∧ n.value ≤ 2 ^ 63 - 1 then .ok (.int n.value)
        else .error (.conversion (.refused label n.text "int" (.notInteger n.text))) := by
    intro label
    unfold convert
    rw [Converters.convert_numeral]
    simp only [fitsWord_iff]
    split <;> rfl
  refine ⟨?_, fun hname => ?_⟩
  · rw [bind_positional n.not_isOption, hconvert]
    split <;> rfl
  · rw [← written, bind_written hname, hconvert]
    split <;> rfl

/-- The least integer of 64 bits, with a zero in front. -/
def leastNumeral : Numeral :=
  ⟨some .minus, [0, 9, 2, 2, 3, 3, 7, 2, 0, 3, 6, 8, 5, 4, 7, 7, 5, 8, 0, 8], by decide⟩

/-- The integer after the greatest one of 64 bits. -/
def exceedingNumeral : Numeral :=
  ⟨some .plus, [9, 2, 2, 3, 3, 7, 2, 0, 3, 6, 8, 5, 4, 7, 7, 5, 8, 0, 8], by decide⟩

/-- The least integer arrives as it is, by position and as an option, and one beyond the greatest is
refused. -/
theorem bind_integer_bounds :
    leastNumeral.text = "-09223372036854775808" ∧ '=' ∉ "o".toList ∧
      bind ⟨.stock, ⟨[], ∅⟩, ∅⟩ [.plain { name := "o" } ⟨.int, false⟩] [leastNumeral.text] =
        .ok [.int (-9223372036854775808)] ∧
      bind ⟨.stock, ⟨[], ∅⟩, ∅⟩ [.option { name := "o" } ⟨.int, false⟩]
          ["--" ++ "o" ++ "=" ++ leastNumeral.text] = .ok [.int (-9223372036854775808)] ∧
      bind ⟨.stock, ⟨[], ∅⟩, ∅⟩ [.option { name := "o" } ⟨.int, false⟩]
          ["--" ++ "o" ++ "=" ++ exceedingNumeral.text] =
        .error (.conversion (.refused "--o" "+9223372036854775808" "int"
          (.notInteger "+9223372036854775808"))) := by
  have hname : '=' ∉ "o".toList := by decide
  obtain ⟨hplain, hoption⟩ :=
    bind_integer ⟨[], ∅⟩ ∅ leastNumeral { name := "o" } false
  obtain ⟨-, hexceeding⟩ := bind_integer ⟨[], ∅⟩ ∅ exceedingNumeral { name := "o" } false
  have hleast : leastNumeral.value = -9223372036854775808 := by decide
  have hgreatest : exceedingNumeral.value = 9223372036854775808 := by decide
  refine ⟨by decide, hname, ?_, ?_, ?_⟩
  · rw [hplain, hleast]
    rfl
  · rw [hoption hname, hleast]
    rfl
  · rw [hexceeding hname, hgreatest]
    rfl

end Binder

end CommandLine
