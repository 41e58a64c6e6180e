import CommandLine.Proofs.Binding.Rules
import CommandLine.Proofs.Shortage
import CommandLine.Proofs.Substitution.Termination

/-!
# What binding can fail for

`Binder.BindingFault` lists the faults of binding. Besides conversions there are four kinds, and no
other step has a say: `failsOnly_bind` and `failsOnly_bindGlobals`. So binding has no shortage,
whatever it is given, if the converters serve the types of all plain parameters and options, those
inside of groups included (`supplied_bind`, `supplied_bindGlobals`). What a conversion succeeds with
is said by `Converters.Converts`.
-/

namespace CommandLine

/-! ## Conversion -/

/-- The key of the converter that texts are given to. A text stays a text, and enums have their
constants. -/
def ValueType.converterKey? (type : ValueType) : Option String :=
  match type.kind with
  | .text | .enum _ => none
  | kind => some kind.key

theorem ValueType.converterKey?_eq_some_iff {type : ValueType} {key : String} :
    type.converterKey? = some key ↔
      type.kind ≠ .text ∧ (∀ enumType, type.kind ≠ .enum enumType) ∧ type.kind.key = key := by
  unfold converterKey?
  cases type.kind <;> simp

theorem ValueType.ne_text_of_not_admits {type : ValueType} {text : String}
    (h : ¬ ((Value.text text).isNull || type.kind.admits (.text text)) = true) :
    type.kind ≠ .text := by
  intro htext
  simp [htext, Kind.admits] at h

namespace Converters

/-- The converter that the type needs, if it needs one, is there. -/
def Serves (c : Converters) (type : ValueType) : Prop :=
  ∀ key, type.converterKey? = some key → c.contains key

theorem find?_eq_none_iff {c : Converters} {key : String} :
    c.find? key = none ↔ c.contains key = false := by
  simp [find?, contains, ← Bool.not_eq_true]

theorem apply_ne_noConverter {c : Converters} {key : String} (h : c.contains key)
    {text parameter : String} {failure : ConversionFailure}
    (hfailure : c.apply key text parameter = .error failure) :
    (Fault.conversion failure).isShortage = false := by
  unfold apply at hfailure
  split at hfailure
  · rename_i hnone
    rw [find?_eq_none_iff, h] at hnone
    cases hnone
  · split at hfailure
    · cases hfailure
    · cases hfailure
      rfl

theorem isShortage_of_convert {c : Converters} {type : ValueType} (h : c.Serves type) {raw : Value}
    {parameter : String} {failure : ConversionFailure}
    (hfailure : c.convert raw type parameter = .error failure) :
    (Fault.conversion failure).isShortage = false := by
  unfold convert at hfailure
  split at hfailure
  · cases hfailure
  rename_i hraw
  split at hfailure
  · rename_i text
    split at hfailure
    · unfold constant at hfailure
      dsimp only at hfailure
      split at hfailure
      · cases hfailure
      · cases hfailure
        rfl
    · rename_i hkind
      have htext := ValueType.ne_text_of_not_admits hraw
      have hkey := ValueType.converterKey?_eq_some_iff.2 ⟨htext, hkind, rfl⟩
      exact apply_ne_noConverter (h _ hkey) hfailure
  · cases hfailure
    rfl

/-- What a raw value is converted to: a null and a value of the type to itself, a text to the
constant of an enum that it names, or else to what the converter of the type makes of it. -/
inductive Converts (c : Converters) (type : ValueType) : Value → Value → Prop
  | same {raw : Value} (h : raw.isNull || type.kind.admits raw) : Converts c type raw raw
  | constant {enumType : EnumType} {text : String} (hkind : type.kind = .enum enumType)
      (hmem : Text.uppercase text ∈ enumType.constants) :
      Converts c type (.text text) (.enum enumType.name (Text.uppercase text))
  | made {key text : String} {converter : Converter} {value : Value}
      (hkey : type.converterKey? = some key) (hfind : c.find? key = some converter)
      (hmade : converter text = .ok value) : Converts c type (.text text) value

theorem constant_eq_ok_iff {enumType : EnumType} {text parameter : String} {value : Value} :
    constant enumType text parameter = .ok value ↔
      Text.uppercase text ∈ enumType.constants ∧
        value = .enum enumType.name (Text.uppercase text) := by
  unfold constant
  dsimp only
  cases hfound : enumType.constants.find? (· == Text.uppercase text) with
  | none =>
    have hmem : Text.uppercase text ∉ enumType.constants :=
      fun hmem => by simpa using List.find?_eq_none.1 hfound _ hmem
    simp [hmem]
  | some found =>
    obtain rfl : found = Text.uppercase text := by simpa using List.find?_some hfound
    simp [List.mem_of_find?_eq_some hfound, eq_comm]

theorem apply_eq_ok_iff {c : Converters} {key text parameter : String} {value : Value} :
    c.apply key text parameter = .ok value ↔
      ∃ converter, c.find? key = some converter ∧ converter text = .ok value := by
  unfold apply
  cases hfind : c.find? key with
  | none => simp
  | some converter => cases hmade : converter text <;> simp [hmade]

/-- A conversion does not depend on the name of the parameter, which is for failures only. -/
theorem convert_eq_ok_iff {c : Converters} {type : ValueType} {raw value : Value}
    {parameter : String} :
    c.convert raw type parameter = .ok value ↔ c.Converts type raw value := by
  constructor
  · intro h
    unfold convert at h
    split at h
    · rename_i hraw
      cases h
      exact .same hraw
    rename_i hraw
    split at h
    · rename_i text
      split at h
      · rename_i enumType hkind
        obtain ⟨hmem, rfl⟩ := constant_eq_ok_iff.1 h
        exact .constant hkind hmem
      · rename_i hkind
        obtain ⟨converter, hfind, hmade⟩ := apply_eq_ok_iff.1 h
        have htext := ValueType.ne_text_of_not_admits hraw
        exact .made (ValueType.converterKey?_eq_some_iff.2 ⟨htext, hkind, rfl⟩) hfind hmade
    · cases h
  · intro h
    cases h with
    | same hraw =>
      unfold convert
      rw [if_pos hraw]
    | constant hkind hmem =>
      unfold convert
      rw [hkind]
      exact constant_eq_ok_iff.2 ⟨hmem, rfl⟩
    | made hkey hfind hmade =>
      obtain ⟨kind, nullable⟩ := type
      cases kind with
      | text => cases hkey
      | enum enumType => cases hkey
      | _ =>
        cases hkey
        exact apply_eq_ok_iff.2 ⟨_, hfind, hmade⟩

end Converters

namespace Parameter

mutual

/-- The plain parameters and options in a parameter, with their types. -/
def typed : Parameter → List (Attributes × ValueType)
  | plain a type | option a type => [(a, type)]
  | bean _ _ members => typedOfAll members
  | internal _ => []

def typedOfAll : List Parameter → List (Attributes × ValueType)
  | [] => []
  | p :: rest => typed p ++ typedOfAll rest

end

end Parameter

/-! ## Binding -/

/-- A fault that binding can have, for parameters of the given types. -/
inductive Binder.BindingFault (b : Binder) (types : List (Attributes × ValueType)) : Fault → Prop
  /-- A text or another value is not converted to one of the types. -/
  | conversion {entry : Attributes × ValueType} {raw : Value} {label : String}
      {failure : ConversionFailure} (hmem : entry ∈ types)
      (hfailure : b.converters.convert raw entry.2 label = .error failure) :
      BindingFault b types (.conversion failure)
  | cyclicSubstitution (chain : List String) : BindingFault b types (.cyclicSubstitution chain)
  | missingArgument (label : String) (cause : Lack) :
      BindingFault b types (.missingArgument label cause)
  | unknownOption (token : String) : BindingFault b types (.unknownOption token)
  | unexpectedArgument (value : String) : BindingFault b types (.unexpectedArgument value)

namespace Binder

open Parameter Except

variable {b : Binder} {types : List (Attributes × ValueType)} {a : Attributes} {type : ValueType}

theorem BindingFault.mono {types' : List (Attributes × ValueType)} (h : types ⊆ types')
    {fault : Fault} (hfault : b.BindingFault types fault) : b.BindingFault types' fault := by
  cases hfault with
  | conversion hmem hfailure => exact .conversion (h hmem) hfailure
  | cyclicSubstitution chain => exact .cyclicSubstitution chain
  | missingArgument label cause => exact .missingArgument label cause
  | unknownOption token => exact .unknownOption token
  | unexpectedArgument value => exact .unexpectedArgument value

theorem failsOnly_convert (h : (a, type) ∈ types) (raw : Value) (label : String) :
    FailsOnly (b.BindingFault types) (b.convert raw type label) := by
  intro fault hfault
  obtain ⟨failure, hfailure, rfl⟩ := Except.mapError_eq_error_iff.1 hfault
  exact .conversion h hfailure

theorem failsOnly_defaultOr (h : (a, type) ∈ types) (label : String)
    {otherwise : Except Fault Value} (hotherwise : FailsOnly (b.BindingFault types) otherwise) :
    FailsOnly (b.BindingFault types) (b.defaultOr a type label otherwise) := by
  unfold defaultOr
  split
  · exact hotherwise
  · split
    · rename_i fault hfault
      obtain ⟨chain, rfl⟩ := Resolver.fault_of_substitute hfault
      exact .error (.cyclicSubstitution chain)
    · exact hotherwise
    · exact failsOnly_convert h _ label

theorem failsOnly_plain (h : (a, type) ∈ types) (index : Nat) (next? : Option String) :
    FailsOnly (b.BindingFault types) (b.plain a type index next?) := by
  rw [plain_eq_rule]
  unfold plainRule
  cases next? with
  | some text => exact failsOnly_convert h _ _
  | none => exact failsOnly_defaultOr h _ (.error (.missingArgument _ _))

theorem failsOnly_option (h : (a, type) ∈ types) (token? : Option OptionToken) :
    FailsOnly (b.BindingFault types) (b.option a type token?) := by
  rw [option_eq_rule]
  unfold optionRule
  split
  · exact failsOnly_convert h _ _
  · split
    · exact failsOnly_convert h _ _
    · exact .error (.missingArgument _ _)
  · refine failsOnly_defaultOr h _ ?_
    split
    · exact .ok _
    · split
      · exact .ok _
      · exact .error (.missingArgument _ _)

mutual

theorem failsOnly_parameter (b : Binder) (p : Parameter) (index : Nat) (s : Supply) :
    FailsOnly (b.BindingFault p.typed) (b.parameter index p s) := by
  match p with
  | .plain a type =>
    rw [parameter]
    exact (failsOnly_plain (by simp [typed]) index _).map _
  | .option a type =>
    rw [parameter]
    exact (failsOnly_option (by simp [typed]) _).map _
  | .bean a type members =>
    rw [parameter, typed]
    split
    · exact .ok _
    · exact (failsOnly_parameters b members 0 s).map _
  | .internal a =>
    rw [parameter]
    exact .ok _

theorem failsOnly_parameters (b : Binder) (l : List Parameter) (index : Nat) (s : Supply) :
    FailsOnly (b.BindingFault (typedOfAll l)) (b.parameters index l s) := by
  match l with
  | [] =>
    rw [parameters]
    exact .ok _
  | p :: rest =>
    rw [parameters, typedOfAll]
    refine ((failsOnly_parameter b p index s).mono fun _ => .mono (by simp)).bind ?_
    rintro ⟨value, left⟩ -
    exact ((failsOnly_parameters b rest (index + 1) left).mono fun _ => .mono (by simp)).map _

end

theorem failsOnly_ensureConsumed (pool : OptionPool) :
    FailsOnly (b.BindingFault types) pool.ensureConsumed := by
  unfold OptionPool.ensureConsumed
  split
  · exact .ok ()
  · exact .error (.unknownOption _)

theorem failsOnly_bind (b : Binder) (declared : List Parameter) (arguments : List String) :
    FailsOnly (b.BindingFault (typedOfAll declared)) (b.bind declared arguments) := by
  unfold bind
  refine (failsOnly_parameters b declared 0 _).bind ?_
  rintro ⟨values, left⟩ -
  refine (failsOnly_ensureConsumed _).bind fun _ _ => ?_
  split
  · exact .ok _
  · exact .error (.unexpectedArgument _)

/-- A fault of global options: they are refused if one of them is no group. -/
def GlobalFault (b : Binder) (declared : List Parameter) (fault : Fault) : Prop :=
  b.BindingFault (typedOfAll declared) fault ∨ ∃ group ∈ declared, group.isBean = false ∧
    fault = .invalidDeclaration globalOwner (.groupKind group.name)

theorem GlobalFault.cons {group : Parameter} {rest : List Parameter} {fault : Fault}
    (h : b.GlobalFault rest fault) : b.GlobalFault (group :: rest) fault := by
  obtain hfault | ⟨other, hmem, hother⟩ := h
  · exact .inl (hfault.mono (by simp [typedOfAll]))
  · exact .inr ⟨other, List.mem_cons_of_mem _ hmem, hother⟩

theorem failsOnly_groups (b : Binder) (declared : List Parameter) (pool : OptionPool) :
    FailsOnly (b.GlobalFault declared) (b.groups declared pool) := by
  induction declared generalizing pool with
  | nil => exact .ok _
  | cons group rest ih =>
    rw [groups]
    split
    · refine FailsOnly.bind (fun fault hfault => .inl ?_) ?_
      · exact (failsOnly_parameter b group 0 _ fault hfault).mono (by simp [typedOfAll])
      · rintro ⟨value, left⟩ -
        exact ((ih _).mono fun _ => GlobalFault.cons).map _
    · rename_i hbean
      exact .error (.inr ⟨group, List.mem_cons_self, by simpa using hbean, rfl⟩)

theorem failsOnly_bindGlobals (b : Binder) (declared : List Parameter) (tokens : List String) :
    FailsOnly (b.GlobalFault declared) (b.bindGlobals declared tokens) := by
  unfold bindGlobals
  refine (failsOnly_groups b declared _).bind ?_
  rintro ⟨values, pool⟩ -
  refine ((failsOnly_ensureConsumed _).mono fun _ => Or.inl).bind fun _ _ => ?_
  split
  · exact .ok _
  · exact .error (.inl (.unknownOption _))

/-! ## Binding without shortages -/

theorem BindingFault.isShortage_eq (h : ∀ entry ∈ types, b.converters.Serves entry.2)
    {fault : Fault} (hfault : b.BindingFault types fault) : fault.isShortage = false := by
  cases hfault with
  | conversion hmem hfailure => exact Converters.isShortage_of_convert (h _ hmem) hfailure
  | cyclicSubstitution | missingArgument | unknownOption | unexpectedArgument => rfl

/-- Binding has no shortage if all types are served. -/
theorem supplied_bind {declared : List Parameter}
    (h : ∀ entry ∈ typedOfAll declared, b.converters.Serves entry.2) (arguments : List String) :
    Supplied (b.bind declared arguments) :=
  (failsOnly_bind b declared arguments).mono fun _ => BindingFault.isShortage_eq h

theorem supplied_bindGlobals {declared : List Parameter}
    (h : ∀ entry ∈ typedOfAll declared, b.converters.Serves entry.2) (tokens : List String) :
    Supplied (b.bindGlobals declared tokens) := by
  refine (failsOnly_bindGlobals b declared tokens).mono ?_
  rintro fault (hfault | ⟨group, -, -, rfl⟩)
  · exact hfault.isShortage_eq h
  · rfl

end Binder

end CommandLine
