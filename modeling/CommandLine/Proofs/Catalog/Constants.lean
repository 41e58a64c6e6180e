import CommandLine.Proofs.Binding.Given
import CommandLine.Proofs.Catalog.Origin
import CommandLine.Proofs.Text.Uppercase
import Mathlib

/-!
# Constants of declared enums

A text is converted to the constant of an enum that is its upper case. So a constant that is its own
upper case is selected by its name, and no other constant is selected by any text
(`constants_selected`). A catalog may declare such constants all the same (`constant_unselected`).
-/

namespace CommandLine

/-! ## Conversion -/

/-- A text becomes a constant of an enum if and only if that is its upper case. -/
theorem Converters.convert_constant_iff {c : Converters} {type : ValueType} {enumType : EnumType}
    (hkind : type.kind = .enum enumType) {text parameter constant : String} :
    c.convert (.text text) type parameter = .ok (.enum enumType.name constant) ↔
      Text.uppercase text = constant ∧ constant ∈ enumType.constants := by
  rw [convert_eq_ok_iff]
  constructor
  · intro h
    generalize hvalue : Value.enum enumType.name constant = value at h
    cases h with
    | same => cases hvalue
    | constant hkind' hmem =>
      obtain rfl := ValueType.Kind.enum.inj (hkind.symm.trans hkind')
      obtain rfl := (Value.enum.inj hvalue).2
      exact ⟨rfl, hmem⟩
    | made hkey =>
      rw [ValueType.converterKey?, hkind] at hkey
      cases hkey
  · rintro ⟨rfl, hmem⟩
    exact .constant hkind hmem

namespace Binder

open Parameter OptionToken

variable {b : Binder} {a : Attributes} {type : ValueType} {enumType : EnumType}

theorem convert_constant_iff (hkind : type.kind = .enum enumType) {text label constant : String} :
    b.convert (.text text) type label = .ok (.enum enumType.name constant) ↔
      Text.uppercase text = constant ∧ constant ∈ enumType.constants :=
  Except.mapError_eq_ok_iff.trans (Converters.convert_constant_iff hkind)

theorem exists_uppercase_of_optionRule (hkind : type.kind = .enum enumType)
    {token? : Option OptionToken} {constant : String}
    (h : b.optionRule a type token? = .ok (.enum enumType.name constant)) :
    ∃ text, Text.uppercase text = constant := by
  have hzero : type.zero? = none := by simp [ValueType.zero?, hkind]
  unfold optionRule at h
  simp only [hzero] at h
  split at h
  · exact ⟨_, ((convert_constant_iff hkind).1 h).1⟩
  · simp [hkind] at h
  · unfold defaultOr at h
    split at h
    · split at h <;> cases h
    · split at h
      · cases h
      · split at h <;> cases h
      · exact ⟨_, ((convert_constant_iff hkind).1 h).1⟩

theorem exists_uppercase_of_boundTo {declared : List Parameter} (hsound : Sound declared)
    (hkind : type.kind = .enum enumType) {arguments : List String} {values : List Value}
    (h : b.bind declared arguments = .ok values) {constant : String}
    (hbound : BoundTo (.option a type) (.enum enumType.name constant) declared values) :
    ∃ text, Text.uppercase text = constant := by
  have hrules := gives_iff.1 ((bind_eq_ok_iff hsound).1 h).1
  obtain ⟨-, index, place, -, hvalue⟩ := rule_of_boundTo hbound (.of_sound hsound) hrules
  rw [rule] at hvalue
  exact exists_uppercase_of_optionRule hkind hvalue

end Binder

namespace Parameter

mutual

theorem options_subset_typed (p : Parameter) : p.options ⊆ p.typed := by
  match p with
  | .plain a type => simp [options]
  | .option a type => exact List.Subset.refl _
  | .bean a type members => exact optionsOfAll_subset_typedOfAll members
  | .internal a => simp [options]

theorem optionsOfAll_subset_typedOfAll (l : List Parameter) : optionsOfAll l ⊆ typedOfAll l := by
  match l with
  | [] => exact List.Subset.refl _
  | p :: rest =>
    intro entry hentry
    rw [optionsOfAll, List.mem_append] at hentry
    rw [typedOfAll, List.mem_append]
    exact hentry.imp (options_subset_typed p ·) (optionsOfAll_subset_typedOfAll rest ·)

end

end Parameter

namespace Catalog

open Parameter OptionToken
open Text (uppercase)

theorem mem_enums_of_load {text path : String} {catalog : Catalog}
    (hload : load text path = .ok catalog) {entry : Attributes × ValueType}
    (hentry : entry ∈ optionsOfAll catalog.globals ∨
      ∃ command ∈ catalog.commands, entry ∈ optionsOfAll command.parameters)
    {enumType : EnumType} (hkind : entry.2.kind = .enum enumType) : enumType ∈ catalog.enums := by
  obtain ⟨enums, henums, hstated⟩ := exists_stated_of_load hload
  have hstates : States enums entry.2 := by
    rcases hentry with hentry | ⟨command, hcommand, hentry⟩
    · exact hstated.globals entry (optionsOfAll_subset_typedOfAll _ hentry)
    · obtain ⟨d, hd⟩ := hstated.commands command hcommand
      exact (states_of_resolveCommand hd).1 entry (optionsOfAll_subset_typedOfAll _ hentry)
  rw [henums, sortEnums, List.mem_mergeSort]
  exact hstates.mem hkind

/-- **Constants are selected in upper case.** In every catalog that is loaded, a text is converted
to a constant of a declared enum if and only if that is its upper case. So the name of a constant
selects it, and any text does, if and only if the constant is its own upper case. The enums of
options are declared ones. To an option the constant is given by its name; where its own token is
the last one of its name, the option is bound to the constant, and no option is ever bound to a
constant that is not its own upper case. -/
theorem constants_selected {text path : String} {catalog : Catalog}
    (hload : load text path = .ok catalog) :
    (∀ enumType ∈ catalog.enums, ∀ constant ∈ enumType.constants,
      ∀ (c : Converters) (nullable : Bool) (parameter : String),
        (c.convert (.text constant) ⟨.enum enumType, nullable⟩ parameter =
          .ok (.enum enumType.name constant) ↔ uppercase constant = constant) ∧
        (∀ t, c.convert (.text t) ⟨.enum enumType, nullable⟩ parameter =
          .ok (.enum enumType.name constant) ↔ uppercase t = constant) ∧
        ((∃ t, c.convert (.text t) ⟨.enum enumType, nullable⟩ parameter =
          .ok (.enum enumType.name constant)) ↔ uppercase constant = constant)) ∧
    (∀ (a : Attributes) (type : ValueType) (enumType : EnumType), type.kind = .enum enumType →
      ((a, type) ∈ optionsOfAll catalog.globals ∨
        ∃ command ∈ catalog.commands, (a, type) ∈ optionsOfAll command.parameters) →
      enumType ∈ catalog.enums ∧
        ('=' ∉ a.name.toList → ∀ constant ∈ enumType.constants, ∀ b : Binder,
          b.bind [.option a type] [written a.name constant] =
            .ok [.enum enumType.name constant] ↔ uppercase constant = constant)) ∧
    ∀ registry, Registry.ofCommands catalog.commands = .ok registry →
      ∀ command ∈ registry.commands, ∀ (a : Attributes) (type : ValueType) (enumType : EnumType),
        type.kind = .enum enumType → (a, type) ∈ optionsOfAll command.parameters →
        ∀ constant ∈ enumType.constants, ∀ (b : Binder) (arguments : List String)
          (values : List Value), b.bind command.parameters arguments = .ok values →
          (uppercase constant = constant → '=' ∉ a.name.toList →
            (Partition.ofArguments arguments).options.last? a.name =
              ofToken? (written a.name constant) →
            BoundTo (.option a type) (.enum enumType.name constant) command.parameters values) ∧
          (uppercase constant ≠ constant →
            ¬ BoundTo (.option a type) (.enum enumType.name constant) command.parameters
              values) := by
  refine ⟨fun enumType henum constant hconstant c nullable parameter => ?_,
    fun a type enumType hkind hoption => ⟨mem_enums_of_load hload hoption hkind,
      fun hname constant hconstant b => ?_⟩,
    fun registry hregistry command hcommand a type enumType hkind hoption constant hconstant b
      arguments values hbind => ⟨fun hupper hname hlast => ?_, fun hupper hbound => ?_⟩⟩
  · have hiff : ∀ t, c.convert (.text t) ⟨.enum enumType, nullable⟩ parameter =
        .ok (.enum enumType.name constant) ↔ uppercase t = constant := fun t =>
      (Converters.convert_constant_iff rfl).trans (and_iff_left hconstant)
    exact ⟨hiff constant, hiff, (exists_congr hiff).trans Text.exists_uppercase_eq_iff⟩
  · -- the option alone
    rw [Binder.bind_written hname, Except.map_eq_ok_iff]
    simp only [List.cons.injEq, and_true, exists_eq_right]
    exact (Binder.convert_constant_iff hkind).trans (and_iff_left hconstant)
  · -- its own token is the last one of its name
    have hsound := Registry.sound_of_ofCommands hregistry hcommand
    rw [ofToken?_written hname] at hlast
    refine Binder.boundTo_of_bind hsound hoption ?_ ?_ hbind
    · exact ⟨_, List.mem_reverse.1 (List.mem_of_find?_eq_some hlast), List.mem_singleton.2 rfl⟩
    · rw [hlast]
      exact (Binder.convert_constant_iff hkind).2 ⟨hupper, hconstant⟩
  · -- a constant that is no upper case
    have hsound := Registry.sound_of_ofCommands hregistry hcommand
    exact hupper (Text.exists_uppercase_eq_iff.1
      (Binder.exists_uppercase_of_boundTo hsound hkind hbind hbound))

/-- An enum with a constant that is not in upper case, and one that is. -/
def levelType : EnumType := ⟨"Level", ["Low", "HIGH"]⟩

/-- A command with an option of this type. -/
def levelSample : Command where
  name := "set"
  parameters := [.option { name := "level" } ⟨.enum levelType, false⟩]
  target := ⟨"catalog", "echo", none⟩
  action := Action.echo

/-- A catalog of the enum and the command. -/
def levelText : String :=
  "[[[\"Level\",[\"Low\",\"HIGH\"]]],[]," ++
    "[[\"set\",null,\"echo\",null,null,[],[[\"option\",\"level\",\"enum:Level\"]]]]]"

theorem load_levelText :
    load levelText "catalog" = .ok { commands := [levelSample], enums := [levelType] } := by
  cbv

/-- The constant in upper case is selected by its name, also in lower case. -/
theorem constants_selected_level :
    load levelText "catalog" = .ok { commands := [levelSample], enums := [levelType] } ∧
      Converters.convert ∅ (.text "high") ⟨.enum levelType, false⟩ "--level" =
        .ok (.enum "Level" "HIGH") ∧
      Binder.bind ⟨∅, ⟨[], ∅⟩, ∅⟩ levelSample.parameters ["--level=Low", "--level=HIGH"] =
        .ok [.enum "Level" "HIGH"] ∧
      BoundTo (.option { name := "level" } ⟨.enum levelType, false⟩) (.enum "Level" "HIGH")
        levelSample.parameters [.enum "Level" "HIGH"] := by
  obtain ⟨hconvert, -, hbound⟩ := constants_selected load_levelText
  have hregistry : Registry.ofCommands [levelSample] = .ok (.push .empty levelSample) := rfl
  have hconstant : "HIGH" ∈ levelType.constants := by decide
  have hbind : Binder.bind ⟨∅, ⟨[], ∅⟩, ∅⟩ levelSample.parameters
      ["--level=Low", "--level=HIGH"] = .ok [.enum "Level" "HIGH"] := rfl
  obtain ⟨hselected, -⟩ := hbound _ hregistry levelSample (by simp) { name := "level" }
    ⟨.enum levelType, false⟩ levelType rfl (by simp [levelSample, optionsOfAll, options]) "HIGH"
    hconstant _ _ _ hbind
  refine ⟨load_levelText, ?_, hbind, hselected (by decide +kernel) (by decide) rfl⟩
  exact ((hconvert levelType (by simp) "HIGH" hconstant ∅ false "--level").2.1 "high").2
    (by decide +kernel)

/-- The other constant is declared as well. No text is converted to it, and its name is refused. -/
theorem constant_unselected :
    load levelText "catalog" = .ok { commands := [levelSample], enums := [levelType] } ∧
      "Low" ∈ levelType.constants ∧
      (∀ (c : Converters) (nullable : Bool) (parameter t : String),
        c.convert (.text t) ⟨.enum levelType, nullable⟩ parameter ≠ .ok (.enum "Level" "Low")) ∧
      Binder.bind ⟨∅, ⟨[], ∅⟩, ∅⟩ levelSample.parameters ["--level=Low"] =
        .error (.conversion (.unknownConstant "--level" "Low" "Level" ["Low", "HIGH"])) := by
  refine ⟨load_levelText, by decide, fun c nullable parameter t hconvert => ?_, rfl⟩
  have hkind : (⟨.enum levelType, nullable⟩ : ValueType).kind = .enum levelType := rfl
  have hupper := ((Converters.convert_constant_iff hkind).1 hconvert).1
  exact absurd (Text.exists_uppercase_eq_iff.1 ⟨t, hupper⟩) (by decide +kernel)

end Catalog

end CommandLine
