import CommandLine.Proofs.Catalog.Declared
import Mathlib.Data.List.Permutation

/-!
# Which catalog documents are resolved

`Catalog.items` lists what a document states, in the order in which it is looked at, and
`Catalog.Offends` says what is wrong with each. `Catalog.resolve_exact`: a document is resolved if
and only if nothing that it states is wrong (`Declarations.Resolvable`), and then the catalog is the
one that it declares (`Declarations.Declares`); otherwise the flaw is that of the first item that
offends.
-/

namespace CommandLine

namespace ParameterDeclaration

mutual

/-- The types that are stated for plain parameters and options, those inside of groups included. -/
def typeTexts : ParameterDeclaration → List String
  | .mk .plain _ type? _ _ _ | .mk .option _ type? _ _ _ => type?.toList
  | .mk .internal _ _ _ _ _ => []
  | .mk .bean _ _ _ _ members => typeTextsOfAll members

def typeTextsOfAll : List ParameterDeclaration → List String
  | [] => []
  | d :: rest => typeTexts d ++ typeTextsOfAll rest

end

end ParameterDeclaration

namespace Declarations

open ParameterDeclaration (typeTextsOfAll)

variable (d : Declarations)

/-- All names that the document uses are known. -/
structure Resolvable : Prop where
  constants : ∀ e ∈ d.enums, e.constants ≠ []
  distinct : d.enumNames.Nodup
  globals : ∀ text ∈ typeTextsOfAll d.globals, ValueType.IsTypeText d.enumNames text
  targets : ∀ c ∈ d.commands, c.target ∈ Action.stockNames
  returns : ∀ c ∈ d.commands, ∀ text, c.returns? = some text →
    ValueType.IsTypeText d.enumNames text
  parameters : ∀ c ∈ d.commands, ∀ text ∈ typeTextsOfAll c.parameters,
    ValueType.IsTypeText d.enumNames text

theorem Resolvable.distinct_enumTypes {d : Declarations} (h : d.Resolvable) :
    (d.enumTypes.map (·.name)).Nodup := by
  rw [map_name_enumTypes]
  exact h.distinct

end Declarations

namespace Catalog

open ParameterDeclaration (typeTexts typeTextsOfAll)
open ValueType (IsTypeText)

/-! ## Items and their flaws -/

/-- One thing that a document states. -/
inductive Item where
  /-- An enum, and the names of those before it. -/
  | enum (earlier : List String) (d : EnumDeclaration)
  | target (command target : String)
  | type (text : String)

/-- The enums of a list that are declared after those of the given names. -/
def enumItems (earlier : List String) : List EnumDeclaration → List Item
  | [] => []
  | d :: rest => .enum earlier d :: enumItems (earlier ++ [d.name]) rest

/-- A command states its target, then the type of its results, and then those of its parameters. -/
def commandItems (d : CommandDeclaration) : List Item :=
  .target d.name d.target :: (d.returns?.toList ++ typeTextsOfAll d.parameters).map .type

/-- What a document states: first its enums, then its globals, and then its commands. -/
def items (d : Declarations) : List Item :=
  enumItems [] d.enums ++ ((typeTextsOfAll d.globals).map .type ++ d.commands.flatMap commandItems)

/-- What is wrong with an item, if the enums of the given names are declared. That an enum has no
constant counts before that its name is taken. -/
inductive Offends (enums : List String) : Item → CatalogFlaw → Prop
  | emptyEnum {earlier : List String} {d : EnumDeclaration} (hempty : d.constants = []) :
      Offends enums (.enum earlier d) (.emptyEnum d.name)
  | repeatedEnum {earlier : List String} {d : EnumDeclaration} (hne : d.constants ≠ [])
      (htaken : d.name ∈ earlier) : Offends enums (.enum earlier d) (.repeatedEnum d.name)
  | target {command target : String} (h : target ∉ Action.stockNames) :
      Offends enums (.target command target) (.unknownTarget command target Action.stockNames)
  | type {text : String} {flaw : CatalogFlaw}
      (h : ValueType.Kind.Misnames enums (ValueType.typeName text) flaw) :
      Offends enums (.type text) flaw

/-- The flaw of the first item that offends. -/
def FirstOffence (d : Declarations) (flaw : CatalogFlaw) : Prop :=
  ∃ before item after, items d = before ++ item :: after ∧ Offends d.enumNames item flaw ∧
    ∀ earlier ∈ before, ∀ other, ¬ Offends d.enumNames earlier other

/-- The flaw of an item. -/
def flaw? (enums : List EnumType) : Item → Option CatalogFlaw
  | .enum earlier d =>
    if d.constants = [] then some (.emptyEnum d.name)
    else if d.name ∈ earlier then some (.repeatedEnum d.name)
    else none
  | .target command target =>
    if target ∈ Action.stockNames then none
    else some (.unknownTarget command target Action.stockNames)
  | .type text => (ValueType.read enums text).error?

theorem flaw?_eq_some_iff {enums : List EnumType} {item : Item} {flaw : CatalogFlaw} :
    flaw? enums item = some flaw ↔ Offends (enums.map (·.name)) item flaw := by
  cases item with
  | enum earlier d =>
    constructor
    · intro h
      rw [flaw?] at h
      split at h
      · rename_i hempty
        exact Option.some.inj h ▸ .emptyEnum hempty
      rename_i hne
      split at h
      · rename_i htaken
        exact Option.some.inj h ▸ .repeatedEnum hne htaken
      · cases h
    · intro h
      cases h with
      | emptyEnum hempty => simp [flaw?, hempty]
      | repeatedEnum hne htaken => simp [flaw?, hne, htaken]
  | target command target =>
    constructor
    · intro h
      rw [flaw?] at h
      split at h
      · cases h
      · rename_i hunknown
        exact Option.some.inj h ▸ .target hunknown
    · intro h
      cases h with
      | target hunknown => simp [flaw?, hunknown]
  | type text =>
    rw [flaw?, Except.error?_eq_some_iff, ValueType.read_eq_error_iff]
    exact ⟨.type, fun h => by cases h; assumption⟩

theorem flaw?_eq_none_iff {enums : List EnumType} {item : Item} :
    flaw? enums item = none ↔ ∀ flaw, ¬ Offends (enums.map (·.name)) item flaw := by
  simp only [← flaw?_eq_some_iff, Option.eq_none_iff_forall_ne_some, ne_eq]

section Flaws

variable {enums : List EnumType}

/-! ## First flaws -/

theorem error?_resolveEnums (enums resolved : List EnumType) (l : List EnumDeclaration) :
    (resolveEnums resolved l).error? =
      (enumItems (resolved.map (·.name)) l).findSome? (flaw? enums) := by
  induction l generalizing resolved with
  | nil => rfl
  | cons d rest ih =>
    rw [resolveEnums, enumItems, List.findSome?_cons, flaw?]
    by_cases hempty : d.constants = []
    · simp [hempty, Except.error?]
    by_cases htaken : d.name ∈ resolved.map (·.name)
    · have hany : (resolved.any fun type => type.name == d.name) = true := by simpa using htaken
      simp [hempty, hany, htaken, Except.error?]
    · have hany : (resolved.any fun type => type.name == d.name) = false := by simpa using htaken
      simp [hempty, hany, htaken, ih]

theorem error?_resolveType (type? : Option String) :
    (resolveType enums type?).error? =
      type?.toList.findSome? fun text => (ValueType.read enums text).error? := by
  cases type? with
  | none => rfl
  | some text => rw [Option.toList_some, List.findSome?_singleton, resolveType]

mutual

theorem error?_resolveParameter (d : ParameterDeclaration) :
    (resolveParameter enums d).error? =
      (typeTexts d).findSome? fun text => (ValueType.read enums text).error? := by
  match d with
  | .mk .plain _ type? _ _ _ | .mk .option _ type? _ _ _ =>
    rw [resolveParameter, typeTexts]
    exact (Except.error?_map _).trans (error?_resolveType type?)
  | .mk .internal _ _ _ _ _ => rfl
  | .mk .bean _ _ _ _ members =>
    rw [resolveParameter, typeTexts]
    exact (Except.error?_map _).trans (error?_resolveParameters members)

theorem error?_resolveParameters (l : List ParameterDeclaration) :
    (resolveParameters enums l).error? =
      (typeTextsOfAll l).findSome? fun text => (ValueType.read enums text).error? := by
  match l with
  | [] => rfl
  | d :: rest =>
    rw [resolveParameters, typeTextsOfAll, List.findSome?_append, Except.error?_bind_cons,
      error?_resolveParameter d, error?_resolveParameters rest]

end

theorem error?_resolveReturns (returns? : Option String) :
    (resolveReturns enums returns?).error? =
      returns?.toList.findSome? fun text => (ValueType.read enums text).error? := by
  cases returns? with
  | none => rfl
  | some text =>
    rw [Option.toList_some, List.findSome?_singleton, resolveReturns, Except.error?_map]

theorem findSome?_types (texts : List String) :
    (texts.map Item.type).findSome? (flaw? enums) =
      texts.findSome? fun text => (ValueType.read enums text).error? :=
  List.findSome?_map

/-- The first flaw of a command is found: the target comes first, and the results come before the
parameters. -/
theorem error?_resolveCommand (d : CommandDeclaration) :
    (resolveCommand enums d).error? = (commandItems d).findSome? (flaw? enums) := by
  rw [resolveCommand_eq, commandItems, List.findSome?_cons, flaw?, findSome?_types,
    List.findSome?_append, ← error?_resolveReturns]
  cases haction : Action.stock? d.target with
  | none =>
    have hunknown : d.target ∉ Action.stockNames := by simp [← Action.isSome_stock?_iff, haction]
    rw [if_neg hunknown]
    rfl
  | some action =>
    have hknown : d.target ∈ Action.stockNames := by simp [← Action.isSome_stock?_iff, haction]
    rw [if_pos hknown]
    refine Except.error?_bind fun returns? _ => ?_
    rw [Except.error?_map, error?_resolveParameters]

theorem error?_resolveCommands (l : List CommandDeclaration) :
    (resolveCommands enums l).error? = (l.flatMap commandItems).findSome? (flaw? enums) := by
  induction l with
  | nil => rfl
  | cons d rest ih =>
    rw [resolveCommands, List.flatMap_cons, List.findSome?_append, Except.error?_bind_cons,
      error?_resolveCommand, ih]

theorem error?_resolve (d : Declarations) :
    (resolve d).error? = (items d).findSome? (flaw? d.enumTypes) := by
  rw [resolve_eq, items, List.findSome?_append, List.findSome?_append, findSome?_types,
    ← error?_resolveParameters, ← error?_resolveCommands]
  have henums := error?_resolveEnums d.enumTypes [] d.enums
  rw [List.map_nil] at henums
  rw [← henums]
  refine Except.error?_bind fun enums h => ?_
  obtain rfl : enums = d.enumTypes := resolveEnums_eq_ok h
  refine Except.error?_bind fun globals _ => ?_
  rw [Except.error?_map]

end Flaws

/-! ## Resolvable documents -/

section Soundness

variable {enums : List String}

/-- Nothing is wrong with an item. -/
def Sound (enums : List String) (item : Item) : Prop := ∀ flaw, ¬ Offends enums item flaw

theorem sound_enum_iff {earlier : List String} {e : EnumDeclaration} :
    Sound enums (.enum earlier e) ↔ e.constants ≠ [] ∧ e.name ∉ earlier := by
  constructor
  · intro h
    have hne : e.constants ≠ [] := fun hempty => h _ (.emptyEnum hempty)
    exact ⟨hne, fun htaken => h _ (.repeatedEnum hne htaken)⟩
  · rintro ⟨hne, htaken⟩ flaw hflaw
    cases hflaw with
    | emptyEnum hempty => exact hne hempty
    | repeatedEnum _ hmem => exact htaken hmem

theorem sound_target_iff {command target : String} :
    Sound enums (.target command target) ↔ target ∈ Action.stockNames := by
  constructor
  · exact fun h => Classical.byContradiction fun hunknown => h _ (.target hunknown)
  · intro h flaw hflaw
    cases hflaw with
    | target hunknown => exact hunknown h

theorem sound_type_iff {text : String} :
    Sound enums (.type text) ↔ IsTypeText enums text := by
  rw [ValueType.isTypeText_iff]
  constructor
  · exact fun h flaw hflaw => h flaw (.type hflaw)
  · intro h flaw hflaw
    cases hflaw with
    | type hmisnames => exact h flaw hmisnames

theorem sound_types_iff {texts : List String} :
    (∀ item ∈ texts.map Item.type, Sound enums item) ↔ ∀ text ∈ texts, IsTypeText enums text := by
  simp only [List.forall_mem_map, sound_type_iff]

theorem sound_enumItems_iff {earlier : List String} (hearlier : earlier.Nodup)
    {l : List EnumDeclaration} :
    (∀ item ∈ enumItems earlier l, Sound enums item) ↔
      (∀ e ∈ l, e.constants ≠ []) ∧ (earlier ++ l.map (·.name)).Nodup := by
  induction l generalizing earlier with
  | nil => simp [enumItems, hearlier]
  | cons e rest ih =>
    rw [enumItems, List.forall_mem_cons, List.forall_mem_cons, sound_enum_iff, List.map_cons,
      List.append_cons earlier e.name (rest.map (·.name))]
    constructor
    · rintro ⟨⟨hne, hname⟩, hrest⟩
      have hnext : (earlier ++ [e.name]).Nodup :=
        List.nodup_append_comm.1 (List.nodup_cons.2 ⟨hname, hearlier⟩)
      obtain ⟨hconstants, hdistinct⟩ := (ih hnext).1 hrest
      exact ⟨⟨hne, hconstants⟩, hdistinct⟩
    · rintro ⟨⟨hne, hconstants⟩, hdistinct⟩
      have hnext : (earlier ++ [e.name]).Nodup := hdistinct.of_append_left
      have hname : e.name ∉ earlier := (List.nodup_cons.1 (List.nodup_append_comm.1 hnext)).1
      exact ⟨⟨hne, hname⟩, (ih hnext).2 ⟨hconstants, hdistinct⟩⟩

theorem sound_commandItems_iff {c : CommandDeclaration} :
    (∀ item ∈ commandItems c, Sound enums item) ↔
      c.target ∈ Action.stockNames ∧
        (∀ text, c.returns? = some text → IsTypeText enums text) ∧
        ∀ text ∈ typeTextsOfAll c.parameters, IsTypeText enums text := by
  rw [commandItems, List.forall_mem_cons, sound_target_iff, sound_types_iff, List.forall_mem_append]
  simp only [Option.mem_toList]

/-- A document is resolvable if and only if nothing is wrong with what it states. -/
theorem resolvable_iff {d : Declarations} :
    d.Resolvable ↔ ∀ item ∈ items d, Sound d.enumNames item := by
  rw [items, List.forall_mem_append, List.forall_mem_append, sound_enumItems_iff List.nodup_nil,
    sound_types_iff, List.forall_mem_flatMap]
  simp only [sound_commandItems_iff]
  constructor
  · intro h
    exact ⟨⟨h.constants, h.distinct⟩, h.globals, fun c hc =>
      ⟨h.targets c hc, h.returns c hc, h.parameters c hc⟩⟩
  · rintro ⟨⟨hconstants, hdistinct⟩, hglobals, hcommands⟩
    exact ⟨hconstants, hdistinct, hglobals, fun c hc => (hcommands c hc).1,
      fun c hc => (hcommands c hc).2.1, fun c hc => (hcommands c hc).2.2⟩

end Soundness

/-! ## Resolution -/

theorem exists_resolve_eq_ok_iff {d : Declarations} :
    (∃ catalog, resolve d = .ok catalog) ↔ d.Resolvable := by
  rw [resolvable_iff, ← Except.error?_eq_none_iff, error?_resolve, List.findSome?_eq_none_iff]
  simp only [flaw?_eq_none_iff, Declarations.map_name_enumTypes]
  rfl

theorem resolve_eq_error_iff {d : Declarations} {flaw : CatalogFlaw} :
    resolve d = .error flaw ↔ FirstOffence d flaw := by
  rw [← Except.error?_eq_some_iff, error?_resolve, List.findSome?_eq_some_iff]
  simp only [flaw?_eq_some_iff, flaw?_eq_none_iff, Declarations.map_name_enumTypes]
  rfl

theorem resolve_eq_ok_iff {d : Declarations} {catalog : Catalog} :
    resolve d = .ok catalog ↔ d.Resolvable ∧ d.Declares catalog := by
  constructor
  · intro h
    have hresolvable := exists_resolve_eq_ok_iff.1 ⟨catalog, h⟩
    have hdistinct := hresolvable.distinct_enumTypes
    obtain ⟨enums, henums, hglobals, hcommands, hsorted⟩ := resolve_eq_ok_iff_steps.1 h
    obtain rfl : enums = d.enumTypes := resolveEnums_eq_ok henums
    obtain ⟨hperm, hordered⟩ := (eq_sortEnums_iff hdistinct).1 hsorted
    exact ⟨hresolvable, (resolveParameters_eq_ok_iff hdistinct).1 hglobals,
      (resolveCommands_eq_ok_iff hdistinct).1 hcommands, hperm, hordered⟩
  · rintro ⟨hresolvable, hdeclares⟩
    have hdistinct := hresolvable.distinct_enumTypes
    -- the enums are resolved, as the document is, and there is only one way to resolve the rest
    obtain ⟨other, h⟩ := exists_resolve_eq_ok_iff.2 hresolvable
    obtain ⟨enums, henums, -⟩ := resolve_eq_ok_iff_steps.1 h
    obtain rfl : enums = d.enumTypes := resolveEnums_eq_ok henums
    exact resolve_eq_ok_iff_steps.2 ⟨_, henums,
      (resolveParameters_eq_ok_iff hdistinct).2 hdeclares.globals,
      (resolveCommands_eq_ok_iff hdistinct).2 hdeclares.commands,
      (eq_sortEnums_iff hdistinct).2 ⟨hdeclares.enums, hdeclares.ordered⟩⟩

/-- **Resolvable documents are resolved to what they declare.** A document is resolved if and only
if its enums have constants and names of their own, its targets are stock actions, and the types in
use are named by texts that are not empty and name enums that are declared. Otherwise the flaw is
that of the first offence among the enums, the globals and the commands. The resolved catalog is the
one that the document declares: with the same names, defaults and flags in the same order, with the
constants that are listed for each enum, and with the enums in the order of their names. The text of
a document is loaded accordingly. -/
theorem resolve_exact (d : Declarations) :
    ((∃ catalog, resolve d = .ok catalog) ↔ d.Resolvable) ∧
    (∀ flaw, resolve d = .error flaw ↔ FirstOffence d flaw) ∧
    (∀ catalog, resolve d = .ok catalog ↔ d.Resolvable ∧ d.Declares catalog) ∧
    ∀ text path, Declarations.read text = .ok d →
      (∀ catalog, load text path = .ok catalog ↔ d.Resolvable ∧ d.Declares catalog) ∧
      ∀ fault, load text path = .error fault ↔
        ∃ flaw, FirstOffence d flaw ∧ fault = .catalog path flaw := by
  refine ⟨exists_resolve_eq_ok_iff, fun flaw => resolve_eq_error_iff, fun catalog =>
    resolve_eq_ok_iff, fun text path hread => ?_⟩
  have hload : load text path = (resolve d).mapError (.catalog path) := by
    unfold load
    rw [hread]
  refine ⟨fun catalog => ?_, fun fault => ?_⟩
  · rw [hload, Except.mapError_eq_ok_iff, resolve_eq_ok_iff]
  · rw [hload, Except.mapError_eq_error_iff]
    exact exists_congr fun flaw => and_congr resolve_eq_error_iff eq_comm

/-- Two enums that are not in the order of their names, and a type of one of them inside of a
group. -/
def paletteSample : Declarations where
  enums := [⟨"Level", ["LOW", "HIGH"]⟩, ⟨"Color", ["RED"]⟩]
  globals := [.mk .bean "paint" none none true
    [.mk .option "tint" (some " enum:Color ?") (some "RED") false []]]
  commands := [{ name := "set", target := "join" }]

def paletteText : String :=
  "[[[\"Level\",[\"LOW\",\"HIGH\"]],[\"Color\",[\"RED\"]]]," ++
    "[[\"bean\",\"paint\",null,null,true,[[\"option\",\"tint\",\" enum:Color ?\",\"RED\"]]]]," ++
    "[[\"set\",null,\"join\"]]]"

def paletteCatalog : Catalog where
  enums := [⟨"Color", ["RED"]⟩, ⟨"Level", ["LOW", "HIGH"]⟩]
  globals := [.bean { name := "paint", nillable := true } "paint"
    [.option { name := "tint", default? := some "RED" } ⟨.enum ⟨"Color", ["RED"]⟩, true⟩]]
  commands := [{ name := "set", target := ⟨"catalog", "join", none⟩, action := Action.join }]

theorem read_paletteText : Declarations.read paletteText = .ok paletteSample := by
  cbv

theorem resolve_paletteSample : resolve paletteSample = .ok paletteCatalog := by
  cbv

/-- Neither the type of the option nor the target is known. The type of the group is just a name. -/
def shadeSample : Declarations where
  globals := [.mk .bean "paint" (some "") none false
    [.mk .option "tint" (some "enum:Shade") none false []]]
  commands := [{ name := "set", target := "launch" }]

def shadeText : String :=
  "[[],[[\"bean\",\"paint\",\"\",null,false,[[\"option\",\"tint\",\"enum:Shade\"]]]]," ++
    "[[\"set\",null,\"launch\"]]]"

theorem read_shadeText : Declarations.read shadeText = .ok shadeSample := by
  cbv

/-- One document is resolved, and in the other the type is refused, which comes before the
target. -/
theorem resolve_exact_palette :
    Declarations.read paletteText = .ok paletteSample ∧
      load paletteText "palette" = .ok paletteCatalog ∧ paletteSample.Declares paletteCatalog ∧
      Declarations.read shadeText = .ok shadeSample ∧ ¬ shadeSample.Resolvable ∧
      load shadeText "shade" = .error (.catalog "shade" (.unknownEnum "Shade")) := by
  have herror : resolve shadeSample = .error (.unknownEnum "Shade") := rfl
  obtain ⟨-, -, hdeclares, hload⟩ := resolve_exact paletteSample
  obtain ⟨hexists, hfirst, -, hrefused⟩ := resolve_exact shadeSample
  have hcatalog := (hdeclares _).1 resolve_paletteSample
  refine ⟨read_paletteText, ((hload _ "palette" read_paletteText).1 _).2 hcatalog, hcatalog.2,
    read_shadeText, fun hresolvable => ?_,
    ((hrefused _ "shade" read_shadeText).2 _).2 ⟨_, (hfirst _).1 herror, rfl⟩⟩
  obtain ⟨catalog, h⟩ := hexists.2 hresolvable
  rw [herror] at h
  cases h

end Catalog

end CommandLine
