import CommandLine.Proofs.Catalog.Origin
import CommandLine.Proofs.Catalog.TypeNames
import Mathlib.Data.List.Forall2

/-!
# What a catalog document declares

`Declares` relates a declaration to what it is resolved to, from parameters to whole documents:
names, defaults and flags are kept, and so is the order, except that the enums of a catalog stand in
the order of their names. Where the enums have names of their own, this is what resolution finds
(`resolveParameters_eq_ok_iff`, `resolveCommands_eq_ok_iff`, `eq_sortEnums_iff`).
-/

namespace CommandLine

/-- The type that is declared. -/
def EnumDeclaration.type (d : EnumDeclaration) : EnumType := ⟨d.name, d.constants⟩

namespace ParameterDeclaration

/-- A type of single values is stated, or it is text. -/
inductive DeclaresType (enums : List EnumType) : Option String → ValueType → Prop
  | stated {text : String} {type : ValueType} (h : ValueType.Stands enums text type) :
      DeclaresType enums (some text) type
  | text : DeclaresType enums none ⟨.text, false⟩

/-- The parameter that is declared has the name, the default and the flag of the declaration. The
type of a group is just a name, and its members are declared as well. -/
inductive Declares (enums : List EnumType) : ParameterDeclaration → Parameter → Prop
  | plain {name : String} {type? default? : Option String} {nillable : Bool}
      {members : List ParameterDeclaration} {type : ValueType}
      (htype : DeclaresType enums type? type) :
      Declares enums (.mk .plain name type? default? nillable members)
        (.plain ⟨name, default?, nillable⟩ type)
  | option {name : String} {type? default? : Option String} {nillable : Bool}
      {members : List ParameterDeclaration} {type : ValueType}
      (htype : DeclaresType enums type? type) :
      Declares enums (.mk .option name type? default? nillable members)
        (.option ⟨name, default?, nillable⟩ type)
  | internal {name : String} {type? default? : Option String} {nillable : Bool}
      {members : List ParameterDeclaration} :
      Declares enums (.mk .internal name type? default? nillable members)
        (.internal ⟨name, default?, nillable⟩)
  | bean {name : String} {type? default? : Option String} {nillable : Bool}
      {members : List ParameterDeclaration} {declared : List Parameter}
      (hmembers : List.Forall₂ (Declares enums) members declared) :
      Declares enums (.mk .bean name type? default? nillable members)
        (.bean ⟨name, default?, nillable⟩ (type?.getD name) declared)

end ParameterDeclaration

/-- The command that is declared has what its declaration states, and the stock action that is its
target. -/
structure CommandDeclaration.Declares (enums : List EnumType) (d : CommandDeclaration)
    (c : Command) : Prop where
  name : c.name = d.name
  description : c.description = d.description?.getD ""
  declaringType : c.target.declaringType = d.declaredIn?.getD "catalog"
  handle : c.target.handle = d.target
  action : Action.stock? d.target = some c.action
  returns : Option.Rel (ValueType.Stands enums) d.returns? c.target.returns?
  interceptors : c.interceptors = d.interceptors
  parameters : List.Forall₂ (ParameterDeclaration.Declares enums) d.parameters c.parameters

namespace Declarations

variable (d : Declarations)

/-- The enums that are declared, as they are listed. -/
def enumTypes : List EnumType := d.enums.map (·.type)

def enumNames : List String := d.enums.map (·.name)

@[simp] theorem map_name_enumTypes : d.enumTypes.map (·.name) = d.enumNames := by
  rw [enumTypes, enumNames, List.map_map]
  rfl

/-- The catalog declares what the document does in the same order, except for the enums, which it
has in the order of their names. -/
structure Declares (catalog : Catalog) : Prop where
  globals : List.Forall₂ (ParameterDeclaration.Declares d.enumTypes) d.globals catalog.globals
  commands : List.Forall₂ (CommandDeclaration.Declares d.enumTypes) d.commands catalog.commands
  enums : catalog.enums.Perm d.enumTypes
  ordered : (catalog.enums.map (·.name)).Pairwise (· < ·)

end Declarations

namespace Catalog

open ParameterDeclaration (Declares DeclaresType)
open ValueType (Stands)

variable {enums : List EnumType}

/-! ## Parameters -/

theorem resolveType_eq_ok_iff (hdistinct : (enums.map (·.name)).Nodup) {type? : Option String}
    {type : ValueType} : resolveType enums type? = .ok type ↔ DeclaresType enums type? type := by
  cases type? with
  | none =>
    constructor
    · intro h
      cases h
      exact .text
    · intro h
      cases h
      rfl
  | some text =>
    rw [resolveType, ValueType.read_eq_ok_iff hdistinct]
    exact ⟨.stated, fun h => by cases h; assumption⟩

mutual

theorem resolveParameter_eq_ok_iff (hdistinct : (enums.map (·.name)).Nodup)
    {d : ParameterDeclaration} {p : Parameter} :
    resolveParameter enums d = .ok p ↔ Declares enums d p := by
  match d with
  | .mk .plain name type? default? nillable members =>
    rw [resolveParameter, Except.map_eq_ok_iff]
    constructor
    · rintro ⟨type, htype, rfl⟩
      exact .plain ((resolveType_eq_ok_iff hdistinct).1 htype)
    · intro h
      cases h with
      | plain htype => exact ⟨_, (resolveType_eq_ok_iff hdistinct).2 htype, rfl⟩
  | .mk .option name type? default? nillable members =>
    rw [resolveParameter, Except.map_eq_ok_iff]
    constructor
    · rintro ⟨type, htype, rfl⟩
      exact .option ((resolveType_eq_ok_iff hdistinct).1 htype)
    · intro h
      cases h with
      | option htype => exact ⟨_, (resolveType_eq_ok_iff hdistinct).2 htype, rfl⟩
  | .mk .internal name type? default? nillable members =>
    rw [resolveParameter]
    constructor
    · intro h
      cases h
      exact .internal
    · intro h
      cases h
      rfl
  | .mk .bean name type? default? nillable members =>
    rw [resolveParameter, Except.map_eq_ok_iff]
    constructor
    · rintro ⟨declared, hmembers, rfl⟩
      exact .bean ((resolveParameters_eq_ok_iff hdistinct).1 hmembers)
    · intro h
      cases h with
      | bean hmembers => exact ⟨_, (resolveParameters_eq_ok_iff hdistinct).2 hmembers, rfl⟩

theorem resolveParameters_eq_ok_iff (hdistinct : (enums.map (·.name)).Nodup)
    {l : List ParameterDeclaration} {declared : List Parameter} :
    resolveParameters enums l = .ok declared ↔ List.Forall₂ (Declares enums) l declared := by
  match l with
  | [] =>
    rw [resolveParameters, List.forall₂_nil_left_iff, Except.ok.injEq]
    exact eq_comm
  | d :: rest =>
    rw [resolveParameters, Except.bind_cons_eq_ok_iff, List.forall₂_cons_left_iff]
    refine exists_congr fun p => exists_congr fun others => ?_
    rw [resolveParameter_eq_ok_iff hdistinct, resolveParameters_eq_ok_iff hdistinct]

end

/-! ## Commands -/

theorem resolveReturns_eq_ok_iff (hdistinct : (enums.map (·.name)).Nodup) {returns? : Option String}
    {type? : Option ValueType} :
    resolveReturns enums returns? = .ok type? ↔ Option.Rel (Stands enums) returns? type? := by
  cases returns? with
  | none =>
    constructor
    · intro h
      cases h
      exact .none
    · intro h
      cases h
      rfl
  | some text =>
    rw [resolveReturns, Except.map_eq_ok_iff]
    constructor
    · rintro ⟨type, htype, rfl⟩
      exact .some ((ValueType.read_eq_ok_iff hdistinct).1 htype)
    · intro h
      cases h with
      | some htype => exact ⟨_, (ValueType.read_eq_ok_iff hdistinct).2 htype, rfl⟩

theorem resolveCommand_eq_ok_iff (hdistinct : (enums.map (·.name)).Nodup)
    {d : CommandDeclaration} {c : Command} :
    resolveCommand enums d = .ok c ↔ d.Declares enums c := by
  rw [resolveCommand_eq]
  constructor
  · intro h
    split at h
    · cases h
    rename_i action haction
    obtain ⟨returns?, hreturns, h⟩ := Except.bind_eq_ok_iff.1 h
    obtain ⟨parameters, hparameters, rfl⟩ := Except.map_eq_ok_iff.1 h
    exact ⟨rfl, rfl, rfl, rfl, haction, (resolveReturns_eq_ok_iff hdistinct).1 hreturns, rfl,
      (resolveParameters_eq_ok_iff hdistinct).1 hparameters⟩
  · intro h
    obtain ⟨name, description, parameters, ⟨declaringType, handle, returns?⟩, action,
      interceptors⟩ := c
    obtain ⟨rfl, rfl, rfl, rfl, haction, hreturns, rfl, hparameters⟩ := h
    rw [haction]
    exact Except.bind_eq_ok_iff.2 ⟨returns?, (resolveReturns_eq_ok_iff hdistinct).2 hreturns,
      Except.map_eq_ok_iff.2 ⟨parameters, (resolveParameters_eq_ok_iff hdistinct).2 hparameters,
        rfl⟩⟩

theorem resolveCommands_eq_ok_iff (hdistinct : (enums.map (·.name)).Nodup)
    {l : List CommandDeclaration} {commands : List Command} :
    resolveCommands enums l = .ok commands ↔
      List.Forall₂ (CommandDeclaration.Declares enums) l commands := by
  induction l generalizing commands with
  | nil =>
    rw [resolveCommands, List.forall₂_nil_left_iff, Except.ok.injEq]
    exact eq_comm
  | cons d rest ih =>
    rw [resolveCommands, Except.bind_cons_eq_ok_iff, List.forall₂_cons_left_iff]
    refine exists_congr fun c => exists_congr fun others => ?_
    rw [resolveCommand_eq_ok_iff hdistinct, ih]

/-! ## Enums -/

theorem pairwise_sortEnums (enums : List EnumType) :
    (sortEnums enums).Pairwise fun a b => a.name ≤ b.name := by
  have hsorted : (sortEnums enums).Pairwise fun a b => decide (a.name ≤ b.name) = true := by
    refine List.pairwise_mergeSort (fun a b c hab hbc => ?_) (fun a b => ?_) enums
    · exact decide_eq_true (String.le_trans (of_decide_eq_true hab) (of_decide_eq_true hbc))
    · simpa using String.le_total a.name b.name
  exact hsorted.imp of_decide_eq_true

/-- Enums of distinct names have one order. -/
theorem eq_sortEnums_iff {enums sorted : List EnumType} (hdistinct : (enums.map (·.name)).Nodup) :
    sorted = sortEnums enums ↔
      sorted.Perm enums ∧ (sorted.map (·.name)).Pairwise (· < ·) := by
  constructor
  · rintro rfl
    have hperm : (sortEnums enums).Perm enums := List.mergeSort_perm _ _
    have hnames : ((sortEnums enums).map (·.name)).Nodup := (hperm.map _).nodup_iff.2 hdistinct
    refine ⟨hperm, ?_⟩
    rw [List.pairwise_map]
    refine (pairwise_sortEnums enums).imp₂ (fun a b hle hne => ?_) (List.pairwise_map.1 hnames)
    exact String.not_le.1 fun hge => hne (String.le_antisymm hle hge)
  · rintro ⟨hperm, hordered⟩
    have hsorted : sorted.Pairwise fun a b => a.name ≤ b.name :=
      (List.pairwise_map.1 hordered).imp fun h => String.not_lt.1 (String.lt_asymm h)
    have hboth : sorted.Perm (sortEnums enums) := hperm.trans (List.mergeSort_perm _ _).symm
    refine hboth.eq_of_pairwise (fun a b ha hb hab hba => ?_) hsorted (pairwise_sortEnums enums)
    exact List.inj_on_of_nodup_map hdistinct (hperm.mem_iff.1 ha)
      ((List.mergeSort_perm _ _).mem_iff.1 hb) (String.le_antisymm hab hba)

/-! ## Documents -/

theorem resolveEnums_eq_ok {resolved enums : List EnumType} {l : List EnumDeclaration}
    (h : resolveEnums resolved l = .ok enums) : enums = resolved ++ l.map (·.type) := by
  induction l generalizing resolved with
  | nil =>
    cases h
    simp
  | cons d rest ih =>
    rw [resolveEnums] at h
    split at h
    · cases h
    split at h
    · cases h
    rw [ih h, List.append_assoc]
    rfl

theorem resolve_eq (d : Declarations) :
    resolve d = (resolveEnums [] d.enums).bind fun enums =>
      (resolveParameters enums d.globals).bind fun globals =>
      (resolveCommands enums d.commands).map fun commands =>
      ⟨commands, globals, sortEnums enums⟩ := rfl

theorem resolve_eq_ok_iff_steps {d : Declarations} {catalog : Catalog} :
    resolve d = .ok catalog ↔ ∃ enums, resolveEnums [] d.enums = .ok enums ∧
      resolveParameters enums d.globals = .ok catalog.globals ∧
      resolveCommands enums d.commands = .ok catalog.commands ∧
      catalog.enums = sortEnums enums := by
  simp only [resolve_eq, Except.bind_eq_ok_iff, Except.map_eq_ok_iff]
  constructor
  · rintro ⟨enums, henums, globals, hglobals, commands, hcommands, rfl⟩
    exact ⟨enums, henums, hglobals, hcommands, rfl⟩
  · rintro ⟨enums, henums, hglobals, hcommands, hsorted⟩
    exact ⟨enums, henums, _, hglobals, _, hcommands, by rw [← hsorted]⟩

end Catalog

end CommandLine
