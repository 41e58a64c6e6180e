import CommandLine.Catalog.Basic
import CommandLine.Proofs.Binding.Supplied

/-!
# What the declarations of a catalog can be

A catalog document states types by their names and actions by theirs (`exists_stated_of_load`). So
the enum types of a loaded catalog are those that it declares (`States.mem`), no plain parameter or
option has the type of a group, and every action is a stock one, which fails in its own words and
never with a fault (`ordinary_of_load`).
-/

namespace CommandLine

namespace ValueType

/-- The kind can be written: it is no group, and no named type has the key of another kind. -/
def Kind.Writable : Kind → Prop
  | .bean _ => False
  | .named key => key ∉ ["bool", "int", "float"]
  | _ => True

theorem Kind.writable_of_read {enums : List EnumType} {name : List Char} {kind : Kind}
    (h : read enums name = .ok kind) : kind.Writable := by
  unfold read at h
  split at h
  · split at h
    · cases h
      trivial
    · cases h
  · split at h
    all_goals cases h
    all_goals try trivial
    -- what is left is a name that is none of the keywords
    simp_all [Writable]

/-- Every type that can be written has a writable kind. -/
theorem writable_of_read {enums : List EnumType} {text : String} {type : ValueType}
    (h : read enums text = .ok type) : type.kind.Writable := by
  unfold read at h
  dsimp only at h
  split at h
  all_goals
    obtain ⟨kind, hkind, rfl⟩ := Except.map_eq_ok_iff.1 h
    exact Kind.writable_of_read hkind

theorem Kind.mem_of_read {enums : List EnumType} {name : List Char} {type : EnumType}
    (h : read enums name = .ok (.enum type)) : type ∈ enums := by
  unfold read at h
  split at h
  · split at h
    · rename_i found hfound
      cases h
      exact List.mem_of_find?_eq_some hfound
    · cases h
  · split at h
    all_goals cases h

theorem mem_of_read {enums : List EnumType} {text : String} {type : ValueType}
    (h : read enums text = .ok type) {enumType : EnumType} (hkind : type.kind = .enum enumType) :
    enumType ∈ enums := by
  unfold read at h
  dsimp only at h
  split at h
  all_goals
    obtain ⟨kind, hread, rfl⟩ := Except.map_eq_ok_iff.1 h
    obtain rfl : kind = .enum enumType := hkind
    exact Kind.mem_of_read hread

/-- The type is none of a group. -/
def IsSingle (type : ValueType) : Prop := ∀ group, type.kind ≠ .bean group

theorem isSingle_of_read {enums : List EnumType} {text : String} {type : ValueType}
    (h : read enums text = .ok type) : type.IsSingle := by
  intro group hkind
  have hwritable := writable_of_read h
  rw [hkind] at hwritable
  exact hwritable

end ValueType

namespace Action

/-- A stock action fails in its own words, if it fails. -/
theorem result_ne_fault_of_stock? {name : String} {action : Action}
    (h : stock? name = some action) (arguments : List Value) (fault : Fault) :
    (action arguments).result ≠ .error (.fault fault) := by
  unfold stock? at h
  split at h
  all_goals
    cases h
    try nofun

end Action

namespace Catalog

open Parameter

/-- The type is the one that a declaration states, or does not state. -/
def States (enums : List EnumType) (type : ValueType) : Prop :=
  ∃ type?, resolveType enums type? = .ok type

theorem States.isSingle {enums : List EnumType} {type : ValueType} (h : States enums type) :
    type.IsSingle := by
  obtain ⟨type?, h⟩ := h
  cases type? with
  | none =>
    cases h
    nofun
  | some text => exact ValueType.isSingle_of_read h

theorem States.mem {enums : List EnumType} {type : ValueType} (h : States enums type)
    {enumType : EnumType} (hkind : type.kind = .enum enumType) : enumType ∈ enums := by
  obtain ⟨type?, h⟩ := h
  cases type? with
  | none =>
    cases h
    cases hkind
  | some text => exact ValueType.mem_of_read h hkind

mutual

theorem states_of_resolveParameter {enums : List EnumType} {d : ParameterDeclaration}
    {p : Parameter} (h : resolveParameter enums d = .ok p) :
    ∀ entry ∈ p.typed, States enums entry.2 := by
  match d with
  | .mk kind name type? default? nillable members =>
    unfold resolveParameter at h
    cases kind with
    | plain =>
      obtain ⟨type, htype, rfl⟩ := Except.map_eq_ok_iff.1 h
      simpa [typed] using ⟨type?, htype⟩
    | option =>
      obtain ⟨type, htype, rfl⟩ := Except.map_eq_ok_iff.1 h
      simpa [typed] using ⟨type?, htype⟩
    | internal =>
      cases h
      simp [typed]
    | bean =>
      obtain ⟨resolved, hmembers, rfl⟩ := Except.map_eq_ok_iff.1 h
      exact states_of_resolveParameters hmembers

theorem states_of_resolveParameters {enums : List EnumType} {l : List ParameterDeclaration}
    {resolved : List Parameter} (h : resolveParameters enums l = .ok resolved) :
    ∀ entry ∈ typedOfAll resolved, States enums entry.2 := by
  match l with
  | [] =>
    rw [resolveParameters] at h
    cases h
    simp [typedOfAll]
  | d :: rest =>
    rw [resolveParameters] at h
    obtain ⟨p, others, hp, hrest, rfl⟩ := Except.bind_cons_eq_ok_iff.1 h
    intro entry hentry
    rw [typedOfAll, List.mem_append] at hentry
    exact hentry.elim (states_of_resolveParameter hp entry)
      (states_of_resolveParameters hrest entry)

end

/-- The types of single values are none of groups, and the action is a stock one. -/
structure OrdinaryCommand (c : Command) : Prop where
  parameters : ∀ entry ∈ typedOfAll c.parameters, entry.2.IsSingle
  action : ∃ name, Action.stock? name = some c.action

/-- The stated type of the results, if one is stated. -/
def resolveReturns (enums : List EnumType) : Option String → Except CatalogFlaw (Option ValueType)
  | none => .ok none
  | some text => (ValueType.read enums text).map some

theorem resolveCommand_eq (enums : List EnumType) (d : CommandDeclaration) :
    resolveCommand enums d = match Action.stock? d.target with
      | none => .error (.unknownTarget d.name d.target Action.stockNames)
      | some action =>
        (resolveReturns enums d.returns?).bind fun returns? =>
        (resolveParameters enums d.parameters).map fun parameters =>
        { name := d.name, description := d.description?.getD "", parameters,
          target := ⟨d.declaredIn?.getD defaultDeclaringType, d.target, returns?⟩, action,
          interceptors := d.interceptors } := by
  unfold resolveCommand
  cases Action.stock? d.target with
  | none => rfl
  | some action =>
    cases d.returns? with
    | none => rfl
    | some text => rfl

/-- A command has parameters whose types are stated, and a stock action. -/
theorem states_of_resolveCommand {enums : List EnumType} {d : CommandDeclaration} {c : Command}
    (h : resolveCommand enums d = .ok c) :
    (∀ entry ∈ typedOfAll c.parameters, States enums entry.2) ∧
      Action.stock? d.target = some c.action := by
  rw [resolveCommand_eq] at h
  split at h
  · cases h
  rename_i action haction
  obtain ⟨returns?, -, h⟩ := Except.bind_eq_ok_iff.1 h
  obtain ⟨parameters, hparameters, rfl⟩ := Except.map_eq_ok_iff.1 h
  exact ⟨states_of_resolveParameters hparameters, haction⟩

theorem exists_of_resolveCommands {enums : List EnumType} {l : List CommandDeclaration}
    {commands : List Command} (h : resolveCommands enums l = .ok commands) :
    ∀ c ∈ commands, ∃ d, resolveCommand enums d = .ok c := by
  induction l generalizing commands with
  | nil =>
    cases h
    nofun
  | cons d rest ih =>
    rw [resolveCommands] at h
    obtain ⟨first, others, hfirst, hrest, rfl⟩ := Except.bind_cons_eq_ok_iff.1 h
    rintro c (_ | ⟨_, hc⟩)
    · exact ⟨d, hfirst⟩
    · exact ih hrest c hc

/-- What a catalog declares is stated somewhere, with these enums. -/
structure Stated (enums : List EnumType) (catalog : Catalog) : Prop where
  globals : ∀ entry ∈ typedOfAll catalog.globals, States enums entry.2
  commands : ∀ c ∈ catalog.commands, ∃ d, resolveCommand enums d = .ok c

theorem exists_stated_of_load {text path : String} {catalog : Catalog}
    (h : load text path = .ok catalog) :
    ∃ enums, catalog.enums = sortEnums enums ∧ Stated enums catalog := by
  unfold load at h
  split at h
  · cases h
  have hresolve := Except.mapError_eq_ok_iff.1 h
  unfold resolve at hresolve
  obtain ⟨enums, -, hresolve⟩ := Except.bind_eq_ok_iff.1 hresolve
  obtain ⟨globals, hglobals, hresolve⟩ := Except.bind_eq_ok_iff.1 hresolve
  obtain ⟨commands, hcommands, hresolve⟩ := Except.bind_eq_ok_iff.1 hresolve
  cases hresolve
  exact ⟨enums, rfl, states_of_resolveParameters hglobals, exists_of_resolveCommands hcommands⟩

/-- What a catalog declares is ordinary. -/
structure Ordinary (catalog : Catalog) : Prop where
  globals : ∀ entry ∈ typedOfAll catalog.globals, entry.2.IsSingle
  commands : ∀ c ∈ catalog.commands, OrdinaryCommand c

theorem ordinary_of_load {text path : String} {catalog : Catalog}
    (h : load text path = .ok catalog) : Ordinary catalog := by
  obtain ⟨enums, -, hstated⟩ := exists_stated_of_load h
  refine ⟨fun entry hentry => (hstated.globals entry hentry).isSingle, fun c hc => ?_⟩
  obtain ⟨d, hd⟩ := hstated.commands c hc
  obtain ⟨hparameters, haction⟩ := states_of_resolveCommand hd
  exact ⟨fun entry hentry => (hparameters entry hentry).isSingle, d.target, haction⟩

end Catalog

end CommandLine
