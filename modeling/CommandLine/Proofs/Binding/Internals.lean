import CommandLine.Binding
import CommandLine.Proofs.Registry.Acceptance

/-!
# What binding sees of the engine

The engine supplies the values of internal parameters by their names. `bind_of_internals`: binding
a list of parameters sees no more of them than the values under the names of its own internal
parameters, where a missing value is as good as null. In a sound list these are the names that
`Command.internalNames` lists, as no group holds an internal parameter. Of the resolver binding sees
no more than what it substitutes (`bind_of_resolver`, `bindGlobals_of_resolver`).
-/

namespace CommandLine

namespace Parameter

mutual

/-- The names of the internal parameters in a parameter, those of nested groups included. -/
def suppliedNames : Parameter → List String
  | internal a => [a.name]
  | bean _ _ members => suppliedNamesOfAll members
  | _ => []

def suppliedNamesOfAll : List Parameter → List String
  | [] => []
  | p :: rest => suppliedNames p ++ suppliedNamesOfAll rest

end

mutual

theorem suppliedNames_member {p : Parameter} (h : firstFlaw? true p = none) :
    p.suppliedNames = [] := by
  match p with
  | .plain a type => rfl
  | .option a type => rfl
  | .bean a type members =>
    rw [suppliedNames]
    exact suppliedNamesOfAll_members (firstFlawOfAll?_members h)
  | .internal a => simp [firstFlaw?, flaw?] at h

theorem suppliedNamesOfAll_members {l : List Parameter} (h : firstFlawOfAll? true l = none) :
    suppliedNamesOfAll l = [] := by
  match l with
  | [] => rfl
  | p :: rest =>
    obtain ⟨hp, hrest⟩ := firstFlawOfAll?_cons_eq_none.1 h
    rw [suppliedNamesOfAll, suppliedNames_member hp, suppliedNamesOfAll_members hrest,
      List.append_nil]

end

theorem suppliedNamesOfAll_eq {l : List Parameter} (h : firstFlawOfAll? false l = none) :
    suppliedNamesOfAll l = (l.filter (·.isInternal)).map (·.name) := by
  induction l with
  | nil => rfl
  | cons p rest ih =>
    obtain ⟨hp, hrest⟩ := firstFlawOfAll?_cons_eq_none.1 h
    rw [suppliedNamesOfAll, ih hrest]
    cases p with
    | plain a type => rfl
    | option a type => rfl
    | bean a type members =>
      rw [suppliedNames, suppliedNamesOfAll_members (firstFlawOfAll?_members hp)]
      rfl
    | internal a => rfl

end Parameter

namespace Binder

open Parameter

/-- The values of internal parameters look the same under a name, null where there is none. -/
def SameUnder (name : String) (known known' : Table Value) : Prop :=
  (known[name]?).getD .null = (known'[name]?).getD .null

theorem SameUnder.insert {name : String} {known known' : Table Value}
    (h : SameUnder name known known') (key : String) (value : Value) :
    SameUnder name (known.insert key value) (known'.insert key value) := by
  unfold SameUnder at h ⊢
  rw [Std.TreeMap.getElem?_insert, Std.TreeMap.getElem?_insert]
  split
  · rfl
  · exact h

variable {b : Binder} {known : Table Value}

mutual

theorem parameter_of_internals {p : Parameter}
    (h : ∀ name ∈ p.suppliedNames, SameUnder name b.internals known) (index : Nat) (s : Supply) :
    b.parameter index p s = { b with internals := known }.parameter index p s := by
  match p with
  | .plain a type => rfl
  | .option a type => rfl
  | .bean a type members =>
    rw [suppliedNames] at h
    rw [parameter, parameter, parameters_of_internals h]
  | .internal a =>
    have hvalue : (b.internals[a.name]?).getD .null = (known[a.name]?).getD .null :=
      h a.name (by simp [suppliedNames])
    rw [parameter, parameter, internal, internal, hvalue]

theorem parameters_of_internals {l : List Parameter}
    (h : ∀ name ∈ suppliedNamesOfAll l, SameUnder name b.internals known) (index : Nat)
    (s : Supply) :
    b.parameters index l s = { b with internals := known }.parameters index l s := by
  match l with
  | [] => rfl
  | p :: rest =>
    rw [suppliedNamesOfAll] at h
    rw [parameters, parameters,
      parameter_of_internals fun name hname => h name (List.mem_append_left _ hname)]
    congr 1
    funext ⟨value, left⟩
    exact congrArg (Except.map _)
      (parameters_of_internals (fun name hname => h name (List.mem_append_right _ hname)) _ _)

end

/-- Binding sees the values of internal parameters only under the names of its own parameters. -/
theorem bind_of_internals {declared : List Parameter}
    (h : ∀ name ∈ suppliedNamesOfAll declared, SameUnder name b.internals known)
    (arguments : List String) :
    b.bind declared arguments = { b with internals := known }.bind declared arguments := by
  simp only [bind, parameters_of_internals h]

/-! ## The resolver -/

section Resolver

variable {r : Resolver}

theorem fallback_of_resolver (h : ∀ text, b.resolver.substitute text = r.substitute text)
    (a : Attributes) (type : ValueType) (label : String) :
    b.fallback a type label = { b with resolver := r }.fallback a type label := by
  unfold fallback
  simp only [h]
  rfl

mutual

theorem parameter_of_resolver (h : ∀ text, b.resolver.substitute text = r.substitute text)
    (p : Parameter) (index : Nat) (s : Supply) :
    b.parameter index p s = { b with resolver := r }.parameter index p s := by
  match p with
  | .plain a type =>
    have hplain : ∀ next?, b.plain a type index next? =
        { b with resolver := r }.plain a type index next? := by
      intro next?
      unfold plain
      dsimp only
      rw [fallback_of_resolver h]
      rfl
    rw [parameter, parameter, hplain]
  | .option a type =>
    have hoption : ∀ token?, b.option a type token? =
        { b with resolver := r }.option a type token? := by
      intro token?
      unfold option
      dsimp only
      rw [fallback_of_resolver h]
      rfl
    rw [parameter, parameter]
    simp only [hoption]
  | .bean a type members => rw [parameter, parameter, parameters_of_resolver h members]
  | .internal a => rfl

theorem parameters_of_resolver (h : ∀ text, b.resolver.substitute text = r.substitute text)
    (l : List Parameter) (index : Nat) (s : Supply) :
    b.parameters index l s = { b with resolver := r }.parameters index l s := by
  match l with
  | [] => rfl
  | p :: rest =>
    rw [parameters, parameters, parameter_of_resolver h p]
    congr 1
    funext ⟨value, left⟩
    exact congrArg (Except.map _) (parameters_of_resolver h rest _ _)

end

/-- Binding sees no more of the resolver than what it substitutes. -/
theorem bind_of_resolver (h : ∀ text, b.resolver.substitute text = r.substitute text)
    (declared : List Parameter) (arguments : List String) :
    b.bind declared arguments = { b with resolver := r }.bind declared arguments := by
  simp only [bind, parameters_of_resolver h]

theorem bindGlobals_of_resolver (h : ∀ text, b.resolver.substitute text = r.substitute text)
    (declared : List Parameter) (tokens : List String) :
    b.bindGlobals declared tokens = { b with resolver := r }.bindGlobals declared tokens := by
  have hgroups : ∀ (l : List Parameter) (pool : OptionPool),
      b.groups l pool = { b with resolver := r }.groups l pool := by
    intro l
    induction l with
    | nil => exact fun pool => rfl
    | cons group rest ih =>
      intro pool
      simp only [groups, parameter_of_resolver h, ih]
  simp only [bindGlobals, hgroups]

end Resolver

end Binder

end CommandLine
