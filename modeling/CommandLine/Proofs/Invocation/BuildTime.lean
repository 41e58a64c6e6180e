import CommandLine.Catalog.Basic
import CommandLine.Proofs.Binding.Supplied
import CommandLine.Proofs.Chain.Raised
import CommandLine.Proofs.Invocation.Pipeline
import CommandLine.Proofs.Line.Exactness

/-!
# Build-time faults

A catalog that cannot be loaded, and declarations that are refused, have build-time faults and no
others. What an engine does after that has other faults: the steps of a preparation one by one
(`isBuildTime_of_refuses`) and the chain itself. `buildTime_raised`: if a run or a line fails with a
build-time fault all the same, then an action or an interceptor has raised it.
-/

namespace CommandLine

open Except

/-! ## Loading and declaring -/

theorem Catalog.isBuildTime_of_load {text path : String} {fault : Fault}
    (h : load text path = .error fault) : fault.isBuildTime := by
  unfold load at h
  split at h
  · obtain rfl := Except.error.inj h
    rfl
  · obtain ⟨flaw, -, rfl⟩ := Except.mapError_eq_error_iff.1 h
    rfl

theorem failsOnly_checkParameters (owner scope : String) (parameters : List Parameter) :
    FailsOnly (·.isBuildTime) (checkParameters owner scope parameters) := by
  unfold checkParameters
  split
  · exact .error rfl
  · split
    · exact .error rfl
    · exact .ok ()

theorem failsOnly_checkGlobals (globals : List Parameter) :
    FailsOnly (·.isBuildTime) (checkGlobals globals) := by
  induction globals with
  | nil => exact .ok ()
  | cons group rest ih =>
    rw [checkGlobals]
    refine FailsOnly.bind ?_ fun _ _ => ih
    unfold checkGlobal
    split
    · exact failsOnly_checkParameters _ _ _
    · exact .error rfl

theorem Registry.failsOnly_declare (r : Registry) (commands : List Command) :
    FailsOnly (·.isBuildTime) (r.declare commands) := by
  induction commands generalizing r with
  | nil => exact .ok r
  | cons command rest ih =>
    rw [declare]
    refine FailsOnly.bind ?_ fun _ _ => ih _
    unfold check
    split
    · exact .error rfl
    · split
      · exact .error rfl
      · exact failsOnly_checkParameters _ _ _

theorem Engine.failsOnly_ofParts (p : Parts) : FailsOnly (·.isBuildTime) (ofParts p) :=
  (failsOnly_checkGlobals _).bind fun _ _ => (Registry.failsOnly_declare _ _).map _

/-! ## Reading a line, and preparing an invocation -/

theorem Line.isBuildTime_of_stages {line : String} {fault : Fault}
    (h : stages line = .error fault) : fault.isBuildTime = false := by
  obtain ⟨r, hr⟩ := exists_reading line.toList
  rw [stages, ← hr] at h
  rcases r.whole_or_refuses with hwhole | ⟨other, hrefuses⟩
  · rw [Reading.scan_of_whole hwhole] at h
    cases h
  · obtain rfl : other = fault :=
      Except.error.inj ((Reading.scan_of_refuses hrefuses).symm.trans h)
    cases hrefuses <;> rfl

theorem Binder.BindingFault.isBuildTime_eq {b : Binder} {types : List (Attributes × ValueType)}
    {fault : Fault} (h : b.BindingFault types fault) : fault.isBuildTime = false := by
  cases h <;> rfl

theorem Binder.isBuildTime_of_bindGlobals {b : Binder} {declared : List Parameter}
    (hgroups : ∀ group ∈ declared, group.isBean) {tokens : List String} {fault : Fault}
    (h : b.bindGlobals declared tokens = .error fault) : fault.isBuildTime = false := by
  obtain hfault | ⟨group, hmem, hbean, -⟩ := failsOnly_bindGlobals b declared tokens fault h
  · exact hfault.isBuildTime_eq
  · rw [hgroups group hmem] at hbean
    cases hbean

namespace Chain

theorem OwnFault.isBuildTime_eq {chain : Chain} {fault : Fault} (h : chain.OwnFault fault) :
    fault.isBuildTime = false := by
  cases h <;> rfl

end Chain

namespace Engine

theorem isBean_of_ofParts {p : Parts} {e : Engine} (he : ofParts p = .ok e) :
    ∀ group ∈ e.globals, group.isBean := by
  obtain ⟨hglobals, registry, -, rfl⟩ := ofParts_eq_ok_iff.1 he
  exact fun group hmem => (sound_of_checkGlobals hglobals hmem).1

variable {e : Engine} {extra : Interceptors} {position? : Option Position} {tokens : List String}
  {fault : Fault}

theorem isBuildTime_of_refuses (hgroups : ∀ group ∈ e.globals, group.isBean)
    (h : e.Refuses position? tokens fault) : fault.isBuildTime = false := by
  cases h with
  | emptyCommand hname => rfl
  | unknownCommand hname hfault =>
    rw [Registry.fault_of_lookup hfault]
    rfl
  | overrides hcommand hfault =>
    obtain ⟨token, -, rfl⟩ := Assignment.fault_of_extractOverrides hfault
    rfl
  | globals hcommand hextract hfault => exact Binder.isBuildTime_of_bindGlobals hgroups hfault
  | arguments hcommand hglobals hfault =>
    exact (Binder.failsOnly_bind _ _ _ _ hfault).isBuildTime_eq
  | validation hbound hvalidator hviolations => rfl

/-- In the invocation of some tokens, the action or an interceptor raises the fault. -/
def Raises (e : Engine) (extra : Interceptors) (position? : Option Position)
    (tokens : List String) (fault : Fault) : Prop :=
  ∃ i, e.prepare position? tokens = .ok i ∧
    Chain.Raises ⟨i.command, extra, e.interceptors⟩ i.arguments fault

theorem raises_of_invoke (hgroups : ∀ group ∈ e.globals, group.isBean)
    (h : (e.invoke extra position? tokens).1 = .error fault) (hbuild : fault.isBuildTime) :
    e.Raises extra position? tokens fault := by
  cases hprepare : e.prepare position? tokens with
  | error other =>
    have hrefuses := prepare_eq_error_iff.1 hprepare
    obtain rfl : other = fault := by
      rw [invoke_of_refuses hrefuses extra] at h
      exact Except.error.inj h
    rw [isBuildTime_of_refuses hgroups hrefuses] at hbuild
    cases hbuild
  | ok i =>
    rw [invoke_of_prepare hprepare] at h
    obtain hown | hraises := Chain.raises_of_start (Except.map_eq_error_iff.1 h)
    · rw [hown.isBuildTime_eq] at hbuild
      cases hbuild
    · exact ⟨i, hprepare, hraises⟩

/-- **Build time.** Catalogs and declarations are refused with build-time faults only. A run or a
line of an engine has a build-time fault only if the action or an interceptor has raised it, in the
invocation that fails; the binding of the global groups never reports a declaration. -/
theorem buildTime_raised (p : Parts) :
    (∀ text path fault, Catalog.load text path = .error fault → fault.isBuildTime) ∧
    (∀ fault, ofParts p = .error fault → fault.isBuildTime) ∧
    ∀ e, ofParts p = .ok e →
      (∀ (b : Binder) tokens owner flaw,
        b.bindGlobals e.globals tokens ≠ .error (.invalidDeclaration owner flaw)) ∧
      (∀ extra tokens fault, (e.run tokens extra).1 = .error fault → fault.isBuildTime →
        e.Raises extra none tokens fault) ∧
      ∀ line fault, (e.runLine line).1 = .error fault → fault.isBuildTime →
        ∃ stages k outcomes tokens, Line.stages line = .ok stages ∧
          e.FailsAt .first stages k outcomes fault ∧ stages[k]? = some tokens ∧
          e.Raises ∅ (some (Position.first.at outcomes k)) tokens fault := by
  refine ⟨fun text path fault => Catalog.isBuildTime_of_load, failsOnly_ofParts p,
    fun e he => ?_⟩
  have hgroups := isBean_of_ofParts he
  refine ⟨fun b tokens owner flaw h => ?_, fun extra tokens fault => raises_of_invoke hgroups,
    fun line fault h hbuild => ?_⟩
  · cases Binder.isBuildTime_of_bindGlobals hgroups h
  · cases hstages : Line.stages line with
    | error other =>
      obtain rfl : other = fault := by
        rw [runLine_of_fault hstages] at h
        exact Except.error.inj h
      rw [Line.isBuildTime_of_stages hstages] at hbuild
      cases hbuild
    | ok stages =>
      rw [runLine_of_stages hstages] at h
      obtain ⟨k, outcomes, hfails⟩ := runStages_eq_error_iff.1 h
      obtain ⟨tokens, htokens, hinvoke⟩ := hfails.invoke_eq
      exact ⟨stages, k, outcomes, tokens, rfl, hfails, htokens,
        raises_of_invoke hgroups hinvoke hbuild⟩

/-- A command whose action fails as the declaration of another command would. -/
def nesting : Command where
  name := "nest"
  target := ⟨"Sample", "nest", none⟩
  action := Action.failing (.fault (.duplicateCommand "inner"))
  interceptors := ["trace"]

def nestingSample : Engine where
  registry := .push .empty nesting
  globals := []
  converters := .stock
  resolver := ({ commands := [nesting] } : Parts).resolver
  validator? := none
  interceptors := .stock
  surroundings := {}

/-- The action raises the fault, and the interceptor around it lets it pass. -/
theorem buildTime_raised_nesting :
    (nestingSample.run ["nest"]).1 = .error (.duplicateCommand "inner") ∧
      nestingSample.Raises ∅ none ["nest"] (.duplicateCommand "inner") := by
  have he : ofParts { commands := [nesting] } = .ok nestingSample := rfl
  have hbound : nestingSample.Bound none ["nest"] ⟨nesting, [], []⟩ :=
    ⟨⟨"nest", rfl, rfl⟩, ∅, ⟨[], rfl, rfl⟩, rfl⟩
  have haccepts : nestingSample.Accepts ⟨nesting, [], []⟩ := by
    rintro validator ⟨⟩
  have hchain : (Chain.start ⟨nesting, ∅, .stock⟩ []).1 = .error (.duplicateCommand "inner") := rfl
  have hrun : (nestingSample.run ["nest"]).1 = .error (.duplicateCommand "inner") := by
    have hstock : nestingSample.interceptors = .stock := rfl
    unfold run
    rw [invoke_of_prepare (prepare_eq_ok_iff.2 ⟨hbound, haccepts⟩), hstock]
    simp only [hchain, Except.map]
  obtain ⟨-, -, hengine⟩ := buildTime_raised { commands := [nesting] }
  exact ⟨hrun, (hengine _ he).2.1 ∅ ["nest"] _ hrun rfl⟩

end Engine

end CommandLine
