import CommandLine.Proofs.Binding.Given

/-!
# Global groups as the parameters of a command

Groups of global options are bound one by one, each without positionals, while the parameters of a
command are bound in one walk with all that is left. Since groups hold options and groups only, they
take no positional and do not ask for their places (`parameter_of_member`), so both ways come to the
same (`parameters_eq_groups`). What is left over is reported in the same order, a positional as an
option that nobody knows (`bindGlobals_eq_bind`).
-/

namespace CommandLine

/-- The fault of a command as it is reported of global options. -/
def Fault.asGlobal : Fault → Fault
  | .unexpectedArgument value => .unknownOption value
  | fault => fault

namespace Parameter

theorem Sound.flawless_of_group {group : Parameter} (hbean : group.isBean) (h : Sound [group]) :
    firstFlaw? true group = none := by
  have hflawless := (firstFlawOfAll?_cons_eq_none.1 h.flawless).1
  cases group with
  | bean a type members => exact hflawless
  | plain a type => cases hbean
  | option a type => cases hbean
  | internal a => cases hbean

end Parameter

namespace Binder

open Parameter Except

variable {b : Binder}

/-! ## Groups take no positional -/

mutual

/-- A member is bound alike at every place and with any positionals, which it leaves alone. -/
theorem parameter_of_member {m : Parameter} (h : firstFlaw? true m = none) (index index' : Nat)
    (s : Supply) (positionals : List String) :
    b.parameter index m { s with positionals } =
      (b.parameter index' m s).map fun r => (r.1, { r.2 with positionals }) := by
  match m with
  | .plain a type => simp [firstFlaw?, flaw?] at h
  | .option a type =>
    rw [parameter, parameter]
    dsimp only
    cases b.option a type (s.options.take a.name).1 <;> rfl
  | .bean a type members =>
    rw [parameter, parameter]
    dsimp only
    by_cases hnull : (a.nillable && !s.options.containsAny (optionNamesOfAll members)) = true
    · rw [if_pos hnull, if_pos hnull]
      rfl
    · rw [if_neg hnull, if_neg hnull,
        parameters_of_members (firstFlawOfAll?_members h) 0 0 s positionals]
      cases b.parameters 0 members s <;> rfl
  | .internal a => simp [firstFlaw?, flaw?] at h

theorem parameters_of_members {l : List Parameter} (h : firstFlawOfAll? true l = none)
    (index index' : Nat) (s : Supply) (positionals : List String) :
    b.parameters index l { s with positionals } =
      (b.parameters index' l s).map fun r => (r.1, { r.2 with positionals }) := by
  match l with
  | [] =>
    rw [parameters, parameters]
    rfl
  | m :: rest =>
    obtain ⟨hm, hrest⟩ := firstFlawOfAll?_cons_eq_none.1 h
    rw [parameters, parameters, parameter_of_member hm index index' s positionals]
    cases b.parameter index' m s with
    | error fault => rfl
    | ok r =>
      obtain ⟨value, left⟩ := r
      simp only [Except.map, Except.bind]
      rw [parameters_of_members hrest (index + 1) (index' + 1) left positionals]
      cases b.parameters (index' + 1) rest left <;> rfl

end

/-- Binding groups in one walk is binding them one by one. -/
theorem parameters_eq_groups {declared : List Parameter}
    (h : ∀ group ∈ declared, group.isBean ∧ firstFlaw? true group = none) (index : Nat)
    (s : Supply) :
    b.parameters index declared s =
      (b.groups declared s.options).map fun r => (r.1, ⟨r.2, s.positionals⟩) := by
  induction declared generalizing index s with
  | nil =>
    rw [parameters, groups]
    rfl
  | cons group rest ih =>
    obtain ⟨hgroup, hrest⟩ := List.forall_mem_cons.1 h
    have hfirst := parameter_of_member (b := b) hgroup.2 index 0 ⟨s.options, []⟩ s.positionals
    rw [parameters, groups, if_pos hgroup.1]
    show (b.parameter index group { options := s.options, positionals := s.positionals }).bind _ = _
    rw [hfirst]
    cases b.parameter 0 group ⟨s.options, []⟩ with
    | error fault => rfl
    | ok r =>
      obtain ⟨value, left⟩ := r
      simp only [Except.map, Except.bind]
      rw [ih hrest]
      cases b.groups rest left.options <;> rfl

/-! ## Faults on the way -/

namespace RuleFault

mutual

theorem of_parameter (p : Parameter) (index : Nat) (s : Supply) :
    FailsOnly RuleFault (b.parameter index p s) := by
  match p with
  | .plain a type =>
    rw [parameter, plain_eq_rule]
    exact (of_plainRule index _).map _
  | .option a type =>
    rw [parameter]
    dsimp only
    rw [option_eq_rule]
    exact (of_optionRule _).map _
  | .bean a type members =>
    rw [parameter]
    split
    · exact .ok _
    · exact (of_parameters members 0 s).map _
  | .internal a =>
    rw [parameter]
    exact .ok _

/-- No parameter fails for an argument that is left over. -/
theorem of_parameters (l : List Parameter) (index : Nat) (s : Supply) :
    FailsOnly RuleFault (b.parameters index l s) := by
  match l with
  | [] =>
    rw [parameters]
    exact .ok _
  | p :: rest =>
    rw [parameters]
    refine (of_parameter p index s).bind ?_
    rintro ⟨value, left⟩ -
    exact (of_parameters rest (index + 1) left).map _

end

theorem asGlobal_eq {fault : Fault} (h : RuleFault fault) : fault.asGlobal = fault := by
  cases h <;> rfl

end RuleFault

/-! ## Whole token lists -/

theorem bindGlobals_eq (b : Binder) (globals : List Parameter) (tokens : List String) :
    b.bindGlobals globals tokens =
      (b.groups globals (Partition.ofArguments tokens).options).bind fun (values, left) =>
        left.ensureConsumed.bind fun _ =>
          match (Partition.ofArguments tokens).positionals with
          | [] => .ok values
          | stray :: _ => .error (.unknownOption stray) := rfl

/-- **Groups as parameters.** Binding global groups answers what binding a command with these
parameters answers, but that a positional too many is an option that nobody knows. -/
theorem bindGlobals_eq_bind {globals : List Parameter} (h : checkGlobals globals = .ok ())
    (b : Binder) (tokens : List String) :
    b.bindGlobals globals tokens = (b.bind globals tokens).mapError Fault.asGlobal := by
  have hsound : ∀ group ∈ globals, group.isBean ∧ firstFlaw? true group = none := by
    intro group hmem
    obtain ⟨hbean, hgroup⟩ := sound_of_checkGlobals h hmem
    exact ⟨hbean, hgroup.flawless_of_group hbean⟩
  have hwalk := parameters_eq_groups (b := b) hsound 0 (.ofArguments tokens)
  have hfaults := RuleFault.of_parameters (b := b) globals 0 (.ofArguments tokens)
  rw [hwalk] at hfaults
  rw [bind_eq, bindGlobals_eq, hwalk]
  unfold Supply.ofArguments at hfaults ⊢
  generalize Partition.ofArguments tokens = given at hfaults ⊢
  cases hgroups : b.groups globals given.options with
  | error fault =>
    have hfault : RuleFault fault := hfaults fault (by rw [hgroups]; rfl)
    exact congrArg Except.error hfault.asGlobal_eq.symm
  | ok r =>
    obtain ⟨values, left⟩ := r
    simp only [Except.map, Except.bind]
    unfold OptionPool.ensureConsumed
    cases left.unconsumed with
    | cons raw others => rfl
    | nil => cases given.positionals <;> rfl

/-- Groups of which the first may be null, and that share a name. -/
def sessionSample : List Parameter :=
  [.bean { name := "auth", nillable := true } "Auth"
      [.option { name := "user" } ⟨.text, false⟩,
        .bean { name := "proxy", nillable := true } "Proxy"
          [.option { name := "host" } ⟨.text, true⟩, .option { name := "port" } ⟨.text, true⟩]],
    .bean { name := "log" } "Log"
      [.option { name := "host" } ⟨.text, true⟩, .option { name := "trace" } ⟨.bool, false⟩]]

/-- An unknown option is reported as it stands, before a positional, which is reported as one. -/
theorem bindGlobals_eq_bind_session :
    checkGlobals sessionSample = .ok () ∧
      Binder.bind ⟨∅, ⟨[], ∅⟩, ∅⟩ sessionSample ["web", "--user=ada"] =
        .error (.unexpectedArgument "web") ∧
      Binder.bindGlobals ⟨∅, ⟨[], ∅⟩, ∅⟩ sessionSample ["web", "--user=ada"] =
        .error (.unknownOption "web") ∧
      Binder.bindGlobals ⟨∅, ⟨[], ∅⟩, ∅⟩ sessionSample ["web", "--user=ada", "--colour"] =
        .error (.unknownOption "--colour") := by
  have hcheck : checkGlobals sessionSample = .ok () := rfl
  have hbind : Binder.bind ⟨∅, ⟨[], ∅⟩, ∅⟩ sessionSample ["web", "--user=ada"] =
      .error (.unexpectedArgument "web") := rfl
  refine ⟨hcheck, hbind, ?_, ?_⟩
  · rw [bindGlobals_eq_bind hcheck, hbind]
    rfl
  · rw [bindGlobals_eq_bind hcheck]
    rfl

end Binder

end CommandLine
