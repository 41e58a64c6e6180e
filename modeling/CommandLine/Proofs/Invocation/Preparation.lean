import CommandLine.Engine
import CommandLine.Proofs.Fallible
import CommandLine.Proofs.Registry.Acceptance

/-!
# How an invocation is prepared

`Engine.prepare` takes five steps and a validation, each with what the earlier ones gave.
`Engine.Bound` says what it means that all of them succeed, and `Engine.Refuses` which fault the
first of them that fails has. `prepare_eq_ok_iff` and `prepare_eq_error_iff`: the one or the other
is the case, and the preparation answers accordingly. What is prepared is run (`invoke_of_prepare`).
-/

namespace CommandLine

/-! ## The faults of single steps -/

theorem Registry.fault_of_lookup {r : Registry} {name : String} {fault : Fault}
    (h : r.lookup name = .error fault) : fault = .unknownCommand name (r.suggest? name) := by
  unfold lookup at h
  split at h
  · cases h
  · exact (Except.error.inj h).symm

theorem Assignment.fault_of_extractOverrides {tokens : List String} {fault : Fault}
    (h : extractOverrides tokens = .error fault) :
    ∃ token ∈ tokens, fault = .unknownOption token := by
  suffices hgo : ∀ found, extractOverrides.go found tokens = .error fault →
      ∃ token ∈ tokens, fault = .unknownOption token from hgo ∅ h
  clear h
  induction tokens with
  | nil => nofun
  | cons token rest ih =>
    intro found h
    rw [extractOverrides.go] at h
    have hrest : (∃ other ∈ rest, fault = .unknownOption other) →
        ∃ other ∈ token :: rest, fault = .unknownOption other :=
      fun ⟨other, hmem, hother⟩ => ⟨other, List.mem_cons_of_mem _ hmem, hother⟩
    split at h
    · exact hrest (ih found (Except.map_eq_error_iff.1 h))
    · split at h
      · exact ⟨token, List.mem_cons_self, (Except.error.inj h).symm⟩
      · exact hrest (ih _ h)

namespace Engine

/-- The command that some tokens invoke. -/
def Names (e : Engine) (tokens : List String) (command : Command) : Prop :=
  ∃ name, (Argv.ofTokens tokens).command? = some name ∧ e.registry.lookup name = .ok command

/-- The tokens invoke one command at most. -/
theorem Names.unique {e : Engine} {tokens : List String} {c c' : Command} (h : e.Names tokens c)
    (h' : e.Names tokens c') : c = c' := by
  obtain ⟨name, hname, hlookup⟩ := h
  obtain ⟨name', hname', hlookup'⟩ := h'
  obtain rfl : name = name' := Option.some.inj (hname.symm.trans hname')
  exact Except.ok.inj (hlookup.symm.trans hlookup')

/-- The binder of an invocation, without the values of internal parameters. -/
def binderWith (e : Engine) (overrides : Table String) : Binder :=
  { converters := e.converters, resolver := e.resolverWith overrides }

/-- The tokens before the command name are overrides and other tokens, which give the global
groups these values. -/
def BindsGlobals (e : Engine) (tokens : List String) (overrides : Table String)
    (globals : List Value) : Prop :=
  ∃ globalTokens,
    Assignment.extractOverrides (Argv.ofTokens tokens).globals = .ok (overrides, globalTokens) ∧
      (e.binderWith overrides).bindGlobals e.globals globalTokens = .ok globals

/-- The arguments of a command are bound with what is known after the globals. -/
def bindArguments (e : Engine) (position? : Option Position) (tokens : List String)
    (command : Command) (overrides : Table String) (globals : List Value) :
    Except Fault (List Value) :=
  { e.binderWith overrides with internals := e.internals command globals position? }.bind
    command.parameters (Argv.ofTokens tokens).arguments

theorem prepare_eq (e : Engine) (position? : Option Position) (tokens : List String) :
    e.prepare position? tokens = match (Argv.ofTokens tokens).command? with
      | none => .error .emptyCommand
      | some name =>
        (e.registry.lookup name).bind fun command =>
          (Assignment.extractOverrides (Argv.ofTokens tokens).globals).bind fun extracted =>
            ((e.binderWith extracted.1).bindGlobals e.globals extracted.2).bind fun globals =>
              (e.bindArguments position? tokens command extracted.1 globals).bind fun arguments =>
                (e.validate command.target arguments).map fun _ =>
                  { command, globals, arguments } := rfl

/-! ## Success -/

/-- The tokens invoke a command with values that are bound to them: the globals first, and then the
arguments. -/
structure Bound (e : Engine) (position? : Option Position) (tokens : List String)
    (i : Invocation) : Prop where
  names : e.Names tokens i.command
  binds : ∃ overrides, e.BindsGlobals tokens overrides i.globals ∧
    e.bindArguments position? tokens i.command overrides i.globals = .ok i.arguments

/-- The validator, if there is one, finds no violation in the bound values. -/
def Accepts (e : Engine) (i : Invocation) : Prop :=
  ∀ validator, e.validator? = some validator → validator i.command.target i.arguments = []

theorem validate_eq_ok_iff {e : Engine} {i : Invocation} :
    e.validate i.command.target i.arguments = .ok () ↔ e.Accepts i := by
  unfold validate Accepts
  cases e.validator? with
  | none => simp
  | some validator =>
    simp only [Option.some.injEq, forall_eq']
    cases validator i.command.target i.arguments <;> simp

theorem validate_eq_error_iff {e : Engine} {target : Target} {values : List Value}
    {fault : Fault} :
    e.validate target values = .error fault ↔ ∃ validator, e.validator? = some validator ∧
      validator target values ≠ [] ∧ fault = .validation (validator target values) := by
  unfold validate
  cases e.validator? with
  | none => simp
  | some validator =>
    simp only [Option.some.injEq, exists_eq_left']
    cases validator target values <;> simp [eq_comm]

theorem prepare_eq_ok_iff {e : Engine} {position? : Option Position} {tokens : List String}
    {i : Invocation} :
    e.prepare position? tokens = .ok i ↔ e.Bound position? tokens i ∧ e.Accepts i := by
  rw [prepare_eq]
  cases hname : (Argv.ofTokens tokens).command? with
  | none =>
    constructor
    · rintro ⟨⟩
    · rintro ⟨⟨⟨name, hsome, -⟩, -⟩, -⟩
      rw [hname] at hsome
      cases hsome
  | some name =>
    simp only [Except.bind_eq_ok_iff, Except.map_eq_ok_iff]
    constructor
    · rintro ⟨command, hcommand, ⟨overrides, globalTokens⟩, hextract, globals, hglobals, arguments,
        harguments, u, haccepts, rfl⟩
      exact ⟨⟨⟨name, hname, hcommand⟩, overrides, ⟨globalTokens, hextract, hglobals⟩, harguments⟩,
        validate_eq_ok_iff.1 haccepts⟩
    · rintro ⟨⟨⟨name', hname', hcommand⟩, overrides, ⟨globalTokens, hextract, hglobals⟩,
        harguments⟩, haccepts⟩
      obtain rfl : name = name' := Option.some.inj (hname.symm.trans hname')
      exact ⟨i.command, hcommand, (overrides, globalTokens), hextract, i.globals, hglobals,
        i.arguments, harguments, (), validate_eq_ok_iff.2 haccepts, rfl⟩

/-! ## Failure -/

/-- The first step that fails, fails with this fault. -/
inductive Refuses (e : Engine) (position? : Option Position) (tokens : List String) : Fault → Prop
  /-- Every token starts with a dash. -/
  | emptyCommand (hname : (Argv.ofTokens tokens).command? = none) :
      Refuses e position? tokens .emptyCommand
  | unknownCommand {name : String} {fault : Fault}
      (hname : (Argv.ofTokens tokens).command? = some name)
      (hfault : e.registry.lookup name = .error fault) : Refuses e position? tokens fault
  | overrides {command : Command} {fault : Fault} (hcommand : e.Names tokens command)
      (hfault : Assignment.extractOverrides (Argv.ofTokens tokens).globals = .error fault) :
      Refuses e position? tokens fault
  | globals {command : Command} {overrides : Table String} {globalTokens : List String}
      {fault : Fault} (hcommand : e.Names tokens command)
      (hextract : Assignment.extractOverrides (Argv.ofTokens tokens).globals =
        .ok (overrides, globalTokens))
      (hfault : (e.binderWith overrides).bindGlobals e.globals globalTokens = .error fault) :
      Refuses e position? tokens fault
  | arguments {command : Command} {overrides : Table String} {globals : List Value} {fault : Fault}
      (hcommand : e.Names tokens command) (hglobals : e.BindsGlobals tokens overrides globals)
      (hfault : e.bindArguments position? tokens command overrides globals = .error fault) :
      Refuses e position? tokens fault
  | validation {i : Invocation} {validator : Validator} (hbound : e.Bound position? tokens i)
      (hvalidator : e.validator? = some validator)
      (hviolations : validator i.command.target i.arguments ≠ []) :
      Refuses e position? tokens (.validation (validator i.command.target i.arguments))

theorem prepare_of_refuses {e : Engine} {position? : Option Position} {tokens : List String}
    {fault : Fault} (h : e.Refuses position? tokens fault) :
    e.prepare position? tokens = .error fault := by
  rw [prepare_eq]
  cases h with
  | emptyCommand hname => rw [hname]
  | unknownCommand hname hfault => simp only [hname, hfault, Except.bind]
  | overrides hcommand hfault =>
    obtain ⟨name, hname, hlookup⟩ := hcommand
    simp only [hname, hlookup, hfault, Except.bind]
  | globals hcommand hextract hfault =>
    obtain ⟨name, hname, hlookup⟩ := hcommand
    simp only [hname, hlookup, hextract, hfault, Except.bind]
  | arguments hcommand hglobals hfault =>
    obtain ⟨name, hname, hlookup⟩ := hcommand
    obtain ⟨globalTokens, hextract, hglobals⟩ := hglobals
    simp only [hname, hlookup, hextract, hglobals, hfault, Except.bind]
  | validation hbound hvalidator hviolations =>
    obtain ⟨⟨name, hname, hlookup⟩, overrides, ⟨globalTokens, hextract, hglobals⟩, harguments⟩ :=
      hbound
    have hvalidate := validate_eq_error_iff.2 ⟨_, hvalidator, hviolations, rfl⟩
    simp only [hname, hlookup, hextract, hglobals, harguments, hvalidate, Except.bind, Except.map]

/-- The fault of a preparation is that of the first step that fails. -/
theorem prepare_eq_error_iff {e : Engine} {position? : Option Position} {tokens : List String}
    {fault : Fault} :
    e.prepare position? tokens = .error fault ↔ e.Refuses position? tokens fault := by
  refine ⟨fun h => ?_, prepare_of_refuses⟩
  rw [prepare_eq] at h
  cases hname : (Argv.ofTokens tokens).command? with
  | none =>
    simp only [hname, Except.error.injEq] at h
    exact h ▸ .emptyCommand hname
  | some name =>
    simp only [hname, Except.bind_eq_error_iff, Except.map_eq_error_iff] at h
    obtain hlookup | ⟨command, hlookup, h⟩ := h
    · exact .unknownCommand hname hlookup
    have hcommand : e.Names tokens command := ⟨name, hname, hlookup⟩
    obtain hextract | ⟨⟨overrides, globalTokens⟩, hextract, h⟩ := h
    · exact .overrides hcommand hextract
    obtain hglobals | ⟨globals, hglobals, h⟩ := h
    · exact .globals hcommand hextract hglobals
    obtain harguments | ⟨arguments, harguments, hvalidate⟩ := h
    · exact .arguments hcommand ⟨globalTokens, hextract, hglobals⟩ harguments
    obtain ⟨validator, hvalidator, hviolations, rfl⟩ := validate_eq_error_iff.1 hvalidate
    exact .validation (i := ⟨command, globals, arguments⟩)
      ⟨hcommand, overrides, ⟨globalTokens, hextract, hglobals⟩, harguments⟩ hvalidator hviolations

/-! ## Invocation -/

theorem invoke_of_prepare {e : Engine} {position? : Option Position} {tokens : List String}
    {i : Invocation} (h : e.prepare position? tokens = .ok i) (extra : Interceptors) :
    e.invoke extra position? tokens =
      ((Chain.start ⟨i.command, extra, e.interceptors⟩ i.arguments).1.map fun result =>
          ⟨i.command.name, i.globals, i.arguments, result⟩,
        (Chain.start ⟨i.command, extra, e.interceptors⟩ i.arguments).2.events) := by
  obtain ⟨command, globals, arguments⟩ := i
  -- the chain gets a name, or else the kernel evaluates it
  rcases hstart : Chain.start ⟨command, extra, e.interceptors⟩ arguments with ⟨result, context⟩
  unfold invoke
  simp only [h, hstart]

theorem exists_prepare_of_invoke {e : Engine} {extra : Interceptors} {position? : Option Position}
    {tokens : List String} {outcome : Outcome}
    (h : (e.invoke extra position? tokens).1 = .ok outcome) :
    ∃ i, e.prepare position? tokens = .ok i := by
  cases hprepare : e.prepare position? tokens with
  | error fault =>
    unfold invoke at h
    rw [hprepare] at h
    cases h
  | ok i => exact ⟨i, rfl⟩

/-- The outcome shows the values that were bound. -/
theorem exists_bound_of_invoke {e : Engine} {extra : Interceptors} {position? : Option Position}
    {tokens : List String} {outcome : Outcome}
    (h : (e.invoke extra position? tokens).1 = .ok outcome) :
    ∃ i, e.Bound position? tokens i ∧ outcome.command = i.command.name ∧
      outcome.globals = i.globals ∧ outcome.arguments = i.arguments := by
  obtain ⟨i, hprepare⟩ := exists_prepare_of_invoke h
  rw [invoke_of_prepare hprepare] at h
  obtain ⟨result, -, rfl⟩ := Except.map_eq_ok_iff.1 h
  exact ⟨i, (prepare_eq_ok_iff.1 hprepare).1, rfl, rfl, rfl⟩

theorem invoke_of_refuses {e : Engine} {position? : Option Position} {tokens : List String}
    {fault : Fault} (h : e.Refuses position? tokens fault) (extra : Interceptors) :
    e.invoke extra position? tokens = (.error fault, []) := by
  unfold invoke
  rw [prepare_of_refuses h]

/-! ## Engines whose declarations are sound -/

theorem mem_commands_of_names {e : Engine} {tokens : List String} {command : Command}
    (h : e.Names tokens command) : command ∈ e.registry.commands := by
  obtain ⟨name, -, hlookup⟩ := h
  unfold Registry.lookup at hlookup
  cases hfound : e.registry.find? name with
  | none => simp [hfound] at hlookup
  | some found =>
    obtain rfl : found = command := by simpa [hfound] using hlookup
    rw [Registry.find?_eq] at hfound
    exact List.mem_of_find?_eq_some hfound

theorem ofParts_eq_ok_iff {p : Parts} {e : Engine} :
    ofParts p = .ok e ↔ checkGlobals p.globals = .ok () ∧
      ∃ registry, Registry.ofCommands p.commands = .ok registry ∧
        e = ⟨registry, p.globals, p.converters, p.resolver, p.validator?, p.interceptors,
          p.surroundings⟩ := by
  unfold ofParts
  simp only [Except.bind_eq_ok_iff, Except.map_eq_ok_iff]
  constructor
  · rintro ⟨u, hglobals, registry, hregistry, rfl⟩
    exact ⟨hglobals, registry, hregistry, rfl⟩
  · rintro ⟨hglobals, registry, hregistry, rfl⟩
    exact ⟨(), hglobals, registry, hregistry, rfl⟩

/-- The commands of an engine have sound parameters. -/
theorem sound_of_names {p : Parts} {e : Engine} (he : ofParts p = .ok e) {tokens : List String}
    {command : Command} (hcommand : e.Names tokens command) :
    Parameter.Sound command.parameters := by
  obtain ⟨-, registry, hregistry, rfl⟩ := ofParts_eq_ok_iff.1 he
  exact Registry.sound_of_ofCommands hregistry (mem_commands_of_names hcommand)

end Engine

end CommandLine
