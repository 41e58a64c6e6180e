import CommandLine.Proofs.Chain.Record
import CommandLine.Proofs.Invocation.Preparation

/-!
# What is done in an invocation, and in which order

A run answers with an outcome and the events of its chain. That the validator was asked, and that
the chain was started, cannot be told from these. `Engine.recorded` takes the steps of an invocation
one after the other and writes down what it does on the way. `run_inOrder`: nothing of a chain is
done before the values are bound and accepted, and whatever is done with the arguments in the chain,
the outcome shows them as they were bound.
-/

namespace CommandLine.Engine

/-- What is done in an invocation. -/
inductive Act where
  /-- The validator is asked about some values. -/
  | validated (target : Target) (values : List Value)
  /-- The chain is started on the arguments. -/
  | started (arguments : List Value)
  /-- Something is done in the chain. -/
  | did (deed : Chain.Deed)

/-- The events that are seen of an act. -/
def Act.events : Act → List Event
  | did deed => deed.events
  | _ => []

/-- The deed, if the act is one in the chain. -/
def Act.deed? : Act → Option Chain.Deed
  | did deed => some deed
  | _ => none

/-- A computation that may fail, with what was done in it. -/
structure Recording (α : Type) where
  result : Except Fault α
  acts : List Act

namespace Recording

variable {α β : Type}

/-- Nothing that is recorded is done in the computation. -/
def silent (result : Except Fault α) : Recording α := ⟨result, []⟩

/-- Goes on with the value, unless the computation fails. -/
def andThen (r : Recording α) (next : α → Recording β) : Recording β :=
  match r.result with
  | .error fault => ⟨.error fault, r.acts⟩
  | .ok value => ⟨(next value).result, r.acts ++ (next value).acts⟩

@[simp] theorem silent_error_andThen (fault : Fault) (next : α → Recording β) :
    (silent (.error fault)).andThen next = silent (.error fault) := rfl

@[simp] theorem silent_ok_andThen (value : α) (next : α → Recording β) :
    (silent (.ok value)).andThen next = next value := rfl

theorem ok_andThen_map (first second : List Act) (result : Except Fault α) (f : α → β) :
    ((⟨.ok (), first⟩ : Recording Unit).andThen fun _ =>
      (⟨result, second⟩ : Recording α).andThen fun value => silent (.ok (f value))) =
    ⟨result.map f, first ++ second⟩ := by
  cases result with
  | error fault => rfl
  | ok value => simp [andThen, silent, Except.map]

end Recording

/-! ## Recording -/

/-- Asks the validator, if there is one. -/
def validateRecorded (e : Engine) (target : Target) (values : List Value) : Recording Unit :=
  match e.validator? with
  | none => .silent (.ok ())
  | some validator =>
    match validator target values with
    | [] => ⟨.ok (), [.validated target values]⟩
    | violations => ⟨.error (.validation violations), [.validated target values]⟩

/-- Runs the chain of a command. -/
def chainRecorded (e : Engine) (extra : Interceptors) (command : Command)
    (arguments : List Value) : Recording Value :=
  let record := Chain.recorded { command, extra, interceptors := e.interceptors } arguments
  ⟨record.result, .started arguments :: record.deeds.map .did⟩

/-- Invokes a command, step by step. -/
def recorded (e : Engine) (extra : Interceptors) (position? : Option Position)
    (tokens : List String) : Recording Outcome :=
  match (Argv.ofTokens tokens).command? with
  | none => .silent (.error .emptyCommand)
  | some name =>
    (Recording.silent (e.registry.lookup name)).andThen fun command =>
    (Recording.silent (Assignment.extractOverrides (Argv.ofTokens tokens).globals)).andThen
      fun (overrides, globalTokens) =>
    (Recording.silent ((e.binderWith overrides).bindGlobals e.globals globalTokens)).andThen
      fun globals =>
    (Recording.silent (e.bindArguments position? tokens command overrides globals)).andThen
      fun arguments =>
    (e.validateRecorded command.target arguments).andThen fun _ =>
    (e.chainRecorded extra command arguments).andThen fun result =>
    .silent (.ok ⟨command.name, globals, arguments, result⟩)

/-- The acts of a validation: the validator is asked once, if there is one. -/
def validations (e : Engine) (target : Target) (values : List Value) : List Act :=
  match e.validator? with
  | none => []
  | some _ => [.validated target values]

theorem validateRecorded_eq (e : Engine) (target : Target) (values : List Value) :
    e.validateRecorded target values = ⟨e.validate target values, e.validations target values⟩ := by
  unfold validateRecorded validate validations
  cases e.validator? with
  | none => rfl
  | some validator =>
    dsimp only
    cases validator target values <;> rfl

variable {e : Engine} {position? : Option Position} {tokens : List String}

theorem recorded_of_bound {i : Invocation} (hbound : e.Bound position? tokens i)
    (extra : Interceptors) :
    e.recorded extra position? tokens =
      (e.validateRecorded i.command.target i.arguments).andThen fun _ =>
      (e.chainRecorded extra i.command i.arguments).andThen fun result =>
      .silent (.ok ⟨i.command.name, i.globals, i.arguments, result⟩) := by
  obtain ⟨⟨name, hname, hlookup⟩, overrides, ⟨globalTokens, hextract, hglobals⟩, harguments⟩ :=
    hbound
  unfold recorded
  simp only [hname, hlookup, hextract, hglobals, harguments, Recording.silent_ok_andThen]

/-- An invocation whose values are bound and accepted starts its chain. -/
theorem recorded_of_accepts {i : Invocation} (hbound : e.Bound position? tokens i)
    (haccepts : e.Accepts i) (extra : Interceptors) :
    e.recorded extra position? tokens =
      ⟨(Chain.start ⟨i.command, extra, e.interceptors⟩ i.arguments).1.map fun result =>
          ⟨i.command.name, i.globals, i.arguments, result⟩,
        e.validations i.command.target i.arguments ++
          .started i.arguments ::
            (Chain.recorded ⟨i.command, extra, e.interceptors⟩ i.arguments).deeds.map .did⟩ := by
  have hchain : e.chainRecorded extra i.command i.arguments =
      ⟨(Chain.start ⟨i.command, extra, e.interceptors⟩ i.arguments).1, .started i.arguments ::
        (Chain.recorded ⟨i.command, extra, e.interceptors⟩ i.arguments).deeds.map .did⟩ := by
    rw [← Chain.run_recorded, Chain.Record.result_run, chainRecorded]
  rw [recorded_of_bound hbound, validateRecorded_eq, validate_eq_ok_iff.2 haccepts, hchain]
  exact Recording.ok_andThen_map ..

theorem recorded_of_refuses {fault : Fault} (h : e.Refuses position? tokens fault)
    (extra : Interceptors) :
    (e.recorded extra position? tokens).result = .error fault ∧
      ∀ act ∈ (e.recorded extra position? tokens).acts,
        ∃ target values, act = .validated target values := by
  cases h with
  | emptyCommand hname => simp [recorded, hname, Recording.silent]
  | unknownCommand hname hfault =>
    simp only [recorded, hname, hfault, Recording.silent_error_andThen]
    simp [Recording.silent]
  | overrides hcommand hfault =>
    obtain ⟨name, hname, hlookup⟩ := hcommand
    simp only [recorded, hname, hlookup, hfault, Recording.silent_ok_andThen,
      Recording.silent_error_andThen]
    simp [Recording.silent]
  | globals hcommand hextract hfault =>
    obtain ⟨name, hname, hlookup⟩ := hcommand
    simp only [recorded, hname, hlookup, hextract, hfault, Recording.silent_ok_andThen,
      Recording.silent_error_andThen]
    simp [Recording.silent]
  | arguments hcommand hglobals hfault =>
    obtain ⟨name, hname, hlookup⟩ := hcommand
    obtain ⟨globalTokens, hextract, hglobals⟩ := hglobals
    simp only [recorded, hname, hlookup, hextract, hglobals, hfault, Recording.silent_ok_andThen,
      Recording.silent_error_andThen]
    simp [Recording.silent]
  | validation hbound hvalidator hviolations =>
    have hvalidate := validate_eq_error_iff.2 ⟨_, hvalidator, hviolations, rfl⟩
    rw [recorded_of_bound hbound, validateRecorded_eq, hvalidate]
    simp [Recording.andThen, validations, hvalidator]

theorem events_started (e : Engine) (target : Target) (values arguments : List Value)
    (deeds : List Chain.Deed) :
    (e.validations target values ++ Act.started arguments :: deeds.map Act.did).flatMap Act.events =
      deeds.flatMap Chain.Deed.events := by
  have hvalidations : (e.validations target values).flatMap Act.events = [] := by
    unfold validations
    cases e.validator? <;> rfl
  rw [List.flatMap_append, hvalidations, List.nil_append, List.flatMap_cons, List.flatMap_map]
  rfl

theorem deeds_started (e : Engine) (target : Target) (values arguments : List Value)
    (deeds : List Chain.Deed) :
    (e.validations target values ++ Act.started arguments :: deeds.map Act.did).filterMap Act.deed?
      = deeds := by
  have hvalidations : (e.validations target values).filterMap Act.deed? = [] := by
    unfold validations
    cases e.validator? <;> rfl
  rw [List.filterMap_append, hvalidations, List.nil_append, List.filterMap_cons_none rfl]
  simp [List.filterMap_map, Function.comp_def, Act.deed?]

@[simp] theorem started_notMem_validations (e : Engine) (target : Target)
    (values arguments : List Value) : .started arguments ∉ e.validations target values := by
  unfold validations
  cases e.validator? <;> simp

/-- The recorded invocation is the invocation, and what is seen of the acts is the events. -/
theorem invoke_eq_recorded (e : Engine) (extra : Interceptors) (position? : Option Position)
    (tokens : List String) :
    e.invoke extra position? tokens = ((e.recorded extra position? tokens).result,
      (e.recorded extra position? tokens).acts.flatMap Act.events) := by
  cases hprepare : e.prepare position? tokens with
  | error fault =>
    obtain ⟨hresult, hacts⟩ := recorded_of_refuses (prepare_eq_error_iff.1 hprepare) extra
    have hevents : (e.recorded extra position? tokens).acts.flatMap Act.events = [] := by
      rw [List.flatMap_eq_nil_iff]
      intro act hact
      obtain ⟨target, values, rfl⟩ := hacts act hact
      rfl
    rw [hresult, hevents, invoke, hprepare]
  | ok i =>
    obtain ⟨hbound, haccepts⟩ := prepare_eq_ok_iff.1 hprepare
    have hevents := Chain.events_recorded ⟨i.command, extra, e.interceptors⟩ i.arguments
    rw [invoke_of_prepare hprepare, recorded_of_accepts hbound haccepts, hevents,
      Chain.Record.events, events_started]

/-- The action is run on what the deeds before it have made of the bound arguments. -/
theorem invoked_recorded {i : Invocation} {extra : Interceptors} {front rest : List Act}
    {seen : List Value}
    (h : e.validations i.command.target i.arguments ++ .started i.arguments ::
        (Chain.recorded ⟨i.command, extra, e.interceptors⟩ i.arguments).deeds.map .did
      = front ++ .did (.happened (.invoked seen)) :: rest) :
    seen = Chain.rewritten (front.filterMap Act.deed?) i.arguments := by
  have hdeeds := congrArg (List.filterMap Act.deed?) h
  rw [deeds_started, List.filterMap_append, List.filterMap_cons] at hdeeds
  exact Chain.invoked_recorded hdeeds

/-- **Order.** A run that is refused fails with the fault of the first step that fails, and does
nothing in a chain. Every other run starts its chain, after the validator was asked once about the
bound values and accepted them. The outcome shows the values as they were bound, and the action is
run on what the deeds before it have made of them. -/
theorem run_inOrder (e : Engine) (tokens : List String) (extra : Interceptors) :
    let r := e.recorded extra none tokens
    e.run tokens extra = (r.result, r.acts.flatMap Act.events) ∧
      (∀ fault, e.Refuses none tokens fault → r.result = .error fault ∧
        ∀ act ∈ r.acts, ∃ target values, act = .validated target values) ∧
      ((¬ ∃ fault, e.Refuses none tokens fault) → ∃ arguments, .started arguments ∈ r.acts) ∧
      (∀ arguments, .started arguments ∈ r.acts → ∃ i, e.Bound none tokens i ∧ e.Accepts i ∧
        arguments = i.arguments ∧ ∃ deeds : List Chain.Deed,
          r.acts = e.validations i.command.target i.arguments ++
            .started i.arguments :: deeds.map .did) ∧
      (∀ outcome, r.result = .ok outcome → ∃ i, e.Bound none tokens i ∧
        outcome.command = i.command.name ∧ outcome.globals = i.globals ∧
          outcome.arguments = i.arguments) ∧
      (∀ front seen rest, r.acts = front ++ .did (.happened (.invoked seen)) :: rest →
        ∃ i, e.Bound none tokens i ∧
          seen = Chain.rewritten (front.filterMap Act.deed?) i.arguments) := by
  intro r
  refine ⟨invoke_eq_recorded .., fun fault hfault => recorded_of_refuses hfault extra, ?_⟩
  cases hprepare : e.prepare none tokens with
  | error fault =>
    have hrefuses := prepare_eq_error_iff.1 hprepare
    obtain ⟨hresult, hacts⟩ : r.result = _ ∧ _ := recorded_of_refuses hrefuses extra
    refine ⟨fun h => (h ⟨fault, hrefuses⟩).elim, fun arguments hmem => ?_, fun outcome hok => ?_,
      fun front seen rest hsplit => ?_⟩
    · obtain ⟨target, values, ⟨⟩⟩ := hacts _ hmem
    · rw [hresult] at hok
      cases hok
    · obtain ⟨target, values, ⟨⟩⟩ := hacts (.did (.happened (.invoked seen))) (by simp [r, hsplit])
  | ok i =>
    obtain ⟨hbound, haccepts⟩ := prepare_eq_ok_iff.1 hprepare
    have hr : r = _ := recorded_of_accepts hbound haccepts extra
    rw [hr]
    refine ⟨fun _ => ⟨i.arguments, by simp⟩, fun arguments hmem => ?_, fun outcome hok => ?_,
      fun front seen rest hsplit => ⟨i, hbound, invoked_recorded hsplit⟩⟩
    · obtain rfl : arguments = i.arguments := by simpa using hmem
      exact ⟨i, hbound, haccepts, rfl, _, rfl⟩
    · obtain ⟨result, -, rfl⟩ := Except.map_eq_ok_iff.1 hok
      exact ⟨i, hbound, rfl, rfl, rfl⟩

end CommandLine.Engine
