import CommandLine.Action
import CommandLine.Proofs.Binding.Internals
import CommandLine.Proofs.Invocation.Preparation
import CommandLine.Proofs.Line.Written

/-!
# A line of one stage

A line invokes the commands of its stages, and an argument vector invokes one command. The two
differ in what the engine knows of the invocation: only the stages of a line have a position.
`runLine_written`: a written line of one stage does what the argument vector does, unless the
command asks for the number of its stage. The input of the first stage is null, which is also what a
command gets that asks for an input where there is none.
-/

namespace CommandLine.Engine

/-! ## What is known of the invocation -/

theorem globalValue_ne_pipelineInput (group : String) : globalValue group ≠ pipelineInput := by
  intro h
  have hchars := congrArg (fun s : String => s.toList.head?) h
  simp [globalValue, pipelineInput] at hchars

theorem getElem?_foldl_insert {key : String} (name : Parameter → String)
    (hname : ∀ group, name group ≠ key) (bound : List (Parameter × Value)) (known : Table Value) :
    (bound.foldl (fun known (group, value) => known.insert (name group) value) known)[key]?
      = known[key]? := by
  induction bound generalizing known with
  | nil => rfl
  | cons first rest ih =>
    rw [List.foldl_cons, ih, Std.TreeMap.getElem?_insert, if_neg]
    simpa using hname first.1

/-- A position with a null input is seen under the name of the stage alone, if no input was known
before. -/
theorem sameUnder_position {known : Table Value} (hknown : known[pipelineInput]? = none)
    (stage : Value) {name : String} (hname : name ≠ pipelineStage) :
    Binder.SameUnder name ((known.insert pipelineStage stage).insert pipelineInput .null)
      known := by
  unfold Binder.SameUnder
  rw [Std.TreeMap.getElem?_insert]
  split
  · rename_i h
    obtain rfl : pipelineInput = name := by simpa using h
    rw [hknown]
    rfl
  · rw [Std.TreeMap.getElem?_insert, if_neg (by simpa using Ne.symm hname)]

theorem sameUnder_internals (e : Engine) (command : Command) (globals : List Value)
    {name : String} (hname : name ≠ pipelineStage) :
    Binder.SameUnder name (e.internals command globals (some ⟨0, .null⟩))
      (e.internals command globals none) := by
  have hknown : ((e.globals.zip globals).foldl
      (fun known (group, value) => known.insert (globalValue group.name) value)
      (((∅ : Table Value).insert commandName (.text command.name)).insert globalValues
        (.list globals)))[pipelineInput]? = none := by
    rw [getElem?_foldl_insert (fun group => globalValue group.name)
      fun group => globalValue_ne_pipelineInput group.name]
    simp [commandName, globalValues, pipelineInput]
  have hposition := sameUnder_position hknown (.int 0) hname
  unfold internals
  dsimp only
  split
  · exact hposition.insert ..
  · exact hposition

/-! ## Invocations -/

/-- A command that does not ask for the number of its stage gets the same values at the first
position of a line as without a position. -/
theorem bindArguments_position (e : Engine) {command : Command}
    (hsound : Parameter.Sound command.parameters) (hstage : pipelineStage ∉ command.internalNames)
    (tokens : List String) (overrides : Table String) (globals : List Value) :
    e.bindArguments (some ⟨0, .null⟩) tokens command overrides globals
      = e.bindArguments none tokens command overrides globals := by
  refine Binder.bind_of_internals (fun name hname => ?_) _
  refine sameUnder_internals e command globals ?_
  rintro rfl
  rw [Parameter.suppliedNamesOfAll_eq hsound.flawless] at hname
  exact hstage hname

theorem prepare_position {e : Engine} {tokens : List String}
    (h : ∀ command, e.Names tokens command →
      Parameter.Sound command.parameters ∧ pipelineStage ∉ command.internalNames) :
    e.prepare (some ⟨0, .null⟩) tokens = e.prepare none tokens := by
  rw [prepare_eq, prepare_eq]
  cases hname : (Argv.ofTokens tokens).command? with
  | none => rfl
  | some name =>
    cases hlookup : e.registry.lookup name with
    | error fault => simp only [hlookup, Except.bind]
    | ok command =>
      obtain ⟨hsound, hstage⟩ := h command ⟨name, hname, hlookup⟩
      simp only [hlookup, Except.bind, bindArguments_position e hsound hstage]

/-- **One stage.** A written line of one stage does what its fields do as an argument vector, with
the same outcome or fault and the same events, if the command that they name does not ask for the
number of its stage. -/
theorem runLine_written {p : Parts} {e : Engine} (he : ofParts p = .ok e) (tokens : List String)
    (hstage : ∀ command, e.Names tokens command → pipelineStage ∉ command.internalNames) :
    e.runLine (Line.ofStages [tokens])
      = ((e.run tokens).1.map fun outcome => [outcome], (e.run tokens).2) := by
  unfold runLine
  cases tokens with
  | nil =>
    rw [Line.stages_ofStages_nil]
    rfl
  | cons token rest =>
    rw [Line.stages_ofStages (List.cons_ne_nil _ _) (by simp)]
    have hprepare := prepare_position fun command hcommand =>
      ⟨sound_of_names he hcommand, hstage command hcommand⟩
    have hinvoke : e.invoke ∅ (some ⟨0, .null⟩) (token :: rest) = e.run (token :: rest) := by
      unfold run invoke
      rw [hprepare]
    simp only [runStages, hinvoke]
    rcases e.run (token :: rest) with ⟨fault | outcome, events⟩
    · rfl
    · simp [Except.map]

/-- A command that says what it is given, and asks for the result of the stage before. -/
def saying : Command where
  name := "say"
  parameters :=
    [.plain { name := "words" } ⟨.text, false⟩, .plain { name := "more" } ⟨.text, false⟩,
      .internal { name := pipelineInput }]
  target := ⟨"Sample", "say", none⟩
  action := Action.echo

def sayingSample : Engine where
  registry := .push .empty saying
  globals := []
  converters := .stock
  resolver := ({ commands := [saying] } : Parts).resolver
  validator? := none
  interceptors := .stock
  surroundings := {}

theorem run_sayingSample : sayingSample.run ["-Da=|", "say", "it's", ""] =
    (.ok ⟨"say", [], [.text "it's", .text "", .null], .list [.text "it's", .text "", .null]⟩,
      [.invoked [.text "it's", .text "", .null]]) := by
  have hbound : sayingSample.Bound none ["-Da=|", "say", "it's", ""]
      ⟨saying, [], [.text "it's", .text "", .null]⟩ :=
    ⟨⟨"say", rfl, rfl⟩, (∅ : Table String).insert "a" "|", ⟨[], rfl, rfl⟩, rfl⟩
  have haccepts : sayingSample.Accepts ⟨saying, [], [.text "it's", .text "", .null]⟩ := by
    rintro validator ⟨⟩
  have hchain : Chain.start ⟨saying, ∅, .stock⟩ [.text "it's", .text "", .null] =
      (.ok (.list [.text "it's", .text "", .null]),
        ⟨0, [.text "it's", .text "", .null], [.invoked [.text "it's", .text "", .null]]⟩) := rfl
  have hstock : sayingSample.interceptors = .stock := rfl
  unfold run invoke
  simp only [prepare_eq_ok_iff.2 ⟨hbound, haccepts⟩, hstock, hchain]
  rfl

/-- An override, a quote and a bar inside of fields, and an empty field. -/
theorem runLine_written_say :
    ofParts { commands := [saying] } = .ok sayingSample ∧
      (∀ command, sayingSample.Names ["-Da=|", "say", "it's", ""] command →
        pipelineStage ∉ command.internalNames) ∧
      Line.ofStages [["-Da=|", "say", "it's", ""]]
        = "\\-\\D\\a\\=\\| \\s\\a\\y \\i\\t\\'\\s \"\"" ∧
      sayingSample.runLine "\\-\\D\\a\\=\\| \\s\\a\\y \\i\\t\\'\\s \"\"" =
        (.ok [⟨"say", [], [.text "it's", .text "", .null],
            .list [.text "it's", .text "", .null]⟩],
          [.invoked [.text "it's", .text "", .null]]) := by
  have he : ofParts { commands := [saying] } = .ok sayingSample := rfl
  have hstage : ∀ command, sayingSample.Names ["-Da=|", "say", "it's", ""] command →
      pipelineStage ∉ command.internalNames := by
    rintro command ⟨name, ⟨⟩, hlookup⟩
    obtain rfl : saying = command := Except.ok.inj hlookup
    decide
  have hline : Line.ofStages [["-Da=|", "say", "it's", ""]]
      = "\\-\\D\\a\\=\\| \\s\\a\\y \\i\\t\\'\\s \"\"" := by decide
  refine ⟨he, hstage, hline, ?_⟩
  have hrun := runLine_written he ["-Da=|", "say", "it's", ""] hstage
  rw [hline, run_sayingSample] at hrun
  exact hrun

end CommandLine.Engine
