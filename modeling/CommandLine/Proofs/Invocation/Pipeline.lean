import CommandLine.Action
import CommandLine.Proofs.Invocation.Preparation

/-!
# Pipelines

The stages of a line are invoked one after the other, each at a position: its number, and the result
of the stage before. `Engine.Succeed` says that all of them succeed in turn, and `Engine.FailsAt`
which stage is the first that does not; one of the two is the case (`succeed_or_failsAt`).
`runLine_inTurn`: the line answers accordingly, nothing happens besides the events of the stages up
to there, and a stage knows no more of the earlier ones than its position.
-/

namespace CommandLine

/-- The position of the first stage of a line. -/
def Position.first : Position := ⟨0, .null⟩

/-- The position `k` stages after the given one: `k` places further, with the result of the stage
right before it. -/
def Position.at (p : Position) (outcomes : List Outcome) : Nat → Position
  | 0 => p
  | k + 1 => ⟨p.stage + (k + 1), (outcomes[k]?.map (·.result)).getD .null⟩

@[simp] theorem Position.at_zero (p : Position) (outcomes : List Outcome) :
    p.at outcomes 0 = p := rfl

theorem Position.at_cons_succ (p : Position) (outcome : Outcome) (outcomes : List Outcome)
    (k : Nat) :
    p.at (outcome :: outcomes) (k + 1) =
      Position.at ⟨p.stage + 1, outcome.result⟩ outcomes k := by
  cases k with
  | zero => rfl
  | succ k => simp [Position.at, Nat.add_assoc, Nat.add_comm 1]

namespace Engine

/-- The stages succeed in turn from a position on, with these outcomes. -/
structure Succeed (e : Engine) (p : Position) (stages : List (List String))
    (outcomes : List Outcome) : Prop where
  length_eq : outcomes.length = stages.length
  /-- Each outcome is that of its stage, at the position that the outcomes before lead to. -/
  invoke_eq : ∀ k tokens outcome, stages[k]? = some tokens → outcomes[k]? = some outcome →
    (e.invoke ∅ (some (p.at outcomes k)) tokens).1 = .ok outcome

/-- The stage at place `k` is the first that fails. -/
structure FailsAt (e : Engine) (p : Position) (stages : List (List String)) (k : Nat)
    (outcomes : List Outcome) (fault : Fault) : Prop where
  /-- The outcomes of the stages before. -/
  succeed : e.Succeed p (stages.take k) outcomes
  invoke_eq : ∃ tokens, stages[k]? = some tokens ∧
    (e.invoke ∅ (some (p.at outcomes k)) tokens).1 = .error fault

/-- The events of the stages, one stage after the other. -/
def eventsOf (e : Engine) (p : Position) (stages : List (List String)) (outcomes : List Outcome) :
    List Event :=
  (stages.mapIdx fun k tokens => (e.invoke ∅ (some (p.at outcomes k)) tokens).2).flatten

/-! ## One more stage in front -/

section Cons

variable {e : Engine} {p : Position} {tokens : List String} {stages : List (List String)}
  {outcome : Outcome} {outcomes : List Outcome} {fault : Fault}

theorem eventsOf_cons :
    e.eventsOf p (tokens :: stages) (outcome :: outcomes) =
      (e.invoke ∅ (some p) tokens).2 ++
        e.eventsOf ⟨p.stage + 1, outcome.result⟩ stages outcomes := by
  simp only [eventsOf, List.mapIdx_cons, List.flatten_cons, Position.at_zero,
    Position.at_cons_succ]

theorem succeed_nil (e : Engine) (p : Position) : e.Succeed p [] [] := ⟨rfl, by simp⟩

theorem succeed_cons_iff :
    e.Succeed p (tokens :: stages) (outcome :: outcomes) ↔
      (e.invoke ∅ (some p) tokens).1 = .ok outcome ∧
        e.Succeed ⟨p.stage + 1, outcome.result⟩ stages outcomes := by
  constructor
  · rintro ⟨hlength, hinvoke⟩
    refine ⟨hinvoke 0 tokens outcome rfl rfl, by simpa using hlength, fun k next o hnext ho => ?_⟩
    rw [← Position.at_cons_succ]
    exact hinvoke (k + 1) next o (by simpa using hnext) (by simpa using ho)
  · rintro ⟨hfirst, hlength, hinvoke⟩
    refine ⟨by simpa using hlength, fun k next o hnext ho => ?_⟩
    cases k with
    | zero =>
      obtain rfl : tokens = next := by simpa using hnext
      obtain rfl : outcome = o := by simpa using ho
      exact hfirst
    | succ k =>
      rw [Position.at_cons_succ]
      exact hinvoke k next o (by simpa using hnext) (by simpa using ho)

theorem Succeed.exists_cons (h : e.Succeed p (tokens :: stages) outcomes) :
    ∃ outcome rest, outcomes = outcome :: rest :=
  List.exists_cons_of_length_eq_add_one h.length_eq

theorem FailsAt.cons {k : Nat} (hfirst : (e.invoke ∅ (some p) tokens).1 = .ok outcome)
    (h : e.FailsAt ⟨p.stage + 1, outcome.result⟩ stages k outcomes fault) :
    e.FailsAt p (tokens :: stages) (k + 1) (outcome :: outcomes) fault := by
  obtain ⟨hsucceed, next, hnext, hfault⟩ := h
  refine ⟨?_, next, by simpa using hnext, ?_⟩
  · rw [List.take_succ_cons]
    exact succeed_cons_iff.2 ⟨hfirst, hsucceed⟩
  · rw [Position.at_cons_succ]
    exact hfault

theorem runStages_cons_of_ok (hfirst : (e.invoke ∅ (some p) tokens).1 = .ok outcome)
    (stages : List (List String)) :
    e.runStages p (tokens :: stages) =
      ((e.runStages ⟨p.stage + 1, outcome.result⟩ stages).1.map (outcome :: ·),
        (e.invoke ∅ (some p) tokens).2 ++
          (e.runStages ⟨p.stage + 1, outcome.result⟩ stages).2) := by
  rw [runStages]
  rcases hinvoke : e.invoke ∅ (some p) tokens with ⟨answer, events⟩
  obtain rfl : answer = .ok outcome := by simpa [hinvoke] using hfirst
  rfl

theorem runStages_cons_of_error (hfirst : (e.invoke ∅ (some p) tokens).1 = .error fault)
    (stages : List (List String)) :
    e.runStages p (tokens :: stages) = (.error fault, (e.invoke ∅ (some p) tokens).2) := by
  rw [runStages]
  rcases hinvoke : e.invoke ∅ (some p) tokens with ⟨answer, events⟩
  obtain rfl : answer = .error fault := by simpa [hinvoke] using hfirst
  rfl

end Cons

/-! ## All stages -/

variable {e : Engine}

theorem runStages_append {p : Position} {before : List (List String)} {outcomes : List Outcome}
    (h : e.Succeed p before outcomes) (rest : List (List String)) :
    e.runStages p (before ++ rest) =
      ((e.runStages (p.at outcomes before.length) rest).1.map (outcomes ++ ·),
        e.eventsOf p before outcomes ++ (e.runStages (p.at outcomes before.length) rest).2) := by
  induction before generalizing p outcomes with
  | nil =>
    obtain rfl := List.length_eq_zero_iff.1 h.length_eq
    rcases hrest : e.runStages p rest with ⟨answer, events⟩
    cases answer <;> simp [hrest, eventsOf, Except.map]
  | cons tokens before ih =>
    obtain ⟨outcome, outcomes, rfl⟩ := h.exists_cons
    obtain ⟨hfirst, hothers⟩ := succeed_cons_iff.1 h
    rw [List.cons_append, runStages_cons_of_ok hfirst, ih hothers, eventsOf_cons, List.length_cons,
      Position.at_cons_succ]
    rcases e.runStages _ rest with ⟨answer, events⟩
    cases answer <;> simp [Except.map]

theorem runStages_of_succeed {p : Position} {stages : List (List String)} {outcomes : List Outcome}
    (h : e.Succeed p stages outcomes) :
    e.runStages p stages = (.ok outcomes, e.eventsOf p stages outcomes) := by
  have hall := runStages_append h []
  rw [List.append_nil, runStages] at hall
  simpa [Except.map] using hall

/-- The first stage that fails is the last that is invoked. -/
theorem runStages_of_failsAt {p : Position} {stages : List (List String)} {k : Nat}
    {outcomes : List Outcome} {fault : Fault} (h : e.FailsAt p stages k outcomes fault) :
    e.runStages p stages = (.error fault, e.eventsOf p (stages.take (k + 1)) outcomes) := by
  induction stages generalizing p k outcomes with
  | nil =>
    obtain ⟨-, tokens, hnone, -⟩ := h
    simp at hnone
  | cons tokens stages ih =>
    obtain ⟨hsucceed, next, hnext, hfault⟩ := h
    cases k with
    | zero =>
      obtain rfl := List.length_eq_zero_iff.1 hsucceed.length_eq
      obtain rfl : tokens = next := by simpa using hnext
      rw [Position.at_zero] at hfault
      rw [runStages_cons_of_error hfault]
      simp [eventsOf]
    | succ k =>
      rw [List.take_succ_cons] at hsucceed
      obtain ⟨outcome, outcomes, rfl⟩ := hsucceed.exists_cons
      obtain ⟨hfirst, hothers⟩ := succeed_cons_iff.1 hsucceed
      rw [Position.at_cons_succ] at hfault
      have hrest := ih ⟨hothers, next, by simpa using hnext, hfault⟩
      rw [runStages_cons_of_ok hfirst, hrest, List.take_succ_cons, eventsOf_cons]
      rfl

/-- All stages succeed, or one of them is the first that fails. -/
theorem succeed_or_failsAt (e : Engine) (p : Position) (stages : List (List String)) :
    (∃ outcomes, e.Succeed p stages outcomes) ∨
      ∃ k outcomes fault, e.FailsAt p stages k outcomes fault := by
  induction stages generalizing p with
  | nil => exact .inl ⟨[], succeed_nil e p⟩
  | cons tokens stages ih =>
    cases hfirst : (e.invoke ∅ (some p) tokens).1 with
    | error fault => exact .inr ⟨0, [], fault, succeed_nil e p, tokens, rfl, hfirst⟩
    | ok outcome =>
      obtain ⟨outcomes, hothers⟩ | ⟨k, outcomes, fault, hothers⟩ :=
        ih ⟨p.stage + 1, outcome.result⟩
      · exact .inl ⟨outcome :: outcomes, succeed_cons_iff.2 ⟨hfirst, hothers⟩⟩
      · exact .inr ⟨k + 1, outcome :: outcomes, fault, hothers.cons hfirst⟩

theorem runStages_eq_ok_iff {p : Position} {stages : List (List String)}
    {outcomes : List Outcome} :
    (e.runStages p stages).1 = .ok outcomes ↔ e.Succeed p stages outcomes := by
  constructor
  · intro h
    obtain ⟨others, hothers⟩ | ⟨k, others, fault, hothers⟩ := succeed_or_failsAt e p stages
    · rw [runStages_of_succeed hothers] at h
      exact Except.ok.inj h ▸ hothers
    · rw [runStages_of_failsAt hothers] at h
      cases h
  · intro h
    rw [runStages_of_succeed h]

theorem runStages_eq_error_iff {p : Position} {stages : List (List String)} {fault : Fault} :
    (e.runStages p stages).1 = .error fault ↔
      ∃ k outcomes, e.FailsAt p stages k outcomes fault := by
  constructor
  · intro h
    obtain ⟨others, hothers⟩ | ⟨k, others, fault', hothers⟩ := succeed_or_failsAt e p stages
    · rw [runStages_of_succeed hothers] at h
      cases h
    · rw [runStages_of_failsAt hothers] at h
      exact ⟨k, others, Except.error.inj h ▸ hothers⟩
  · rintro ⟨k, outcomes, h⟩
    rw [runStages_of_failsAt h]

/-! ## What a stage knows -/

theorem getElem?_internals (e : Engine) (command : Command) (globals : List Value)
    (position : Position) :
    (e.internals command globals (some position))[pipelineStage]? = some (.int position.stage) ∧
      (e.internals command globals (some position))[pipelineInput]? = some position.input := by
  have hwidth : compare terminalWidth pipelineStage ≠ .eq ∧
      compare terminalWidth pipelineInput ≠ .eq := ⟨by decide, by decide⟩
  have hother : compare pipelineInput pipelineStage ≠ .eq := by decide
  have hposition : ∀ known : Table Value,
      ((known.insert pipelineStage (.int position.stage)).insert pipelineInput
        position.input)[pipelineStage]? = some (.int position.stage) ∧
      ((known.insert pipelineStage (.int position.stage)).insert pipelineInput
        position.input)[pipelineInput]? = some position.input := by
    intro known
    rw [Std.TreeMap.getElem?_insert, if_neg hother, Std.TreeMap.getElem?_insert_self,
      Std.TreeMap.getElem?_insert_self]
    exact ⟨rfl, rfl⟩
  unfold internals
  dsimp only
  split
  · constructor
    · rw [Std.TreeMap.getElem?_insert, if_neg hwidth.1]
      exact (hposition _).1
    · rw [Std.TreeMap.getElem?_insert, if_neg hwidth.2]
      exact (hposition _).2
  · exact hposition _

theorem runLine_of_stages {line : String} {stages : List (List String)}
    (h : Line.stages line = .ok stages) : e.runLine line = e.runStages .first stages := by
  rw [runLine, h]
  rfl

theorem runLine_of_fault {line : String} {fault : Fault} (h : Line.stages line = .error fault) :
    e.runLine line = (.error fault, []) := by
  rw [runLine, h]

/-- **In turn.** A line that cannot be read does nothing. The stages of any other line are invoked
in turn, each at the position that the results before it lead to, up to the first that fails; the
events are those of these stages. A command is told its number and its input. It is bound with the
overrides among its own tokens, and two lines that go on alike do the same from there on, if as
many stages come before and the last of these have the same result. -/
theorem runLine_inTurn (e : Engine) (line : String) :
    (∀ fault, Line.stages line = .error fault → e.runLine line = (.error fault, [])) ∧
    (∀ command globals position,
      (e.internals command globals (some position))[pipelineStage]? = some (.int position.stage) ∧
        (e.internals command globals (some position))[pipelineInput]? = some position.input) ∧
    ∀ stages, Line.stages line = .ok stages →
      (∀ outcomes, (e.runLine line).1 = .ok outcomes ↔ e.Succeed .first stages outcomes) ∧
      (∀ fault, (e.runLine line).1 = .error fault ↔
        ∃ k outcomes, e.FailsAt .first stages k outcomes fault) ∧
      (∀ outcomes, e.Succeed .first stages outcomes →
        (e.runLine line).2 = e.eventsOf .first stages outcomes ∧
        ∀ k tokens outcome, stages[k]? = some tokens → outcomes[k]? = some outcome →
          ∃ i, e.Bound (some (Position.first.at outcomes k)) tokens i ∧
            outcome.command = i.command.name ∧ outcome.globals = i.globals ∧
            outcome.arguments = i.arguments) ∧
      (∀ k outcomes fault, e.FailsAt .first stages k outcomes fault →
        (e.runLine line).2 = e.eventsOf .first (stages.take (k + 1)) outcomes) ∧
      ∀ (before before' rest : List (List String)) (outcomes outcomes' : List Outcome)
        (line' : String), stages = before ++ rest → Line.stages line' = .ok (before' ++ rest) →
        e.Succeed .first before outcomes → e.Succeed .first before' outcomes' →
        Position.first.at outcomes before.length = Position.first.at outcomes' before'.length →
        ∃ (answer : Except Fault (List Outcome)) (events : List Event),
          e.runLine line =
            (answer.map (outcomes ++ ·), e.eventsOf .first before outcomes ++ events) ∧
          e.runLine line' =
            (answer.map (outcomes' ++ ·), e.eventsOf .first before' outcomes' ++ events) := by
  refine ⟨fun fault => runLine_of_fault, getElem?_internals e, fun stages hstages => ?_⟩
  rw [runLine_of_stages hstages]
  refine ⟨fun outcomes => runStages_eq_ok_iff, fun fault => runStages_eq_error_iff,
    fun outcomes h => ⟨by rw [runStages_of_succeed h], fun k tokens outcome htokens houtcome =>
      exists_bound_of_invoke (h.invoke_eq k tokens outcome htokens houtcome)⟩,
    fun k outcomes fault h => by rw [runStages_of_failsAt h], ?_⟩
  intro before before' rest outcomes outcomes' line' hsplit hstages' h h' hposition
  rw [hsplit, runLine_of_stages hstages', runStages_append h, runStages_append h', ← hposition]
  exact ⟨_, _, rfl, rfl⟩

/-- A command that says where it stands. -/
def standing : Command where
  name := "stand"
  parameters := [.internal { name := pipelineStage }, .internal { name := pipelineInput }]
  target := ⟨"Sample", "stand", none⟩
  action := Action.echo

def standingSample : Engine where
  registry := .push .empty standing
  globals := []
  converters := .stock
  resolver := ({ commands := [standing] } : Parts).resolver
  validator? := none
  interceptors := .stock
  surroundings := {}

theorem invoke_standingSample (position : Position) :
    standingSample.invoke ∅ (some position) ["stand"] =
      (.ok ⟨"stand", [], [.int position.stage, position.input],
          .list [.int position.stage, position.input]⟩,
        [.invoked [.int position.stage, position.input]]) := by
  have hbound : standingSample.Bound (some position) ["stand"]
      ⟨standing, [], [.int position.stage, position.input]⟩ :=
    ⟨⟨"stand", rfl, rfl⟩, ∅, ⟨[], rfl, rfl⟩, rfl⟩
  have haccepts : standingSample.Accepts ⟨standing, [], [.int position.stage, position.input]⟩ := by
    rintro validator ⟨⟩
  have hchain : Chain.start ⟨standing, ∅, .stock⟩ [.int position.stage, position.input] =
      (.ok (.list [.int position.stage, position.input]),
        ⟨0, [.int position.stage, position.input],
          [.invoked [.int position.stage, position.input]]⟩) := rfl
  have hstock : standingSample.interceptors = .stock := rfl
  unfold invoke
  simp only [prepare_eq_ok_iff.2 ⟨hbound, haccepts⟩, hstock, hchain]
  rfl

/-- The second stage gets what the first gives, the third names no command, and the fourth is not
invoked. -/
theorem runLine_inTurn_standing :
    standingSample.runLine "stand | stand | sit | stand" =
      (.error (.unknownCommand "sit" none),
        [.invoked [.int 0, .null], .invoked [.int 1, .list [.int 0, .null]]]) := by
  have hstages : Line.stages "stand | stand | sit | stand" =
      .ok [["stand"], ["stand"], ["sit"], ["stand"]] := rfl
  let first : Outcome := ⟨"stand", [], [.int 0, .null], .list [.int 0, .null]⟩
  let second : Outcome :=
    ⟨"stand", [], [.int 1, .list [.int 0, .null]], .list [.int 1, .list [.int 0, .null]]⟩
  have hsit : ∀ position, standingSample.invoke ∅ (some position) ["sit"] =
      (.error (.unknownCommand "sit" none), []) := fun _ => rfl
  have hfails : standingSample.FailsAt .first [["stand"], ["stand"], ["sit"], ["stand"]] 2
      [first, second] (.unknownCommand "sit" none) := by
    refine ⟨?_, ["sit"], rfl, by rw [hsit]⟩
    refine succeed_cons_iff.2 ⟨by rw [invoke_standingSample]; rfl, ?_⟩
    exact succeed_cons_iff.2 ⟨by rw [invoke_standingSample]; rfl, succeed_nil ..⟩
  obtain ⟨-, -, hline⟩ := runLine_inTurn standingSample "stand | stand | sit | stand"
  obtain ⟨-, hfault, -, hevents, -⟩ := hline _ hstages
  refine Prod.ext ((hfault _).2 ⟨2, _, hfails⟩) ((hevents 2 _ _ hfails).trans ?_)
  simp [eventsOf, invoke_standingSample, hsit, Position.at, Position.first, first]

end Engine

end CommandLine
