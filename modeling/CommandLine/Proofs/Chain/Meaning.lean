import CommandLine.Chain
import Mathlib.Algebra.Ring.Nat

/-!
# What a chain means

A chain keeps the number of the stage that is being run in its context, and every interceptor
proceeds from there. `Chain.run` says what the stages do without such a number: to proceed is to run
the rest of the chain. `start_eq_run`: as long as no interceptor restarts the chain, the two agree
in the result, in the arguments and in the events. If the interceptors proceed a fixed number of
times each, and nothing fails, the action is run as often as the product of these numbers.
-/

namespace CommandLine

/-- The interceptor never runs the chain from its first stage. -/
def Interceptor.NeverRestarts : Interceptor → Prop
  | finish _ => True
  | look next => ∀ view, (next view).NeverRestarts
  | edit _ next | report _ next => next.NeverRestarts
  | proceed next => ∀ result, (next result).NeverRestarts
  | restart _ => False

def Event.isInvoked : Event → Bool
  | invoked _ => true
  | _ => false

namespace Chain

/-! ## Meaning -/

/-- What the stages share besides the number of the stage. -/
structure Shared where
  arguments : List Value
  events : List Event

/-- What a part of a chain answers, and what it leaves. -/
abbrev Meaning := Shared → Except Fault Value × Shared

/-- The interceptor of a reference: that of this invocation, or else that of the engine. -/
def handler? (chain : Chain) (reference : String) : Option Interceptor :=
  match chain.extra.find? reference with
  | some interceptor => some interceptor
  | none => chain.interceptors.find? reference

/-- No interceptor of the chain restarts it. -/
def NeverRestarts (chain : Chain) : Prop :=
  ∀ reference interceptor, chain.handler? reference = some interceptor →
    interceptor.NeverRestarts

/-- The action is run on the arguments. Its own faults pass; other causes are reported for the
command. -/
def target (command : Command) : Meaning := fun s =>
  let reply := command.action s.arguments
  (match reply.result with
    | .ok value => .ok value
    | .error (.fault fault) => .error fault
    | .error (.described cause) => .error (.execution command.name cause),
    { s with events := s.events ++ .invoked s.arguments :: reply.notes.map .reported })

/-- What an interceptor at a stage does, given what the rest of the chain does. -/
def follow (command : Command) (stage : Nat) (rest : Meaning) :
    (interceptor : Interceptor) → interceptor.NeverRestarts → Meaning
  | .finish result, _ => fun s => (result, s)
  | .look next, h => fun s =>
    follow command stage rest (next ⟨command.name, command.target, stage, s.arguments⟩) (h _) s
  | .edit change next, h => fun s =>
    follow command stage rest next h { s with arguments := change s.arguments }
  | .report note next, h => fun s =>
    follow command stage rest next h { s with events := s.events ++ [.reported note] }
  | .proceed next, h => fun s =>
    match rest s with
    | (result, after) => follow command stage rest (next result) (h result) after
  | .restart _, h => h.elim

/-- Runs the stages of the given references, the first of which has the given number, and then the
action. -/
def run (chain : Chain) (h : chain.NeverRestarts) (stage : Nat) : List String → Meaning
  | [] => target chain.command
  | reference :: rest => fun s =>
    match hfound : chain.handler? reference with
    | none => (.error (.unresolvedInterceptor chain.command.name reference), s)
    | some interceptor =>
      follow chain.command stage (chain.run h (stage + 1) rest) interceptor (h _ _ hfound)
        { s with events := s.events ++ [.entered stage reference] }

/-! ## The context follows the meaning -/

/-- The context at a stage. -/
def Shared.at (s : Shared) (stage : Nat) : Context := ⟨stage, s.arguments, s.events⟩

theorem handler?_eq_find? (chain : Chain) (reference : String) :
    chain.handler? reference = chain.find? reference := by
  unfold handler? find?
  cases chain.extra.find? reference <;> rfl

theorem act_at (command : Command) (stage : Nat) (s : Shared) :
    act command (s.at stage) = ((target command s).1, (target command s).2.at stage) := by
  unfold act target Shared.at
  rcases command.action s.arguments with ⟨(fault | cause) | value, notes⟩ <;> rfl

theorem run_of_none {chain : Chain} (h : chain.NeverRestarts) {reference : String}
    (hnone : chain.handler? reference = none) (stage : Nat) (rest : List String) (s : Shared) :
    chain.run h stage (reference :: rest) s =
      (.error (.unresolvedInterceptor chain.command.name reference), s) := by
  rw [run]
  split
  · rfl
  · rename_i interceptor hsome
    rw [hnone] at hsome
    cases hsome

theorem run_of_some {chain : Chain} (h : chain.NeverRestarts) {reference : String}
    {interceptor : Interceptor} (hsome : chain.handler? reference = some interceptor) (stage : Nat)
    (rest : List String) (s : Shared) :
    chain.run h stage (reference :: rest) s =
      follow chain.command stage (chain.run h (stage + 1) rest) interceptor (h _ _ hsome)
        { s with events := s.events ++ [.entered stage reference] } := by
  rw [run]
  split
  · rename_i hnone
    rw [hsome] at hnone
    cases hnone
  · rename_i found hfound
    obtain rfl : interceptor = found := Option.some.inj (hsome.symm.trans hfound)
    rfl

/-- An interceptor leaves the stage as it is, if entering the next stage means what the rest of the
chain means. -/
theorem perform_at {command : Command} {enter : Nat → Run} {rest : Meaning} {stage : Nat}
    (hrest : ∀ s : Shared,
      enter (stage + 1) (s.at (stage + 1)) = ((rest s).1, (rest s).2.at (stage + 1)))
    (interceptor : Interceptor) (h : interceptor.NeverRestarts) (s : Shared) :
    perform command enter interceptor (s.at stage) =
      ((follow command stage rest interceptor h s).1,
        (follow command stage rest interceptor h s).2.at stage) := by
  induction interceptor generalizing s with
  | finish result => rfl
  | look next ih => exact ih _ (h _) s
  | edit change next ih => exact ih h { s with arguments := change s.arguments }
  | report note next ih => exact ih h { s with events := s.events ++ [.reported note] }
  | proceed next ih =>
    have henter : enter ((s.at stage).stage + 1) { s.at stage with stage := (s.at stage).stage + 1 }
        = ((rest s).1, (rest s).2.at (stage + 1)) := hrest s
    rw [perform, henter]
    exact ih _ (h _) _
  | restart next => exact h.elim

/-- A stage means what the references from there on mean, if enough stages may be open. -/
theorem enter_at (chain : Chain) (h : chain.NeverRestarts) {references : List String}
    {stage depth : Nat} (hdrop : chain.command.interceptors.drop stage = references)
    (hdepth : references.length < depth) (s : Shared) :
    chain.enter depth stage (s.at stage) =
      ((chain.run h stage references s).1, (chain.run h stage references s).2.at stage) := by
  induction references generalizing stage depth s with
  | nil =>
    obtain ⟨depth, rfl⟩ : ∃ d, depth = d + 1 := ⟨depth - 1, by omega⟩
    have hnone : chain.command.interceptors[stage]? = none := by
      rw [← List.head?_drop, hdrop]
      rfl
    rw [enter, hnone]
    exact act_at ..
  | cons reference rest ih =>
    obtain ⟨depth, rfl⟩ : ∃ d, depth = d + 1 := ⟨depth - 1, by omega⟩
    have hsome : chain.command.interceptors[stage]? = some reference := by
      rw [← List.head?_drop, hdrop]
      rfl
    have htail : chain.command.interceptors.drop (stage + 1) = rest := by
      rw [← List.tail_drop, hdrop]
      rfl
    rw [List.length_cons] at hdepth
    rw [enter, hsome]
    simp only
    rw [← handler?_eq_find?]
    cases hfound : chain.handler? reference with
    | none => rw [run_of_none h hfound]
    | some interceptor =>
      rw [run_of_some h hfound]
      exact perform_at (ih htail (Nat.lt_of_succ_lt_succ hdepth)) interceptor (h _ _ hfound)
        { s with events := s.events ++ [.entered stage reference] }

/-! ## How often the action is run -/

/-- How often the action was run, as far as the events tell. -/
def calls (events : List Event) : Nat := events.countP (·.isInvoked)

/-- The interceptor proceeds `count` times, each time from where the rest of the chain is `regular`,
and answers with a value. -/
def Proceeds (command : Command) (stage : Nat) (rest : Meaning) (regular : Shared → Prop) :
    Interceptor → Nat → Shared → Prop
  | .finish result, count, _ => count = 0 ∧ ∃ value, result = .ok value
  | .look next, count, s =>
    Proceeds command stage rest regular (next ⟨command.name, command.target, stage, s.arguments⟩)
      count s
  | .edit change next, count, s =>
    Proceeds command stage rest regular next count { s with arguments := change s.arguments }
  | .report note next, count, s =>
    Proceeds command stage rest regular next count
      { s with events := s.events ++ [.reported note] }
  | .proceed next, count, s =>
    regular s ∧ ∃ more, count = more + 1 ∧
      Proceeds command stage rest regular (next (rest s).1) more (rest s).2
  | .restart _, _, _ => False

/-- Nothing fails in the run of the references, and on each entry the interceptor of a stage
proceeds as often as `times` says. -/
def FansOut (chain : Chain) (h : chain.NeverRestarts) (times : Nat → Nat) (stage : Nat) :
    List String → Shared → Prop
  | [], s => ∃ value, (chain.command.action s.arguments).result = .ok value
  | reference :: rest, s =>
    ∃ interceptor, chain.handler? reference = some interceptor ∧
      Proceeds chain.command stage (chain.run h (stage + 1) rest)
        (chain.FansOut h times (stage + 1) rest) interceptor (times stage)
        { s with events := s.events ++ [.entered stage reference] }

theorem calls_append (events later : List Event) :
    calls (events ++ later) = calls events + calls later := List.countP_append

theorem calls_target (command : Command) (s : Shared) :
    calls (target command s).2.events = calls s.events + 1 := by
  have hnotes : calls ((command.action s.arguments).notes.map .reported) = 0 := by
    simp [calls, List.countP_eq_zero, Event.isInvoked]
  have hcall : ∀ events, calls (.invoked s.arguments :: events) = calls events + 1 :=
    fun events => List.countP_cons_of_pos rfl
  simp only [target, calls_append, hcall, hnotes]

/-- If the rest of the chain runs the action `each` times whenever it is regular, an interceptor
that proceeds `count` times runs it `count` times as often. -/
theorem calls_follow {command : Command} {stage : Nat} {rest : Meaning} {regular : Shared → Prop}
    {each : Nat}
    (hrest : ∀ s, regular s → calls (rest s).2.events = calls s.events + each)
    (interceptor : Interceptor) (h : interceptor.NeverRestarts) {count : Nat} {s : Shared}
    (hproceeds : Proceeds command stage rest regular interceptor count s) :
    calls (follow command stage rest interceptor h s).2.events = calls s.events + count * each := by
  induction interceptor generalizing count s with
  | finish result =>
    obtain ⟨rfl, -⟩ := hproceeds
    simp [follow]
  | look next ih => exact ih _ (h _) hproceeds
  | edit change next ih => exact ih h hproceeds
  | report note next ih =>
    rw [follow, ih h hproceeds, calls_append]
    rfl
  | proceed next ih =>
    obtain ⟨hregular, more, rfl, hmore⟩ := hproceeds
    calc calls (follow command stage rest (next (rest s).1) (h _) (rest s).2).2.events
        = calls (rest s).2.events + more * each := ih _ (h _) hmore
      _ = calls s.events + each + more * each := by rw [hrest s hregular]
      _ = calls s.events + (more + 1) * each := by rw [Nat.succ_mul]; omega
  | restart next => exact h.elim

theorem calls_run {chain : Chain} (h : chain.NeverRestarts) {times : Nat → Nat}
    {references : List String} {stage : Nat} {s : Shared}
    (hfans : chain.FansOut h times stage references s) :
    calls (chain.run h stage references s).2.events =
      calls s.events + ((List.range' stage references.length).map times).prod := by
  induction references generalizing stage s with
  | nil => simpa [run] using calls_target chain.command s
  | cons reference rest ih =>
    obtain ⟨interceptor, hfound, hproceeds⟩ := hfans
    rw [run_of_some h hfound, calls_follow (fun s hs => ih hs) interceptor (h _ _ hfound) hproceeds,
      calls_append, List.length_cons, List.range'_succ, List.map_cons, List.prod_cons]
    rfl

/-- **Meaning.** A chain that is never restarted answers what its meaning answers, and leaves the
same arguments and events, with the first stage in the context. If each interceptor proceeds as
often as `times` says and nothing fails, the action is run as often as the product says. -/
theorem start_eq_run (chain : Chain) (h : chain.NeverRestarts) (arguments : List Value) :
    chain.start arguments =
        ((chain.run h 0 chain.command.interceptors ⟨arguments, []⟩).1,
          (chain.run h 0 chain.command.interceptors ⟨arguments, []⟩).2.at 0) ∧
      ∀ times, chain.FansOut h times 0 chain.command.interceptors ⟨arguments, []⟩ →
        calls (chain.start arguments).2.events =
          ((List.range chain.command.interceptors.length).map times).prod := by
  have hdepth : chain.command.interceptors.length < chain.depthLimit := by
    have : chain.command.interceptors.length + 1 ≤
        (restartLimit + 1) * (chain.command.interceptors.length + 1) :=
      Nat.le_mul_of_pos_left _ (Nat.succ_pos _)
    exact this
  have hstart := enter_at chain h List.drop_zero hdepth ⟨arguments, []⟩
  refine ⟨hstart, fun times hfans => ?_⟩
  have hcalls := calls_run h hfans
  have hempty : calls [] = 0 := rfl
  rw [hempty, Nat.zero_add, ← List.range_eq_range'] at hcalls
  rw [← hcalls]
  exact congrArg (fun r => calls r.2.events) hstart

/-- Proceeds twice, the second time with one more argument, and lists both results. -/
def twice : Interceptor :=
  .proceed fun
    | .error fault => .finish (.error fault)
    | .ok first => .edit (· ++ [.null]) <| .proceed fun
      | .error fault => .finish (.error fault)
      | .ok second => .finish (.ok (.list [first, second]))

/-- An interceptor that proceeds twice stands around one that proceeds twice and one that
proceeds once. -/
def fanSample : Chain where
  command :=
    { name := "greet", target := ⟨"Sample", "greet", none⟩,
      action := fun arguments => { result := .ok (.int arguments.length) },
      interceptors := ["twice", "twice", "once"] }
  interceptors := (∅ : Interceptors).register "twice" twice |>.register "once" .passThrough

theorem fanSample_neverRestarts : fanSample.NeverRestarts := by
  intro reference interceptor hfound
  simp only [handler?, fanSample, Interceptors.find?_empty, Interceptors.find?_register] at hfound
  split at hfound
  · cases hfound
    exact fun _ => trivial
  split at hfound
  · cases hfound
    rintro (_ | first)
    · trivial
    · rintro (_ | second) <;> trivial
  · cases hfound

/-- Each of the two outer interceptors proceeds twice, so the action is run four times; it sees the
arguments that were added before. -/
theorem start_eq_run_fanSample : ∃ h : fanSample.NeverRestarts,
    fanSample.FansOut h (fun stage => if stage < 2 then 2 else 1) 0 fanSample.command.interceptors
        ⟨[], []⟩ ∧
      (fanSample.start []).1 =
        .ok (.list [.list [.int 0, .int 1], .list [.int 2, .int 3]]) ∧
      (fanSample.start []).2.arguments = [.null, .null, .null] ∧
      calls (fanSample.start []).2.events = 4 := by
  have h := fanSample_neverRestarts
  let times : Nat → Nat := fun stage => if stage < 2 then 2 else 1
  have honce : ∀ s, fanSample.FansOut h times 2 ["once"] s := fun s =>
    ⟨_, rfl, ⟨_, rfl⟩, 0, rfl, rfl, _, rfl⟩
  have htwice : ∀ s, fanSample.FansOut h times 1 ["twice", "once"] s := fun s =>
    ⟨twice, rfl, honce _, 1, rfl, honce _, 0, rfl, rfl, _, rfl⟩
  have hfans : fanSample.FansOut h times 0 ["twice", "twice", "once"] ⟨[], []⟩ :=
    ⟨twice, rfl, htwice _, 1, rfl, htwice _, 0, rfl, rfl, _, rfl⟩
  obtain ⟨hstart, hcalls⟩ := start_eq_run fanSample h []
  refine ⟨h, hfans, ?_, ?_, hcalls _ hfans⟩
  · rw [hstart]
    rfl
  · rw [hstart]
    rfl

end Chain

end CommandLine
