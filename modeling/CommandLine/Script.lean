import CommandLine.Interceptor

/-!
Interceptors written as scripts: lists of steps that report, change the arguments and run the rest
of the chain. A script keeps the results of the runs and answers with some of them.
-/

namespace CommandLine

/-- What a step of a script does. -/
inductive Script.Act where
  | log (text : String)
  /-- Reports what there is to see. -/
  | observe
  /-- Runs the rest of the chain; a fault ends the script. -/
  | proceed
  /-- Runs the whole chain; a fault ends the script. -/
  | restart
  /-- Runs the rest of the chain; a fault is reported, and its wording is kept as the result. -/
  | attempt
  | push (value : Value)
  | set (index : Nat) (value : Value)
  | remove (index : Nat)
  | clear
  /-- Ends the script with a fault. -/
  | raise (fault : Fault)

/-- A step of a script. -/
structure Script.Step where
  act : Script.Act
  /-- The step is left out unless there are fewer arguments than this. -/
  below? : Option Nat := none

/-- What a script answers at its end. -/
inductive Script.Answer where
  /-- The results that it has kept. -/
  | kept
  /-- The last result that it has kept, or null. -/
  | last
  /-- The arguments as they are then. -/
  | arguments
  | value (value : Value)

/-- A script. -/
structure Script where
  steps : List Script.Step
  answer : Script.Answer := .last

namespace Script

/-- Ends a script that has kept these results. -/
def Answer.finish (kept : List Value) : Answer → Interceptor
  | .kept => .finish (.ok (.list kept))
  | .last => .finish (.ok (kept.getLast?.getD .null))
  | .arguments => .look fun view => .finish (.ok (.list view.arguments))
  | .value v => .finish (.ok v)

/-- Goes on with a result, or ends with a fault. -/
def orFinish (next : Value → Interceptor) : Except Fault Value → Interceptor
  | .ok v => next v
  | .error fault => .finish (.error fault)

/-- The interceptor that does one thing and then goes on, given the results kept so far. -/
def Act.interceptor (name : String) (kept : List Value) (next : List Value → Interceptor) :
    Act → Interceptor
  | .log text => .report (.message text) (next kept)
  | .observe => .look fun view => .report (.observation name view) (next kept)
  | .proceed => .proceed (orFinish fun v => next (kept ++ [v]))
  | .restart => .restart (orFinish fun v => next (kept ++ [v]))
  | .attempt => .proceed fun
    | .ok v => next (kept ++ [v])
    | .error fault => .report (.caught fault) (next (kept ++ [.text fault.message]))
  | .push value => .edit (· ++ [value]) (next kept)
  | .set index value => .edit (·.set index value) (next kept)
  | .remove index => .edit (·.eraseIdx index) (next kept)
  | .clear => .edit (fun _ => []) (next kept)
  | .raise fault => .finish (.error fault)

/-- The interceptor that does the steps in their order, given the results kept so far. -/
def follow (name : String) (answer : Answer) : List Value → List Step → Interceptor
  | kept, [] => answer.finish kept
  | kept, step :: rest =>
    let act := step.act.interceptor name kept fun kept => follow name answer kept rest
    match step.below? with
    | none => act
    | some limit => .look fun view =>
      if view.arguments.length < limit then act else follow name answer kept rest

/-- The interceptor that a script describes, under a name. -/
def interceptor (name : String) (script : Script) : Interceptor :=
  follow name script.answer [] script.steps

end Script

end CommandLine
