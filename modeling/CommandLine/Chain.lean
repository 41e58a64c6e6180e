import CommandLine.Interceptor

/-!
The chain of one invocation. Its stages are the interceptors of a command and, after the last of
them, the action. A reference is resolved when its stage is entered. All stages share one context:
the stage that is being run, the arguments, and the events so far.

To proceed is to enter the stage after the one in the context, which is put back afterwards. To
restart is to enter the first stage, and that stays in the context.
-/

namespace CommandLine

/-- What happens in a chain. -/
inductive Event where
  /-- An interceptor is entered. -/
  | entered (stage : Nat) (interceptor : String)
  /-- The action is run. -/
  | invoked (arguments : List Value)
  | reported (note : Note)

/-- What was reported, if the event is a report. -/
def Event.note? : Event → Option Note
  | reported note => some note
  | _ => none

/-- A command with the interceptors that its references may resolve to. -/
structure Chain where
  command : Command
  /-- Interceptors for this invocation alone; they come first. -/
  extra : Interceptors := ∅
  interceptors : Interceptors

namespace Chain

/-- What the stages of a chain share. -/
structure Context where
  stage : Nat := 0
  arguments : List Value
  /-- The events so far, in their order. -/
  events : List Event := []

/-- A computation on the context of a chain. -/
abbrev Run := Context → Except Fault Value × Context

def Context.record (c : Context) (event : Event) : Context :=
  { c with events := c.events ++ [event] }

def Context.view (c : Context) (command : Command) : View :=
  ⟨command.name, command.target, c.stage, c.arguments⟩

/-- The interceptor that a reference resolves to. -/
def find? (chain : Chain) (reference : String) : Option Interceptor :=
  (chain.extra.find? reference).or (chain.interceptors.find? reference)

/-- Runs an interceptor, given how a stage is entered. -/
def perform (command : Command) (enter : Nat → Run) : Interceptor → Run
  | .finish result, c => (result, c)
  | .look next, c => perform command enter (next (c.view command)) c
  | .edit change next, c =>
    perform command enter next { c with arguments := change c.arguments }
  | .report note next, c => perform command enter next (c.record (.reported note))
  | .proceed next, c =>
    match enter (c.stage + 1) { c with stage := c.stage + 1 } with
    | (result, after) => perform command enter (next result) { after with stage := c.stage }
  | .restart next, c =>
    match enter 0 { c with stage := 0 } with
    | (result, after) => perform command enter (next result) after

/-- Runs the action of a command on the arguments. -/
def act (command : Command) : Run := fun c =>
  match command.action c.arguments with
  | ⟨result, notes⟩ =>
    (result.mapError (·.faultOf command.name),
      { c with events := c.events ++ .invoked c.arguments :: notes.map .reported })

/-- The fault of a chain whose stages have been nested too deeply. -/
def tooDeep (command : Command) : Fault :=
  .execution command.name "the stages of the chain are nested too deeply"

/-- Enters a stage. At most `depth` stages are open at a time. -/
def enter (chain : Chain) : Nat → Nat → Run
  | 0, _ => fun c => (.error (tooDeep chain.command), c)
  | depth + 1, stage => fun c =>
    match chain.command.interceptors[stage]? with
    | none => act chain.command c
    | some reference =>
      match chain.find? reference with
      | none => (.error (.unresolvedInterceptor chain.command.name reference), c)
      | some interceptor =>
        perform chain.command (enter chain depth) interceptor
          (c.record (.entered stage reference))

/-- How many restarts may be nested. -/
def restartLimit : Nat := 50000

/-- How many stages may be open at a time. A chain that is never restarted from within has fewer. -/
def depthLimit (chain : Chain) : Nat :=
  (restartLimit + 1) * (chain.command.interceptors.length + 1)

/-- Runs a chain from its first stage. -/
def start (chain : Chain) (arguments : List Value) : Except Fault Value × Context :=
  chain.enter chain.depthLimit 0 { arguments }

end Chain

end CommandLine
