import CommandLine.Command
import CommandLine.Table

/-!
Interceptors, which stand between an invocation and its action. An interceptor is the tree of what
it does: at each step it says how it goes on for each answer that the step may have. It decides
whether the rest of the chain is run, and how often.
-/

namespace CommandLine

/-- The steps of an interceptor. -/
inductive Interceptor where
  /-- Ends with a result. -/
  | finish (result : Except Fault Value)
  /-- Looks at the invocation. -/
  | look (next : View → Interceptor)
  /-- Changes the arguments for all that follows. -/
  | edit (change : List Value → List Value) (next : Interceptor)
  | report (note : Note) (next : Interceptor)
  /-- Runs the rest of the chain. -/
  | proceed (next : Except Fault Value → Interceptor)
  /-- Runs the chain from its first stage. -/
  | restart (next : Except Fault Value → Interceptor)

namespace Interceptor

/-- Runs the rest of the chain, and answers what it answers. -/
def passThrough : Interceptor := proceed finish

/-- Keeps the action from being run, and says so. -/
def dryRun : Interceptor := look fun view => finish (.ok (.text ("dry-run: " ++ view.command)))

end Interceptor

/-- Interceptors by the name that commands refer to them by. -/
structure Interceptors where
  table : Table Interceptor

namespace Interceptors

instance : EmptyCollection Interceptors := ⟨⟨∅⟩⟩

def find? (t : Interceptors) (name : String) : Option Interceptor := t.table[name]?

def contains (t : Interceptors) (name : String) : Bool := t.table.contains name

def names (t : Interceptors) : List String := t.table.keys

/-- Adds an interceptor, in place of one of the same name. -/
def register (name : String) (interceptor : Interceptor) (t : Interceptors) : Interceptors :=
  ⟨t.table.insert name interceptor⟩

@[simp] theorem find?_empty (name : String) : (∅ : Interceptors).find? name = none :=
  Std.TreeMap.getElem?_emptyc

theorem find?_register (t : Interceptors) (name other : String) (interceptor : Interceptor) :
    (t.register name interceptor).find? other =
      if name = other then some interceptor else t.find? other := by
  simp [register, find?, Std.TreeMap.getElem?_insert]

/-- The interceptors that every catalog can refer to. -/
def stock : Interceptors :=
  ⟨.ofList [("trace", Interceptor.passThrough), ("dry-run", Interceptor.dryRun)]⟩

def diagnostic (t : Interceptors) : String :=
  Diagnostic.record "InterceptorTable" [("names", Diagnostic.texts t.names)]

end Interceptors

end CommandLine
