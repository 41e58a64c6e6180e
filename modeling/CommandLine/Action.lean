import CommandLine.Command
import CommandLine.Value.Written

/-!
Ready-made actions. `Action.stock?` finds those that a declaration may name as its target.
-/

namespace CommandLine.Action

/-- The list of the arguments. -/
def echo : Action := fun arguments => { result := .ok (.list arguments) }

/-- The texts of the arguments that are not null, with blanks between them. -/
def join : Action := fun arguments =>
  { result := .ok (.text
      (" ".intercalate ((arguments.filter fun v => !v.isNull).map Value.shown))) }

/-- Fails, and shows the arguments. -/
def fail : Action := fun arguments =>
  { result := .error (.described
      ("command failed: [" ++ ", ".intercalate (arguments.map Value.shown) ++ "]")) }

/-- The names of the actions that declarations may name. -/
def stockNames : List String := ["echo", "join", "fail"]

/-- The action that a declaration means by a name. -/
def stock? : String → Option Action
  | "echo" => some echo
  | "join" => some join
  | "fail" => some fail
  | _ => none

theorem isSome_stock?_iff {name : String} : (stock? name).isSome ↔ name ∈ stockNames := by
  unfold stock?
  split <;> simp_all [stockNames]

/-- The number of items of the first argument if that is a list, else the number of arguments. -/
def count : Action := fun arguments =>
  { result := .ok (.int (match arguments with
      | .list items :: _ => items.length
      | _ => arguments.length)) }

/-- The first argument, or null. -/
def first : Action := fun arguments => { result := .ok (arguments.head?.getD .null) }

/-- The words for the types of the arguments. -/
def labels : Action := fun arguments =>
  { result := .ok (.list (arguments.map fun v => .text v.label)) }

/-- One value for all arguments. -/
def constant (value : Value) : Action := fun _ => { result := .ok value }

/-- The list of the arguments, which are reported too. -/
def recorded : Action := fun arguments =>
  { result := .ok (.list arguments), notes := [.called arguments] }

/-- Always fails. -/
def failing (failure : Failure) : Action := fun _ => { result := .error failure }

end CommandLine.Action
