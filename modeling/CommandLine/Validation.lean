import CommandLine.Command

/-!
Validation of bound values. A validator sees what is declared about the action, and the values, and
states what is wrong with them.
-/

namespace CommandLine

/-- States the violations of a list of bound values. -/
abbrev Validator := Target → List Value → List String

/-- What a rule demands of a value. -/
inductive Demand where
  | notNull
  | notNegative
  | notEmpty
  | notTrue
deriving DecidableEq, Repr

namespace Demand

def name : Demand → String
  | notNull => "not_null"
  | notNegative => "not_negative"
  | notEmpty => "not_empty"
  | notTrue => "not_true"

/-- The value is not as the demand wants it. -/
def isBroken (v : Value) : Demand → Bool
  | notNull => v.isNull
  | notNegative => v.asFloat?.any (· < 0)
  | notEmpty => v.asText? == some ""
  | notTrue => v.asBool? == some true

end Demand

/-- A demand on the value at an index. -/
structure Rule where
  index : Nat
  demand : Demand
deriving DecidableEq, Repr

/-- What a rule says about the values, unless they keep it. -/
def Rule.violation? (target : Target) (values : List Value) (r : Rule) : Option String :=
  match values[r.index]? with
  | none => none
  | some v =>
    if r.demand.isBroken v then some s!"{target.label} arg{r.index} {r.demand.name}" else none

/-- The validator that states which rules are broken. -/
def Validator.ofRules (rules : List Rule) : Validator := fun target values =>
  rules.filterMap (·.violation? target values)

end CommandLine
