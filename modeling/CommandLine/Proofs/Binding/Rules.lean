import CommandLine.Binding
import CommandLine.Proofs.Binding.Pool
import CommandLine.Proofs.Registry.Acceptance

/-!
# The rule of each parameter

Binding threads what is left of the arguments from parameter to parameter. `Binder.rule` says what
a parameter gets without that: a plain parameter looks at the positional of its own number, and an
option at all option tokens. `parameters_eq_rules` ties the two together for sound parameters: what
has been taken before are the options of earlier parameters, and no later parameter asks for them.
-/

namespace CommandLine

open Parameter

/-- The arguments by kind, with nothing taken yet. -/
def Supply.ofArguments (arguments : List String) : Supply :=
  ⟨(Partition.ofArguments arguments).options, (Partition.ofArguments arguments).positionals⟩

namespace Binder

theorem bind_eq (b : Binder) (declared : List Parameter) (arguments : List String) :
    b.bind declared arguments =
      (b.parameters 0 declared (.ofArguments arguments)).bind fun (values, left) =>
        left.options.ensureConsumed.bind fun _ =>
          match left.positionals with
          | [] => .ok values
          | extra :: _ => .error (.unexpectedArgument extra) := rfl

/-! ## Rules -/

/-- The conversion of the default, or something else if there is none or it does not resolve. -/
def defaultOr (b : Binder) (a : Attributes) (type : ValueType) (label : String)
    (otherwise : Except Fault Value) : Except Fault Value :=
  match a.default? with
  | none => otherwise
  | some expression =>
    match b.resolver.substitute expression with
    | .error fault => .error fault
    | .ok none => otherwise
    | .ok (some text) => b.convert (.text text) type label

/-- A plain parameter gets the conversion of its positional, or else of its default. -/
def plainRule (b : Binder) (a : Attributes) (type : ValueType) (index : Nat)
    (positional? : Option String) : Except Fault Value :=
  let label := if a.name = "" then s!"arg{index}" else a.name
  match positional? with
  | some text => b.convert (.text text) type label
  | none => b.defaultOr a type label (.error (.missingArgument label .noPositional))

/-- An option gets the conversion of its token, or else of its default, or else null if its type
allows that, or else the zero of its type. -/
def optionRule (b : Binder) (a : Attributes) (type : ValueType) (token? : Option OptionToken) :
    Except Fault Value :=
  let label := "--" ++ a.name
  match token? with
  | some ⟨_, some text, _, _⟩ => b.convert (.text text) type label
  | some ⟨_, none, raw, _⟩ =>
    if type.kind = .bool then b.convert (.bool true) type label
    else .error (.missingArgument label (.noOptionValue raw))
  | none =>
    b.defaultOr a type label <|
      if type.nullable then .ok .null
      else match type.zero? with
        | some zero => .ok zero
        | none => .error (.missingArgument label (.notGiven type.name))

mutual

/-- What a parameter gets of the given arguments: `index` is its place among the parameters, and
`place` its place among the plain ones. -/
def rule (b : Binder) (given : Partition) (index place : Nat) : Parameter → Except Fault Value
  | .plain a type => b.plainRule a type index given.positionals[place]?
  | .option a type => b.optionRule a type (given.options.last? a.name)
  | .bean a type members =>
    if a.nillable ∧ ¬ given.options.Names (optionNamesOfAll members) then .ok .null
    else (b.rules given 0 place members).map fun values =>
      .bean type ((members.map (·.name)).zip values)
  | .internal a => .ok ((b.internals[a.name]?).getD .null)

/-- What parameters get, or the fault of the first that gets nothing. -/
def rules (b : Binder) (given : Partition) (index place : Nat) :
    List Parameter → Except Fault (List Value)
  | [] => .ok []
  | p :: rest =>
    (b.rule given index place p).bind fun value =>
      (b.rules given (index + 1) (place + if p.isPlain then 1 else 0) rest).map (value :: ·)

end

/-! ## Binding one parameter -/

theorem fallback_bind (b : Binder) (a : Attributes) (type : ValueType) (label : String)
    (otherwise : Except Fault Value) :
    ((b.fallback a type label).bind fun
      | some value => .ok value
      | none => otherwise) = b.defaultOr a type label otherwise := by
  unfold fallback defaultOr
  cases a.default? with
  | none => rfl
  | some expression =>
    cases hsub : b.resolver.substitute expression with
    | error fault => simp [hsub, Bind.bind, Except.bind]
    | ok text? =>
      cases text? with
      | none => simp [hsub, Bind.bind, Except.bind, pure, Except.pure]
      | some text =>
        cases hconvert : b.convert (.text text) type label <;>
          simp [hsub, hconvert, Bind.bind, Except.bind, Functor.map, Except.map]

theorem plain_eq_rule (b : Binder) (a : Attributes) (type : ValueType) (index : Nat)
    (positional? : Option String) :
    b.plain a type index positional? = b.plainRule a type index positional? := by
  have hlabel : plainLabel a index = if a.name = "" then s!"arg{index}" else a.name := by
    simp [plainLabel, String.isEmpty_iff]
  unfold plain plainRule
  rw [hlabel]
  cases positional? with
  | some text => rfl
  | none => exact fallback_bind ..

theorem option_eq_rule (b : Binder) (a : Attributes) (type : ValueType)
    (token? : Option OptionToken) : b.option a type token? = b.optionRule a type token? := by
  unfold option optionRule
  cases token? with
  | none => exact fallback_bind ..
  | some token =>
    obtain ⟨name, value?, raw, taken⟩ := token
    cases value? with
    | some text => rfl
    | none =>
      simp only [tokenValue, ValueType.isBool, beq_iff_eq]
      split <;> rfl

/-! ## Binding all parameters -/

/-- What is left after the options of the given names and some positionals have been taken. -/
def leftOf (given : Partition) (seen : List String) (place : Nat) : Supply :=
  ⟨given.options.without seen, given.positionals.drop place⟩

mutual

/-- A sound parameter none of whose options has been taken before gets what its rule says, and
takes its own options and positional. -/
theorem parameter_eq_rule (b : Binder) {given : Partition} (hfresh : given.options.Fresh)
    {isMember : Bool} {p : Parameter} (hp : firstFlaw? isMember p = none) {seen : List String}
    (hdistinct : (seen ++ p.optionNames).Nodup) (index place : Nat) :
    b.parameter index p (leftOf given seen place) = (b.rule given index place p).map fun value =>
      (value, leftOf given (seen ++ p.optionNames) (place + if p.isPlain then 1 else 0)) := by
  match p with
  | .plain a type =>
    rw [parameter, rule, plain_eq_rule]
    simp [leftOf, optionNames, isPlain, List.head?_drop]
  | .option a type =>
    have hname : a.name ∉ seen := by
      simp only [optionNames] at hdistinct
      grind
    rw [parameter, rule]
    simp only [leftOf, OptionPool.take_without hfresh hname, option_eq_rule]
    rfl
  | .internal a =>
    rw [parameter, rule]
    simp [leftOf, optionNames, isPlain, internal, Except.map]
  | .bean a type members =>
    have hmembers := firstFlawOfAll?_members hp
    have hnames : ∀ n ∈ optionNamesOfAll members, n ∉ seen := by
      simp only [optionNames] at hdistinct
      grind
    have hdistinct' : (seen ++ optionNamesOfAll members).Nodup := by
      simpa only [optionNames] using hdistinct
    have ih := parameters_eq_rules b hfresh hmembers hdistinct' 0 place
    have hpool : (leftOf given seen place).options = given.options.without seen := rfl
    rw [parameter, rule, hpool, OptionPool.containsAny_without hfresh hnames]
    by_cases hnull : a.nillable ∧ ¬ given.options.Names (optionNamesOfAll members)
    · -- no token has one of the names, so taking them all would change nothing
      rw [if_pos (by simpa using hnull), if_pos hnull]
      simp [leftOf, optionNames, isPlain, Except.map,
        OptionPool.without_append_of_not_names hnull.2]
    · rw [if_neg (by simpa using hnull), if_neg hnull, ih, countP_isPlain_members hmembers]
      cases b.rules given 0 place members with
      | error fault => rfl
      | ok values => rfl

theorem parameters_eq_rules (b : Binder) {given : Partition} (hfresh : given.options.Fresh)
    {isMember : Bool} {l : List Parameter} (hl : firstFlawOfAll? isMember l = none)
    {seen : List String} (hdistinct : (seen ++ optionNamesOfAll l).Nodup) (index place : Nat) :
    b.parameters index l (leftOf given seen place) =
      (b.rules given index place l).map fun values =>
        (values, leftOf given (seen ++ optionNamesOfAll l) (place + l.countP isPlain)) := by
  match l with
  | [] => simp [parameters, rules, optionNamesOfAll, Except.map]
  | p :: rest =>
    obtain ⟨hp, hrest⟩ := firstFlawOfAll?_cons_eq_none.1 hl
    rw [optionNamesOfAll, ← List.append_assoc] at hdistinct
    have ihp := parameter_eq_rule b hfresh hp (List.nodup_append.1 hdistinct).1 index place
    have ihrest := parameters_eq_rules b hfresh hrest hdistinct (index + 1)
      (place + if p.isPlain then 1 else 0)
    rw [parameters, rules, ihp]
    cases b.rule given index place p with
    | error fault => rfl
    | ok value =>
      simp only [Except.map, Except.bind, ihrest]
      cases b.rules given (index + 1) (place + if p.isPlain then 1 else 0) rest with
      | error fault => rfl
      | ok values => simp [optionNamesOfAll, List.countP_cons, Nat.add_comm, Nat.add_left_comm]

end

end Binder

end CommandLine
