import CommandLine.Proofs.Binding.Rules

/-!
# Binding is exact

For a command of a registry, `bind` answers what the rules of the parameters say one by one:
it succeeds with their values when each of them gives one and the arguments are used up
(`Binder.Gives`), and otherwise it fails with the first fault in the order of declaration, then for
the first option that has no parameter, then for the first positional too many (`Binder.Refuses`).
-/

namespace CommandLine

open Parameter

namespace Binder

/-! ## The rules of a list, one by one -/

/-- What the rule says of the parameter at place `k` of a list, the first parameter of which is at
the given index and place. -/
def ruleAt (b : Binder) (given : Partition) (index place : Nat) (l : List Parameter) (k : Nat)
    (p : Parameter) : Except Fault Value :=
  b.rule given (index + k) (place + (l.take k).countP isPlain) p

section RuleAt

variable {b : Binder} {given : Partition} {index place : Nat} {p : Parameter}
  {rest l : List Parameter}

@[simp] theorem ruleAt_zero (q : Parameter) :
    b.ruleAt given index place l 0 q = b.rule given index place q := by
  simp [ruleAt]

@[simp] theorem ruleAt_succ (k : Nat) (q : Parameter) :
    b.ruleAt given index place (p :: rest) (k + 1) q =
      b.ruleAt given (index + 1) (place + if p.isPlain then 1 else 0) rest k q := by
  unfold ruleAt
  rw [List.take_succ_cons, List.countP_cons]
  congr 1 <;> omega

theorem rules_eq_ok_iff {values : List Value} :
    b.rules given index place l = .ok values ↔
      values.length = l.length ∧ ∀ k p value, l[k]? = some p → values[k]? = some value →
        b.ruleAt given index place l k p = .ok value := by
  induction l generalizing index place values with
  | nil => simp [rules, List.length_eq_zero_iff, eq_comm]
  | cons p rest ih =>
    rw [rules]
    constructor
    · intro h
      cases hp : b.rule given index place p with
      | error fault => simp [hp, Except.bind] at h
      | ok first =>
        cases hrest : b.rules given (index + 1) (place + if p.isPlain then 1 else 0) rest with
        | error fault => simp [hp, hrest, Except.bind, Except.map] at h
        | ok others =>
          obtain rfl : first :: others = values := by
            simpa [hp, hrest, Except.bind, Except.map] using h
          obtain ⟨hlength, hothers⟩ := ih.1 hrest
          refine ⟨by simp [hlength], fun k q value hq hvalue => ?_⟩
          cases k with
          | zero => simp_all
          | succ k => simpa using hothers k q value (by simpa using hq) (by simpa using hvalue)
    · rintro ⟨hlength, hvalues⟩
      obtain ⟨first, others, rfl⟩ := List.exists_cons_of_length_eq_add_one hlength
      have hp : b.rule given index place p = .ok first := by simpa using hvalues 0 p first
      have hrest := ih.2 ⟨by simpa using hlength, fun k q value hq hvalue => by
        simpa using hvalues (k + 1) q value (by simpa using hq) (by simpa using hvalue)⟩
      rw [hp, Except.bind, hrest]
      rfl

theorem rules_eq_error_iff {fault : Fault} :
    b.rules given index place l = .error fault ↔
      ∃ k p, l[k]? = some p ∧ b.ruleAt given index place l k p = .error fault ∧
        ∀ j < k, ∀ q, l[j]? = some q → ∃ value, b.ruleAt given index place l j q = .ok value := by
  induction l generalizing index place with
  | nil => simp [rules]
  | cons p rest ih =>
    rw [rules]
    cases hp : b.rule given index place p with
    | error first =>
      simp only [Except.bind, Except.error.injEq]
      constructor
      · rintro rfl
        exact ⟨0, p, rfl, by simpa using hp, by simp⟩
      · rintro ⟨k, q, hq, hfault, hbefore⟩
        cases k with
        | zero => simp_all
        | succ k =>
          obtain ⟨value, hvalue⟩ := hbefore 0 (by omega) p rfl
          simp [hp] at hvalue
    | ok first =>
      have hmap : ((Except.ok first : Except Fault Value).bind fun value =>
          (b.rules given (index + 1) (place + if p.isPlain then 1 else 0) rest).map
            (value :: ·)) = .error fault ↔
          b.rules given (index + 1) (place + if p.isPlain then 1 else 0) rest = .error fault := by
        cases b.rules given (index + 1) (place + if p.isPlain then 1 else 0) rest <;>
          simp [Except.bind, Except.map]
      rw [hmap, ih]
      constructor
      · rintro ⟨k, q, hq, hfault, hbefore⟩
        refine ⟨k + 1, q, by simpa using hq, by simpa using hfault, fun j hj q hq => ?_⟩
        cases j with
        | zero => exact ⟨first, by simp_all⟩
        | succ j => simpa using hbefore j (by omega) q (by simpa using hq)
      · rintro ⟨k, q, hq, hfault, hbefore⟩
        cases k with
        | zero => simp_all
        | succ k =>
          refine ⟨k, q, by simpa using hq, by simpa using hfault, fun j hj q hq => ?_⟩
          simpa using hbefore (j + 1) (by omega) q (by simpa using hq)

end RuleAt

/-! ## The whole list -/

/-- The parameters get these values from the given arguments. -/
structure Gives (b : Binder) (given : Partition) (declared : List Parameter)
    (values : List Value) : Prop where
  length_eq : values.length = declared.length
  /-- Each value is what the rule of its parameter says. -/
  rule_eq : ∀ k p value, declared[k]? = some p → values[k]? = some value →
    b.rule given k ((declared.take k).countP isPlain) p = .ok value

/-- Every argument belongs to some parameter. -/
structure UsedUp (given : Partition) (declared : List Parameter) : Prop where
  options : ∀ t ∈ given.options.tokens, t.name ∈ optionNamesOfAll declared
  positionals : given.positionals.length ≤ declared.countP isPlain

/-- The parameters refuse the given arguments with a fault. -/
inductive Refuses (b : Binder) (given : Partition) (declared : List Parameter) : Fault → Prop
  /-- The first parameter that gets nothing. -/
  | parameter {k : Nat} {p : Parameter} {fault : Fault} (hp : declared[k]? = some p)
      (hfault : b.rule given k ((declared.take k).countP isPlain) p = .error fault)
      (hbefore : ∀ j < k, ∀ q, declared[j]? = some q →
        ∃ value, b.rule given j ((declared.take j).countP isPlain) q = .ok value) :
      Refuses b given declared fault
  /-- The first option token that belongs to no parameter. -/
  | unknownOption {values : List Value} {t : OptionToken} (hvalues : Gives b given declared values)
      (ht : given.options.tokens.find? (·.name ∉ optionNamesOfAll declared) = some t) :
      Refuses b given declared (.unknownOption t.raw)
  /-- The first positional that belongs to no parameter. -/
  | unexpectedArgument {values : List Value} {extra : String}
      (hvalues : Gives b given declared values)
      (hoptions : ∀ t ∈ given.options.tokens, t.name ∈ optionNamesOfAll declared)
      (hextra : given.positionals[declared.countP isPlain]? = some extra) :
      Refuses b given declared (.unexpectedArgument extra)

theorem gives_iff {b : Binder} {given : Partition} {declared : List Parameter}
    {values : List Value} :
    Gives b given declared values ↔ b.rules given 0 0 declared = .ok values := by
  rw [rules_eq_ok_iff]
  simp only [ruleAt, Nat.zero_add]
  exact ⟨fun h => ⟨h.length_eq, h.rule_eq⟩, fun h => ⟨h.1, h.2⟩⟩

theorem bind_eq_rules (b : Binder) {declared : List Parameter} (hsound : Sound declared)
    (arguments : List String) :
    b.bind declared arguments =
      (b.rules (.ofArguments arguments) 0 0 declared).bind fun values =>
        match (Partition.ofArguments arguments).options.tokens.find?
            (·.name ∉ optionNamesOfAll declared) with
        | some t => .error (.unknownOption t.raw)
        | none =>
          match (Partition.ofArguments arguments).positionals[declared.countP isPlain]? with
          | some extra => .error (.unexpectedArgument extra)
          | none => .ok values := by
  have hfresh := Partition.fresh_ofArguments arguments
  have hdistinct : ([] ++ optionNamesOfAll declared).Nodup := hsound.distinct
  have hbound := parameters_eq_rules b hfresh hsound.flawless hdistinct 0 0
  have hstart : leftOf (.ofArguments arguments) [] 0 =
      ⟨(Partition.ofArguments arguments).options,
        (Partition.ofArguments arguments).positionals⟩ := by
    simp [leftOf]
  rw [hstart] at hbound
  unfold bind
  simp only [hbound]
  cases b.rules (.ofArguments arguments) 0 0 declared with
  | error fault => rfl
  | ok values =>
    simp only [Except.map, Bind.bind, Except.bind, leftOf, OptionPool.ensureConsumed_without hfresh,
      List.nil_append, Nat.zero_add]
    cases (Partition.ofArguments arguments).options.tokens.find?
        (·.name ∉ optionNamesOfAll declared) with
    | some t => rfl
    | none =>
      simp only
      rw [← List.head?_drop]
      cases (Partition.ofArguments arguments).positionals.drop (declared.countP isPlain) <;> rfl

theorem find?_notMem_eq_none_iff {tokens : List OptionToken} {names : List String} :
    tokens.find? (·.name ∉ names) = none ↔ ∀ t ∈ tokens, t.name ∈ names := by
  simp

theorem bind_eq_ok_iff {b : Binder} {declared : List Parameter} (hsound : Sound declared)
    {arguments : List String} {values : List Value} :
    b.bind declared arguments = .ok values ↔
      Gives b (.ofArguments arguments) declared values ∧
        UsedUp (.ofArguments arguments) declared := by
  rw [bind_eq_rules b hsound, gives_iff]
  generalize Partition.ofArguments arguments = given
  constructor
  · intro h
    cases hrules : b.rules given 0 0 declared with
    | error fault => simp [hrules, Except.bind] at h
    | ok found =>
      simp only [hrules, Except.bind] at h
      split at h
      · cases h
      rename_i hoptions
      split at h
      · cases h
      rename_i hpositionals
      cases h
      exact ⟨rfl, find?_notMem_eq_none_iff.1 hoptions, List.getElem?_eq_none_iff.1 hpositionals⟩
  · rintro ⟨hrules, hused⟩
    rw [hrules, Except.bind, find?_notMem_eq_none_iff.2 hused.options]
    simp only
    rw [List.getElem?_eq_none_iff.2 hused.positionals]

theorem bind_eq_error_iff {b : Binder} {declared : List Parameter} (hsound : Sound declared)
    {arguments : List String} {fault : Fault} :
    b.bind declared arguments = .error fault ↔
      Refuses b (.ofArguments arguments) declared fault := by
  rw [bind_eq_rules b hsound]
  generalize Partition.ofArguments arguments = given
  constructor
  · intro h
    cases hrules : b.rules given 0 0 declared with
    | error first =>
      simp only [hrules, Except.bind] at h
      cases h
      obtain ⟨k, p, hp, hfault, hbefore⟩ := rules_eq_error_iff.1 hrules
      simp only [ruleAt, Nat.zero_add] at hfault hbefore
      exact .parameter hp hfault hbefore
    | ok values =>
      have hvalues := gives_iff.2 hrules
      simp only [hrules, Except.bind] at h
      split at h
      · rename_i t ht
        cases h
        exact .unknownOption hvalues ht
      rename_i hoptions
      split at h
      · rename_i extra hextra
        cases h
        exact .unexpectedArgument hvalues (find?_notMem_eq_none_iff.1 hoptions) hextra
      · cases h
  · intro h
    cases h with
    | parameter hp hfault hbefore =>
      have hrules : b.rules given 0 0 declared = .error fault := by
        rw [rules_eq_error_iff]
        simp only [ruleAt, Nat.zero_add]
        exact ⟨_, _, hp, hfault, hbefore⟩
      rw [hrules]
      rfl
    | unknownOption hvalues ht =>
      rw [gives_iff.1 hvalues, Except.bind, ht]
    | unexpectedArgument hvalues hoptions hextra =>
      rw [gives_iff.1 hvalues, Except.bind, find?_notMem_eq_none_iff.2 hoptions]
      simp only
      rw [hextra]

/-- **Exactness.** Binding gives the values that the rules of all parameters give, provided that
every argument belongs to some parameter, and otherwise refuses with the first fault. -/
theorem bind_exact {commands : List Command} {registry : Registry}
    (hregistry : Registry.ofCommands commands = .ok registry) {command : Command}
    (hcommand : command ∈ registry.commands) (b : Binder) (arguments : List String) :
    (∀ values, b.bind command.parameters arguments = .ok values ↔
      Gives b (.ofArguments arguments) command.parameters values ∧
        UsedUp (.ofArguments arguments) command.parameters) ∧
    ∀ fault, b.bind command.parameters arguments = .error fault ↔
      Refuses b (.ofArguments arguments) command.parameters fault := by
  have hsound := Registry.sound_of_ofCommands hregistry hcommand
  exact ⟨fun values => bind_eq_ok_iff hsound, fun fault => bind_eq_error_iff hsound⟩

/-- A command with a positional, an option, and a group inside of a group that may be null. -/
def deploySample : Command where
  name := "deploy"
  parameters :=
    [.plain { name := "target" } ⟨.text, false⟩,
      .option { name := "level" } ⟨.text, false⟩,
      .bean { name := "proxy", nillable := true } "Proxy"
        [.option { name := "host" } ⟨.text, true⟩,
          .bean { name := "login" } "Login" [.option { name := "user" } ⟨.text, false⟩]]]
  target := ⟨"Sample", "deploy", none⟩
  action := fun _ => { result := .ok .null }

/-- The last of two tokens counts, a token deep inside of a group brings the group about, and an
option that nobody declares is refused. -/
theorem bind_exact_deploy :
    Registry.ofCommands [deploySample] = .ok (.push .empty deploySample) ∧
      deploySample ∈ [deploySample] ∧
      Binder.bind ⟨∅, ⟨[], ∅⟩, ∅⟩ deploySample.parameters
          ["--level=1", "web", "--user=ada", "--level=2"] =
        .ok [.text "web", .text "2",
          .bean "Proxy" [("host", .null), ("login", .bean "Login" [("user", .text "ada")])]] ∧
      Binder.bind ⟨∅, ⟨[], ∅⟩, ∅⟩ deploySample.parameters ["--level=1", "--colour", "web"] =
        .error (.unknownOption "--colour") := by
  have hregistry : Registry.ofCommands [deploySample] = .ok (.push .empty deploySample) := rfl
  have hcommand : deploySample ∈ [deploySample] := List.mem_singleton.2 rfl
  refine ⟨hregistry, hcommand, ?_, ?_⟩
  · exact ((bind_exact hregistry hcommand _ _).1 _).2 ⟨gives_iff.2 rfl, by decide, by decide⟩
  · exact ((bind_exact hregistry hcommand _ _).2 _).2
      (.unknownOption (t := ⟨"colour", none, "--colour", false⟩) (gives_iff.2 rfl) rfl)

end Binder

end CommandLine
