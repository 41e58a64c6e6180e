import CommandLine.Proofs.Binding.Late

/-!
# How far binding gets

Parameters are bound in their order. Binding reaches a parameter if nothing fails before it
(`Binder.Reaches`). Then the fault of the parameter is the fault of the whole (`bind_of_reaches`),
and if the whole succeeds, every parameter has been reached and has got its value
(`exists_reaches_of_bind`). `option_of_default`: an option without a token is reached without one.
-/

namespace CommandLine

namespace Binder

open Parameter

variable {b : Binder} {declared : List Parameter} {arguments : List String} {k : Nat}
  {p : Parameter} {left : Supply}

theorem parameters_append (b : Binder) (index : Nat) (l rest : List Parameter) (s : Supply) :
    b.parameters index (l ++ rest) s = (b.parameters index l s).bind fun (values, left) =>
      (b.parameters (index + l.length) rest left).map fun (others, after) =>
        (values ++ others, after) := by
  induction l generalizing index s with
  | nil =>
    rw [List.nil_append, parameters]
    simp only [Except.bind, List.length_nil, Nat.add_zero, List.nil_append]
    cases b.parameters index rest s <;> rfl
  | cons p l ih =>
    rw [List.cons_append, parameters, parameters]
    rcases b.parameter index p s with fault | ⟨value, left⟩
    · rfl
    · have hindex : index + 1 + l.length = index + (p :: l).length := by
        rw [List.length_cons]
        omega
      simp only [Except.bind, ih, hindex]
      rcases b.parameters (index + 1) l left with fault | ⟨values, between⟩
      · rfl
      · simp only [Except.map, List.cons_append]
        rcases b.parameters (index + (p :: l).length) rest between with fault | ⟨others, after⟩ <;>
          rfl

theorem length_of_parameters {index : Nat} {l : List Parameter} {s : Supply} {values : List Value}
    (h : b.parameters index l s = .ok (values, left)) : values.length = l.length := by
  induction l generalizing index s values with
  | nil =>
    rw [parameters] at h
    cases h
    rfl
  | cons p l ih =>
    rw [parameters, Except.bind_eq_ok_iff] at h
    obtain ⟨⟨value, between⟩, -, h⟩ := h
    obtain ⟨⟨others, after⟩, hrest, ⟨⟩⟩ := Except.map_eq_ok_iff.1 h
    rw [List.length_cons, List.length_cons, ih hrest]

/-- The parameters before the one at place `k` are bound, and these arguments are left. -/
def Reaches (b : Binder) (declared : List Parameter) (arguments : List String) (k : Nat)
    (left : Supply) : Prop :=
  ∃ values, b.parameters 0 (declared.take k) (.ofArguments arguments) = .ok (values, left)

/-- From a parameter that is reached, binding goes on with that parameter. -/
theorem parameters_of_reaches {values : List Value}
    (h : b.parameters 0 (declared.take k) (.ofArguments arguments) = .ok (values, left))
    (hp : declared[k]? = some p) :
    b.parameters 0 declared (.ofArguments arguments) =
      (b.parameter k p left).bind fun (value, between) =>
        (b.parameters (k + 1) (declared.drop (k + 1)) between).map fun (others, after) =>
          (values ++ value :: others, after) := by
  obtain ⟨hk, rfl⟩ := List.getElem?_eq_some_iff.1 hp
  have hsplit : declared = declared.take k ++ declared[k] :: declared.drop (k + 1) := by
    rw [← List.drop_eq_getElem_cons hk, List.take_append_drop]
  have hlength : (declared.take k).length = k := by
    rw [List.length_take]
    omega
  have happend := parameters_append b 0 (declared.take k)
    (declared[k] :: declared.drop (k + 1)) (.ofArguments arguments)
  rw [← hsplit, h] at happend
  rw [happend]
  simp only [Except.bind, hlength, Nat.zero_add, parameters]
  rcases b.parameter k declared[k] left with fault | ⟨value, between⟩
  · rfl
  · simp only
    rcases b.parameters (k + 1) (declared.drop (k + 1)) between with fault | ⟨others, after⟩ <;> rfl

/-- The fault of a parameter that is reached is the fault of the whole. -/
theorem bind_of_reaches (h : b.Reaches declared arguments k left) (hp : declared[k]? = some p)
    {fault : Fault} (hfault : b.parameter k p left = .error fault) :
    b.bind declared arguments = .error fault := by
  obtain ⟨values, hvalues⟩ := h
  rw [bind_eq, parameters_of_reaches hvalues hp, hfault]
  rfl

/-- If binding succeeds, every parameter is reached, and its value stands at its place. -/
theorem exists_reaches_of_bind {values : List Value} (h : b.bind declared arguments = .ok values)
    (hp : declared[k]? = some p) :
    ∃ left value after, b.Reaches declared arguments k left ∧
      b.parameter k p left = .ok (value, after) ∧ values[k]? = some value := by
  rw [bind_eq, Except.bind_eq_ok_iff] at h
  obtain ⟨⟨all, after⟩, hall, h⟩ := h
  have hsplit := parameters_append b 0 (declared.take k) (declared.drop k) (.ofArguments arguments)
  rw [List.take_append_drop, hall] at hsplit
  obtain ⟨⟨front, left⟩, hfront, -⟩ := Except.bind_eq_ok_iff.1 hsplit.symm
  rw [parameters_of_reaches hfront hp, Except.bind_eq_ok_iff] at hall
  obtain ⟨⟨value, between⟩, hvalue, hall⟩ := hall
  obtain ⟨⟨others, rest⟩, -, hsame⟩ := Except.map_eq_ok_iff.1 hall
  obtain ⟨rfl, rfl⟩ : front ++ value :: others = all ∧ rest = after := by simpa using hsame
  have hvalues : front ++ value :: others = values := by
    obtain ⟨_, -, h⟩ := Except.bind_eq_ok_iff.1 h
    split at h
    · exact Except.ok.inj h
    · cases h
  have hlength : front.length = k := by
    have hk := (List.getElem?_eq_some_iff.1 hp).1
    rw [length_of_parameters hfront, List.length_take]
    omega
  refine ⟨left, value, between, ⟨front, hfront⟩, hvalue, ?_⟩
  rw [← hvalues, ← hlength]
  simp

theorem take_of_reaches (hsound : Sound declared) (h : b.Reaches declared arguments k left)
    {a : Attributes} {type : ValueType} (hp : declared[k]? = some (.option a type))
    (htokens : ∀ t ∈ (Partition.ofArguments arguments).options.tokens, t.name ≠ a.name) :
    (left.options.take a.name).1 = none := by
  obtain ⟨values, hvalues⟩ := h
  obtain ⟨hk, hoption⟩ := List.getElem?_eq_some_iff.1 hp
  have hbefore : a.name ∉ optionNamesOfAll (declared.take k) := by
    have hsplit : declared = declared.take k ++ .option a type :: declared.drop (k + 1) := by
      rw [← hoption, ← List.drop_eq_getElem_cons hk, List.take_append_drop]
    have hdistinct := hsound.distinct
    rw [hsplit, optionNamesOfAll_eq, List.flatMap_append, ← optionNamesOfAll_eq] at hdistinct
    exact fun hmem => (List.nodup_append.1 hdistinct).2.2 _ hmem _ (by simp [optionNames]) rfl
  have hnone : (Supply.ofArguments arguments).options.available a.name = [] :=
    List.filter_eq_nil_iff.2 fun t ht => by simp [htokens t ht]
  show (left.options.available a.name).getLast? = none
  rw [available_of_parameters hvalues hbefore, hnone]
  rfl

theorem option_of_default {a : Attributes} {type : ValueType} {expression text : String}
    (hdefault : a.default? = some expression)
    (htext : b.resolver.substitute expression = .ok (some text)) :
    b.option a type none = b.convert (.text text) type ("--" ++ a.name) := by
  rw [option_eq_rule, optionRule, defaultOr, hdefault]
  simp only [htext]

end Binder

end CommandLine
