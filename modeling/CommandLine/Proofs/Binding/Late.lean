import CommandLine.Proofs.Binding.Exactness
import CommandLine.Proofs.Binding.Supplied

/-!
# Parameters that no converter serves

A parameter of a type without a converter can be left out, but it cannot be given. No binding
succeeds in which a positional (`bind_of_lacks_plain`) or an option token (`bind_of_lacks`) belongs
to such a parameter. The same holds of the global groups, where a token belongs to the first group
that declares its name (`bindGlobals_of_lacks`). Options are found in groups of any depth, because
what is bound before them leaves the tokens of other names alone (`available_of_parameter`).
-/

namespace CommandLine

/-- The type needs a converter that is not there. -/
def Converters.Lacks (c : Converters) (type : ValueType) : Prop :=
  ∃ key, type.kind = .named key ∧ c.contains key = false

theorem Converters.convert_of_lacks {c : Converters} {type : ValueType} (h : c.Lacks type)
    (text parameter : String) (value : Value) :
    c.convert (.text text) type parameter ≠ .ok value := by
  obtain ⟨key, hkind, hlacks⟩ := h
  have hadmits : type.kind.admits (.text text) = false := by
    rw [hkind]
    rfl
  unfold convert
  rw [hadmits, hkind]
  simp [Value.isNull, apply, find?_eq_none_iff.2 hlacks, ValueType.Kind.key]

namespace Parameter

mutual

/-- The options in a parameter, those of nested groups included, with their types. -/
def options : Parameter → List (Attributes × ValueType)
  | option a type => [(a, type)]
  | bean _ _ members => optionsOfAll members
  | _ => []

def optionsOfAll : List Parameter → List (Attributes × ValueType)
  | [] => []
  | p :: rest => options p ++ optionsOfAll rest

end

mutual

theorem optionNames_eq_map (p : Parameter) : p.optionNames = p.options.map (·.1.name) := by
  match p with
  | .plain a type => rfl
  | .option a type => rfl
  | .bean a type members => exact optionNamesOfAll_eq_map members
  | .internal a => rfl

theorem optionNamesOfAll_eq_map (l : List Parameter) :
    optionNamesOfAll l = (optionsOfAll l).map (·.1.name) := by
  match l with
  | [] => rfl
  | p :: rest =>
    rw [optionNamesOfAll, optionsOfAll, List.map_append, optionNames_eq_map p,
      optionNamesOfAll_eq_map rest]

end

theorem name_mem_optionNames {p : Parameter} {entry : Attributes × ValueType}
    (h : entry ∈ p.options) : entry.1.name ∈ p.optionNames := by
  rw [optionNames_eq_map]
  exact List.mem_map_of_mem h

theorem name_mem_optionNamesOfAll {l : List Parameter} {entry : Attributes × ValueType}
    (h : entry ∈ optionsOfAll l) : entry.1.name ∈ optionNamesOfAll l := by
  rw [optionNamesOfAll_eq_map]
  exact List.mem_map_of_mem h

theorem typedOfAll_eq (l : List Parameter) : typedOfAll l = l.flatMap typed := by
  induction l with
  | nil => rfl
  | cons p rest ih => simp [typedOfAll, ih]

mutual

theorem typed_eq_options {p : Parameter} (h : firstFlaw? true p = none) :
    p.typed = p.options := by
  match p with
  | .plain a type => simp [firstFlaw?, flaw?] at h
  | .option a type => rfl
  | .bean a type members => exact typedOfAll_eq_optionsOfAll (firstFlawOfAll?_members h)
  | .internal a => rfl

theorem typedOfAll_eq_optionsOfAll {l : List Parameter} (h : firstFlawOfAll? true l = none) :
    typedOfAll l = optionsOfAll l := by
  match l with
  | [] => rfl
  | p :: rest =>
    obtain ⟨hp, hrest⟩ := firstFlawOfAll?_cons_eq_none.1 h
    rw [typedOfAll, optionsOfAll, typed_eq_options hp, typedOfAll_eq_optionsOfAll hrest]

end

theorem mem_typedOfAll_iff {l : List Parameter} (h : firstFlawOfAll? false l = none)
    {a : Attributes} {type : ValueType} :
    (a, type) ∈ typedOfAll l ↔ .plain a type ∈ l ∨ (a, type) ∈ optionsOfAll l := by
  induction l with
  | nil => simp [typedOfAll, optionsOfAll]
  | cons p rest ih =>
    obtain ⟨hp, hrest⟩ := firstFlawOfAll?_cons_eq_none.1 h
    have hfirst : (a, type) ∈ p.typed ↔ .plain a type = p ∨ (a, type) ∈ p.options := by
      cases p with
      | plain a' type' => simp [typed, options]
      | option a' type' => simp [typed, options]
      | bean a' type' members =>
        simp [typed, options, typedOfAll_eq_optionsOfAll (firstFlawOfAll?_members hp)]
      | internal a' => simp [typed, options]
    rw [typedOfAll, optionsOfAll, List.mem_append, List.mem_append, List.mem_cons, ih hrest, hfirst]
    simp only [or_assoc, or_left_comm]

/-- The names of a sound group are distinct, and all that has a type of its own is an option. -/
theorem Sound.of_group {group : Parameter} (hbean : group.isBean) (h : Sound [group]) :
    group.optionNames.Nodup ∧ group.typed = group.options := by
  have hdistinct : group.optionNames.Nodup := by simpa [optionNamesOfAll] using h.distinct
  have hflawless := (firstFlawOfAll?_cons_eq_none.1 h.flawless).1
  cases group with
  | bean a type members =>
    exact ⟨hdistinct, typedOfAll_eq_optionsOfAll (firstFlawOfAll?_members hflawless)⟩
  | plain a type => cases hbean
  | option a type => cases hbean
  | internal a => cases hbean

end Parameter

/-! ## What binding leaves alone -/

namespace OptionPool

theorem Fresh.available_ne_nil {pool : OptionPool} (hfresh : pool.Fresh) {name : String}
    (h : ∃ t ∈ pool.tokens, t.name = name) : pool.available name ≠ [] := by
  obtain ⟨t, ht, hname⟩ := h
  exact List.ne_nil_of_mem (List.mem_filter.2 ⟨ht, by simp [hfresh t ht, hname]⟩)

theorem containsAny_of_available {pool : OptionPool} {name : String} {names : List String}
    (h : pool.available name ≠ []) (hname : name ∈ names) : pool.containsAny names = true := by
  obtain ⟨t, ht⟩ := List.exists_mem_of_ne_nil _ h
  obtain ⟨hmem, ht⟩ := List.mem_filter.1 ht
  obtain ⟨htaken, rfl⟩ : t.taken = false ∧ t.name = name := by simpa using ht
  exact List.any_eq_true.2 ⟨t, hmem, by simpa [htaken] using hname⟩

end OptionPool

namespace Binder

open Parameter

variable {b : Binder}

mutual

/-- Binding a parameter leaves the tokens of other names alone. -/
theorem available_of_parameter {p : Parameter} {index : Nat} {s : Supply} {value : Value}
    {left : Supply} (h : b.parameter index p s = .ok (value, left)) {name : String}
    (hname : name ∉ p.optionNames) : left.options.available name = s.options.available name := by
  match p with
  | .plain a type =>
    rw [parameter, Except.map_eq_ok_iff] at h
    obtain ⟨-, -, ⟨⟩⟩ := h
    rfl
  | .option a type =>
    rw [parameter, Except.map_eq_ok_iff] at h
    obtain ⟨-, -, ⟨⟩⟩ := h
    exact OptionPool.available_take (by simpa [optionNames] using hname) _
  | .bean a type members =>
    rw [parameter] at h
    split at h
    · cases h
      rfl
    · obtain ⟨⟨values, after⟩, hmembers, ⟨⟩⟩ := Except.map_eq_ok_iff.1 h
      exact available_of_parameters hmembers hname
  | .internal a =>
    rw [parameter] at h
    cases h
    rfl

theorem available_of_parameters {l : List Parameter} {index : Nat} {s : Supply}
    {values : List Value} {left : Supply} (h : b.parameters index l s = .ok (values, left))
    {name : String} (hname : name ∉ optionNamesOfAll l) :
    left.options.available name = s.options.available name := by
  match l with
  | [] =>
    rw [parameters] at h
    cases h
    rfl
  | p :: rest =>
    simp only [optionNamesOfAll, List.mem_append, not_or] at hname
    rw [parameters, Except.bind_eq_ok_iff] at h
    obtain ⟨⟨value, between⟩, hp, h⟩ := h
    obtain ⟨⟨others, after⟩, hrest, ⟨⟩⟩ := Except.map_eq_ok_iff.1 h
    rw [available_of_parameters hrest hname.2, available_of_parameter hp hname.1]

end

/-! ## Options that cannot be given -/

theorem convert_of_lacks {type : ValueType} (h : b.converters.Lacks type) (text label : String)
    (value : Value) : b.convert (.text text) type label ≠ .ok value :=
  fun hok => Converters.convert_of_lacks h text label value (Except.mapError_eq_ok_iff.1 hok)

theorem option_of_lacks {a : Attributes} {type : ValueType} (h : b.converters.Lacks type)
    (token : OptionToken) (value : Value) : b.option a type (some token) ≠ .ok value := by
  obtain ⟨name, value?, raw, taken⟩ := token
  rw [option_eq_rule]
  unfold optionRule
  cases value? with
  | some text => exact convert_of_lacks h text _ value
  | none =>
    obtain ⟨key, hkind, -⟩ := h
    simp [hkind]

mutual

/-- A parameter is not bound while there is a token for an option in it that lacks its converter. -/
theorem parameter_of_lacks {p : Parameter} (hdistinct : p.optionNames.Nodup)
    {entry : Attributes × ValueType} (hentry : entry ∈ p.options)
    (hlacks : b.converters.Lacks entry.2) {s : Supply}
    (htoken : s.options.available entry.1.name ≠ []) (index : Nat) (r : Value × Supply) :
    b.parameter index p s ≠ .ok r := by
  match p with
  | .option a type =>
    obtain rfl : entry = (a, type) := by simpa [options] using hentry
    intro hok
    rw [parameter, Except.map_eq_ok_iff] at hok
    obtain ⟨value, hvalue, -⟩ := hok
    have hlast : (s.options.take a.name).1 = some ((s.options.available a.name).getLast htoken) :=
      List.getLast?_eq_some_getLast htoken
    rw [hlast] at hvalue
    exact option_of_lacks hlacks _ value hvalue
  | .bean a type members =>
    have hcontains := OptionPool.containsAny_of_available htoken (name_mem_optionNamesOfAll hentry)
    intro hok
    rw [parameter, hcontains, if_neg (by simp), Except.map_eq_ok_iff] at hok
    obtain ⟨bound, hbound, -⟩ := hok
    exact parameters_of_lacks hdistinct hentry hlacks htoken 0 bound hbound

theorem parameters_of_lacks {l : List Parameter} (hdistinct : (optionNamesOfAll l).Nodup)
    {entry : Attributes × ValueType} (hentry : entry ∈ optionsOfAll l)
    (hlacks : b.converters.Lacks entry.2) {s : Supply}
    (htoken : s.options.available entry.1.name ≠ []) (index : Nat) (r : List Value × Supply) :
    b.parameters index l s ≠ .ok r := by
  match l with
  | p :: rest =>
    rw [optionNamesOfAll, List.nodup_append] at hdistinct
    obtain ⟨hp, hrest, hdisjoint⟩ := hdistinct
    intro hok
    rw [parameters, Except.bind_eq_ok_iff] at hok
    obtain ⟨⟨value, left⟩, hfirst, hok⟩ := hok
    obtain ⟨others, hothers, -⟩ := Except.map_eq_ok_iff.1 hok
    rw [optionsOfAll, List.mem_append] at hentry
    rcases hentry with hentry | hentry
    · exact parameter_of_lacks hp hentry hlacks htoken index _ hfirst
    · have hname : entry.1.name ∉ p.optionNames :=
        fun hmem => hdisjoint _ hmem _ (name_mem_optionNamesOfAll hentry) rfl
      rw [← available_of_parameter hfirst hname] at htoken
      exact parameters_of_lacks hrest hentry hlacks htoken (index + 1) _ hothers

end

/-! ## Whole argument lists -/

/-- No binding succeeds in which there is a token for an option that lacks its converter. -/
theorem bind_of_lacks {declared : List Parameter} (hsound : Sound declared)
    {entry : Attributes × ValueType} (hentry : entry ∈ optionsOfAll declared)
    (hlacks : b.converters.Lacks entry.2) {arguments : List String}
    (htoken : ∃ t ∈ (Partition.ofArguments arguments).options.tokens, t.name = entry.1.name)
    (values : List Value) : b.bind declared arguments ≠ .ok values := by
  intro hok
  obtain ⟨bound, hbound, -⟩ := Except.bind_eq_ok_iff.1 hok
  have hfresh := Partition.fresh_ofArguments arguments
  exact parameters_of_lacks hsound.distinct hentry hlacks (hfresh.available_ne_nil htoken) 0 bound
    hbound

theorem bind_of_lacks_plain {declared : List Parameter} (hsound : Sound declared) {k : Nat}
    {a : Attributes} {type : ValueType} (hplain : declared[k]? = some (.plain a type))
    (hlacks : b.converters.Lacks type) {arguments : List String}
    (hpositional : (declared.take k).countP isPlain
      < (Partition.ofArguments arguments).positionals.length)
    (values : List Value) : b.bind declared arguments ≠ .ok values := by
  intro hok
  have hgives := ((bind_eq_ok_iff hsound).1 hok).1
  obtain ⟨hk, -⟩ := List.getElem?_eq_some_iff.1 hplain
  have hvalue : k < values.length := hgives.length_eq ▸ hk
  have hrule := hgives.rule_eq k _ _ hplain (List.getElem?_eq_getElem hvalue)
  rw [rule, List.getElem?_eq_getElem hpositional] at hrule
  exact convert_of_lacks hlacks _ _ _ hrule

/-- No binding of global groups succeeds in which a group is given a token for an option that lacks
its converter. The earlier groups do not declare the name, or else the token would be theirs. -/
theorem groups_of_lacks {declared : List Parameter} {k : Nat} {group : Parameter}
    (hgroup : declared[k]? = some group) (hdistinct : group.optionNames.Nodup)
    {entry : Attributes × ValueType} (hentry : entry ∈ group.options)
    (hlacks : b.converters.Lacks entry.2)
    (hearlier : ∀ g ∈ declared.take k, entry.1.name ∉ g.optionNames) {pool : OptionPool}
    (htoken : pool.available entry.1.name ≠ []) (r : List Value × OptionPool) :
    b.groups declared pool ≠ .ok r := by
  induction declared generalizing k pool r with
  | nil => simp at hgroup
  | cons first rest ih =>
    intro hok
    rw [groups] at hok
    split at hok
    · obtain ⟨⟨value, left⟩, hfirst, hok⟩ := Except.bind_eq_ok_iff.1 hok
      obtain ⟨others, hothers, -⟩ := Except.map_eq_ok_iff.1 hok
      cases k with
      | zero =>
        obtain rfl : first = group := by simpa using hgroup
        exact parameter_of_lacks hdistinct hentry hlacks htoken 0 _ hfirst
      | succ k =>
        have hname : entry.1.name ∉ first.optionNames := hearlier first (by simp)
        rw [← available_of_parameter hfirst hname] at htoken
        exact ih (by simpa using hgroup) (fun g hg => hearlier g (by simp [hg])) htoken _ hothers
    · cases hok

theorem bindGlobals_of_lacks {declared : List Parameter} {k : Nat} {group : Parameter}
    (hgroup : declared[k]? = some group) (hdistinct : group.optionNames.Nodup)
    {entry : Attributes × ValueType} (hentry : entry ∈ group.options)
    (hlacks : b.converters.Lacks entry.2)
    (hearlier : ∀ g ∈ declared.take k, entry.1.name ∉ g.optionNames) {tokens : List String}
    (htoken : ∃ t ∈ (Partition.ofArguments tokens).options.tokens, t.name = entry.1.name)
    (values : List Value) : b.bindGlobals declared tokens ≠ .ok values := by
  intro hok
  obtain ⟨bound, hbound, -⟩ := Except.bind_eq_ok_iff.1 hok
  have hfresh := Partition.fresh_ofArguments tokens
  exact groups_of_lacks hgroup hdistinct hentry hlacks hearlier (hfresh.available_ne_nil htoken)
    bound hbound

end Binder

end CommandLine
