import CommandLine.Proofs.Binding.Late

/-!
# The values of nested parameters

`Parameter.BoundTo` finds the value of a parameter among the values of all parameters, through
groups of any depth. If the parameters are sound (`Parameter.StandingAll`), what stands there is
what the rule of the parameter says (`rule_of_boundTo`). An option that is given is found, for no
group around it is null (`exists_boundTo_of_rules`).
-/

namespace CommandLine

namespace Parameter

/-- Among parameters and their values, at any depth, the parameter is bound to the value. -/
inductive BoundTo (p : Parameter) (value : Value) : List Parameter → List Value → Prop
  | head {rest : List Parameter} {values : List Value} :
      BoundTo p value (p :: rest) (value :: values)
  | tail {first : Parameter} {rest : List Parameter} {other : Value} {values : List Value}
      (h : BoundTo p value rest values) : BoundTo p value (first :: rest) (other :: values)
  /-- The values of the members are those of the fields. -/
  | inside {a : Attributes} {type : String} {members rest : List Parameter}
      {fields : List (String × Value)} {values : List Value}
      (h : BoundTo p value members (fields.map (·.2))) :
      BoundTo p value (.bean a type members :: rest) (.bean type fields :: values)

/-! ## Sound parameters at their places -/

/-- A parameter that is sound at its place, outside of groups or inside of one. -/
structure Standing (isMember : Bool) (p : Parameter) : Prop where
  flawless : firstFlaw? isMember p = none
  distinct : p.optionNames.Nodup

/-- Parameters that are sound together at their places. -/
structure StandingAll (isMember : Bool) (l : List Parameter) : Prop where
  flawless : firstFlawOfAll? isMember l = none
  distinct : (optionNamesOfAll l).Nodup

theorem StandingAll.of_sound {l : List Parameter} (h : Sound l) : StandingAll false l :=
  ⟨h.flawless, h.distinct⟩

variable {isMember : Bool} {p : Parameter} {rest : List Parameter}

theorem standingAll_cons_iff :
    StandingAll isMember (p :: rest) ↔ Standing isMember p ∧ StandingAll isMember rest ∧
      ∀ name ∈ optionNamesOfAll rest, name ∉ p.optionNames := by
  constructor
  · rintro ⟨hflawless, hdistinct⟩
    obtain ⟨hp, hrest⟩ := firstFlawOfAll?_cons_eq_none.1 hflawless
    rw [optionNamesOfAll, List.nodup_append] at hdistinct
    obtain ⟨hpdistinct, hrestdistinct, hapart⟩ := hdistinct
    exact ⟨⟨hp, hpdistinct⟩, ⟨hrest, hrestdistinct⟩,
      fun name hname hmem => hapart name hmem name hname rfl⟩
  · rintro ⟨⟨hp, hpdistinct⟩, ⟨hrest, hrestdistinct⟩, hapart⟩
    refine ⟨firstFlawOfAll?_cons_eq_none.2 ⟨hp, hrest⟩, ?_⟩
    rw [optionNamesOfAll, List.nodup_append]
    refine ⟨hpdistinct, hrestdistinct, fun name hmem name' hname hsame => ?_⟩
    exact hapart name' hname (hsame ▸ hmem)

theorem StandingAll.of_mem {l : List Parameter} (h : StandingAll isMember l) (hp : p ∈ l) :
    Standing isMember p := by
  induction l with
  | nil => cases hp
  | cons first rest ih =>
    obtain ⟨hfirst, hrest, -⟩ := standingAll_cons_iff.1 h
    rcases List.mem_cons.1 hp with rfl | hp
    · exact hfirst
    · exact ih hrest hp

theorem Standing.members {a : Attributes} {type : String} {members : List Parameter}
    (h : Standing isMember (.bean a type members)) : StandingAll true members :=
  ⟨firstFlawOfAll?_members h.flawless, h.distinct⟩

end Parameter

namespace Binder

open Parameter

variable {b : Binder} {given : Partition} {index place : Nat}

theorem length_of_rules {l : List Parameter} {values : List Value}
    (h : b.rules given index place l = .ok values) : values.length = l.length :=
  (rules_eq_ok_iff.1 h).1

theorem rule_bean_eq_ok_iff {a : Attributes} {type : String} {members : List Parameter}
    {value : Value} :
    b.rule given index place (.bean a type members) = .ok value ↔
      (value = .null ∧ a.nillable ∧ ¬ given.options.Names (optionNamesOfAll members)) ∨
        ¬ (a.nillable ∧ ¬ given.options.Names (optionNamesOfAll members)) ∧
          ∃ values, b.rules given 0 place members = .ok values ∧
            .bean type ((members.map (·.name)).zip values) = value := by
  rw [rule]
  by_cases hnull : a.nillable ∧ ¬ given.options.Names (optionNamesOfAll members)
  · rw [if_pos hnull]
    simp [hnull, eq_comm]
  · rw [if_neg hnull, Except.map_eq_ok_iff]
    simp only [hnull, and_false, false_or, not_false_eq_true, true_and]

/-- A group is null, or a bean of the values that the rules of its members give. -/
theorem cases_of_rule_bean {a : Attributes} {type : String} {members : List Parameter}
    {value : Value} (h : b.rule given index place (.bean a type members) = .ok value) :
    (value = .null ∧ ¬ given.options.Names (optionNamesOfAll members)) ∨
      ∃ values, b.rules given 0 place members = .ok values ∧
        value = .bean type ((members.map (·.name)).zip values) := by
  obtain ⟨rfl, -, hnames⟩ | ⟨-, values, hvalues, rfl⟩ := rule_bean_eq_ok_iff.1 h
  · exact .inl ⟨rfl, hnames⟩
  · exact .inr ⟨values, hvalues, rfl⟩

/-- The fields of a bean that the rule of a group gives are named for the members, and their values
are those that the rules of the members give. -/
theorem fields_of_rule_bean {a : Attributes} {type type' : String} {members : List Parameter}
    {fields : List (String × Value)}
    (h : b.rule given index place (.bean a type members) = .ok (.bean type' fields)) :
    type' = type ∧ fields.map (·.1) = members.map (·.name) ∧
      b.rules given 0 place members = .ok (fields.map (·.2)) := by
  obtain ⟨hnull, -⟩ | ⟨values, hvalues, hbean⟩ := cases_of_rule_bean h
  · cases hnull
  · cases hbean
    have hlength : (members.map (·.name)).length = values.length := by
      rw [List.length_map, length_of_rules hvalues]
    refine ⟨rfl, List.map_fst_zip (Nat.le_of_eq hlength), ?_⟩
    rwa [List.map_snd_zip (Nat.le_of_eq hlength.symm)]

theorem rules_cons_eq_ok_iff {p : Parameter} {rest : List Parameter} {values : List Value} :
    b.rules given index place (p :: rest) = .ok values ↔
      ∃ value others, b.rule given index place p = .ok value ∧
        b.rules given (index + 1) (place + if p.isPlain then 1 else 0) rest = .ok others ∧
        value :: others = values := by
  rw [rules, Except.bind_eq_ok_iff]
  simp only [Except.map_eq_ok_iff, exists_and_left]

/-! ## Bound parameters of any depth -/

/-- Where a parameter of a sound list is bound to a value, its rule says the value. -/
theorem rule_of_boundTo {p : Parameter} {value : Value} {l : List Parameter} {values : List Value}
    (h : BoundTo p value l values) {isMember : Bool} (hl : StandingAll isMember l)
    (hrules : b.rules given index place l = .ok values) :
    ∃ isMember index place, Standing isMember p ∧ b.rule given index place p = .ok value := by
  induction h generalizing isMember index place with
  | head =>
    obtain ⟨_, _, hfirst, -, ⟨⟩⟩ := rules_cons_eq_ok_iff.1 hrules
    exact ⟨isMember, index, place, (standingAll_cons_iff.1 hl).1, hfirst⟩
  | tail h ih =>
    obtain ⟨_, _, -, hrest, ⟨⟩⟩ := rules_cons_eq_ok_iff.1 hrules
    exact ih (standingAll_cons_iff.1 hl).2.1 hrest
  | inside h ih =>
    obtain ⟨_, _, hfirst, -, ⟨⟩⟩ := rules_cons_eq_ok_iff.1 hrules
    exact ih (standingAll_cons_iff.1 hl).1.members (fields_of_rule_bean hfirst).2.2

mutual

theorem exists_boundTo_of_rule {p : Parameter} {a : Attributes} {type : ValueType}
    (hoption : (a, type) ∈ p.options) (hgiven : given.options.Names [a.name]) {index place : Nat}
    {value : Value} (h : b.rule given index place p = .ok value) :
    ∃ found, BoundTo (.option a type) found [p] [value] := by
  match p with
  | .option a' type' =>
    obtain ⟨rfl, rfl⟩ : a = a' ∧ type = type' := by simpa [options] using hoption
    exact ⟨value, .head⟩
  | .bean a' type' members =>
    rw [options] at hoption
    have hname := name_mem_optionNamesOfAll hoption
    obtain ⟨-, hnames⟩ | ⟨values, hvalues, rfl⟩ := cases_of_rule_bean h
    · obtain ⟨t, ht, hsame⟩ := hgiven
      exact absurd ⟨t, ht, List.mem_singleton.1 hsame ▸ hname⟩ hnames
    · obtain ⟨found, hfound⟩ := exists_boundTo_of_rules hoption hgiven hvalues
      have hlength : values.length ≤ (members.map (·.name)).length := by
        rw [List.length_map, length_of_rules hvalues]
      refine ⟨found, .inside ?_⟩
      rwa [List.map_snd_zip hlength]

/-- An option that is given is bound to a value: no group around it is null. -/
theorem exists_boundTo_of_rules {l : List Parameter} {a : Attributes} {type : ValueType}
    (hoption : (a, type) ∈ optionsOfAll l) (hgiven : given.options.Names [a.name])
    {index place : Nat} {values : List Value} (h : b.rules given index place l = .ok values) :
    ∃ found, BoundTo (.option a type) found l values := by
  match l with
  | p :: rest =>
    obtain ⟨value, others, hvalue, hothers, rfl⟩ := rules_cons_eq_ok_iff.1 h
    rw [optionsOfAll, List.mem_append] at hoption
    rcases hoption with hoption | hoption
    · obtain ⟨found, hfound⟩ := exists_boundTo_of_rule hoption hgiven hvalue
      refine ⟨found, ?_⟩
      cases hfound with
      | head => exact .head
      | tail hnone => cases hnone
      | inside hmember => exact .inside hmember
    · obtain ⟨found, hfound⟩ := exists_boundTo_of_rules hoption hgiven hothers
      exact ⟨found, .tail hfound⟩

end

end Binder

end CommandLine
