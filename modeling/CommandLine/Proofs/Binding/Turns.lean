import CommandLine.Proofs.Binding.Globals
import CommandLine.Proofs.Binding.Remaining

/-!
# Groups in turn

Global groups take their options from one pool, and options of one name may be declared in several
groups. Each group gets what its rule says of the tokens that no earlier group declares
(`Binder.turns`), however deep in the earlier groups the names stand: a group that may be null comes
about as soon as there is a token for it. `bindGlobals_inTurn` says of every option and every group
of any depth what it is bound to.
-/

namespace CommandLine

namespace Binder

open Parameter

variable {b : Binder}

/-! ## One group after the other -/

/-- What groups get of a fresh pool: each what its rule says of the tokens that no earlier group
declares. -/
def turns (b : Binder) : OptionPool → List Parameter → Except Fault (List Value)
  | _, [] => .ok []
  | pool, group :: rest =>
    (b.rule ⟨pool, []⟩ 0 0 group).bind fun value =>
      (b.turns (pool.omitting group.optionNames) rest).map (value :: ·)

/-- A sound group gets what its rule says of what remains, and takes its names with it. -/
theorem settle_parameter_eq_rule {group : Parameter} (hgroup : firstFlaw? true group = none)
    (hdistinct : group.optionNames.Nodup) (pool : OptionPool) :
    settle (b.parameter 0 group ⟨pool, []⟩) =
      (b.rule ⟨pool.remaining, []⟩ 0 0 group).map fun value =>
        (value, ⟨pool.remaining.omitting group.optionNames, []⟩) := by
  have hfresh : (⟨pool.remaining, []⟩ : Partition).options.Fresh := pool.fresh_remaining
  have hrule := parameter_eq_rule b hfresh hgroup
    (show ([] ++ group.optionNames).Nodup from hdistinct) 0 0
  have hstart : leftOf ⟨pool.remaining, []⟩ [] 0 = Supply.remaining ⟨pool, []⟩ := by
    simp [leftOf, Supply.remaining]
  rw [hstart] at hrule
  rw [← settle_parameter, hrule]
  cases b.rule ⟨pool.remaining, []⟩ 0 0 group with
  | error fault => rfl
  | ok value =>
    simp [settle, Except.map, leftOf, Supply.remaining,
      OptionPool.remaining_without pool.fresh_remaining]

theorem groups_eq_turns {declared : List Parameter}
    (h : ∀ group ∈ declared, group.isBean ∧ Sound [group]) (pool : OptionPool) :
    (b.groups declared pool).map (fun r => (r.1, r.2.remaining)) =
      (b.turns pool.remaining declared).map fun values =>
        (values, pool.remaining.omitting (optionNamesOfAll declared)) := by
  induction declared generalizing pool with
  | nil => simp [groups, turns, optionNamesOfAll, Except.map]
  | cons group rest ih =>
    obtain ⟨⟨hbean, hsound⟩, hrest⟩ := List.forall_mem_cons.1 h
    have hdistinct : group.optionNames.Nodup := by
      simpa [optionNamesOfAll] using hsound.distinct
    rw [groups, turns, if_pos hbean]
    obtain ⟨fault, hparameter, hrule⟩ | ⟨⟨value', left⟩, value, hparameter, hrule, hsame⟩ :=
      Except.cases_of_map_eq_map
        (settle_parameter_eq_rule (b := b) (hsound.flawless_of_group hbean) hdistinct pool)
    · rw [hparameter, hrule]
      rfl
    · obtain ⟨rfl, hleft⟩ : value' = value ∧
          left.remaining = ⟨pool.remaining.omitting group.optionNames, []⟩ := Prod.mk.inj hsame
      have hpool : left.options.remaining = pool.remaining.omitting group.optionNames :=
        congrArg Supply.options hleft
      have hothers := ih hrest left.options
      rw [hpool, OptionPool.omitting_omitting] at hothers
      rw [hparameter, hrule]
      simp only [Except.bind]
      obtain ⟨fault, hgroups, hturns⟩ | ⟨⟨others', after⟩, others, hgroups, hturns, hsame⟩ :=
        Except.cases_of_map_eq_map hothers
      · rw [hgroups, hturns]
        rfl
      · obtain ⟨rfl, hafter⟩ : others' = others ∧ after.remaining =
          pool.remaining.omitting (group.optionNames ++ optionNamesOfAll rest) := Prod.mk.inj hsame
        rw [hgroups, hturns]
        simp only [Except.map, optionNamesOfAll, hafter]

theorem turns_eq_ok_iff {pool : OptionPool} {declared : List Parameter} {values : List Value} :
    b.turns pool declared = .ok values ↔
      values.length = declared.length ∧
        ∀ k group value, declared[k]? = some group → values[k]? = some value →
          b.rule ⟨pool.omitting (optionNamesOfAll (declared.take k)), []⟩ 0 0 group =
            .ok value := by
  induction declared generalizing pool values with
  | nil => simp [turns, List.length_eq_zero_iff, eq_comm]
  | cons group rest ih =>
    rw [turns, Except.bind_cons_eq_ok_iff]
    constructor
    · rintro ⟨value, others, hvalue, hothers, rfl⟩
      obtain ⟨hlength, hrules⟩ := ih.1 hothers
      refine ⟨by simp [hlength], fun k group' value' hgroup' hvalue' => ?_⟩
      cases k with
      | zero =>
        obtain rfl : group = group' := by simpa using hgroup'
        obtain rfl : value = value' := by simpa using hvalue'
        simpa [optionNamesOfAll] using hvalue
      | succ k =>
        have hrule := hrules k group' value' (by simpa using hgroup') (by simpa using hvalue')
        simpa [optionNamesOfAll] using hrule
    · rintro ⟨hlength, hrules⟩
      obtain ⟨value, others, rfl⟩ := List.exists_cons_of_length_eq_add_one hlength
      have hvalue : b.rule ⟨pool, []⟩ 0 0 group = .ok value := by
        simpa [optionNamesOfAll] using hrules 0 group value rfl rfl
      have hothers : b.turns (pool.omitting group.optionNames) rest = .ok others := by
        refine ih.2 ⟨by simpa using hlength, fun k group' value' hgroup' hvalue' => ?_⟩
        simpa [optionNamesOfAll] using hrules (k + 1) group' value' (by simpa using hgroup')
          (by simpa using hvalue')
      exact ⟨value, others, hvalue, hothers, rfl⟩

theorem bindGlobals_eq_ok_iff {globals : List Parameter} (h : checkGlobals globals = .ok ())
    {tokens : List String} {values : List Value} :
    b.bindGlobals globals tokens = .ok values ↔
      b.turns (Partition.ofArguments tokens).options globals = .ok values ∧
        (∀ t ∈ (Partition.ofArguments tokens).options.tokens, t.name ∈ optionNamesOfAll globals) ∧
        (Partition.ofArguments tokens).positionals = [] := by
  have hfresh := Partition.fresh_ofArguments tokens
  have hgroups := groups_eq_turns (b := b) (fun group => sound_of_checkGlobals h)
    (Partition.ofArguments tokens).options
  rw [hfresh.remaining_eq] at hgroups
  rw [bindGlobals_eq]
  generalize Partition.ofArguments tokens = given at hfresh hgroups ⊢
  obtain ⟨fault, hfault, hturns⟩ | ⟨⟨found', left⟩, found, hfound, hturns, hsame⟩ :=
    Except.cases_of_map_eq_map hgroups
  · rw [hfault, hturns]
    exact ⟨nofun, fun ⟨hok, _⟩ => nomatch hok⟩
  · obtain ⟨rfl, hleft⟩ : found' = found ∧
      left.remaining = given.options.omitting (optionNamesOfAll globals) := Prod.mk.inj hsame
    rw [hfound, hturns, ← OptionPool.ensureConsumed_omitting_eq_ok_iff hfresh, ← hleft,
      OptionPool.ensureConsumed_remaining]
    simp only [Except.bind]
    cases left.ensureConsumed with
    | error fault => simp
    | ok u => cases given.positionals <;> simp

/-! ## What groups are bound to -/

/-- Among groups and their values, every option and every group of any depth is bound as it should
be when the options with the earlier names are gone. -/
structure InTurn (b : Binder) (pool : OptionPool) (earlier : List String) (l : List Parameter)
    (values : List Value) : Prop where
  /-- An option gets what its rule says of its last token, and if an earlier group declares its
  name, what it says without a token. -/
  option_eq : ∀ a type found, BoundTo (.option a type) found l values →
    b.optionRule a type (if a.name ∈ earlier then none else pool.last? a.name) = .ok found
  /-- A group is null if it may be and no token has the name of one of its options that no earlier
  group declares. -/
  null_iff : ∀ a type members found, BoundTo (.bean a type members) found l values →
    (found = .null ↔ a.nillable ∧
      ¬ ∃ t ∈ pool.tokens, t.name ∈ optionNamesOfAll members ∧ t.name ∉ earlier)
  /-- Any other group is a bean with a field for each member. -/
  fields_eq : ∀ a type members found, BoundTo (.bean a type members) found l values →
    found ≠ .null → ∃ fields, found = .bean type fields ∧ fields.map (·.1) = members.map (·.name)

variable {pool : OptionPool} {earlier : List String}

/-- What the rules give is in turn. -/
theorem inTurn_of_rules {isMember : Bool} {l : List Parameter} (hl : StandingAll isMember l)
    {index place : Nat} {values : List Value}
    (h : b.rules ⟨pool.omitting earlier, []⟩ index place l = .ok values) :
    InTurn b pool earlier l values where
  option_eq a type found hbound := by
    obtain ⟨-, index, place, -, hrule⟩ := rule_of_boundTo hbound hl h
    rwa [rule, OptionPool.last?_omitting] at hrule
  null_iff a type members found hbound := by
    obtain ⟨-, index, place, -, hrule⟩ := rule_of_boundTo hbound hl h
    rw [rule_bean_eq_ok_iff, OptionPool.names_omitting_iff] at hrule
    obtain ⟨rfl, hnull⟩ | ⟨hnull, values, -, rfl⟩ := hrule
    · exact ⟨fun _ => hnull, fun _ => rfl⟩
    · exact ⟨nofun, fun hother => absurd hother hnull⟩
  fields_eq a type members found hbound hfound := by
    obtain ⟨-, index, place, -, hrule⟩ := rule_of_boundTo hbound hl h
    obtain ⟨rfl, -⟩ | ⟨-, values, hvalues, rfl⟩ := rule_bean_eq_ok_iff.1 hrule
    · exact absurd rfl hfound
    · refine ⟨_, rfl, List.map_fst_zip ?_⟩
      rw [List.length_map, length_of_rules hvalues]

theorem InTurn.of_cons {p : Parameter} {rest : List Parameter} {value : Value} {values : List Value}
    (h : InTurn b pool earlier (p :: rest) (value :: values)) :
    InTurn b pool earlier [p] [value] ∧ InTurn b pool earlier rest values := by
  have hfirst : ∀ q found, BoundTo q found [p] [value] →
      BoundTo q found (p :: rest) (value :: values) := by
    intro q found hbound
    cases hbound with
    | head => exact .head
    | tail hnone => cases hnone
    | inside hmember => exact .inside hmember
  constructor
  · exact ⟨fun a type found hbound => h.option_eq a type found (hfirst _ _ hbound),
      fun a type members found hbound => h.null_iff a type members found (hfirst _ _ hbound),
      fun a type members found hbound => h.fields_eq a type members found (hfirst _ _ hbound)⟩
  · exact ⟨fun a type found hbound => h.option_eq a type found (.tail hbound),
      fun a type members found hbound => h.null_iff a type members found (.tail hbound),
      fun a type members found hbound => h.fields_eq a type members found (.tail hbound)⟩

theorem InTurn.members {a : Attributes} {type : String} {members : List Parameter}
    {fields : List (String × Value)}
    (h : InTurn b pool earlier [.bean a type members] [.bean type fields]) :
    InTurn b pool earlier members (fields.map (·.2)) :=
  ⟨fun a' type' found hbound => h.option_eq a' type' found (.inside hbound),
    fun a' type' members' found hbound => h.null_iff a' type' members' found (.inside hbound),
    fun a' type' members' found hbound => h.fields_eq a' type' members' found (.inside hbound)⟩

mutual

theorem InTurn.rule_eq {p : Parameter} (hp : firstFlaw? true p = none) {value : Value}
    (h : InTurn b pool earlier [p] [value]) (index place : Nat) :
    b.rule ⟨pool.omitting earlier, []⟩ index place p = .ok value := by
  match p with
  | .plain a type => simp [firstFlaw?, flaw?] at hp
  | .internal a => simp [firstFlaw?, flaw?] at hp
  | .option a type =>
    rw [rule, OptionPool.last?_omitting]
    exact h.option_eq a type value .head
  | .bean a type members =>
    have hnull := h.null_iff a type members value .head
    rw [rule_bean_eq_ok_iff, OptionPool.names_omitting_iff]
    by_cases hvalue : value = .null
    · exact .inl ⟨hvalue, hnull.1 hvalue⟩
    · obtain ⟨fields, rfl, hnames⟩ := h.fields_eq a type members value .head hvalue
      have hlength : (fields.map (·.2)).length = members.length := by
        have hsame := congrArg List.length hnames
        simpa using hsame
      have hrules := h.members.rules_eq (firstFlawOfAll?_members hp) hlength 0 place
      refine .inr ⟨fun hother => hvalue (hnull.2 hother), _, hrules, ?_⟩
      rw [← hnames, ← List.unzip_fst, ← List.unzip_snd, List.zip_unzip]

theorem InTurn.rules_eq {l : List Parameter} (hl : firstFlawOfAll? true l = none)
    {values : List Value} (h : InTurn b pool earlier l values) (hlength : values.length = l.length)
    (index place : Nat) : b.rules ⟨pool.omitting earlier, []⟩ index place l = .ok values := by
  match l, values with
  | [], [] => rw [rules]
  | p :: rest, value :: others =>
    obtain ⟨hp, hrest⟩ := firstFlawOfAll?_cons_eq_none.1 hl
    obtain ⟨hfirst, hothers⟩ := h.of_cons
    refine rules_cons_eq_ok_iff.2 ⟨value, others, hfirst.rule_eq hp index place, ?_, rfl⟩
    exact hothers.rules_eq hrest (by simpa using hlength) _ _

end

/-- Groups take their options in turn, and nothing is left of the tokens. -/
structure BoundInTurn (b : Binder) (given : Partition) (globals : List Parameter)
    (values : List Value) : Prop where
  length_eq : values.length = globals.length
  /-- The names of the earlier groups are gone, wherever in them they are declared. -/
  inTurn : ∀ k group value, globals[k]? = some group → values[k]? = some value →
    InTurn b given.options (optionNamesOfAll (globals.take k)) [group] [value]
  /-- No group is null around an option of which there is a token and that is first of its name. -/
  reached : ∀ k group value, globals[k]? = some group → values[k]? = some value →
    ∀ a type, (a, type) ∈ group.options → a.name ∉ optionNamesOfAll (globals.take k) →
      given.options.Names [a.name] → ∃ found, BoundTo (.option a type) found [group] [value]
  options : ∀ t ∈ given.options.tokens, t.name ∈ optionNamesOfAll globals
  positionals : given.positionals = []

/-- **Groups in turn.** Global groups are bound to some values exactly when there is one for each
group and these are what the groups get in turn: an option whose name no earlier group declares the
conversion of its last token, any other what it is without one; a group that may be null is, unless
there is a token for an option of it that no earlier group declares. Every token has to be an option
of some group. -/
theorem bindGlobals_inTurn {globals : List Parameter} (h : checkGlobals globals = .ok ())
    (b : Binder) (tokens : List String) (values : List Value) :
    b.bindGlobals globals tokens = .ok values ↔
      BoundInTurn b (.ofArguments tokens) globals values := by
  rw [bindGlobals_eq_ok_iff h, turns_eq_ok_iff]
  have hturn : ∀ earlier group value, group ∈ globals →
      (b.rule ⟨(Partition.ofArguments tokens).options.omitting earlier, []⟩ 0 0 group = .ok value ↔
        InTurn b (Partition.ofArguments tokens).options earlier [group] [value]) := by
    intro earlier group value hmem
    obtain ⟨hbean, hsound⟩ := sound_of_checkGlobals h hmem
    refine ⟨fun hrule => ?_, fun hturn => hturn.rule_eq (hsound.flawless_of_group hbean) 0 0⟩
    have hrules : b.rules ⟨(Partition.ofArguments tokens).options.omitting earlier, []⟩ 0 0 [group]
        = .ok [value] := rules_cons_eq_ok_iff.2 ⟨value, [], hrule, by rw [rules], rfl⟩
    exact inTurn_of_rules (.of_sound hsound) hrules
  constructor
  · rintro ⟨⟨hlength, hrules⟩, hoptions, hpositionals⟩
    refine ⟨hlength, fun k group value hgroup hvalue => ?_, fun k group value hgroup hvalue => ?_,
      hoptions, hpositionals⟩
    · exact (hturn _ _ _ (List.mem_of_getElem? hgroup)).1 (hrules k group value hgroup hvalue)
    · intro a type hoption hearlier hnamed
      refine exists_boundTo_of_rule hoption ?_ (hrules k group value hgroup hvalue)
      obtain ⟨t, ht, hname⟩ := hnamed
      have hsame : t.name = a.name := List.mem_singleton.1 hname
      exact OptionPool.names_omitting_iff.2 ⟨t, ht, hname, hsame ▸ hearlier⟩
  · rintro ⟨hlength, hturns, -, hoptions, hpositionals⟩
    refine ⟨⟨hlength, fun k group value hgroup hvalue => ?_⟩, hoptions, hpositionals⟩
    exact (hturn _ _ _ (List.mem_of_getElem? hgroup)).2 (hturns k group value hgroup hvalue)

/-- A token deep in the first group brings it about, and is not seen by the second group, which
declares the name too. Without a token the first group is null. -/
theorem bindGlobals_inTurn_session :
    checkGlobals sessionSample = .ok () ∧
      BoundInTurn ⟨∅, ⟨[], ∅⟩, ∅⟩
        (.ofArguments ["--host=a", "--trace", "--user=ada", "--host=b"]) sessionSample
        [.bean "Auth" [("user", .text "ada"),
            ("proxy", .bean "Proxy" [("host", .text "b"), ("port", .null)])],
          .bean "Log" [("host", .null), ("trace", .bool true)]] ∧
      BoundInTurn ⟨∅, ⟨[], ∅⟩, ∅⟩ (.ofArguments ["--trace"]) sessionSample
        [.null, .bean "Log" [("host", .null), ("trace", .bool true)]] := by
  have hcheck : checkGlobals sessionSample = .ok () := rfl
  exact ⟨hcheck, (bindGlobals_inTurn hcheck _ _ _).1 rfl, (bindGlobals_inTurn hcheck _ _ _).1 rfl⟩

end Binder

end CommandLine
