import CommandLine.Proofs.Fallible
import CommandLine.Registry.Basic

/-!
# What acceptance by the registry guarantees

`sound_of_ofCommands`: in every command of a registry, no parameter is unsound and no option name
occurs twice. Inside of groups there are only options and groups, so a group takes no positional.
`sound_of_checkGlobals`: the same of each group of global options.
-/

namespace CommandLine

theorem firstRepeated?_eq_none_iff [BEq α] [LawfulBEq α] {seen l : List α} :
    firstRepeated? seen l = none ↔ l.Nodup ∧ ∀ a ∈ l, a ∉ seen := by
  induction l generalizing seen with
  | nil => simp [firstRepeated?]
  | cons a rest ih =>
    by_cases h : a ∈ seen
    · simp [firstRepeated?, h]
    · simp only [firstRepeated?, List.contains_iff_mem, h, if_false, ih, List.nodup_cons,
        List.mem_cons, not_or, forall_eq_or_imp, not_false_eq_true, true_and]
      constructor
      · rintro ⟨hrest, hseen⟩
        exact ⟨⟨fun ha => (hseen a ha).1 rfl, hrest⟩, fun b hb => (hseen b hb).2⟩
      · rintro ⟨⟨ha, hrest⟩, hseen⟩
        exact ⟨hrest, fun b hb => ⟨fun hba => ha (hba ▸ hb), hseen b hb⟩⟩

namespace Parameter

def isPlain : Parameter → Bool
  | plain .. => true
  | _ => false

/-- Parameters that the registry accepts. -/
structure Sound (parameters : List Parameter) : Prop where
  flawless : firstFlawOfAll? false parameters = none
  distinct : (optionNamesOfAll parameters).Nodup

theorem firstFlawOfAll?_cons_eq_none {isMember : Bool} {p : Parameter} {rest : List Parameter} :
    firstFlawOfAll? isMember (p :: rest) = none ↔
      firstFlaw? isMember p = none ∧ firstFlawOfAll? isMember rest = none := by
  rw [firstFlawOfAll?, Option.or_eq_none_iff]

theorem isPlain_eq_false_of_firstFlaw? {p : Parameter} (h : firstFlaw? true p = none) :
    p.isPlain = false := by
  cases p with
  | plain a type => simp [firstFlaw?, flaw?] at h
  | option a type => rfl
  | bean a type members => rfl
  | internal a => rfl

/-- The members of a sound group are sound members. -/
theorem firstFlawOfAll?_members {isMember : Bool} {a : Attributes} {type : String}
    {members : List Parameter} (h : firstFlaw? isMember (.bean a type members) = none) :
    firstFlawOfAll? true members = none := by
  rw [firstFlaw?, Option.or_eq_none_iff] at h
  exact h.2

theorem countP_isPlain_members {members : List Parameter}
    (h : firstFlawOfAll? true members = none) : members.countP isPlain = 0 := by
  induction members with
  | nil => rfl
  | cons p rest ih =>
    obtain ⟨hp, hrest⟩ := firstFlawOfAll?_cons_eq_none.1 h
    rw [List.countP_cons, ih hrest, isPlain_eq_false_of_firstFlaw? hp]
    rfl

end Parameter

theorem checkParameters_eq_ok_iff {owner scope : String} {parameters : List Parameter} :
    checkParameters owner scope parameters = .ok () ↔ Parameter.Sound parameters := by
  unfold checkParameters
  cases hflaw : Parameter.firstFlawOfAll? false parameters with
  | some flaw => simpa using fun h : Parameter.Sound parameters => by simp [h.flawless] at hflaw
  | none =>
    cases hname : firstRepeated? [] (Parameter.optionNamesOfAll parameters) with
    | some name =>
      simp only [reduceCtorEq, false_iff]
      intro h
      rw [firstRepeated?_eq_none_iff.2 ⟨h.distinct, by simp⟩] at hname
      cases hname
    | none => simpa using ⟨hflaw, (firstRepeated?_eq_none_iff.1 hname).1⟩

theorem sound_of_checkGlobals {globals : List Parameter} (h : checkGlobals globals = .ok ())
    {group : Parameter} (hmem : group ∈ globals) :
    group.isBean ∧ Parameter.Sound [group] := by
  induction globals with
  | nil => cases hmem
  | cons first rest ih =>
    rw [checkGlobals] at h
    cases hfirst : checkGlobal first with
    | error fault =>
      rw [hfirst] at h
      cases h
    | ok u =>
      rw [hfirst] at h
      rcases List.mem_cons.1 hmem with rfl | hrest
      · unfold checkGlobal at hfirst
        split at hfirst
        · exact ⟨‹_›, checkParameters_eq_ok_iff.1 hfirst⟩
        · cases hfirst
      · exact ih h hrest

namespace Registry

theorem commands_of_declare {r r' : Registry} {commands : List Command}
    (h : r.declare commands = .ok r') : r'.commands = r.commands ++ commands := by
  induction commands generalizing r with
  | nil =>
    cases h
    exact (List.append_nil _).symm
  | cons command rest ih =>
    obtain ⟨u, -, hrest⟩ := Except.bind_eq_ok_iff.1 h
    rw [ih hrest, push, List.append_assoc]
    rfl

theorem sound_of_declare {r r' : Registry} {commands : List Command}
    (h : r.declare commands = .ok r') {command : Command} (hmem : command ∈ commands) :
    Parameter.Sound command.parameters := by
  induction commands generalizing r with
  | nil => cases hmem
  | cons first rest ih =>
    obtain ⟨u, hfirst, hrest⟩ := Except.bind_eq_ok_iff.1 h
    rcases List.mem_cons.1 hmem with rfl | hmem
    · unfold check at hfirst
      split at hfirst
      · cases hfirst
      split at hfirst
      · cases hfirst
      exact checkParameters_eq_ok_iff.1 hfirst
    · exact ih hrest hmem

theorem commands_of_ofCommands {commands : List Command} {registry : Registry}
    (h : ofCommands commands = .ok registry) : registry.commands = commands :=
  commands_of_declare h

/-- The parameters of every command in a registry are sound. -/
theorem sound_of_ofCommands {commands : List Command} {registry : Registry}
    (h : ofCommands commands = .ok registry) {command : Command}
    (hmem : command ∈ registry.commands) : Parameter.Sound command.parameters :=
  sound_of_declare h (commands_of_ofCommands h ▸ hmem)

end Registry

end CommandLine
