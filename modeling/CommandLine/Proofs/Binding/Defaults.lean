import CommandLine.Proofs.Binding.Given
import CommandLine.Proofs.Registry.Places
import CommandLine.Proofs.Substitution.Plain
import Mathlib.Data.List.Nodup

/-!
# Defaults spelled out

An option that is not given gets the conversion of what its default resolves to, and one that is
given the conversion of the text of its token. So the text of a default can be spelled out in a
token without any change, as long as the token brings about no group that would be null without it
(`bind_spelled`). What binding asks of the arguments is the last token of each option, whether
there are tokens for a group that may be null, and the positionals: the rules cannot tell apart
arguments that answer these alike (`AskedAlike.rules_eq`).
-/

namespace CommandLine

namespace Parameter

/-! ## Options and the groups around them -/

theorem Sound.option_unique {l : List Parameter} (h : Sound l)
    {entry entry' : Attributes × ValueType} (hentry : entry ∈ optionsOfAll l)
    (hentry' : entry' ∈ optionsOfAll l) (hname : entry.1.name = entry'.1.name) :
    entry = entry' := by
  have hdistinct := h.distinct
  rw [optionNamesOfAll_eq_map] at hdistinct
  exact List.inj_on_of_nodup_map hdistinct hentry hentry' hname

mutual

theorem options_of_places {p : Parameter} {isMember isMember' : Bool} {a : Attributes}
    {type : String} {members : List Parameter}
    (h : (isMember', .bean a type members) ∈ places isMember p) :
    optionsOfAll members ⊆ p.options := by
  match p with
  | .bean a' type' members' =>
    rcases List.mem_cons.1 h with hself | hinside
    · cases hself
      exact List.Subset.refl _
    · exact optionsOfAll_of_places hinside
  | .plain a' type' => cases List.mem_singleton.1 h
  | .option a' type' => cases List.mem_singleton.1 h
  | .internal a' => cases List.mem_singleton.1 h

theorem optionsOfAll_of_places {l : List Parameter} {isMember isMember' : Bool} {a : Attributes}
    {type : String} {members : List Parameter}
    (h : (isMember', .bean a type members) ∈ placesOfAll isMember l) :
    optionsOfAll members ⊆ optionsOfAll l := by
  match l with
  | [] => cases h
  | p :: rest =>
    rw [placesOfAll, List.mem_append] at h
    rw [optionsOfAll]
    rcases h with h | h
    · exact fun entry hentry => List.mem_append_left _ (options_of_places h hentry)
    · exact fun entry hentry => List.mem_append_right _ (optionsOfAll_of_places h hentry)

end

/-- Every group around the option that may be null is brought about by a token. -/
def BroughtAbout (pool : OptionPool) (l : List Parameter) (entry : Attributes × ValueType) : Prop :=
  ∀ isMember a type members, (isMember, .bean a type members) ∈ placesOfAll false l →
    entry ∈ optionsOfAll members → a.nillable → pool.Names (optionNamesOfAll members)

end Parameter

namespace Binder

open Parameter OptionToken

variable {b : Binder} {given given' : Partition} {isMember : Bool}

/-! ## What binding asks of the arguments -/

/-- The parameters, those inside of groups included, find the same in both. -/
structure AskedAlike (b : Binder) (given given' : Partition) (isMember : Bool)
    (l : List Parameter) : Prop where
  option_eq : ∀ a type, (a, type) ∈ optionsOfAll l →
    b.optionRule a type (given.options.last? a.name) =
      b.optionRule a type (given'.options.last? a.name)
  names_iff : ∀ isMember' a type members,
    (isMember', .bean a type members) ∈ placesOfAll isMember l → a.nillable →
      (given.options.Names (optionNamesOfAll members) ↔
        given'.options.Names (optionNamesOfAll members))
  positionals : given.positionals = given'.positionals

namespace AskedAlike

theorem of_cons {p : Parameter} {rest : List Parameter}
    (h : AskedAlike b given given' isMember (p :: rest)) :
    AskedAlike b given given' isMember [p] ∧ AskedAlike b given given' isMember rest := by
  obtain ⟨hoption, hnames, hpositionals⟩ := h
  constructor
  · refine ⟨fun a type hmem => hoption a type ?_, fun isMember' a type members hmem => ?_,
      hpositionals⟩
    · simp only [optionsOfAll, List.append_nil] at hmem
      exact List.mem_append_left _ hmem
    · simp only [placesOfAll, List.append_nil] at hmem
      exact hnames isMember' a type members (List.mem_append_left _ hmem)
  · refine ⟨fun a type hmem => hoption a type ?_, fun isMember' a type members hmem => ?_,
      hpositionals⟩
    · exact List.mem_append_right _ hmem
    · exact hnames isMember' a type members (List.mem_append_right _ hmem)

theorem members {a : Attributes} {type : String} {members : List Parameter}
    (h : AskedAlike b given given' isMember [.bean a type members]) :
    AskedAlike b given given' true members := by
  refine ⟨fun a' type' hmem => h.option_eq a' type' ?_,
    fun isMember' a' type' members' hmem => h.names_iff isMember' a' type' members' ?_,
    h.positionals⟩
  · exact List.mem_append_left _ hmem
  · exact List.mem_append_left _ (List.mem_cons_of_mem _ hmem)

mutual

theorem rule_eq {isMember : Bool} {p : Parameter} (h : AskedAlike b given given' isMember [p])
    (index place : Nat) :
    b.rule given index place p = b.rule given' index place p := by
  match p with
  | .plain a type => rw [rule, rule, h.positionals]
  | .option a type =>
    rw [rule, rule]
    exact h.option_eq a type List.mem_cons_self
  | .bean a type members =>
    rw [rule, rule, h.members.rules_eq 0 place]
    by_cases hnillable : a.nillable = true
    · have hnames := h.names_iff isMember a type members List.mem_cons_self hnillable
      simp only [hnames]
    · rw [if_neg fun hnull => hnillable hnull.1, if_neg fun hnull => hnillable hnull.1]
  | .internal a => rw [rule, rule]

/-- Arguments in which all is found alike are bound alike. -/
theorem rules_eq {isMember : Bool} {l : List Parameter}
    (h : AskedAlike b given given' isMember l) (index place : Nat) :
    b.rules given index place l = b.rules given' index place l := by
  match l with
  | [] => rw [rules, rules]
  | p :: rest =>
    obtain ⟨hfirst, hrest⟩ := h.of_cons
    rw [rules, rules, hfirst.rule_eq index place]
    congr 1
    funext value
    rw [hrest.rules_eq]

end

end AskedAlike

/-! ## A token for the default -/

theorem optionRule_of_default {a : Attributes} {type : ValueType} {expression text : String}
    (hdefault : a.default? = some expression)
    (htext : b.resolver.substitute expression = .ok (some text)) :
    b.optionRule a type none = b.convert (.text text) type ("--" ++ a.name) := by
  unfold optionRule defaultOr
  simp only [hdefault, htext]

/-- With a token for the text of its default, an option and the groups around it find what they
find without. -/
theorem askedAlike_written {declared : List Parameter} (hsound : Sound declared) {a : Attributes}
    {type : ValueType} (hoption : (a, type) ∈ optionsOfAll declared) (hname : '=' ∉ a.name.toList)
    {expression text : String} (hdefault : a.default? = some expression)
    (htext : b.resolver.substitute expression = .ok (some text)) {arguments : List String}
    (hother : ¬ (Partition.ofArguments arguments).options.Names [a.name])
    (hgroups : BroughtAbout (Partition.ofArguments arguments).options declared (a, type)) :
    AskedAlike b (.ofArguments (written a.name text :: arguments)) (.ofArguments arguments) false
      declared := by
  constructor
  · intro a' type' hoption'
    by_cases hsame : a.name = a'.name
    · obtain ⟨rfl, rfl⟩ := Prod.mk.inj (hsound.option_unique hoption hoption' hsame)
      rw [last?_ofArguments_written hname text hother, OptionPool.last?_eq_none hother,
        optionRule_of_default hdefault htext]
      rfl
    · rw [Partition.ofArguments_written hname, OptionPool.last?_cons_of_ne hsame]
  · intro isMember' a' type' members hplace hnillable
    rw [Partition.ofArguments_written hname, OptionPool.names_cons_iff]
    refine or_iff_right_of_imp fun hmem => ?_
    rw [optionNamesOfAll_eq_map] at hmem
    obtain ⟨entry, hentry, hsame⟩ := List.mem_map.1 hmem
    have hunique := hsound.option_unique (optionsOfAll_of_places hplace hentry) hoption hsame
    exact hgroups isMember' a' type' members hplace (hunique ▸ hentry) hnillable
  · rw [Partition.ofArguments_written hname]

/-- **Defaults spelled out.** An option of a command that is not given and whose default resolves to
a text may as well be given this text: the command is bound to the same values, or refused for the
same fault. Only, a group around the option that may be null has to be brought about by other
tokens. -/
theorem bind_spelled {commands : List Command} {registry : Registry}
    (hregistry : Registry.ofCommands commands = .ok registry) {command : Command}
    (hcommand : command ∈ registry.commands) {a : Attributes} {type : ValueType}
    (hoption : (a, type) ∈ optionsOfAll command.parameters) (hname : '=' ∉ a.name.toList)
    {b : Binder} {expression text : String} (hdefault : a.default? = some expression)
    (htext : b.resolver.substitute expression = .ok (some text)) {arguments : List String}
    (hother : ¬ (Partition.ofArguments arguments).options.Names [a.name])
    (hgroups : BroughtAbout (Partition.ofArguments arguments).options command.parameters
      (a, type)) :
    b.bind command.parameters (written a.name text :: arguments) =
      b.bind command.parameters arguments := by
  have hsound := Registry.sound_of_ofCommands hregistry hcommand
  have halike := askedAlike_written hsound hoption hname hdefault htext hother hgroups
  have hknown : a.name ∈ optionNamesOfAll command.parameters := name_mem_optionNamesOfAll hoption
  rw [bind_eq_rules b hsound, bind_eq_rules b hsound, halike.rules_eq, halike.positionals,
    Partition.ofArguments_written hname, List.find?_cons_of_neg (by simpa using hknown)]

/-- A command with a default inside of two groups that may be null. -/
def backupSample : Command where
  name := "backup"
  parameters :=
    [.bean { name := "remote", nillable := true } "Remote"
        [.option { name := "host" } ⟨.text, true⟩,
          .bean { name := "login", nillable := true } "Login"
            [.option { name := "user", default? := some "${who:-root}" } ⟨.text, false⟩,
              .option { name := "port" } ⟨.text, true⟩]],
      .plain { name := "source" } ⟨.text, false⟩]
  target := ⟨"Sample", "backup", none⟩
  action := fun _ => { result := .ok .null }

/-- The token for the inner group brings both groups about, so the user need not be given. Without
it, the token for the user would bring them about. -/
theorem bind_spelled_backup :
    Registry.ofCommands [backupSample] = .ok (.push .empty backupSample) ∧
      backupSample ∈ [backupSample] ∧
      (⟨"user", some "${who:-root}", false⟩, ⟨.text, false⟩) ∈
        optionsOfAll backupSample.parameters ∧
      Resolver.substitute ⟨[], ∅⟩ "${who:-root}" = .ok (some "root") ∧
      Binder.bind ⟨∅, ⟨[], ∅⟩, ∅⟩ backupSample.parameters ["--port=22", "home"] =
        .ok [.bean "Remote" [("host", .null),
          ("login", .bean "Login" [("user", .text "root"), ("port", .text "22")])],
            .text "home"] ∧
      Binder.bind ⟨∅, ⟨[], ∅⟩, ∅⟩ backupSample.parameters ["home"] = .ok [.null, .text "home"] ∧
      Binder.bind ⟨∅, ⟨[], ∅⟩, ∅⟩ backupSample.parameters ["--user=root", "home"] =
        .ok [.bean "Remote" [("host", .null),
          ("login", .bean "Login" [("user", .text "root"), ("port", .null)])],
            .text "home"] := by
  have hregistry : Registry.ofCommands [backupSample] = .ok (.push .empty backupSample) := rfl
  have hcommand : backupSample ∈ [backupSample] := List.mem_singleton.2 rfl
  have hoption : (⟨"user", some "${who:-root}", false⟩, ⟨.text, false⟩) ∈
      optionsOfAll backupSample.parameters := by decide
  have hopens : ¬ Reference.Opens "root".toList := by decide
  have htext := Resolver.substitute_withDefault (r := ⟨[], ∅⟩)
    ⟨"who", by decide, by decide +kernel, by simp⟩ hopens (by decide) nofun
  have hgroups : BroughtAbout (Partition.ofArguments ["--port=22", "home"]).options
      backupSample.parameters (⟨"user", some "${who:-root}", false⟩, ⟨.text, false⟩) := by
    intro isMember a type members hplace hmem hnillable
    simp only [backupSample, placesOfAll, places, List.mem_append, List.mem_cons,
      List.not_mem_nil, or_false, Prod.mk.injEq, Parameter.bean.injEq, reduceCtorEq,
      and_false, false_or] at hplace
    obtain ⟨-, -, -, rfl⟩ | ⟨-, -, -, rfl⟩ := hplace
    · decide
    · decide
  have hother : ¬ (Partition.ofArguments ["--port=22", "home"]).options.Names ["user"] := by decide
  have hspelled := bind_spelled (b := ⟨∅, ⟨[], ∅⟩, ∅⟩) hregistry hcommand hoption (by decide) rfl
    htext hother hgroups
  exact ⟨hregistry, hcommand, hoption, htext, hspelled.symm.trans rfl, rfl, rfl⟩

end Binder

end CommandLine
