import CommandLine.Proofs.Binding.Nested
import CommandLine.Proofs.Binding.Rearrangement

/-!
# Options that can be given

A token gives an option the name that stands before its first `=`. So an option can be given if and
only if its name holds no `=`, and then the token that names it and gives it a text is its own, and
the option is bound to the conversion of the text (`option_given`). The registry accepts other names
too, and no token ever belongs to such an option (`option_never_given`).
-/

namespace CommandLine

/-! ## Tokens -/

namespace OptionToken

/-- The token that gives an option a text. -/
def written (name text : String) : String := "--" ++ name ++ "=" ++ text

theorem toList_written (name text : String) :
    (written name text).toList = '-' :: '-' :: (name.toList ++ '=' :: text.toList) := by
  simp [written]

theorem written_ne_endOfOptions (name text : String) : written name text ≠ "--" := by
  intro h
  have hlength := congrArg (fun s => s.toList.length) h
  simp [toList_written] at hlength

theorem ofToken?_written {name : String} (h : '=' ∉ name.toList) (text : String) :
    ofToken? (written name text) = some ⟨name, some text, written name text, false⟩ := by
  have hcut : Text.cutAt? '=' (name.toList ++ '=' :: text.toList) =
      some (name.toList, text.toList) := Text.cutAt?_eq_some_iff.2 ⟨rfl, h⟩
  unfold ofToken?
  rw [toList_written, body?, Option.map_some, hcut]
  simp only [String.ofList_toList]

theorem raw_of_ofToken? {token : String} {t : OptionToken} (h : ofToken? token = some t) :
    t.raw = token := by
  unfold ofToken? at h
  obtain ⟨body, -, hbody⟩ := Option.map_eq_some_iff.1 h
  split at hbody <;> exact hbody ▸ rfl

theorem notMem_name_of_ofToken? {token : String} {t : OptionToken} (h : ofToken? token = some t) :
    '=' ∉ t.name.toList := by
  unfold ofToken? at h
  obtain ⟨body, -, hbody⟩ := Option.map_eq_some_iff.1 h
  split at hbody
  · rename_i name value hcut
    rw [← hbody, String.toList_ofList]
    exact (Text.cutAt?_eq_some_iff.1 hcut).2
  · rename_i hcut
    rw [← hbody, String.toList_ofList]
    exact Text.cutAt?_eq_none_iff.1 hcut

end OptionToken

namespace Partition

open OptionToken

theorem exists_ofToken?_of_mem {arguments : List String} {t : OptionToken}
    (h : t ∈ (ofArguments arguments).options.tokens) :
    ∃ token ∈ arguments, ofToken? token = some t := by
  induction arguments with
  | nil => cases h
  | cons token rest ih =>
    by_cases hend : token = "--"
    · rw [ofArguments, if_pos hend] at h
      cases h
    · rw [ofArguments_cons hend] at h
      cases hoption : ofToken? token with
      | none =>
        rw [hoption] at h
        obtain ⟨other, hmem, hother⟩ := ih h
        exact ⟨other, List.mem_cons_of_mem _ hmem, hother⟩
      | some option =>
        rw [hoption] at h
        rcases List.mem_cons.1 h with rfl | h
        · exact ⟨token, List.mem_cons_self, hoption⟩
        · obtain ⟨other, hmem, hother⟩ := ih h
          exact ⟨other, List.mem_cons_of_mem _ hmem, hother⟩

theorem ofArguments_written {name : String} (h : '=' ∉ name.toList) (text : String)
    (arguments : List String) :
    ofArguments (written name text :: arguments) =
      ⟨⟨⟨name, some text, written name text, false⟩ :: (ofArguments arguments).options.tokens⟩,
        (ofArguments arguments).positionals⟩ := by
  rw [ofArguments_cons (written_ne_endOfOptions name text), ofToken?_written h]

/-- Some arguments hold a token of a name if and only if no `=` stands in the name. -/
theorem exists_names_iff {name : String} :
    (∃ arguments, (ofArguments arguments).options.Names [name]) ↔ '=' ∉ name.toList := by
  constructor
  · rintro ⟨arguments, t, ht, hname⟩
    obtain ⟨token, -, htoken⟩ := exists_ofToken?_of_mem ht
    exact List.mem_singleton.1 hname ▸ notMem_name_of_ofToken? htoken
  · intro h
    refine ⟨[written name ""], ?_⟩
    rw [ofArguments_written h]
    exact ⟨_, List.mem_cons_self, List.mem_singleton.2 rfl⟩

end Partition

namespace Binder

open Parameter Except OptionToken

variable {b : Binder} {given : Partition} {a : Attributes} {type : ValueType}

/-! ## Left over options -/

/-- The faults of rules. No rule speaks of arguments that are left over. -/
inductive RuleFault : Fault → Prop
  | conversion (failure : ConversionFailure) : RuleFault (.conversion failure)
  | cyclicSubstitution (chain : List String) : RuleFault (.cyclicSubstitution chain)
  | missingArgument (label : String) (cause : Lack) : RuleFault (.missingArgument label cause)

namespace RuleFault

theorem of_convert (raw : Value) (label : String) :
    FailsOnly RuleFault (b.convert raw type label) := by
  intro fault hfault
  obtain ⟨failure, -, rfl⟩ := Except.mapError_eq_error_iff.1 hfault
  exact .conversion failure

theorem of_defaultOr {label : String} {otherwise : Except Fault Value}
    (h : FailsOnly RuleFault otherwise) :
    FailsOnly RuleFault (b.defaultOr a type label otherwise) := by
  unfold defaultOr
  split
  · exact h
  · split
    · rename_i fault hfault
      obtain ⟨chain, rfl⟩ := Resolver.fault_of_substitute hfault
      exact .error (.cyclicSubstitution chain)
    · exact h
    · exact of_convert _ _

theorem of_plainRule (index : Nat) (positional? : Option String) :
    FailsOnly RuleFault (b.plainRule a type index positional?) := by
  unfold plainRule
  cases positional? with
  | some text => exact of_convert _ _
  | none => exact of_defaultOr (.error (.missingArgument _ _))

theorem of_optionRule (token? : Option OptionToken) :
    FailsOnly RuleFault (b.optionRule a type token?) := by
  unfold optionRule
  split
  · exact of_convert _ _
  · split
    · exact of_convert _ _
    · exact .error (.missingArgument _ _)
  · refine of_defaultOr ?_
    split
    · exact .ok _
    · split
      · exact .ok _
      · exact .error (.missingArgument _ _)

mutual

theorem of_rule (p : Parameter) (index place : Nat) :
    FailsOnly RuleFault (b.rule given index place p) := by
  match p with
  | .plain a type =>
    rw [rule]
    exact of_plainRule _ _
  | .option a type =>
    rw [rule]
    exact of_optionRule _
  | .bean a type members =>
    rw [rule]
    split
    · exact .ok _
    · exact (of_rules members 0 place).map _
  | .internal a =>
    rw [rule]
    exact .ok _

theorem of_rules (l : List Parameter) (index place : Nat) :
    FailsOnly RuleFault (b.rules given index place l) := by
  match l with
  | [] =>
    rw [rules]
    exact .ok _
  | p :: rest =>
    rw [rules]
    exact (of_rule p index place).bind fun value _ => (of_rules rest _ _).map _

end

end RuleFault

theorem exists_token_of_unknownOption {declared : List Parameter} (hsound : Sound declared)
    {arguments : List String} {token : String}
    (h : b.bind declared arguments = .error (.unknownOption token)) :
    ∃ t ∈ (Partition.ofArguments arguments).options.tokens, t.raw = token ∧
      t.name ∉ optionNamesOfAll declared := by
  cases (bind_eq_error_iff hsound).1 h with
  | parameter hp hfault hbefore => cases RuleFault.of_rule _ _ _ _ hfault
  | unknownOption hvalues ht =>
    exact ⟨_, List.mem_of_find?_eq_some ht, rfl, by simpa using List.find?_some ht⟩

/-! ## Options that are refused -/

/-- A parameter that is declared before the option of the given name fails with the fault. -/
inductive FailsBefore (b : Binder) (given : Partition) (name : String) (fault : Fault) :
    Nat → Nat → List Parameter → Prop
  | head {index place : Nat} {p : Parameter} {rest : List Parameter} (hname : name ∉ p.optionNames)
      (h : b.rule given index place p = .error fault) :
      FailsBefore b given name fault index place (p :: rest)
  | tail {index place : Nat} {p : Parameter} {rest : List Parameter} (hname : name ∉ p.optionNames)
      (h : FailsBefore b given name fault (index + 1) (place + if p.isPlain then 1 else 0) rest) :
      FailsBefore b given name fault index place (p :: rest)
  | inside {index place : Nat} {a : Attributes} {type : String} {members rest : List Parameter}
      (h : FailsBefore b given name fault 0 place members) :
      FailsBefore b given name fault index place (.bean a type members :: rest)

theorem FailsBefore.of_singleton {name : String} {fault : Fault} {index place : Nat}
    {p : Parameter} (h : FailsBefore b given name fault index place [p])
    (hname : name ∈ p.optionNames) (rest : List Parameter) :
    FailsBefore b given name fault index place (p :: rest) := by
  cases h with
  | head hother => exact absurd hname hother
  | tail hother => exact absurd hname hother
  | inside h => exact .inside h

/-- The option gets a token with a text that its type refuses, for the stated fault. -/
structure Refused (b : Binder) (given : Partition) (a : Attributes) (type : ValueType)
    (fault : Fault) : Prop where
  named : given.options.Names [a.name]
  rule_eq : b.optionRule a type (given.options.last? a.name) = .error fault

mutual

theorem rule_of_refused {isMember : Bool} {p : Parameter} (hp : Standing isMember p)
    (hoption : (a, type) ∈ p.options) {refusal : Fault} (h : Refused b given a type refusal)
    (index place : Nat) :
    b.rule given index place p = .error refusal ∨
      ∃ fault, b.rule given index place p = .error fault ∧
        FailsBefore b given a.name fault index place [p] := by
  match p with
  | .option a' type' =>
    obtain ⟨rfl, rfl⟩ : a = a' ∧ type = type' := by simpa [options] using hoption
    rw [rule]
    exact .inl h.rule_eq
  | .bean a' type' members =>
    have hname := name_mem_optionNamesOfAll hoption
    have hnames : given.options.Names (optionNamesOfAll members) := by
      obtain ⟨t, ht, hsame⟩ := h.named
      exact ⟨t, ht, List.mem_singleton.1 hsame ▸ hname⟩
    rw [rule, if_neg fun hnull => hnull.2 hnames]
    obtain hmembers | ⟨fault, hmembers, hbefore⟩ := rules_of_refused hp.members hoption h 0 place
    · exact .inl (Except.map_eq_error_iff.2 hmembers)
    · exact .inr ⟨fault, Except.map_eq_error_iff.2 hmembers, .inside hbefore⟩

theorem rules_of_refused {isMember : Bool} {l : List Parameter} (hl : StandingAll isMember l)
    (hoption : (a, type) ∈ optionsOfAll l) {refusal : Fault} (h : Refused b given a type refusal)
    (index place : Nat) :
    b.rules given index place l = .error refusal ∨
      ∃ fault, b.rules given index place l = .error fault ∧
        FailsBefore b given a.name fault index place l := by
  match l with
  | p :: rest =>
    obtain ⟨hp, hrest, hnew⟩ := standingAll_cons_iff.1 hl
    rw [optionsOfAll, List.mem_append] at hoption
    rw [rules]
    rcases hoption with hoption | hoption
    · obtain hfirst | ⟨fault, hfirst, hbefore⟩ := rule_of_refused hp hoption h index place
      · exact .inl (Except.bind_eq_error_iff.2 (.inl hfirst))
      · refine .inr ⟨fault, Except.bind_eq_error_iff.2 (.inl hfirst), ?_⟩
        exact hbefore.of_singleton (name_mem_optionNames hoption) rest
    · have hname := hnew a.name (name_mem_optionNamesOfAll hoption)
      cases hfirst : b.rule given index place p with
      | error fault => exact .inr ⟨fault, rfl, .head hname hfirst⟩
      | ok value =>
        obtain hothers | ⟨fault, hothers, hbefore⟩ := rules_of_refused hrest hoption h
          (index + 1) (place + if p.isPlain then 1 else 0)
        · exact .inl (Except.map_eq_error_iff.2 hothers)
        · exact .inr ⟨fault, Except.map_eq_error_iff.2 hothers, .tail hname hbefore⟩

end

/-- Binding fails for an option that is refused, unless it fails for an earlier parameter. -/
theorem bind_of_refused {declared : List Parameter} (hsound : Sound declared)
    (hoption : (a, type) ∈ optionsOfAll declared) {arguments : List String} {refusal : Fault}
    (h : Refused b (.ofArguments arguments) a type refusal) :
    b.bind declared arguments = .error refusal ∨
      ∃ fault, b.bind declared arguments = .error fault ∧
        FailsBefore b (.ofArguments arguments) a.name fault 0 0 declared := by
  rw [bind_eq_rules b hsound]
  obtain hrules | ⟨fault, hrules, hbefore⟩ := rules_of_refused (.of_sound hsound) hoption h 0 0
  · exact .inl (Except.bind_eq_error_iff.2 (.inl hrules))
  · exact .inr ⟨fault, Except.bind_eq_error_iff.2 (.inl hrules), hbefore⟩

/-! ## Options that are given -/

theorem last?_ofArguments_written {name : String} (h : '=' ∉ name.toList) (text : String)
    {arguments : List String} (hother : ¬ (Partition.ofArguments arguments).options.Names [name]) :
    (Partition.ofArguments (written name text :: arguments)).options.last? name =
      some ⟨name, some text, written name text, false⟩ := by
  have hnone := OptionPool.last?_eq_none hother
  unfold OptionPool.last? at hnone
  rw [Partition.ofArguments_written h]
  unfold OptionPool.last?
  rw [List.reverse_cons, List.find?_append, hnone]
  simp

theorem boundTo_of_bind {declared : List Parameter} (hsound : Sound declared)
    (hoption : (a, type) ∈ optionsOfAll declared) {arguments : List String}
    (hgiven : (Partition.ofArguments arguments).options.Names [a.name]) {value : Value}
    (hrule : b.optionRule a type ((Partition.ofArguments arguments).options.last? a.name) =
      .ok value) {values : List Value} (h : b.bind declared arguments = .ok values) :
    BoundTo (.option a type) value declared values := by
  have hrules := gives_iff.1 ((bind_eq_ok_iff hsound).1 h).1
  obtain ⟨found, hfound⟩ := exists_boundTo_of_rules hoption hgiven hrules
  obtain ⟨-, index, place, -, hvalue⟩ := rule_of_boundTo hfound (.of_sound hsound) hrules
  rw [rule, hrule] at hvalue
  exact Except.ok.inj hvalue ▸ hfound

theorem bind_written (hname : '=' ∉ a.name.toList) (text : String) :
    b.bind [.option a type] [written a.name text] =
      (b.convert (.text text) type ("--" ++ a.name)).map ([·]) := by
  let token : OptionToken := ⟨a.name, some text, written a.name text, false⟩
  have htake : OptionPool.take a.name ⟨[token]⟩ =
      (some token, ⟨[{ token with taken := true }]⟩) := by
    simp [OptionPool.take, OptionPool.available, token]
  have hgiven : Partition.ofArguments [written a.name text] = ⟨⟨[token]⟩, []⟩ :=
    Partition.ofArguments_written hname text []
  have hoption : b.option a type (some token) = b.convert (.text text) type ("--" ++ a.name) :=
    option_eq_rule ..
  unfold bind
  simp only [hgiven, parameters, parameter, htake, hoption]
  cases b.convert (.text text) type ("--" ++ a.name) <;> rfl

/-- **Options that can be given.** There is a token for an option of a command if and only if its
name holds no `=`. Then the token that writes a text for it is its own and is not left over; and
without another token of the name the option is bound to the conversion of the text, or, if that
fails, binding fails for it, unless it fails for an earlier parameter. -/
theorem option_given {commands : List Command} {registry : Registry}
    (hregistry : Registry.ofCommands commands = .ok registry) {command : Command}
    (hcommand : command ∈ registry.commands) {a : Attributes} {type : ValueType}
    (hoption : (a, type) ∈ optionsOfAll command.parameters) (b : Binder) :
    ((∃ arguments, (Partition.ofArguments arguments).options.Names [a.name]) ↔
      '=' ∉ a.name.toList) ∧
    ('=' ∉ a.name.toList → ∀ text arguments,
      ofToken? (written a.name text) = some ⟨a.name, some text, written a.name text, false⟩ ∧
      b.bind command.parameters (written a.name text :: arguments) ≠
        .error (.unknownOption (written a.name text)) ∧
      (¬ (Partition.ofArguments arguments).options.Names [a.name] →
        match b.convert (.text text) type ("--" ++ a.name) with
        | .ok value => ∀ values,
          b.bind command.parameters (written a.name text :: arguments) = .ok values →
            BoundTo (.option a type) value command.parameters values
        | .error refusal =>
          b.bind command.parameters (written a.name text :: arguments) = .error refusal ∨
            ∃ fault, b.bind command.parameters (written a.name text :: arguments) = .error fault ∧
              FailsBefore b (.ofArguments (written a.name text :: arguments)) a.name fault 0 0
                command.parameters)) := by
  have hsound := Registry.sound_of_ofCommands hregistry hcommand
  refine ⟨Partition.exists_names_iff, fun hname text arguments => ?_⟩
  have htoken := ofToken?_written hname text
  refine ⟨htoken, fun hleft => ?_, fun hother => ?_⟩
  · -- its token is not left over
    obtain ⟨t, ht, hraw, hnotMem⟩ := exists_token_of_unknownOption hsound hleft
    obtain ⟨token, -, hread⟩ := Partition.exists_ofToken?_of_mem ht
    rw [← raw_of_ofToken? hread, hraw, htoken] at hread
    exact hnotMem (Option.some.inj hread ▸ name_mem_optionNamesOfAll hoption)
  · -- it is the last of its name
    have hgiven : (Partition.ofArguments (written a.name text :: arguments)).options.Names
        [a.name] := by
      rw [Partition.ofArguments_written hname]
      exact ⟨_, List.mem_cons_self, List.mem_singleton.2 rfl⟩
    have hrule : b.optionRule a type
        ((Partition.ofArguments (written a.name text :: arguments)).options.last? a.name) =
          b.convert (.text text) type ("--" ++ a.name) := by
      rw [last?_ofArguments_written hname text hother]
      rfl
    cases hconvert : b.convert (.text text) type ("--" ++ a.name) with
    | ok value => exact fun values => boundTo_of_bind hsound hoption hgiven (hrule.trans hconvert)
    | error refusal => exact bind_of_refused hsound hoption ⟨hgiven, hrule.trans hconvert⟩

/-- A command with an option whose name no token can have. -/
def assignSample : Command where
  name := "assign"
  parameters :=
    [.option { name := "a=b" } ⟨.text, true⟩,
      .bean { name := "to", nillable := true } "To" [.option { name := "c" } ⟨.text, false⟩]]
  target := ⟨"Sample", "assign", none⟩
  action := fun _ => { result := .ok .null }

/-- The registry accepts the option, and its own token is an option that nobody declares. -/
theorem option_never_given :
    Registry.ofCommands [assignSample] = .ok (.push .empty assignSample) ∧
      "a=b" ∈ optionNamesOfAll assignSample.parameters ∧
      Binder.bind ⟨∅, ⟨[], ∅⟩, ∅⟩ assignSample.parameters ["--a=b=v"] =
        .error (.unknownOption "--a=b=v") := ⟨rfl, by decide, by cbv⟩

/-- The option inside of the group is given, and brings the group about. -/
theorem option_given_inside :
    Registry.ofCommands [assignSample] = .ok (.push .empty assignSample) ∧
      assignSample ∈ [assignSample] ∧
      (⟨"c", none, false⟩, ⟨.text, false⟩) ∈ optionsOfAll assignSample.parameters ∧
      Binder.bind ⟨∅, ⟨[], ∅⟩, ∅⟩ assignSample.parameters ["--c=yes"] =
        .ok [.null, .bean "To" [("c", .text "yes")]] ∧
      BoundTo (.option { name := "c" } ⟨.text, false⟩) (.text "yes") assignSample.parameters
        [.null, .bean "To" [("c", .text "yes")]] := by
  have hregistry : Registry.ofCommands [assignSample] = .ok (.push .empty assignSample) := rfl
  have hcommand : assignSample ∈ [assignSample] := List.mem_singleton.2 rfl
  have hoption : (⟨"c", none, false⟩, ⟨.text, false⟩) ∈ optionsOfAll assignSample.parameters := by
    decide
  have hbind : Binder.bind ⟨∅, ⟨[], ∅⟩, ∅⟩ assignSample.parameters [written "c" "yes"] =
      .ok [.null, .bean "To" [("c", .text "yes")]] := by cbv
  have hconvert : Binder.convert ⟨∅, ⟨[], ∅⟩, ∅⟩ (.text "yes") ⟨.text, false⟩ "--c" =
      .ok (.text "yes") := by cbv
  obtain ⟨-, -, hgiven⟩ := (option_given hregistry hcommand hoption
    ⟨∅, ⟨[], ∅⟩, ∅⟩).2 (by decide) "yes" []
  have hbound := hgiven (by decide)
  rw [show "--" ++ Attributes.name ⟨"c", none, false⟩ = "--c" from rfl, hconvert] at hbound
  exact ⟨hregistry, hcommand, hoption, hbind, hbound _ hbind⟩

end Binder

end CommandLine
