import CommandLine.Proofs.Binding.Exactness
import CommandLine.Proofs.Binding.Supplied
import CommandLine.Proofs.Substitution.Plain

/-!
# Required parameters

A parameter says of itself whether it is required, and binding finds out what is missing. The two
agree: if the defaults hold, binding without arguments fails for the first required parameter that
it asks for (`Parameter.asked`), and succeeds if no parameter is required (`bind_nil_exact`).
-/

namespace CommandLine

namespace Parameter

mutual

/-- The plain parameters and options that binding asks for when nothing is given, in the order of
declaration, each with its index in its list. A group that may be null asks for nothing. -/
def asked (index : Nat) : Parameter → List (Nat × Parameter)
  | plain a type => [(index, plain a type)]
  | option a type => [(index, option a type)]
  | bean a _ members => if a.nillable then [] else askedOfAll 0 members
  | internal _ => []

def askedOfAll (index : Nat) : List Parameter → List (Nat × Parameter)
  | [] => []
  | p :: rest => asked index p ++ askedOfAll (index + 1) rest

end

mutual

theorem any_asked (index : Nat) (p : Parameter) :
    (asked index p).any (·.2.isRequired) = p.isRequired := by
  match p with
  | .plain a type => rw [asked, List.any_cons, List.any_nil, Bool.or_false]
  | .option a type => rw [asked, List.any_cons, List.any_nil, Bool.or_false]
  | .bean a type members =>
    rw [asked, isRequired]
    cases a.nillable with
    | true => rfl
    | false => exact any_askedOfAll 0 members
  | .internal a => rfl

theorem any_askedOfAll (index : Nat) (l : List Parameter) :
    (askedOfAll index l).any (·.2.isRequired) = anyRequired l := by
  match l with
  | [] => rfl
  | p :: rest =>
    rw [askedOfAll, List.any_append, any_asked index p, any_askedOfAll (index + 1) rest,
      anyRequired]

end

theorem find?_askedOfAll_eq_none_iff {index : Nat} {l : List Parameter} :
    (askedOfAll index l).find? (·.2.isRequired) = none ↔ ∀ p ∈ l, p.isRequired = false := by
  have hany : (askedOfAll index l).any (·.2.isRequired) = l.any (·.isRequired) := by
    rw [any_askedOfAll, anyRequired_eq]
  rw [← Option.not_isSome_iff_eq_none, List.find?_isSome, ← List.any_eq_true, hany]
  simp

/-- The name under which a plain parameter or an option is missed. -/
def missedName (index : Nat) : Parameter → String
  | plain a _ => if a.name = "" then s!"arg{index}" else a.name
  | p => "--" ++ p.name

/-- Why a plain parameter or an option has no value. -/
def lack : Parameter → Lack
  | plain .. => .noPositional
  | p => .notGiven p.type.name

end Parameter

namespace Binder

open Parameter

/-- Every default resolves to a text that its type takes. -/
def DefaultsHold (b : Binder) (types : List (Attributes × ValueType)) : Prop :=
  ∀ entry ∈ types, ∀ expression, entry.1.default? = some expression →
    ∃ text name value, b.resolver.substitute expression = .ok (some text) ∧
      b.converters.convert (.text text) entry.2 name = .ok value

/-- The computation fails for the first required one of the parameters, and succeeds if there is
none. -/
def Misses {α : Type} (asked : List (Nat × Parameter)) (x : Except Fault α) : Prop :=
  match asked.find? (·.2.isRequired) with
  | some (index, p) => x = .error (.missingArgument (p.missedName index) p.lack)
  | none => ∃ a, x = .ok a

namespace Misses

variable {α β : Type} {l l' : List (Nat × Parameter)}

theorem nil (a : α) : Misses [] (.ok a) := ⟨a, rfl⟩

theorem of_required {index : Nat} {p : Parameter} (h : p.isRequired = true) {x : Except Fault α}
    (hx : x = .error (.missingArgument (p.missedName index) p.lack)) : Misses [(index, p)] x := by
  unfold Misses
  rw [List.find?_cons_of_pos (p := fun q : Nat × Parameter => q.2.isRequired) h]
  exact hx

theorem of_not_required {index : Nat} {p : Parameter} (h : p.isRequired = false)
    {x : Except Fault α} (hx : ∃ a, x = .ok a) : Misses [(index, p)] x := by
  unfold Misses
  rw [List.find?_cons_of_neg (by simp [h])]
  exact hx

/-- Of two steps, the second is asked only if the first misses nothing. -/
theorem bind {x : Except Fault α} (hx : Misses l x) {f : α → Except Fault β}
    (hf : ∀ a, Misses l' (f a)) : Misses (l ++ l') (x.bind f) := by
  unfold Misses at hx ⊢
  rw [List.find?_append]
  cases hfirst : l.find? (·.2.isRequired) with
  | some q =>
    rw [hfirst] at hx
    simp only [Option.some_or]
    rw [hx]
    rfl
  | none =>
    rw [hfirst] at hx
    obtain ⟨a, rfl⟩ := hx
    simp only [Option.none_or]
    exact hf a

theorem map {x : Except Fault α} (hx : Misses l x) (f : α → β) : Misses l (x.map f) := by
  have h : Misses (l ++ []) (x.bind fun a => .ok (f a)) := hx.bind fun a => .nil (f a)
  rw [List.append_nil] at h
  cases x <;> exact h

end Misses

variable {b : Binder} {a : Attributes} {type : ValueType}

theorem defaultOr_of_holds (h : b.DefaultsHold [(a, type)]) {expression : String}
    (hdefault : a.default? = some expression) (label : String) (otherwise : Except Fault Value) :
    ∃ value, b.defaultOr a type label otherwise = .ok value := by
  obtain ⟨text, name, value, htext, hvalue⟩ := h _ List.mem_cons_self expression hdefault
  refine ⟨value, ?_⟩
  unfold defaultOr
  rw [hdefault]
  simp only [htext]
  exact Except.mapError_eq_ok_iff.2
    (Converters.convert_eq_ok_iff.2 (Converters.convert_eq_ok_iff.1 hvalue))

theorem defaultOr_of_none (h : a.default? = none) (label : String)
    (otherwise : Except Fault Value) : b.defaultOr a type label otherwise = otherwise := by
  unfold defaultOr
  rw [h]

theorem misses_plainRule (h : b.DefaultsHold [(a, type)]) (index : Nat) :
    Misses [(index, .plain a type)] (b.plainRule a type index none) := by
  cases hdefault : a.default? with
  | some expression =>
    refine .of_not_required (by simp [isRequired, hdefault]) ?_
    exact defaultOr_of_holds h hdefault _ _
  | none =>
    refine .of_required (by simp [isRequired, hdefault]) ?_
    exact defaultOr_of_none hdefault _ _

theorem misses_optionRule (h : b.DefaultsHold [(a, type)]) (index : Nat) :
    Misses [(index, .option a type)] (b.optionRule a type none) := by
  cases hdefault : a.default? with
  | some expression =>
    refine .of_not_required (by simp [isRequired, hdefault]) ?_
    exact defaultOr_of_holds h hdefault _ _
  | none =>
    have hrule (otherwise : Except Fault Value) :
        b.defaultOr a type ("--" ++ a.name) otherwise = otherwise :=
      defaultOr_of_none hdefault _ otherwise
    cases hnullable : type.nullable with
    | true =>
      refine .of_not_required (by simp [isRequired, hnullable]) ⟨.null, ?_⟩
      exact (hrule _).trans (if_pos hnullable)
    | false =>
      cases hzero : type.zero? with
      | some zero =>
        refine .of_not_required (by simp [isRequired, hzero]) ⟨zero, (hrule _).trans ?_⟩
        rw [if_neg (by simp [hnullable])]
        simp only [hzero]
      | none =>
        refine .of_required (by simp [isRequired, hdefault, hnullable, hzero]) ((hrule _).trans ?_)
        rw [if_neg (by simp [hnullable])]
        simp only [hzero]
        rfl

/-- No arguments at all. -/
def nothing : Partition := ⟨⟨[]⟩, []⟩

mutual

theorem misses_rule {p : Parameter} (h : b.DefaultsHold p.typed) (index place : Nat) :
    Misses (asked index p) (b.rule nothing index place p) := by
  match p with
  | .plain a type =>
    rw [asked, rule]
    exact misses_plainRule h index
  | .option a type =>
    rw [asked, rule]
    exact misses_optionRule h index
  | .bean a type members =>
    rw [asked, rule]
    have hnames : ¬ nothing.options.Names (optionNamesOfAll members) := by
      rintro ⟨t, ht, -⟩
      cases ht
    by_cases hnillable : a.nillable = true
    · rw [if_pos hnillable, if_pos ⟨hnillable, hnames⟩]
      exact .nil Value.null
    · rw [if_neg hnillable, if_neg fun hnull => hnillable hnull.1]
      exact (misses_rules h 0 place).map _
  | .internal a =>
    rw [asked, rule]
    exact .nil _

theorem misses_rules {l : List Parameter} (h : b.DefaultsHold (typedOfAll l)) (index place : Nat) :
    Misses (askedOfAll index l) (b.rules nothing index place l) := by
  match l with
  | [] =>
    rw [askedOfAll, rules]
    exact .nil []
  | p :: rest =>
    rw [askedOfAll, rules]
    refine Misses.bind ?_ fun value => Misses.map ?_ _
    · exact misses_rule (fun entry hentry => h entry (List.mem_append_left _ hentry)) index place
    · exact misses_rules (fun entry hentry => h entry (List.mem_append_right _ hentry)) _ _

end

/-- Without arguments nothing is left over. -/
theorem bind_nil_eq_rules {declared : List Parameter} (hsound : Sound declared) :
    b.bind declared [] = b.rules nothing 0 0 declared := by
  have hgiven : Partition.ofArguments [] = nothing := rfl
  rw [bind_eq_rules b hsound, hgiven]
  cases b.rules nothing 0 0 declared with
  | error fault => rfl
  | ok values => rfl

/-- **What is required.** If every default holds, binding a command without arguments succeeds when
none of its parameters is required, and otherwise fails for the first plain parameter or option that
is, in the order of declaration and not inside of groups that may be null. -/
theorem bind_nil_exact {commands : List Command} {registry : Registry}
    (hregistry : Registry.ofCommands commands = .ok registry) {command : Command}
    (hcommand : command ∈ registry.commands) {b : Binder}
    (hdefaults : b.DefaultsHold (typedOfAll command.parameters)) :
    ((∃ values, b.bind command.parameters [] = .ok values) ↔
      ∀ p ∈ command.parameters, p.isRequired = false) ∧
    ((∃ p ∈ command.parameters, p.isRequired = true) →
      ∃ index p, (askedOfAll 0 command.parameters).find? (·.2.isRequired) = some (index, p) ∧
        b.bind command.parameters [] =
          .error (.missingArgument (p.missedName index) p.lack)) := by
  have hmisses := misses_rules hdefaults 0 0
  rw [← bind_nil_eq_rules (Registry.sound_of_ofCommands hregistry hcommand)] at hmisses
  unfold Misses at hmisses
  cases hfirst : (askedOfAll 0 command.parameters).find? (·.2.isRequired) with
  | some q =>
    obtain ⟨index, p⟩ := q
    rw [hfirst] at hmisses
    refine ⟨⟨fun ⟨values, hvalues⟩ => ?_, fun hnone => ?_⟩, fun _ => ⟨index, p, rfl, hmisses⟩⟩
    · rw [hmisses] at hvalues
      cases hvalues
    · rw [find?_askedOfAll_eq_none_iff.2 hnone] at hfirst
      cases hfirst
  | none =>
    rw [hfirst] at hmisses
    have hnone := find?_askedOfAll_eq_none_iff.1 hfirst
    refine ⟨⟨fun _ => hnone, fun _ => hmisses⟩, ?_⟩
    rintro ⟨p, hp, hrequired⟩
    rw [hnone p hp] at hrequired
    cases hrequired

/-- A command whose defaults and groups leave one option to be given. -/
def mailSample : Command where
  name := "mail"
  parameters :=
    [.plain { name := "to", default? := some "${who:-me}" } ⟨.text, false⟩,
      .option { name := "copies" } ⟨.int, false⟩,
      .bean { name := "proxy", nillable := true } "Proxy"
        [.option { name := "host" } ⟨.text, false⟩],
      .bean { name := "head" } "Head"
        [.option { name := "note" } ⟨.text, true⟩, .option { name := "subject" } ⟨.text, false⟩],
      .plain { name := "" } ⟨.text, false⟩]
  target := ⟨"Sample", "mail", none⟩
  action := fun _ => { result := .ok .null }

theorem defaultsHold_mailSample :
    Binder.DefaultsHold ⟨∅, ⟨[], ∅⟩, ∅⟩ (typedOfAll mailSample.parameters) := by
  intro entry hentry expression hdefault
  simp only [mailSample, typedOfAll, typed, List.cons_append, List.nil_append, List.mem_cons,
    List.not_mem_nil, or_false] at hentry
  rcases hentry with rfl | rfl | rfl | rfl | rfl | rfl
  · obtain rfl : "${who:-me}" = expression := Option.some.inj hdefault
    have hopens : ¬ Reference.Opens "me".toList := by decide
    have htext := Resolver.substitute_withDefault (r := ⟨[], ∅⟩)
      ⟨"who", by decide, by decide +kernel, by simp⟩ hopens (by decide) nofun
    exact ⟨"me", "", .text "me", htext, rfl⟩
  all_goals cases hdefault

/-- The group that may be null is passed over, and of the two that are missing the option inside of
the other group comes first. -/
theorem bind_nil_exact_mail :
    Registry.ofCommands [mailSample] = .ok (.push .empty mailSample) ∧ mailSample ∈ [mailSample] ∧
      Binder.DefaultsHold ⟨∅, ⟨[], ∅⟩, ∅⟩ (typedOfAll mailSample.parameters) ∧
      Binder.bind ⟨∅, ⟨[], ∅⟩, ∅⟩ mailSample.parameters [] =
        .error (.missingArgument "--subject" (.notGiven "text")) := by
  have hregistry : Registry.ofCommands [mailSample] = .ok (.push .empty mailSample) := rfl
  have hcommand : mailSample ∈ [mailSample] := List.mem_singleton.2 rfl
  obtain ⟨index, p, hfirst, hbind⟩ :=
    (bind_nil_exact hregistry hcommand defaultsHold_mailSample).2
      ⟨_, List.mem_of_getElem? (i := 3) rfl, rfl⟩
  obtain ⟨rfl, rfl⟩ : 1 = index ∧ Parameter.option { name := "subject" } ⟨.text, false⟩ = p := by
    simpa using Option.some.inj hfirst
  exact ⟨hregistry, hcommand, defaultsHold_mailSample, hbind⟩

end Binder

end CommandLine
