import CommandLine.Proofs.Invocation.Preparation
import CommandLine.Proofs.Registry.Places
import Mathlib.Data.List.TakeWhile

/-!
# Which declarations the registry accepts

`Registry.Declarable` says which commands can be declared together, and `Registry.Refuses` which
fault there is otherwise: that of the first command that cannot be declared after those before it,
and of the reasons for that the first that counts (`Offends`). `ofCommands_exact`: the registry
answers accordingly, and what it has accepted is found by name, also by an engine that runs a list
of tokens.
-/

namespace CommandLine

/-! ## Names that are repeated -/

/-- The element of a list is the first that has stood there before. -/
def FirstRepeated {α : Type} (l : List α) (a : α) : Prop :=
  ∃ before after, l = before ++ a :: after ∧ a ∈ before ∧ before.Nodup

theorem firstRepeated?_eq_some_iff {α : Type} [BEq α] [LawfulBEq α] {seen l : List α} {a : α} :
    firstRepeated? seen l = some a ↔ ∃ before after, l = before ++ a :: after ∧
      (a ∈ seen ∨ a ∈ before) ∧ before.Nodup ∧ ∀ b ∈ before, b ∉ seen := by
  induction l generalizing seen with
  | nil => simp [firstRepeated?]
  | cons first rest ih =>
    rw [firstRepeated?]
    by_cases hseen : first ∈ seen
    · rw [if_pos (by simpa using hseen), Option.some.injEq]
      constructor
      · rintro rfl
        exact ⟨[], rest, rfl, .inl hseen, List.nodup_nil, List.forall_mem_nil _⟩
      · rintro ⟨before, after, hl, -, -, hbefore⟩
        cases before with
        | nil => exact (List.cons.inj hl).1
        | cons b before =>
          obtain ⟨rfl, -⟩ := List.cons.inj hl
          exact absurd hseen (hbefore _ List.mem_cons_self)
    · rw [if_neg (by simpa using hseen), ih]
      constructor
      · rintro ⟨before, after, rfl, ha, hnodup, hbefore⟩
        have hfirst : first ∉ before := fun h => hbefore first h List.mem_cons_self
        refine ⟨first :: before, after, rfl, ?_, List.nodup_cons.2 ⟨hfirst, hnodup⟩, ?_⟩
        · simpa only [List.mem_cons, or_assoc, or_left_comm] using ha
        · intro b hb
          rcases List.mem_cons.1 hb with rfl | hb
          · exact hseen
          · exact fun h => hbefore b hb (List.mem_cons_of_mem _ h)
      · rintro ⟨before, after, hl, ha, hnodup, hbefore⟩
        cases before with
        | nil =>
          obtain ⟨rfl, -⟩ := List.cons.inj hl
          simp [hseen] at ha
        | cons b before =>
          obtain ⟨rfl, rfl⟩ := List.cons.inj hl
          obtain ⟨hfirst, hnodup⟩ := List.nodup_cons.1 hnodup
          refine ⟨before, after, rfl, ?_, hnodup, ?_⟩
          · simpa only [List.mem_cons, or_assoc, or_left_comm] using ha
          · intro c hc hmem
            rcases List.mem_cons.1 hmem with rfl | hmem
            · exact hfirst hc
            · exact hbefore c (List.mem_cons_of_mem _ hc) hmem

theorem firstRepeated?_nil_eq_some_iff {α : Type} [BEq α] [LawfulBEq α] {l : List α} {a : α} :
    firstRepeated? [] l = some a ↔ FirstRepeated l a := by
  simp [firstRepeated?_eq_some_iff, FirstRepeated]

namespace Registry

open Parameter

/-! ## One command -/

/-- A name that no command may have. -/
def BadName (name : String) : Prop := name = "" ∨ Argv.isDashed name

instance (name : String) : Decidable (BadName name) :=
  inferInstanceAs (Decidable (name = "" ∨ Argv.isDashed name))

/-- Why a command cannot be declared after commands of the given names. The name counts before the
parameters, and the flaws of parameters before the names of options. -/
inductive Offends (taken : List String) (c : Command) : Fault → Prop
  | badName (hname : BadName c.name) : Offends taken c (.invalidDeclaration c.name .commandName)
  | repeatedName (hname : ¬ BadName c.name) (htaken : c.name ∈ taken) :
      Offends taken c (.duplicateCommand c.name)
  | parameter (hname : ¬ BadName c.name) (htaken : c.name ∉ taken) {flaw : DeclarationFlaw}
      (hflaw : FirstFlaw c.parameters flaw) :
      Offends taken c (.invalidDeclaration c.name flaw)
  | optionName (hname : ¬ BadName c.name) (htaken : c.name ∉ taken)
      (hflawless : Flawless c.parameters) {option : String}
      (hrepeated : FirstRepeated (optionNamesOfAll c.parameters) option) :
      Offends taken c (.duplicateOptionName c.name option)

theorem isBadName_eq_true_iff {name : String} : isBadName name = true ↔ BadName name := by
  simp [isBadName, BadName, Argv.isDashed, String.isEmpty_iff]

theorem check_eq_ok_iff {r : Registry} {c : Command} :
    r.check c = .ok () ↔ ¬ BadName c.name ∧ c.name ∉ r.names ∧ Sound c.parameters := by
  unfold check
  by_cases hname : BadName c.name
  · rw [if_pos (isBadName_eq_true_iff.2 hname)]
    simp [hname]
  · rw [if_neg (mt isBadName_eq_true_iff.1 hname)]
    by_cases htaken : c.name ∈ r.names
    · rw [if_pos (contains_index_iff.2 htaken)]
      simp [htaken]
    · rw [if_neg (mt contains_index_iff.1 htaken), checkParameters_eq_ok_iff]
      simp [hname, htaken]

theorem check_eq_error_iff {r : Registry} {c : Command} {fault : Fault} :
    r.check c = .error fault ↔ Offends r.names c fault := by
  unfold check checkParameters
  constructor
  · intro h
    split at h
    · rename_i hname
      exact Except.error.inj h ▸ .badName (isBadName_eq_true_iff.1 hname)
    rename_i hname
    rw [isBadName_eq_true_iff] at hname
    split at h
    · rename_i htaken
      exact Except.error.inj h ▸ .repeatedName hname (contains_index_iff.1 htaken)
    rename_i htaken
    rw [contains_index_iff] at htaken
    split at h
    · rename_i flaw hflaw
      exact Except.error.inj h ▸ .parameter hname htaken (firstFlawOfAll?_eq_some_iff.1 hflaw)
    rename_i hflawless
    split at h
    · rename_i option hrepeated
      exact Except.error.inj h ▸ .optionName hname htaken
        (firstFlawOfAll?_eq_none_iff.1 hflawless) (firstRepeated?_nil_eq_some_iff.1 hrepeated)
    · cases h
  · intro h
    cases h with
    | badName hname => rw [if_pos (isBadName_eq_true_iff.2 hname)]
    | repeatedName hname htaken =>
      rw [if_neg (mt isBadName_eq_true_iff.1 hname), if_pos (contains_index_iff.2 htaken)]
    | parameter hname htaken hflaw =>
      rw [if_neg (mt isBadName_eq_true_iff.1 hname), if_neg (mt contains_index_iff.1 htaken),
        firstFlawOfAll?_eq_some_iff.2 hflaw]
    | optionName hname htaken hflawless hrepeated =>
      rw [if_neg (mt isBadName_eq_true_iff.1 hname), if_neg (mt contains_index_iff.1 htaken),
        firstFlawOfAll?_eq_none_iff.2 hflawless, firstRepeated?_nil_eq_some_iff.2 hrepeated]

/-! ## All commands -/

/-- Commands that can be declared together, whatever their order. -/
structure Declarable (commands : List Command) : Prop where
  named : ∀ c ∈ commands, c.name ≠ "" ∧ Argv.isDashed c.name = false
  distinct : (commands.map (·.name)).Nodup
  /-- Options, groups and internal parameters of any depth have names. -/
  parameters_named : ∀ c ∈ commands, ∀ isMember p,
    (isMember, p) ∈ placesOfAll false c.parameters → p.isPlain = false → p.name ≠ ""
  /-- Nothing inside of a group is positional or supplied by the engine. -/
  members : ∀ c ∈ commands, ∀ p, (true, p) ∈ placesOfAll false c.parameters →
    p.isPlain = false ∧ p.isInternal = false
  options_distinct : ∀ c ∈ commands, (optionNamesOfAll c.parameters).Nodup

/-- The first command that cannot be declared after those before it is refused with the fault. -/
def Refuses (commands : List Command) (fault : Fault) : Prop :=
  ∃ before c after, commands = before ++ c :: after ∧ Declarable before ∧
    Offends (before.map (·.name)) c fault

theorem not_badName_iff {name : String} :
    ¬ BadName name ↔ name ≠ "" ∧ Argv.isDashed name = false := by
  simp [BadName, not_or]

theorem sound_iff {l : List Parameter} :
    Sound l ↔ Flawless l ∧ (optionNamesOfAll l).Nodup :=
  ⟨fun h => ⟨firstFlawOfAll?_eq_none_iff.1 h.flawless, h.distinct⟩,
    fun h => ⟨firstFlawOfAll?_eq_none_iff.2 h.1, h.2⟩⟩

theorem declarable_iff {commands : List Command} :
    Declarable commands ↔
      (∀ c ∈ commands, ¬ BadName c.name ∧ Sound c.parameters) ∧
        (commands.map (·.name)).Nodup := by
  constructor
  · intro h
    refine ⟨fun c hc => ⟨not_badName_iff.2 (h.named c hc), sound_iff.2 ⟨?_, ?_⟩⟩, h.distinct⟩
    · exact flawless_iff.2 ⟨h.parameters_named c hc, h.members c hc⟩
    · exact h.options_distinct c hc
  · rintro ⟨hall, hdistinct⟩
    have hflawless := fun c hc => flawless_iff.1 (sound_iff.1 (hall c hc).2).1
    exact {
      named := fun c hc => not_badName_iff.1 (hall c hc).1
      distinct := hdistinct
      parameters_named := fun c hc => (hflawless c hc).1
      members := fun c hc => (hflawless c hc).2
      options_distinct := fun c hc => (hall c hc).2.distinct }

theorem declarable_cons_iff {c : Command} {rest : List Command} :
    Declarable (c :: rest) ↔
      (¬ BadName c.name ∧ Sound c.parameters) ∧ c.name ∉ rest.map (·.name) ∧
        Declarable rest := by
  rw [declarable_iff, declarable_iff, List.forall_mem_cons, List.map_cons, List.nodup_cons]
  constructor
  · rintro ⟨⟨hc, hrest⟩, hnew, hdistinct⟩
    exact ⟨hc, hnew, hrest, hdistinct⟩
  · rintro ⟨hc, hnew, hrest, hdistinct⟩
    exact ⟨⟨hc, hrest⟩, hnew, hdistinct⟩

theorem declare_eq_ok_iff {r r' : Registry} {commands : List Command} :
    r.declare commands = .ok r' ↔
      (∀ c ∈ commands, c.name ∉ r.names) ∧ Declarable commands ∧ r' = commands.foldl push r := by
  induction commands generalizing r with
  | nil =>
    have hnil : Declarable [] := declarable_iff.2 ⟨nofun, List.nodup_nil⟩
    simp [declare, hnil, eq_comm]
  | cons c rest ih =>
    rw [declare, Except.bind_eq_ok_iff, declarable_cons_iff, List.forall_mem_cons, List.foldl_cons]
    simp only [ih, names_push, List.mem_append, List.mem_singleton, not_or]
    constructor
    · rintro ⟨u, hc, hrest, hdeclarable, rfl⟩
      obtain ⟨hname, htaken, hsound⟩ := check_eq_ok_iff.1 hc
      refine ⟨⟨htaken, fun c' hc' => (hrest c' hc').1⟩, ⟨⟨hname, hsound⟩, ?_, hdeclarable⟩, rfl⟩
      intro hmem
      obtain ⟨c', hc', hsame⟩ := List.mem_map.1 hmem
      exact (hrest c' hc').2 hsame
    · rintro ⟨⟨htaken, hrest⟩, ⟨⟨hname, hsound⟩, hnew, hdeclarable⟩, rfl⟩
      refine ⟨(), check_eq_ok_iff.2 ⟨hname, htaken, hsound⟩, ?_, hdeclarable, rfl⟩
      intro c' hc'
      exact ⟨hrest c' hc', fun hsame => hnew (hsame ▸ List.mem_map_of_mem hc')⟩

/-- The walk over the commands stops at the first that offends. -/
theorem declare_eq_error_iff {r : Registry} {commands : List Command} {fault : Fault} :
    r.declare commands = .error fault ↔ ∃ before c after, commands = before ++ c :: after ∧
      (∃ r', r.declare before = .ok r') ∧ Offends (r.names ++ before.map (·.name)) c fault := by
  induction commands generalizing r with
  | nil => simp [declare]
  | cons first rest ih =>
    rw [declare, Except.bind_eq_error_iff, check_eq_error_iff]
    constructor
    · rintro (hoffends | ⟨u, hfirst, hrest⟩)
      · exact ⟨[], first, rest, rfl, ⟨r, rfl⟩, by simpa using hoffends⟩
      · obtain ⟨before, c, after, rfl, ⟨r', hbefore⟩, hoffends⟩ := ih.1 hrest
        refine ⟨first :: before, c, after, rfl, ⟨r', ?_⟩, by simpa using hoffends⟩
        rw [declare, hfirst]
        exact hbefore
    · rintro ⟨before, c, after, hcommands, ⟨r', hbefore⟩, hoffends⟩
      cases before with
      | nil =>
        obtain ⟨rfl, -⟩ := List.cons.inj hcommands
        exact .inl (by simpa using hoffends)
      | cons b before =>
        obtain ⟨rfl, rfl⟩ := List.cons.inj hcommands
        obtain ⟨u, hfirst, hbefore⟩ := Except.bind_eq_ok_iff.1 hbefore
        refine .inr ⟨u, hfirst, ih.2 ⟨before, c, after, rfl, ⟨r', hbefore⟩, ?_⟩⟩
        simpa using hoffends

theorem ofCommands_eq_ok_iff {commands : List Command} {r : Registry} :
    ofCommands commands = .ok r ↔ Declarable commands ∧ r = commands.foldl push empty := by
  rw [ofCommands, declare_eq_ok_iff]
  exact and_iff_right fun _ _ => List.not_mem_nil

theorem ofCommands_eq_error_iff {commands : List Command} {fault : Fault} :
    ofCommands commands = .error fault ↔ Refuses commands fault := by
  rw [ofCommands, declare_eq_error_iff]
  refine exists_congr fun before => exists₂_congr fun c after => and_congr_right fun _ =>
    and_congr_left fun _ => ?_
  exact (exists_congr fun r => ofCommands_eq_ok_iff).trans (by simp)

/-! ## Looking up -/

theorem find?_of_nodup {commands : List Command} (h : (commands.map (·.name)).Nodup)
    {c : Command} (hc : c ∈ commands) : commands.find? (·.name == c.name) = some c := by
  induction commands with
  | nil => cases hc
  | cons first rest ih =>
    rw [List.map_cons, List.nodup_cons] at h
    rcases List.mem_cons.1 hc with rfl | hrest
    · exact List.find?_cons_of_pos (by simp)
    · have hne : first.name ≠ c.name := fun hsame => h.1 (hsame ▸ List.mem_map_of_mem hrest)
      rw [List.find?_cons_of_neg (by simpa using hne)]
      exact ih h.2 hrest

theorem lookup_name {r : Registry} (h : r.names.Nodup) {c : Command} (hc : c ∈ r.commands) :
    r.lookup c.name = .ok c := by
  unfold lookup
  rw [find?_eq, find?_of_nodup h hc]

theorem lookup_of_notMem {r : Registry} {name : String} (h : name ∉ r.names) :
    r.lookup name = .error (.unknownCommand name (r.suggest? name)) := by
  have hnone : r.find? name = none := by
    rw [find?_eq]
    refine List.find?_eq_none.2 fun c hc hname => h ?_
    exact List.mem_map.2 ⟨c, hc, by simpa using hname⟩
  unfold lookup
  rw [hnone]

/-- The command name in some tokens is the first token that does not start with a dash. -/
theorem command?_ofTokens (tokens : List String) :
    (Argv.ofTokens tokens).command? = tokens.find? fun t => !Argv.isDashed t := by
  have hhead : (Argv.ofTokens tokens).command? = (tokens.dropWhile Argv.isDashed).head? := by
    unfold Argv.ofTokens
    cases tokens.dropWhile Argv.isDashed <;> rfl
  rw [hhead, List.find?_not_eq_head?_dropWhile]

/-- **What the registry accepts.** Commands are accepted if and only if they can be declared
together, and otherwise the first that cannot is refused for the first reason that counts. Accepted
commands keep their order, each of them is found by its name, nothing else is, and an engine that
runs tokens invokes the command whose name is the first token without a dash. -/
theorem ofCommands_exact (commands : List Command) :
    ((∃ r, ofCommands commands = .ok r) ↔ Declarable commands) ∧
    (∀ fault, ofCommands commands = .error fault ↔ Refuses commands fault) ∧
    ∀ r, ofCommands commands = .ok r →
      r.names = commands.map (·.name) ∧
      (∀ (i : Nat) name c, r.names[i]? = some name → commands[i]? = some c →
        r.lookup name = .ok c) ∧
      (∀ name, name ∉ r.names → r.lookup name = .error (.unknownCommand name (r.suggest? name))) ∧
      ∀ e : Engine, e.registry = r → ∀ name ∈ r.names, ∀ tokens,
        (tokens.find? fun t => !Argv.isDashed t) = some name →
          ∃ c ∈ commands, c.name = name ∧ e.Names tokens c ∧
            ∀ position? i, e.prepare position? tokens = .ok i → i.command = c := by
  refine ⟨?_, fun fault => ofCommands_eq_error_iff, fun r hr => ?_⟩
  · simp only [ofCommands_eq_ok_iff, exists_and_left, exists_eq, and_true]
  obtain rfl := commands_of_ofCommands hr
  have hdistinct : r.names.Nodup := (ofCommands_eq_ok_iff.1 hr).1.distinct
  refine ⟨rfl, fun i name c hname hc => ?_, fun name => lookup_of_notMem,
    fun e he name hname tokens hfirst => ?_⟩
  · obtain rfl : c.name = name := by simpa [names, hc] using hname
    exact lookup_name hdistinct (List.mem_of_getElem? hc)
  · obtain ⟨c, hc, rfl⟩ := List.mem_map.1 hname
    have hcommand : e.Names tokens c :=
      ⟨c.name, (command?_ofTokens tokens).trans hfirst, he ▸ lookup_name hdistinct hc⟩
    refine ⟨c, hc, rfl, hcommand, fun position? i hi => ?_⟩
    exact (Engine.prepare_eq_ok_iff.1 hi).1.names.unique hcommand

/-- A command with an internal parameter and an option. -/
def statusSample : Command where
  name := "status"
  parameters := [.internal { name := "command.name" }, .option { name := "all" } ⟨.bool, false⟩]
  target := ⟨"Sample", "status", none⟩
  action := fun _ => { result := .ok .null }

/-- A command with a positional inside of a group, and with a repeated option. -/
def syncSample : Command where
  name := "sync"
  parameters :=
    [.option { name := "host" } ⟨.text, false⟩,
      .bean { name := "mirror" } "Mirror"
        [.option { name := "host" } ⟨.text, false⟩, .plain { name := "port" } ⟨.int, false⟩]]
  target := ⟨"Sample", "sync", none⟩
  action := fun _ => { result := .ok .null }

def statusEngine : Engine where
  registry := .push .empty statusSample
  globals := []
  converters := .stock
  resolver := ⟨[], ∅⟩
  validator? := none
  interceptors := .stock
  surroundings := {}

/-- The flaw of the positional counts before the repeated option, and the command before it is found
behind tokens that start with a dash. -/
theorem ofCommands_exact_status :
    ofCommands [statusSample] = .ok (.push .empty statusSample) ∧
      ofCommands [statusSample, syncSample] =
        .error (.invalidDeclaration "sync" (.beanMember "port")) ∧
      lookup (.push .empty statusSample) "status" = .ok statusSample ∧
      ∃ c ∈ [statusSample], c.name = "status" ∧
        statusEngine.Names ["-v", "--", "status", "-x"] c := by
  have hok : ofCommands [statusSample] = .ok (.push .empty statusSample) := rfl
  have hstatus : Declarable [statusSample] := (ofCommands_exact _).1.1 ⟨_, hok⟩
  obtain ⟨-, hlookup, -, hengine⟩ := (ofCommands_exact [statusSample]).2.2 _ hok
  have hflaw : FirstFlaw syncSample.parameters (.beanMember "port") := by
    refine ⟨(placesOfAll false syncSample.parameters).take 3,
      (true, .plain { name := "port" } ⟨.int, false⟩), [], rfl, .member (.inl rfl), ?_⟩
    simp only [← flaw?_eq_none_iff]
    simp [syncSample, placesOfAll, places, flaw?]
  refine ⟨hok, ((ofCommands_exact _).2.1 _).2 ⟨[statusSample], syncSample, [], rfl, hstatus, ?_⟩,
    hlookup 0 "status" statusSample rfl rfl, ?_⟩
  · exact .parameter (by decide) (by decide) hflaw
  · obtain ⟨c, hc, hname, hcommand, -⟩ :=
      hengine statusEngine rfl "status" (by decide) ["-v", "--", "status", "-x"] rfl
    exact ⟨c, hc, hname, hcommand⟩

end Registry

end CommandLine
