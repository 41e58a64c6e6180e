import CommandLine.Program.Execution
import CommandLine.Proofs.Binding.Late
import CommandLine.Proofs.Catalog.Origin
import CommandLine.Proofs.Invocation.Preparation

/-!
# What the warnings are about

The engine of a catalog has nothing but what is in stock (`Program.Stocked`). Its warnings are
about what has to be supplied besides: `Report.Late` says what that can be, and `mem_warnings_iff`
that the warnings name all of it and nothing else.
-/

namespace CommandLine

open Parameter

namespace Program

/-- An engine with nothing but what is in stock, and with the declarations of a catalog. -/
structure Stocked (e : Engine) : Prop where
  converters : e.converters = .stock
  interceptors : e.interceptors = .stock
  validator : e.validator? = none
  single : ∀ entry ∈ typedOfAll e.globals, entry.2.IsSingle
  ordinary : ∀ c ∈ e.registry.commands, Catalog.OrdinaryCommand c
  soundGlobals : ∀ group ∈ e.globals, group.isBean ∧ Sound [group]
  sound : ∀ c ∈ e.registry.commands, Sound c.parameters

/-- The parts of the engine of a catalog. -/
def parts (around : Surroundings) (s : Settings) (catalog : Catalog) : Engine.Parts where
  commands := catalog.commands
  globals := catalog.globals
  properties := s.properties
  defaults := s.defaults
  surroundings := around

/-- The settings describe an engine if there is a catalog that can be loaded, with declarations
that are sound. -/
theorem engine_eq_ok_iff {around : Surroundings} {s : Settings} {e : Engine} :
    engine around s = .ok e ↔ ∃ path contents catalog, s.catalogPath? = some path ∧
      around.file? path = some (.text contents) ∧ Catalog.load contents path = .ok catalog ∧
        Engine.ofParts (parts around s catalog) = .ok e := by
  unfold engine
  constructor
  · intro h
    split at h
    · cases h
    · rename_i path hpath
      obtain ⟨catalog, hcatalog, h⟩ := Except.bind_eq_ok_iff.1 h
      have hload := Except.mapError_eq_ok_iff.1 hcatalog
      unfold loadCatalog at hload
      split at hload
      · rename_i contents hfile
        exact ⟨path, contents, catalog, hpath, hfile, hload, Except.mapError_eq_ok_iff.1 h⟩
      · cases hload
  · rintro ⟨path, contents, catalog, hpath, hfile, hload, he⟩
    have hcatalog : loadCatalog around path = .ok catalog := by
      rw [loadCatalog, hfile]
      exact hload
    rw [hpath]
    exact Except.bind_eq_ok_iff.2
      ⟨catalog, Except.mapError_eq_ok_iff.2 hcatalog, Except.mapError_eq_ok_iff.2 he⟩

theorem stocked_of_engine {around : Surroundings} {s : Settings} {e : Engine}
    (h : engine around s = .ok e) : Stocked e := by
  obtain ⟨path, contents, catalog, -, -, hload, he⟩ := engine_eq_ok_iff.1 h
  obtain ⟨hglobals, registry, hregistry, rfl⟩ := Engine.ofParts_eq_ok_iff.1 he
  have hordinary : Catalog.Ordinary catalog := Catalog.ordinary_of_load hload
  exact {
    converters := rfl
    interceptors := rfl
    validator := rfl
    single := hordinary.globals
    ordinary := by
      rw [Registry.commands_of_ofCommands hregistry]
      exact hordinary.commands
    soundGlobals := fun group hgroup => sound_of_checkGlobals hglobals hgroup
    sound := fun c hc => Registry.sound_of_ofCommands hregistry hc }

end Program

namespace Report

/-! ## Warnings about types -/

mutual

theorem typeWarnings_eq (owner : String) (p : Parameter) :
    typeWarnings owner p =
      p.typed.filterMap fun entry => (lateKey? entry.2).map (lateConverter owner entry.1.name) := by
  match p with
  | .plain a type =>
    rw [typeWarnings, typed, List.filterMap_cons, List.filterMap_nil]
    cases lateKey? type <;> rfl
  | .option a type =>
    rw [typeWarnings, typed, List.filterMap_cons, List.filterMap_nil]
    cases lateKey? type <;> rfl
  | .bean a type members => exact typeWarningsOfAll_eq owner members
  | .internal a => rfl

theorem typeWarningsOfAll_eq (owner : String) (l : List Parameter) :
    typeWarningsOfAll owner l =
      (typedOfAll l).filterMap fun entry =>
        (lateKey? entry.2).map (lateConverter owner entry.1.name) := by
  match l with
  | [] => rfl
  | p :: rest =>
    rw [typeWarningsOfAll, typedOfAll, List.filterMap_append, typeWarnings_eq,
      typeWarningsOfAll_eq]

end

theorem mem_typeWarningsOfAll_iff {owner warning : String} {l : List Parameter} :
    warning ∈ typeWarningsOfAll owner l ↔ ∃ entry ∈ typedOfAll l, ∃ key,
      lateKey? entry.2 = some key ∧ lateConverter owner entry.1.name key = warning := by
  simp only [typeWarningsOfAll_eq, List.mem_filterMap, Option.map_eq_some_iff]

theorem contains_stock : ∀ key ∈ ["bool", "int", "float"], Converters.stock.contains key := by
  decide

/-- The stock serves every type that is no group and needs nothing late. -/
theorem serves_stock {type : ValueType} (hsingle : type.IsSingle) (h : lateKey? type = none) :
    Converters.stock.Serves type := by
  obtain ⟨kind, nullable⟩ := type
  intro key hkey
  cases kind with
  | bool =>
    obtain rfl : "bool" = key := Option.some.inj hkey
    exact contains_stock _ (by simp)
  | int =>
    obtain rfl : "int" = key := Option.some.inj hkey
    exact contains_stock _ (by simp)
  | float =>
    obtain rfl : "float" = key := Option.some.inj hkey
    exact contains_stock _ (by simp)
  | text => cases hkey
  | enum enumType => cases hkey
  | bean group => exact absurd rfl (hsingle group)
  | named name =>
    obtain rfl : name = key := Option.some.inj hkey
    simpa [lateKey?] using h

theorem lacks_stock {type : ValueType} {key : String} (h : lateKey? type = some key) :
    Converters.stock.Lacks type := by
  unfold lateKey? at h
  split at h
  · rename_i needed hkind
    split at h
    · cases h
    · rename_i hlacks
      exact ⟨needed, hkind, by simpa using hlacks⟩
  · cases h

/-! ## What has to be supplied -/

/-- Something that has to be supplied before it can be used. -/
inductive Late where
  /-- The interceptor that a command refers to at a place. -/
  | interceptor (c : Command) (place : Nat) (reference : String)
  /-- The converter for the plain parameter of a command at a place. -/
  | plain (c : Command) (place : Nat) (a : Attributes) (type : ValueType) (key : String)
  /-- The converter for an option of a command, inside of groups or outside. -/
  | option (c : Command) (a : Attributes) (type : ValueType) (key : String)
  /-- The converter for an option in the global group at a place. -/
  | global (place : Nat) (group : Parameter) (a : Attributes) (type : ValueType) (key : String)

namespace Late

/-- The declarations of the engine ask for it, and it is not in stock. -/
def In (e : Engine) : Late → Prop
  | interceptor c place reference => c ∈ e.registry.commands ∧
      c.interceptors[place]? = some reference ∧ Interceptors.stock.contains reference = false
  | plain c place a type key => c ∈ e.registry.commands ∧
      c.parameters[place]? = some (.plain a type) ∧ lateKey? type = some key
  | option c a type key => c ∈ e.registry.commands ∧
      (a, type) ∈ optionsOfAll c.parameters ∧ lateKey? type = some key
  | global place group a type key => e.globals[place]? = some group ∧
      (a, type) ∈ group.options ∧ lateKey? type = some key

/-- The warning about it. -/
def warning : Late → String
  | interceptor c _ reference => lateInterceptor c reference
  | plain c _ a _ key | option c a _ key => lateConverter c.name a.name key
  | global _ _ a _ key => lateConverter globalOwner a.name key

/-- The tokens invoke a command whose chain comes to the reference, or hold one that belongs to the
parameter. A global option token belongs to the first group that declares its name. -/
def NeededBy (e : Engine) (tokens : List String) : Late → Prop
  | interceptor c place _ => e.Names tokens c ∧ "dry-run" ∉ c.interceptors.take place
  | plain c place _ _ _ => e.Names tokens c ∧ (c.parameters.take place).countP isPlain
      < (Partition.ofArguments (Argv.ofTokens tokens).arguments).positionals.length
  | option c a _ _ => e.Names tokens c ∧
      ∃ t ∈ (Partition.ofArguments (Argv.ofTokens tokens).arguments).options.tokens,
        t.name = a.name
  | global place _ a _ _ => ∃ overrides rest,
      Assignment.extractOverrides (Argv.ofTokens tokens).globals = .ok (overrides, rest) ∧
        (∃ t ∈ (Partition.ofArguments rest).options.tokens, t.name = a.name) ∧
          ∀ group ∈ e.globals.take place, a.name ∉ group.optionNames

end Late

theorem mem_interceptorWarnings_iff {c : Command} {warning : String} :
    warning ∈ interceptorWarnings c ↔ ∃ (place : Nat) (reference : String),
      c.interceptors[place]? = some reference ∧ Interceptors.stock.contains reference = false ∧
        lateInterceptor c reference = warning := by
  simp only [interceptorWarnings, List.mem_map, List.mem_filter, Bool.not_eq_true']
  constructor
  · rintro ⟨reference, ⟨hmem, hlate⟩, rfl⟩
    obtain ⟨place, hplace⟩ := List.mem_iff_getElem?.1 hmem
    exact ⟨place, reference, hplace, hlate, rfl⟩
  · rintro ⟨place, reference, hplace, hlate, rfl⟩
    exact ⟨reference, ⟨List.mem_of_getElem? hplace, hlate⟩, rfl⟩

/-- Every warning is about something that has to be supplied, and there is a warning about
everything that has to be supplied. -/
theorem mem_warnings_iff {e : Engine} (h : Program.Stocked e) {warning : String} :
    warning ∈ warnings e ↔ ∃ late : Late, late.In e ∧ late.warning = warning := by
  simp only [warnings, List.mem_append, List.mem_flatMap, mem_interceptorWarnings_iff,
    mem_typeWarningsOfAll_iff]
  constructor
  · rintro (⟨c, hc, ⟨place, reference, hplace, hlate, rfl⟩ | ⟨⟨a, type⟩, hentry, key, hkey, rfl⟩⟩ |
      ⟨⟨a, type⟩, hentry, key, hkey, rfl⟩)
    · exact ⟨.interceptor c place reference, ⟨hc, hplace, hlate⟩, rfl⟩
    · rcases (mem_typedOfAll_iff (h.sound c hc).flawless).1 hentry with hplain | hoption
      · obtain ⟨place, hplace⟩ := List.mem_iff_getElem?.1 hplain
        exact ⟨.plain c place a type key, ⟨hc, hplace, hkey⟩, rfl⟩
      · exact ⟨.option c a type key, ⟨hc, hoption, hkey⟩, rfl⟩
    · rw [typedOfAll_eq, List.mem_flatMap] at hentry
      obtain ⟨group, hgroup, hentry⟩ := hentry
      obtain ⟨place, hplace⟩ := List.mem_iff_getElem?.1 hgroup
      obtain ⟨hbean, hsound⟩ := h.soundGlobals group hgroup
      rw [(hsound.of_group hbean).2] at hentry
      exact ⟨.global place group a type key, ⟨hplace, hentry, hkey⟩, rfl⟩
  · rintro ⟨late, hlate, rfl⟩
    cases late with
    | interceptor c place reference =>
      obtain ⟨hc, hplace, hlate⟩ := hlate
      exact .inl ⟨c, hc, .inl ⟨place, reference, hplace, hlate, rfl⟩⟩
    | plain c place a type key =>
      obtain ⟨hc, hplace, hkey⟩ := hlate
      have hentry := (mem_typedOfAll_iff (h.sound c hc).flawless).2
        (.inl (List.mem_of_getElem? hplace))
      exact .inl ⟨c, hc, .inr ⟨(a, type), hentry, key, hkey, rfl⟩⟩
    | option c a type key =>
      obtain ⟨hc, hoption, hkey⟩ := hlate
      have hentry := (mem_typedOfAll_iff (h.sound c hc).flawless).2 (.inr hoption)
      exact .inl ⟨c, hc, .inr ⟨(a, type), hentry, key, hkey, rfl⟩⟩
    | global place group a type key =>
      obtain ⟨hplace, hoption, hkey⟩ := hlate
      have hgroup := List.mem_of_getElem? hplace
      obtain ⟨hbean, hsound⟩ := h.soundGlobals group hgroup
      have hentry : (a, type) ∈ typedOfAll e.globals := by
        rw [typedOfAll_eq, List.mem_flatMap]
        exact ⟨group, hgroup, by rwa [(hsound.of_group hbean).2]⟩
      exact .inr ⟨(a, type), hentry, key, hkey, rfl⟩

theorem lateKey?_of_typeWarningsOfAll {owner : String} {l : List Parameter}
    (h : typeWarningsOfAll owner l = []) {entry : Attributes × ValueType}
    (hentry : entry ∈ typedOfAll l) : lateKey? entry.2 = none := by
  cases hkey : lateKey? entry.2 with
  | none => rfl
  | some key =>
    have hmem : lateConverter owner entry.1.name key ∈ typeWarningsOfAll owner l :=
      mem_typeWarningsOfAll_iff.2 ⟨entry, hentry, key, hkey, rfl⟩
    rw [h] at hmem
    cases hmem

theorem contains_of_interceptorWarnings {c : Command} (h : interceptorWarnings c = [])
    {reference : String} (hmem : reference ∈ c.interceptors) :
    Interceptors.stock.contains reference := by
  have hfilter : (c.interceptors.filter fun r => !Interceptors.stock.contains r) = [] :=
    List.map_eq_nil_iff.1 h
  simpa using List.filter_eq_nil_iff.1 hfilter reference hmem

end Report

end CommandLine
