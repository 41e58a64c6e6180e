import CommandLine.Action
import CommandLine.Engine
import CommandLine.Proofs.Binding.Internals
import CommandLine.Proofs.Invocation.Preparation
import CommandLine.Proofs.Resolver.Prefixes

/-!
# Overrides of properties

Overrides are a change like others, so what is installed tells how they compose: overrides over
overrides are the union of the two, and no overrides are no change (`override_override`). An
invocation without overrides keeps the resolver of the engine as it is, and nobody can tell
(`invoke_override_empty`).
-/

namespace CommandLine

open Resolver (propertyPrefix)

/-! ## Overrides among the changes -/

namespace Installed

theorem isSome_latest_property (environment : Answers) (changes : List (Change Answers)) :
    ((after environment changes).latest propertyPrefix).isSome = true := by
  suffices h : ∀ i : Installed, (i.latest propertyPrefix).isSome = true →
      ((changes.foldl change i).latest propertyPrefix).isSome = true from h _ rfl
  induction changes with
  | nil => exact fun i h => h
  | cons c rest ih =>
    refine fun i h => ih _ ?_
    have hinstall : ∀ start answers, ((i.install start answers).latest propertyPrefix).isSome := by
      intro start answers
      show (Function.update i.latest start (some answers) propertyPrefix).isSome = true
      rw [Function.update_apply]
      split
      · rfl
      · exact h
    cases c with
    | context start answers => exact hinstall start answers
    | defaults answers => exact h
    | overrides overrides => exact hinstall _ _

theorem change_overrides_overrides (i : Installed) (lower upper : Table String) :
    (i.change (.overrides lower)).change (.overrides upper) =
      i.change (.overrides (lower ∪ upper)) := by
  have hanswers : Answers.overlay upper
        (some (Answers.overlay lower (i.latest propertyPrefix))) =
      Answers.overlay (lower ∪ upper) (i.latest propertyPrefix) := by
    funext name
    simp only [Answers.overlay, Std.TreeMap.getElem?_union, Option.bind_some, Option.or_assoc]
  simp only [change, install, Function.update_self, Function.update_idem, hanswers]

theorem change_overrides_of_isEmpty {i : Installed} {overrides : Table String}
    (hempty : overrides.isEmpty = true) (h : (i.latest propertyPrefix).isSome = true) :
    i.change (.overrides overrides) = i := by
  obtain ⟨answers, hanswers⟩ := Option.isSome_iff_exists.1 h
  have hoverlay : Answers.overlay overrides (some answers) = answers := by
    funext name
    rw [Answers.overlay, Std.TreeMap.getElem?_of_isEmpty hempty, Option.none_or, Option.bind_some]
  simp only [change, install, hanswers, hoverlay]
  rw [← hanswers, Function.update_eq_self]

end Installed

/-! ## What is looked up -/

theorem Longest.of_mem_iff {prefixes prefixes' : List String} {name start rest : String}
    (hmem : ∀ start, start ∈ prefixes ↔ start ∈ prefixes') (h : Longest prefixes name start rest) :
    Longest prefixes' name start rest :=
  ⟨(hmem start).1 h.mem, h.eq_append, fun start' hstart' => h.le start' ((hmem start').2 hstart')⟩

/-- The overrides answer for the properties that they hold, where no longer prefix matches, and all
other names keep their answers. -/
structure Overlaid (prefixes : List String) (overrides : Table String) (lookup lookup' : Answers) :
    Prop where
  held : ∀ name, ∀ key ∈ overrides, Longest prefixes name propertyPrefix key →
    lookup' name = overrides[key]?
  others : ∀ name, (∀ key ∈ overrides, ¬ Longest prefixes name propertyPrefix key) →
    lookup' name = lookup name

namespace Installed

/-- Overrides leave the prefixes as they are, and lie over the answers of the properties. -/
theorem Governs.overlaid {i : Installed} {prefixes prefixes' : List String}
    {lookup lookup' : Answers} {overrides : Table String} (h : i.Governs prefixes lookup)
    (h' : (i.change (.overrides overrides)).Governs prefixes' lookup')
    (hproperties : (i.latest propertyPrefix).isSome = true) :
    Overlaid prefixes overrides lookup lookup' := by
  have hover : (i.change (.overrides overrides)).latest propertyPrefix =
      some (Answers.overlay overrides (i.latest propertyPrefix)) := by
    simp only [change, install, Function.update_self]
  have hother : ∀ start, start ≠ propertyPrefix →
      (i.change (.overrides overrides)).latest start = i.latest start :=
    fun start hstart => Function.update_of_ne hstart _ _
  have hmem : ∀ start, start ∈ prefixes ↔ start ∈ prefixes' := by
    intro start
    rw [h.mem_iff, h'.mem_iff]
    by_cases hstart : start = propertyPrefix
    · simp [hstart, hover, hproperties]
    · rw [hother start hstart]
  refine ⟨fun name key hkey hlongest => ?_, fun name hfree => ?_⟩
  · rw [h'.matched name _ key _ (hlongest.of_mem_iff hmem) hover, Answers.overlay,
      Std.TreeMap.getElem?_eq_some_getElem hkey, Option.some_or, Option.some_or]
  obtain ⟨start, rest, hlongest⟩ | hnone := longest_or_unmatched prefixes name
  · obtain ⟨answers, hanswers⟩ := Option.isSome_iff_exists.1 ((h.mem_iff start).1 hlongest.mem)
    rw [h.matched name start rest answers hlongest hanswers]
    by_cases hstart : start = propertyPrefix
    · -- the overrides do not hold this property, so those below are asked
      subst hstart
      have hrest : overrides[rest]? = none :=
        Std.TreeMap.getElem?_eq_none fun hrest => hfree rest hrest hlongest
      rw [h'.matched name _ rest _ (hlongest.of_mem_iff hmem) hover, Answers.overlay, hrest,
        hanswers, Option.none_or, Option.bind_some]
      rfl
    · exact h'.matched name start rest answers (hlongest.of_mem_iff hmem)
        ((hother start hstart).trans hanswers)
  · rw [h.unmatched name hnone,
      h'.unmatched name fun start hstart => hnone start ((hmem start).2 hstart)]
    rfl

end Installed

/-! ## Sources and resolvers with overrides -/

namespace Sources

variable {s s' : Sources} {i : Installed}

theorem Holds.lookup_eq_lookup (h : s.Holds i) (h' : s'.Holds i) : s.lookup = s'.lookup :=
  (h.governs.unique h'.governs).2

theorem Holds.override_twice (h : s.Holds i) (lower upper : Table String) :
    ((s.override lower).override upper).Holds (i.change (.overrides (lower ∪ upper))) := by
  rw [← Installed.change_overrides_overrides]
  exact (h.change (.overrides lower)).change (.overrides upper)

theorem holds_override_of_isEmpty (environment : Answers) (changes : List (Change Answers))
    {overrides : Table String} (hempty : overrides.isEmpty = true) :
    ((after environment changes).override overrides).Holds (.after environment changes) := by
  have h := (holds_after environment changes).change (.overrides overrides)
  rwa [Installed.change_overrides_of_isEmpty hempty
    (Installed.isSome_latest_property _ _)] at h

end Sources

namespace Resolver

variable {r r' : Resolver} {i : Installed}

theorem holds_after (environment : Table String) (changes : List (Change Properties)) :
    (after environment changes).sources.Holds (.ofTables environment changes) := by
  rw [sources_after]
  exact Sources.holds_after _ _

theorem holds_override (h : r.sources.Holds i) (overrides : Table String) :
    (r.override overrides).sources.Holds (i.change (.overrides overrides)) := by
  rw [sources_override]
  exact h.change (.overrides overrides)

theorem holds_override_of_isEmpty (environment : Table String)
    (changes : List (Change Properties)) {overrides : Table String}
    (hempty : overrides.isEmpty = true) :
    ((after environment changes).override overrides).sources.Holds
      (.ofTables environment changes) := by
  rw [sources_override, sources_after]
  exact Sources.holds_override_of_isEmpty _ _ hempty

/-- Where the same is installed, the same is substituted. -/
theorem substitute_of_holds (h : r.sources.Holds i) (h' : r'.sources.Holds i) (text : String) :
    r.substitute text = r'.substitute text := by
  refine substitute_eq_of_lookup ?_ text
  rw [← lookup_sources, ← lookup_sources]
  exact h.lookup_eq_lookup h'

end Resolver

/-! ## Invocations without overrides -/

namespace Engine

/-- What is done to the resolver of an engine. -/
def Parts.changes (p : Parts) : List (Change Properties) :=
  .context propertyPrefix (.ofTable p.properties) :: .defaults (.ofTable p.defaults) ::
    p.contexts.map fun (start, properties) => .context start properties

theorem resolver_of_ofParts {p : Parts} {e : Engine} (he : ofParts p = .ok e) :
    e.resolver = .after p.surroundings.environment p.changes := by
  obtain ⟨-, registry, -, rfl⟩ := ofParts_eq_ok_iff.1 he
  unfold Parts.resolver Resolver.after Parts.changes
  rw [List.foldl_cons, List.foldl_cons, List.foldl_map]
  rfl

/-- An invocation sees of the resolver only what is substituted with the overrides. -/
theorem invoke_of_resolver {e : Engine} {r : Resolver}
    (h : ∀ overrides text, (e.resolverWith overrides).substitute text =
      ({ e with resolver := r }.resolverWith overrides).substitute text)
    (extra : Interceptors) (position? : Option Position) (tokens : List String) :
    { e with resolver := r }.invoke extra position? tokens = e.invoke extra position? tokens := by
  have hprepare : { e with resolver := r }.prepare position? tokens =
      e.prepare position? tokens := by
    have hglobals : ∀ overrides declared tokens,
        (e.binderWith overrides).bindGlobals declared tokens =
          ({ e with resolver := r }.binderWith overrides).bindGlobals declared tokens :=
      fun overrides => Binder.bindGlobals_of_resolver (h overrides)
    have harguments : ∀ command overrides globals,
        e.bindArguments position? tokens command overrides globals =
          { e with resolver := r }.bindArguments position? tokens command overrides globals :=
      fun command overrides globals => Binder.bind_of_resolver (h overrides) _ _
    rw [prepare_eq, prepare_eq]
    simp only [hglobals, harguments]
    rfl
  cases hsame : e.prepare position? tokens with
  | error fault =>
    unfold invoke
    rw [hprepare, hsame]
  | ok invocation =>
    rw [invoke_of_prepare hsame, invoke_of_prepare (hprepare.trans hsame)]

theorem substitute_resolverWith {p : Parts} {e : Engine} (he : ofParts p = .ok e)
    (overrides : Table String) (text : String) :
    (e.resolverWith overrides).substitute text =
      (e.resolver.override overrides).substitute text := by
  unfold resolverWith
  split
  · rename_i hempty
    rw [resolver_of_ofParts he]
    exact Resolver.substitute_of_holds (Resolver.holds_after _ _)
      (Resolver.holds_override_of_isEmpty _ _ hempty) text
  · rfl

theorem invoke_override_empty {p : Parts} {e : Engine} (he : ofParts p = .ok e)
    (extra : Interceptors) (position? : Option Position) (tokens : List String) :
    { e with resolver := e.resolver.override ∅ }.invoke extra position? tokens =
      e.invoke extra position? tokens := by
  refine invoke_of_resolver (fun overrides text => ?_) extra position? tokens
  have hholds := Resolver.holds_after p.surroundings.environment p.changes
  have hnone := Resolver.holds_override_of_isEmpty p.surroundings.environment p.changes
    (show (∅ : Table String).isEmpty = true from rfl)
  rw [← resolver_of_ofParts he] at hholds hnone
  unfold resolverWith
  split
  · exact Resolver.substitute_of_holds hholds hnone text
  · exact Resolver.substitute_of_holds (Resolver.holds_override hholds overrides)
      (Resolver.holds_override hnone overrides) text

end Engine

/-! ## The laws of overrides -/

namespace Resolver

open Expansion (EndsWith)

/-- **Overrides compose.** After any changes to a new resolver, overrides over overrides are
substituted as the union of the two, in which the upper ones count, and no overrides as none. Only
the properties that the overrides hold are looked up there, and only where no longer prefix matches.
So an invocation without overrides may keep the resolver of the engine. The same laws hold of
contexts that are no tables. -/
theorem override_override (environment : Table String) (changes : List (Change Properties))
    (lower upper : Table String) :
    (∀ text, (((after environment changes).override lower).override upper).substitute text =
      ((after environment changes).override (lower ∪ upper)).substitute text) ∧
    (∀ text, ((after environment changes).override ∅).substitute text =
      (after environment changes).substitute text) ∧
    Overlaid (after environment changes).prefixes lower (after environment changes).lookup
      ((after environment changes).override lower).lookup ∧
    (∀ (p : Engine.Parts) (e : Engine), Engine.ofParts p = .ok e →
      (∀ overrides text, (e.resolverWith overrides).substitute text =
        (e.resolver.override overrides).substitute text) ∧
      ∀ extra position? tokens, { e with resolver := e.resolver.override ∅ }.invoke extra position?
        tokens = e.invoke extra position? tokens) ∧
    ∀ (environment : Answers) (changes : List (Change Answers)),
      (∀ text outcome,
        EndsWith (((Sources.after environment changes).override lower).override upper).lookup text
            outcome ↔
          EndsWith ((Sources.after environment changes).override (lower ∪ upper)).lookup text
            outcome) ∧
      (∀ text outcome, EndsWith ((Sources.after environment changes).override ∅).lookup text
          outcome ↔ EndsWith (Sources.after environment changes).lookup text outcome) ∧
      Overlaid (Sources.after environment changes).prefixes lower
        (Sources.after environment changes).lookup
        ((Sources.after environment changes).override lower).lookup := by
  refine ⟨fun text => ?_, fun text => ?_, ?_, fun p e he => ⟨Engine.substitute_resolverWith he,
    Engine.invoke_override_empty he⟩, fun environment changes =>
      ⟨fun text outcome => ?_, fun text outcome => ?_, ?_⟩⟩
  · refine substitute_of_holds ?_ (holds_override (holds_after _ _) (lower ∪ upper)) text
    rw [sources_override, sources_override]
    exact (holds_after _ _).override_twice lower upper
  · exact substitute_of_holds (holds_override_of_isEmpty _ _ rfl) (holds_after _ _) text
  · have hover := (holds_override (holds_after environment changes) lower).governs
    rw [lookup_sources] at hover
    exact (governs_after _ _).overlaid hover (Installed.isSome_latest_property _ _)
  -- the same for contexts that are no tables
  · have hholds := Sources.holds_after environment changes
    rw [(hholds.override_twice lower upper).lookup_eq_lookup
      (hholds.change (.overrides (lower ∪ upper)))]
    rfl
  · have hnone : ((Sources.after environment changes).override ∅).Holds
        (.after environment changes) := Sources.holds_override_of_isEmpty _ _ rfl
    rw [hnone.lookup_eq_lookup (Sources.holds_after environment changes)]
  · have hholds := Sources.holds_after environment changes
    exact hholds.governs.overlaid (hholds.change (.overrides lower)).governs
      (Installed.isSome_latest_property _ _)

/-- A context under the prefix of the properties, and one under a longer prefix. -/
def customSample : List (Change Properties) :=
  [.context "sys." (.ofTable (.ofList [("home", "below"), ("user", "below")])),
    .context "sys.db." (.ofTable (.ofList [("host", "longer")]))]

def lowerSample : Table String := .ofList [("home", "lower"), ("db.host", "lower")]

def upperSample : Table String := .ofList [("home", "upper")]

/-- A command that shows a property. -/
def showSample : Command where
  name := "show"
  parameters := [.option { name := "user", default? := some "$\x7bsys.user\x7d" } ⟨.text, false⟩]
  target := ⟨"catalog", "echo", none⟩
  action := Action.echo

/-- An engine with a context of its own for the properties. -/
def showParts : Engine.Parts where
  commands := [showSample]
  contexts := [("sys.", .ofTable (.ofList [("user", "below")]))]

def showEngine : Engine where
  registry := .push .empty showSample
  globals := []
  converters := .stock
  resolver := showParts.resolver
  validator? := none
  interceptors := .stock
  surroundings := {}

/-- Overrides of `sys.db.host` are not seen, as a longer prefix matches. -/
theorem override_override_custom :
    ((after ∅ customSample).override (lowerSample ∪ upperSample)).substitute
        "$\x7bsys.home\x7d $\x7bsys.user\x7d $\x7bsys.db.host\x7d" =
      .ok (some "upper below longer") ∧
    ((after ∅ customSample).override lowerSample).lookup "sys.home" = some "lower" ∧
    ((after ∅ customSample).override lowerSample).lookup "sys.db.host" = some "longer" ∧
    Engine.ofParts showParts = .ok showEngine ∧
    (showEngine.resolver.override ∅).substitute "$\x7bsys.user\x7d" = .ok (some "below") ∧
    (({ showEngine with resolver := showEngine.resolver.override ∅ }.invoke ∅ none
      ["show", "--user=me"]).1.map Outcome.arguments) = .ok [.text "me"] := by
  obtain ⟨hcompose, -, hoverlaid, hengine, -⟩ :=
    override_override ∅ customSample lowerSample upperSample
  have hshow : Engine.ofParts showParts = .ok showEngine :=
    Engine.ofParts_eq_ok_iff.2 ⟨rfl, .push .empty showSample, rfl, rfl⟩
  obtain ⟨hsubstitute, hinvoke⟩ := hengine showParts showEngine hshow
  have hhome : Longest (after ∅ customSample).prefixes "sys.home" "sys." "home" := by
    have hprefixes : (after ∅ customSample).prefixes = ["sys.db.", "env.", "sys."] := by decide
    rw [hprefixes]
    refine ⟨by decide, rfl, fun start hstart rest hrest => ?_⟩
    have hkey : withoutPrefix? start "sys.home" = some rest := withoutPrefix?_eq_some_iff.2 hrest
    simp only [List.mem_cons, List.not_mem_nil, or_false] at hstart
    rcases hstart with rfl | rfl | rfl
    · exact absurd hkey (by rw [withoutPrefix?, if_neg (by decide)]; simp)
    · exact absurd hkey (by rw [withoutPrefix?, if_neg (by decide)]; simp)
    · exact Nat.le_refl _
  refine ⟨(hcompose _).symm.trans ?_, hoverlaid.held "sys.home" "home" (by decide) hhome, ?_, hshow,
    (hsubstitute ∅ _).symm.trans ?_, ?_⟩
  · exact @substitute_of_endsWith _ _ (.ok (some "upper below longer".toList)) ⟨40, rfl⟩
  · refine (hoverlaid.others "sys.db.host" fun key _ hlongest => ?_).trans (by decide)
    have hle := hlongest.le "sys.db." (by decide) "host" rfl
    exact absurd hle (by decide)
  · exact @substitute_of_endsWith _ _ (.ok (some "below".toList)) ⟨40, rfl⟩
  · have hprepare : showEngine.prepare none ["show", "--user=me"] =
        .ok ⟨showSample, [], [.text "me"]⟩ := rfl
    have hchain : (Chain.start ⟨showSample, ∅, showEngine.interceptors⟩ [.text "me"]).1 =
        .ok (.list [.text "me"]) := rfl
    rw [hinvoke, Engine.invoke_of_prepare hprepare]
    dsimp only
    rw [hchain]
    rfl

end Resolver

end CommandLine
