import CommandLine.Proofs.Binding.Reached
import CommandLine.Proofs.Invocation.Preparation
import CommandLine.Proofs.Program.Layers
import CommandLine.Proofs.Program.Warnings
import CommandLine.Proofs.Substitution.Plain
import CommandLine.Proofs.Text.Trimming
import Mathlib

/-!
# The precedence of properties

A property is assigned a text before the command name, among the settings, and among the defaults
under the name `sys.` and its own. `Program.layers` are these layers, and the resolver of a run
looks them through in this order (`eq_lookup_of_firstSaid`). `option_precedence`: so an option that
is not given, and that has a reference to a property as its default, is converted from what the
first layer says that says anything, or else from the inline default.
-/

namespace CommandLine

/-! ## Names of properties -/

namespace Template

/-- The name under which a property is referred to. -/
def Name.property (key : Name) : Name where
  text := "sys." ++ key.text
  ne_empty h := by
    have hchars := congrArg String.toList h
    simp at hchars
  trimmed := by
    have hkey : Text.trimChars key.text.toList = key.text.toList := by
      simpa using congrArg String.toList key.trimmed
    have hne : key.text.toList ≠ [] := fun h =>
      key.ne_empty (String.toList_inj.1 (by simpa using h))
    apply String.toList_inj.1
    simpa using Text.trimChars_cons_append (c := 's') (by decide) ['y', 's', '.'] hkey hne
  plain c hc := by
    rw [String.toList_append, List.mem_append] at hc
    obtain hc | hc := hc
    · obtain rfl | rfl | rfl | rfl : c = 's' ∨ c = 'y' ∨ c = 's' ∨ c = '.' := by simpa using hc
      all_goals decide
    · exact key.plain c hc

end Template

namespace Resolver

/-- Besides the environment, the resolver has these properties and no other context. -/
def HasProperties (r : Resolver) (properties : Properties) : Prop :=
  ∃ environment, r.contexts = [(environmentPrefix, environment), (propertyPrefix, properties)]

theorem environmentPrefix_ne : (environmentPrefix != propertyPrefix) = true := by decide

theorem hasProperties_install {r : Resolver} {environment : Properties}
    (h : r.contexts.filter (·.1 != propertyPrefix) = [(environmentPrefix, environment)])
    (properties : Properties) : (r.install propertyPrefix properties).HasProperties properties := by
  have hprecedes : precedes propertyPrefix environmentPrefix = false := by decide
  exact ⟨environment, by simp [install, h, place, hprecedes]⟩

theorem HasProperties.install {r : Resolver} {others : Properties} (h : r.HasProperties others)
    (properties : Properties) : (r.install propertyPrefix properties).HasProperties properties := by
  obtain ⟨environment, hcontexts⟩ := h
  have hothers : r.contexts.filter (·.1 != propertyPrefix) =
      [(environmentPrefix, environment)] := by
    simp [hcontexts, environmentPrefix_ne]
  exact hasProperties_install hothers properties

theorem hasProperties_ofEnvironment (environment : Table String) :
    (ofEnvironment environment).HasProperties ∅ := by
  have hothers : (({ contexts := [], defaults := ∅ } : Resolver).install environmentPrefix
      (.ofTable environment)).contexts.filter (·.1 != propertyPrefix) =
        [(environmentPrefix, .ofTable environment)] := by
    simp [Resolver.install, place, environmentPrefix_ne]
  exact hasProperties_install hothers ∅

theorem HasProperties.context?_eq {r : Resolver} {properties : Properties}
    (h : r.HasProperties properties) : r.context? propertyPrefix = some properties := by
  obtain ⟨environment, hcontexts⟩ := h
  rw [context?, hcontexts]
  rfl

theorem HasProperties.override {r : Resolver} {properties : Properties}
    (h : r.HasProperties properties) (overrides : Table String) :
    (r.override overrides).HasProperties (.overlay overrides (some properties)) := by
  rw [Resolver.override, h.context?_eq]
  exact h.install _

theorem HasProperties.lookup_eq {r : Resolver} {properties : Properties}
    (h : r.HasProperties properties) (key : String) :
    r.lookup ("sys." ++ key) = (properties.get? key).or (r.defaults.get? ("sys." ++ key)) := by
  obtain ⟨environment, hcontexts⟩ := h
  have henv : withoutPrefix? environmentPrefix ("sys." ++ key) = none := by
    rw [Option.eq_none_iff_forall_ne_some]
    intro rest hrest
    have hchars := congrArg (fun s : String => s.toList.head?) (withoutPrefix?_eq_some_iff.1 hrest)
    simp [environmentPrefix] at hchars
  have hsys : withoutPrefix? propertyPrefix ("sys." ++ key) = some key :=
    withoutPrefix?_eq_some_iff.2 rfl
  rw [lookup, hcontexts, scoped?, henv]
  simp only
  rw [scoped?, hsys]

end Resolver

/-! ## The layers of a run -/

namespace Program

/-- The layers in which a property is looked up, the first that counts first: the tokens before the
command name, the properties, and the defaults, where its name has a prefix. -/
def layers (source : CatalogSource) (tokens : List String) (key : String) : List Layer :=
  [⟨Assignment.Overrides key, (Argv.ofTokens tokens).globals⟩,
    ⟨Assignment.Assigns key, source.properties⟩,
    ⟨Assignment.Assigns ("sys." ++ key), source.defaults⟩]

end Program

namespace Engine

theorem hasProperties_resolver {p : Parts} (h : p.contexts = []) :
    p.resolver.HasProperties (.ofTable p.properties) := by
  unfold Parts.resolver
  rw [h]
  exact (Resolver.hasProperties_ofEnvironment _).install _

theorem defaults_resolver {p : Parts} (h : p.contexts = []) :
    p.resolver.defaults = .ofTable p.defaults := by
  unfold Parts.resolver
  rw [h]
  rfl

/-- The overrides come first, then the properties, then the defaults. -/
theorem lookup_resolverWith {p : Parts} {e : Engine} (he : ofParts p = .ok e)
    (hcontexts : p.contexts = []) (overrides : Table String) (key : String) :
    (e.resolverWith overrides).lookup ("sys." ++ key) =
      [overrides[key]?, p.properties[key]?, p.defaults["sys." ++ key]?].findSome? id := by
  obtain ⟨-, registry, -, rfl⟩ := ofParts_eq_ok_iff.1 he
  have hproperties := hasProperties_resolver hcontexts
  have hdefaults : (p.resolver.override overrides).defaults = p.resolver.defaults := rfl
  have hor : ∀ x y z : Option String, [x, y, z].findSome? id = x.or (y.or z) := by
    intro x y z
    cases x <;> cases y <;> cases z <;> rfl
  unfold resolverWith
  dsimp only
  rw [hor]
  split
  · rename_i hempty
    have hnone : overrides[key]? = none := Std.TreeMap.getElem?_of_isEmpty hempty
    rw [hproperties.lookup_eq, defaults_resolver hcontexts, hnone]
    simp
  · rw [(hproperties.override overrides).lookup_eq, hdefaults, defaults_resolver hcontexts,
      Properties.get?_overlay]
    simp [Option.or_assoc]

/-- The binder of the arguments of a command. -/
def argumentBinder (e : Engine) (position? : Option Position) (command : Command)
    (overrides : Table String) (globals : List Value) : Binder :=
  { e.binderWith overrides with internals := e.internals command globals position? }

section Reached

variable {e : Engine} {tokens : List String} {command : Command} {k : Nat} {p : Parameter}

theorem run_of_reaches (hcommand : e.Names tokens command) (hp : command.parameters[k]? = some p)
    {overrides : Table String} {globals : List Value} {left : Supply} {fault : Fault}
    (hglobals : e.BindsGlobals tokens overrides globals)
    (hreaches : (e.argumentBinder none command overrides globals).Reaches command.parameters
      (Argv.ofTokens tokens).arguments k left)
    (hfault : (e.argumentBinder none command overrides globals).parameter k p left =
      .error fault) : e.run tokens = (.error fault, []) :=
  invoke_of_refuses
    (.arguments hcommand hglobals (Binder.bind_of_reaches hreaches hp hfault)) ∅

theorem exists_reaches_of_run (hcommand : e.Names tokens command)
    (hp : command.parameters[k]? = some p) {outcome : Outcome}
    (h : (e.run tokens).1 = .ok outcome) :
    ∃ overrides globals left value after, e.BindsGlobals tokens overrides globals ∧
      (e.argumentBinder none command overrides globals).Reaches command.parameters
        (Argv.ofTokens tokens).arguments k left ∧
      (e.argumentBinder none command overrides globals).parameter k p left = .ok (value, after) ∧
      outcome.arguments[k]? = some value := by
  obtain ⟨i, ⟨hnames, overrides, hglobals, harguments⟩, -, -, heq⟩ := exists_bound_of_invoke h
  obtain rfl := hcommand.unique hnames
  obtain ⟨left, value, after, hreaches, hvalue, hplace⟩ :=
    Binder.exists_reaches_of_bind harguments hp
  exact ⟨overrides, i.globals, left, value, after, hglobals, hreaches, hvalue, heq ▸ hplace⟩

end Reached

end Engine

namespace Settings

/-- The settings of a run have the tables that the assignments make. -/
theorem assign_of_ofRequest {around : Surroundings} {debug : Bool} {source : CatalogSource}
    {tokens : List String} {s : Settings}
    (h : ofRequest around ⟨debug, .run source tokens⟩ = .ok s) :
    assign ∅ source.properties = .ok s.properties ∧ assign ∅ source.defaults = .ok s.defaults := by
  obtain ⟨properties, hproperties, h⟩ := Except.bind_eq_ok_iff.1 h
  obtain ⟨defaults, hdefaults, h⟩ := Except.bind_eq_ok_iff.1 h
  unfold validate at h
  split at h
  · cases h
  · split at h
    · cases h
    · cases h
      exact ⟨hproperties, hdefaults⟩

end Settings

namespace Program

open Engine

variable {around : Surroundings} {s : Settings} {e : Engine} {debug : Bool}
  {source : CatalogSource} {tokens : List String}

/-- The text that the layers give for a property is what the resolver of the run has for its name,
or else the inline default. -/
theorem eq_lookup_of_firstSaid (hs : Settings.ofRequest around ⟨debug, .run source tokens⟩ = .ok s)
    (he : engine around s = .ok e) {key : Template.Name} {inline text : String}
    (htext : FirstSaid inline (layers source tokens key.text) text) {overrides : Table String}
    {others : List String}
    (hextract : Assignment.extractOverrides (Argv.ofTokens tokens).globals =
      .ok (overrides, others)) :
    text = ((e.resolverWith overrides).lookup ("sys." ++ key.text)).getD inline := by
  obtain ⟨path, contents, catalog, -, -, -, hparts⟩ := engine_eq_ok_iff.1 he
  obtain ⟨hassigned, hassigned'⟩ := Settings.assign_of_ofRequest hs
  rw [lookup_resolverWith hparts rfl]
  refine htext.eq_of_answers (.cons (fun said hsaid => ?_) (.cons (fun said hsaid => ?_)
    (.cons (fun said hsaid => ?_) .nil)))
  · exact Assignment.getElem?_of_extractOverrides key.ne_empty hextract hsaid
  · have hproperty := Settings.getElem?_of_assign key.ne_empty hassigned hsaid
    simpa [parts] using hproperty
  · have hkey : "sys." ++ key.text ≠ "" := key.property.ne_empty
    have hdefault := Settings.getElem?_of_assign hkey hassigned' hsaid
    simpa [parts] using hdefault

theorem substitute_of_firstSaid
    (hs : Settings.ofRequest around ⟨debug, .run source tokens⟩ = .ok s)
    (he : engine around s = .ok e) {key : Template.Name} {inline text : String}
    (hbrace : '}' ∉ inline.toList) (hopens : ¬ Reference.Opens inline.toList)
    (hvalues : ∀ l ∈ layers source tokens key.text, ∀ text ∈ l.texts, ∀ value,
      l.assigns text value → ¬ Reference.Opens value.toList)
    (htext : FirstSaid inline (layers source tokens key.text) text) {overrides : Table String}
    {others : List String}
    (hextract : Assignment.extractOverrides (Argv.ofTokens tokens).globals =
      .ok (overrides, others)) :
    (e.resolverWith overrides).substitute
        ("$\x7bsys." ++ key.text ++ ":-" ++ inline ++ "\x7d") = .ok (some text) := by
  have hplain : ¬ Reference.Opens text.toList := by
    obtain rfl | ⟨l, hl, other, hother, hassigns⟩ := htext.eq_or_assigns
    · exact hopens
    · exact hvalues l hl other hother text hassigns
  have hexpression : "$\x7bsys." ++ key.text ++ ":-" ++ inline ++ "\x7d" =
      "$\x7b" ++ key.property.text ++ ":-" ++ inline ++ "\x7d" :=
    String.toList_inj.1 (by simp [Template.Name.property])
  have hlookup : text = ((e.resolverWith overrides).lookup key.property.text).getD inline :=
    eq_lookup_of_firstSaid hs he htext hextract
  rw [hexpression, Resolver.substitute_withDefault key.property hopens hbrace, ← hlookup]
  intro stored hstored
  obtain rfl : text = stored := by simpa [hstored] using hlookup
  exact hplain

/-- **Precedence.** An option outside of groups has a reference to the property `key` as its
default, with an inline default in which nothing is opened or closed, and the run has no token for
it. Where binding reaches it, it is converted from the text of the first layer that assigns one to
the property, the last assignment of the layer counting, or else from the inline default. If that
text cannot be converted, the run fails for it; if the run succeeds, the option has what the text is
converted to. -/
theorem option_precedence
    (hs : Settings.ofRequest around ⟨debug, .run source tokens⟩ = .ok s)
    (he : engine around s = .ok e) {command : Command} (hcommand : e.Names tokens command)
    {k : Nat} {a : Attributes} {type : ValueType}
    (hoption : command.parameters[k]? = some (.option a type)) {key : Template.Name}
    {inline : String}
    (hdefault : a.default? = some ("$\x7bsys." ++ key.text ++ ":-" ++ inline ++ "\x7d"))
    (hbrace : '}' ∉ inline.toList) (hopens : ¬ Reference.Opens inline.toList)
    (hvalues : ∀ l ∈ layers source tokens key.text, ∀ text ∈ l.texts, ∀ value,
      l.assigns text value → ¬ Reference.Opens value.toList)
    (htokens : ∀ t ∈ (Partition.ofArguments (Argv.ofTokens tokens).arguments).options.tokens,
      t.name ≠ a.name) :
    (∃ text, FirstSaid inline (layers source tokens key.text) text) ∧
    ∀ text, FirstSaid inline (layers source tokens key.text) text →
      (∀ overrides globals left, e.BindsGlobals tokens overrides globals →
        (e.argumentBinder none command overrides globals).Reaches command.parameters
          (Argv.ofTokens tokens).arguments k left →
        (e.argumentBinder none command overrides globals).option a type
            (left.options.take a.name).1 =
          (e.converters.convert (.text text) type ("--" ++ a.name)).mapError .conversion ∧
        ∀ failure, e.converters.convert (.text text) type ("--" ++ a.name) = .error failure →
          e.run tokens = (.error (.conversion failure), [])) ∧
      ∀ outcome, (e.run tokens).1 = .ok outcome →
        ∃ value, e.converters.convert (.text text) type ("--" ++ a.name) = .ok value ∧
          outcome.arguments[k]? = some value := by
  refine ⟨FirstSaid.exists_firstSaid _ _, fun text htext => ?_⟩
  have hsound := (stocked_of_engine he).sound _ (mem_commands_of_names hcommand)
  -- what the option is converted from, wherever binding reaches it
  have hreached : ∀ overrides globals left, e.BindsGlobals tokens overrides globals →
      (e.argumentBinder none command overrides globals).Reaches command.parameters
        (Argv.ofTokens tokens).arguments k left →
      (e.argumentBinder none command overrides globals).option a type
          (left.options.take a.name).1 =
        (e.converters.convert (.text text) type ("--" ++ a.name)).mapError .conversion := by
    rintro overrides globals left ⟨others, hextract, -⟩ hreaches
    rw [Binder.take_of_reaches hsound hreaches hoption htokens]
    exact Binder.option_of_default hdefault
      (substitute_of_firstSaid hs he hbrace hopens hvalues htext hextract)
  refine ⟨fun overrides globals left hglobals hreaches =>
    ⟨hreached overrides globals left hglobals hreaches, fun failure hfailure => ?_⟩,
    fun outcome houtcome => ?_⟩
  · refine run_of_reaches hcommand hoption hglobals hreaches ?_
    rw [Binder.parameter]
    simp only [hreached overrides globals left hglobals hreaches, hfailure]
    rfl
  · obtain ⟨overrides, globals, left, value, after, hglobals, hreaches, hvalue, hplace⟩ :=
      exists_reaches_of_run hcommand hoption houtcome
    have hconvert := hreached overrides globals left hglobals hreaches
    rw [Binder.parameter] at hvalue
    obtain ⟨found, hfound, hsame⟩ := Except.map_eq_ok_iff.1 hvalue
    obtain ⟨rfl, -⟩ : found = value ∧ _ = after := by simpa using hsame
    exact ⟨found, Except.mapError_eq_ok_iff.1 (hconvert.symm.trans hfound), hplace⟩

/-- A command with an option that has a reference to a property as its default. -/
def serveSample : Command where
  name := "serve"
  parameters := [.option { name := "port", default? := some "$\x7bsys.port:-80\x7d" } ⟨.int, false⟩]
  target := ⟨"catalog", "echo", none⟩
  action := Action.echo

/-- A catalog of this command. Its fields stand in lists, in the order of their declaration. -/
def serveText : String :=
  "[[],[],[[\"serve\",null,\"echo\",null,null,[]," ++
    "[[\"option\",\"port\",\"int\",\"$\x7bsys.port:-80\x7d\"]]]]]"

def serveSettings : Settings where
  catalogPath? := some "catalog"
  properties := (∅ : Table String).insert "port" "1"
  defaults := (∅ : Table String).insert "sys.port" "2"

def serveParts : Engine.Parts where
  commands := [serveSample]
  properties := serveSettings.properties
  defaults := serveSettings.defaults
  surroundings := { file? := fun _ => some (.text serveText) }

def serveEngine : Engine where
  registry := .push .empty serveSample
  globals := []
  converters := .stock
  resolver := serveParts.resolver
  validator? := none
  interceptors := .stock
  surroundings := serveParts.surroundings

def serveSource : CatalogSource := ⟨"catalog", ["port=1"], ["sys.port=2"]⟩

def serveTokens : List String := ["-Dport=3", "-D port =", "serve"]

theorem engine_serveText : engine serveParts.surroundings serveSettings = .ok serveEngine := by
  have hload : Catalog.load serveText "catalog" = .ok { commands := [serveSample] } := by cbv
  have hparts : Engine.ofParts serveParts = .ok serveEngine :=
    Engine.ofParts_eq_ok_iff.2 ⟨rfl, .push .empty serveSample, rfl, rfl⟩
  exact engine_eq_ok_iff.2 ⟨"catalog", serveText, _, rfl, rfl, hload, hparts⟩

/-- The last override counts though its value is empty, and an empty text is no port. -/
theorem option_precedence_serve :
    Settings.ofRequest serveParts.surroundings ⟨false, .run serveSource serveTokens⟩ =
        .ok serveSettings ∧
      engine serveParts.surroundings serveSettings = .ok serveEngine ∧
      serveEngine.run serveTokens =
        (.error (.conversion (.refused "--port" "" "int" (.notInteger ""))), []) := by
  have hs : Settings.ofRequest serveParts.surroundings ⟨false, .run serveSource serveTokens⟩ =
      .ok serveSettings := rfl
  have hcommand : serveEngine.Names serveTokens serveSample := ⟨"serve", rfl, rfl⟩
  let key : Template.Name := ⟨"port", by decide, by decide, by simp⟩
  have hdefault : some "$\x7bsys.port:-80\x7d" =
      some ("$\x7bsys." ++ key.text ++ ":-" ++ "80" ++ "\x7d") := rfl
  have htexts : ∀ l ∈ layers serveSource serveTokens key.text, ∀ text ∈ l.texts,
      ¬ Reference.Opens text.toList := by decide +kernel
  have hvalues : ∀ l ∈ layers serveSource serveTokens key.text, ∀ text ∈ l.texts, ∀ value,
      l.assigns text value → ¬ Reference.Opens value.toList := by
    intro l hl text htext value hassigns hopens
    have hsuffix : value.toList <:+ text.toList := by
      simp only [layers, List.mem_cons, List.not_mem_nil, or_false] at hl
      obtain rfl | rfl | rfl := hl
      · exact Assignment.Overrides.suffix hassigns
      · exact Assignment.Assigns.suffix hassigns
      · exact Assignment.Assigns.suffix hassigns
    exact htexts l hl text htext (hopens.trans hsuffix.isInfix)
  have hempty : FirstSaid "80" (layers serveSource serveTokens key.text) "" := by
    refine .here (@Layer.Says.last _ ["-Dport=3"] [] "-D port =" "" rfl ?_ nofun)
    exact ⟨" port =", rfl, " port ", rfl, by decide, by decide⟩
  have hport : serveSample.parameters[0]? = some (.option
      { name := "port", default? := some "$\x7bsys.port:-80\x7d" } ⟨.int, false⟩) := rfl
  obtain ⟨-, hlayered⟩ := option_precedence hs engine_serveText hcommand hport hdefault
    (by decide) (by decide) hvalues nofun
  have hglobals : serveEngine.BindsGlobals serveTokens ((∅ : Table String).insert "port" "3"
      |>.insert "port" "") [] := ⟨[], rfl, rfl⟩
  obtain ⟨hreached, -⟩ := hlayered "" hempty
  exact ⟨hs, engine_serveText, (hreached _ _ _ hglobals ⟨[], rfl⟩).2 _ rfl⟩

end Program

end CommandLine
