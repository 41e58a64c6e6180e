import CommandLine.Proofs.Substitution.Cycles

/-!
# Resolvers whose contexts are no tables

The contexts of a resolver are tables, so that an expansion ends. Which context answers for a name
does not depend on that. `Sources` are what a resolver comes to when each context is no more than
the answers that it gives, and may give them for any name. What may be done to resolvers can be done
to them, and comes to the same (`sources_after`), for the answers of the two agree
(`lookup_sources`). `substitute_eq_of_lookup`: an expansion sees no more than these.
-/

namespace CommandLine

/-- What a context says of the names under its prefix. -/
abbrev Answers := String → Option String

/-- What a table says. -/
def Table.answers (table : Table String) : Answers := fun name => table[name]?

/-- Overrides in front of what is below them, if there is anything. -/
def Answers.overlay (overrides : Table String) (below? : Option Answers) : Answers :=
  fun name => overrides[name]?.or (below?.bind fun below => below name)

/-- What may be done to a resolver, with contexts of some kind. -/
inductive Change (Context : Type) where
  /-- Installs a context under a prefix. -/
  | context (start : String) (context : Context)
  /-- Replaces the defaults. -/
  | defaults (context : Context)
  /-- Lays overrides over the properties of the process. -/
  | overrides (overrides : Table String)

def Change.map {α β : Type} (f : α → β) : Change α → Change β
  | context start c => context start (f c)
  | defaults c => defaults (f c)
  | overrides o => overrides o

namespace Resolver

def change (r : Resolver) : Change Properties → Resolver
  | .context start properties => r.install start properties
  | .defaults properties => r.withDefaults properties
  | .overrides overrides => r.override overrides

/-- A new resolver after some changes. -/
def after (environment : Table String) (changes : List (Change Properties)) : Resolver :=
  changes.foldl change (.ofEnvironment environment)

end Resolver

/-- Contexts under prefixes, and defaults, which answer as they like. -/
structure Sources where
  contexts : List (String × Answers)
  defaults : Answers

namespace Sources

open Resolver (environmentPrefix propertyPrefix place)

def prefixes (s : Sources) : List String := s.contexts.map (·.1)

def install (start : String) (answers : Answers) (s : Sources) : Sources :=
  { s with contexts := place (start, answers) (s.contexts.filter (·.1 != start)) }

def withDefaults (defaults : Answers) (s : Sources) : Sources := { s with defaults }

def override (overrides : Table String) (s : Sources) : Sources :=
  s.install propertyPrefix (Answers.overlay overrides (s.contexts.lookup propertyPrefix))

def ofEnvironment (environment : Answers) : Sources :=
  (⟨[], fun _ => none⟩ : Sources)
    |>.install environmentPrefix environment
    |>.install propertyPrefix fun _ => none

/-- What the context of the first prefix of the name says, if some prefix matches. -/
def scoped? (name : String) : List (String × Answers) → Option String
  | [] => none
  | (start, answers) :: rest =>
    match withoutPrefix? start name with
    | some key => answers key
    | none => scoped? name rest

def lookup (s : Sources) : Answers := fun name => (scoped? name s.contexts).or (s.defaults name)

def change (s : Sources) : Change Answers → Sources
  | .context start answers => s.install start answers
  | .defaults answers => s.withDefaults answers
  | .overrides overrides => s.override overrides

def after (environment : Answers) (changes : List (Change Answers)) : Sources :=
  changes.foldl change (.ofEnvironment environment)

end Sources

/-! ## The sources of a resolver -/

namespace Resolver

/-- The answers of the tables. -/
def sources (r : Resolver) : Sources :=
  ⟨r.contexts.map (Prod.map id Properties.get?), r.defaults.get?⟩

@[simp] theorem prefixes_sources (r : Resolver) : r.sources.prefixes = r.prefixes := by
  simp [sources, Sources.prefixes, prefixes]

theorem map_place {α β : Type} (f : α → β) (entry : String × α) (l : List (String × α)) :
    (place entry l).map (Prod.map id f) = place (Prod.map id f entry) (l.map (Prod.map id f)) := by
  induction l with
  | nil => rfl
  | cons other rest ih =>
    simp only [place, List.map_cons, Prod.map_fst, id_eq]
    split
    · rfl
    · rw [List.map_cons, ih]

theorem sources_install (r : Resolver) (start : String) (properties : Properties) :
    (r.install start properties).sources = r.sources.install start properties.get? := by
  have hothers : (r.contexts.filter (·.1 != start)).map (Prod.map id Properties.get?) =
      (r.contexts.map (Prod.map id Properties.get?)).filter (·.1 != start) := by
    rw [List.filter_map]
    rfl
  unfold install sources Sources.install
  rw [map_place, hothers]
  rfl

theorem lookup_contexts_sources (r : Resolver) (start : String) :
    r.sources.contexts.lookup start = (r.context? start).map Properties.get? := by
  unfold sources context?
  dsimp only
  induction r.contexts with
  | nil => rfl
  | cons c rest ih =>
    rw [List.map_cons, Prod.map, id_eq, List.lookup_cons, List.lookup_cons, ih]
    cases start == c.1 <;> rfl

theorem sources_override (r : Resolver) (overrides : Table String) :
    (r.override overrides).sources = r.sources.override overrides := by
  have hoverlay : Properties.get? (.overlay overrides (r.context? propertyPrefix)) =
      Answers.overlay overrides (r.sources.contexts.lookup propertyPrefix) := by
    funext name
    rw [Properties.get?_overlay, lookup_contexts_sources, Answers.overlay, Option.bind_map]
    rfl
  rw [override, sources_install, hoverlay]
  rfl

theorem sources_ofEnvironment (environment : Table String) :
    (ofEnvironment environment).sources = .ofEnvironment environment.answers := by
  have hempty : Properties.get? ∅ = fun _ => none := by
    funext name
    exact (Properties.get?_ofTable ∅ name).trans Std.TreeMap.getElem?_emptyc
  have henvironment : Properties.get? (.ofTable environment) = environment.answers :=
    funext (Properties.get?_ofTable environment)
  unfold ofEnvironment Sources.ofEnvironment
  rw [sources_install, sources_install, hempty, henvironment]
  unfold sources
  rw [hempty]
  rfl

theorem sources_change (r : Resolver) (c : Change Properties) :
    (r.change c).sources = r.sources.change (c.map Properties.get?) := by
  cases c with
  | context start properties => exact sources_install r start properties
  | defaults properties => rfl
  | overrides overrides => exact sources_override r overrides

theorem sources_after (environment : Table String) (changes : List (Change Properties)) :
    (after environment changes).sources =
      .after environment.answers (changes.map (.map Properties.get?)) := by
  suffices h : ∀ r : Resolver, (changes.foldl change r).sources =
      (changes.map (.map Properties.get?)).foldl Sources.change r.sources by
    unfold after Sources.after
    rw [h, sources_ofEnvironment]
  induction changes with
  | nil => exact fun r => rfl
  | cons c rest ih =>
    intro r
    rw [List.foldl_cons, ih, sources_change]
    rfl

theorem lookup_sources (r : Resolver) : r.sources.lookup = r.lookup := by
  have hscoped : ∀ name (l : List (String × Properties)),
      Sources.scoped? name (l.map (Prod.map id Properties.get?)) = scoped? name l := by
    intro name l
    induction l with
    | nil => rfl
    | cons c rest ih =>
      rw [List.map_cons, Prod.map, Sources.scoped?, scoped?, ih]
      rfl
  funext name
  exact congrArg (Option.or · _) (hscoped name r.contexts)

end Resolver

/-! ## What an expansion sees -/

namespace Expansion

/-- The steps of an expansion end with one outcome at most. -/
theorem EndsWith.unique {lookup : Answers} {text : String}
    {outcome outcome' : Except Fault (Option (List Char))} (h : EndsWith lookup text outcome)
    (h' : EndsWith lookup text outcome') : outcome = outcome' := by
  obtain ⟨n, hn⟩ := h
  obtain ⟨n', hn'⟩ := h'
  wlog hle : n ≤ n' generalizing n n' outcome outcome'
  · exact (this n' hn' n hn (Nat.le_of_not_le hle)).symm
  obtain ⟨k, rfl⟩ := Nat.exists_eq_add_of_le' hle
  rw [Function.iterate_add_apply, hn] at hn'
  -- once all is done, it stays done
  have hdone : stepWith lookup (.done outcome) = .done outcome := rfl
  rw [Function.iterate_fixed hdone] at hn'
  exact Work.outcome.inj (congrArg Moment.work hn')

end Expansion

namespace Resolver

open Expansion (EndsWith endsWith_expand)

theorem substitute_of_endsWith {r : Resolver} {text : String}
    {outcome : Except Fault (Option (List Char))} (h : EndsWith r.lookup text outcome) :
    r.substitute text = outcome.map (·.map String.ofList) := by
  rw [substitute, h.unique (endsWith_expand r text)]

theorem substitute_eq_of_lookup {r r' : Resolver} (h : r.lookup = r'.lookup) (text : String) :
    r.substitute text = r'.substitute text :=
  substitute_of_endsWith (h ▸ endsWith_expand r' text)

end Resolver

end CommandLine
