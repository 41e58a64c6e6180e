import CommandLine.Properties

/-!
Name resolution. A resolver holds properties under prefixes, and defaults. The longest prefix that a
name starts with decides where the rest of the name is looked up; on a miss the full name is looked
up among the defaults, and no shorter prefix is tried.
-/

namespace CommandLine

/-- The part of a name after a prefix. -/
def withoutPrefix? (start name : String) : Option String :=
  if start.toList.isPrefixOf name.toList then
    some (String.ofList (name.toList.drop start.toList.length))
  else none

theorem withoutPrefix?_eq_some_iff {start name rest : String} :
    withoutPrefix? start name = some rest ↔ name = start ++ rest := by
  simp only [withoutPrefix?]
  constructor
  · intro h
    split at h
    · rename_i hp
      obtain ⟨t, ht⟩ := List.isPrefixOf_iff_prefix.1 hp
      cases h
      apply String.toList_inj.1
      simp [← ht]
    · cases h
  · rintro rfl
    simp

/-- Properties under prefixes, and defaults for names that these leave open. -/
structure Resolver where
  /-- The longest prefix first, prefixes of one length in their order. -/
  contexts : List (String × Properties)
  defaults : Properties

namespace Resolver

/-- The order of prefixes: the longer in bytes comes first, then the lesser. -/
def precedes (a b : String) : Bool :=
  b.utf8ByteSize < a.utf8ByteSize || (a.utf8ByteSize == b.utf8ByteSize && a < b)

/-- The prefix under which the properties of the process stand. -/
def propertyPrefix : String := "sys."

/-- The prefix under which the environment stands. -/
def environmentPrefix : String := "env."

def prefixes (r : Resolver) : List String := r.contexts.map (·.1)

/-- Puts a context in front of the first one that it precedes. -/
def place {α : Type} (entry : String × α) : List (String × α) → List (String × α)
  | [] => [entry]
  | other :: rest =>
    if precedes entry.1 other.1 then entry :: other :: rest else other :: place entry rest

/-- Installs properties under a prefix, in place of those installed there before. -/
def install (start : String) (properties : Properties) (r : Resolver) : Resolver :=
  { r with contexts := place (start, properties) (r.contexts.filter (·.1 != start)) }

/-- Replaces the defaults. -/
def withDefaults (defaults : Properties) (r : Resolver) : Resolver :=
  { r with defaults }

/-- A resolver with the environment and no properties of the process. -/
def ofEnvironment (environment : Table String) : Resolver :=
  ({ contexts := [], defaults := ∅ } : Resolver)
    |>.install environmentPrefix (.ofTable environment)
    |>.install propertyPrefix ∅

/-- The properties installed under exactly this prefix. -/
def context? (r : Resolver) (start : String) : Option Properties :=
  r.contexts.lookup start

/-- Lays overrides over the properties of the process. -/
def override (overrides : Table String) (r : Resolver) : Resolver :=
  r.install propertyPrefix (.overlay overrides (r.context? propertyPrefix))

/-- What the longest prefix of the name says about it, if some prefix matches. -/
def scoped? (name : String) : List (String × Properties) → Option String
  | [] => none
  | (start, properties) :: rest =>
    match withoutPrefix? start name with
    | some key => properties.get? key
    | none => scoped? name rest

/-- The text stored for a name. -/
def lookup (r : Resolver) (name : String) : Option String :=
  (scoped? name r.contexts).or (r.defaults.get? name)

/-- Every name for which a text may be stored. -/
def names (r : Resolver) : List String :=
  (r.contexts.flatMap fun (start, properties) => properties.names.map (start ++ ·))
    ++ r.defaults.names

theorem exists_mem_of_scoped? {name text : String} {contexts : List (String × Properties)}
    (h : scoped? name contexts = some text) :
    ∃ c ∈ contexts, ∃ key, name = c.1 ++ key ∧ c.2.get? key = some text := by
  induction contexts with
  | nil => simp [scoped?] at h
  | cons c rest ih =>
    simp only [scoped?] at h
    split at h
    · rename_i key hkey
      exact ⟨c, by simp, key, withoutPrefix?_eq_some_iff.1 hkey, h⟩
    · obtain ⟨d, hd, key, hkey⟩ := ih h
      exact ⟨d, by simp [hd], key, hkey⟩

theorem mem_names_of_lookup {r : Resolver} {name text : String}
    (h : r.lookup name = some text) : name ∈ r.names := by
  simp only [lookup, Option.or_eq_some_iff] at h
  rcases h with h | ⟨-, h⟩
  · obtain ⟨c, hc, key, rfl, hget⟩ := exists_mem_of_scoped? h
    exact List.mem_append_left _ (List.mem_flatMap.2
      ⟨c, hc, List.mem_map.2 ⟨key, Properties.mem_names_of_get? hget, rfl⟩⟩)
  · exact List.mem_append_right _ (Properties.mem_names_of_get? h)

/-- The text stored for a name, which then is one of the names. -/
def stored? (r : Resolver) (name : String) : Option { _text : String // name ∈ r.names } :=
  if h : name ∈ r.names then (r.lookup name).map (⟨·, h⟩) else none

theorem map_stored? (r : Resolver) (name : String) :
    (r.stored? name).map (·.1) = r.lookup name := by
  unfold stored?
  split
  · simp [Function.comp_def]
  · rename_i hname
    cases h : r.lookup name with
    | none => rfl
    | some text => exact absurd (mem_names_of_lookup h) hname

end Resolver

end CommandLine
