import CommandLine.Table

/-!
Properties: names bound to texts, in layers. A name is looked up in the top layer first and then
in the layers below it.
-/

namespace CommandLine

/-- Layers of names bound to texts, the top layer first. -/
structure Properties where
  layers : List (Table String)

namespace Properties

/-- One layer. -/
def ofTable (table : Table String) : Properties := ⟨[table]⟩

instance : EmptyCollection Properties := ⟨ofTable ∅⟩

/-- The text of the topmost layer that binds the name. -/
def get? (p : Properties) (name : String) : Option String :=
  p.layers.findSome? (·[name]?)

/-- Puts a layer of overrides over the properties, or over nothing. -/
def overlay (overrides : Table String) (below? : Option Properties) : Properties :=
  ⟨overrides :: (below?.map layers).getD []⟩

/-- The names bound in some layer. -/
def names (p : Properties) : List String :=
  p.layers.flatMap (·.keys)

@[simp] theorem get?_ofTable (t : Table String) (name : String) :
    (ofTable t).get? name = t[name]? := by
  cases h : t[name]? <;> simp [ofTable, get?, h]

theorem get?_overlay (t : Table String) (below? : Option Properties) (name : String) :
    (overlay t below?).get? name = t[name]?.or (below?.bind (·.get? name)) := by
  cases h : t[name]? <;> cases below? <;> simp [overlay, get?, h]

theorem mem_names_of_get? {p : Properties} {name text : String} (h : p.get? name = some text) :
    name ∈ p.names := by
  obtain ⟨t, ht, hget⟩ := List.exists_of_findSome?_eq_some h
  refine List.mem_flatMap.2 ⟨t, ht, ?_⟩
  rw [Std.TreeMap.mem_keys, Std.TreeMap.mem_iff_isSome_getElem?, hget]
  rfl

end Properties

end CommandLine
