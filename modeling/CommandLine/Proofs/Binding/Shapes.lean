import CommandLine.Proofs.Binding.Exactness
import CommandLine.Proofs.Conversion.Kinds
import Mathlib

/-!
# The shapes of bound values

`Binder.Fits` says what a parameter may be bound to: a value of its kind, or null where the
declaration allows that. `bind_fits`: with types as they can be written and with the stock
converters, every bound value fits its parameter, wherever it came from: a token, a bare option, a
default, a zero or nothing at all. It does not matter which texts their recognizers accept.
-/

namespace CommandLine

/-! ## Parameters -/

namespace Binder

open Parameter

/-- Nothing says what an option is: no token has its name, and its default is absent or does not
resolve. -/
structure LeavesOpen (b : Binder) (given : Partition) (a : Attributes) : Prop where
  no_token : ∀ t ∈ given.options.tokens, t.name ≠ a.name
  no_default : ∀ expression, a.default? = some expression →
    b.resolver.substitute expression = .ok none

mutual

/-- What a parameter may be bound to, given the arguments. Null is only for an option that is left
open and nullable, and for a group that may be null. -/
def Fits (b : Binder) (given : Partition) : Parameter → Value → Prop
  | .plain _ type, value => value.HasKind type.kind
  | .option a type, value => value.HasKind type.kind ∨
      value = .null ∧ type.nullable = true ∧ b.LeavesOpen given a
  | .bean a type members, value => (value = .null ∧ a.nillable = true) ∨
      ∃ fields, value = .bean type fields ∧ fields.map (·.1) = members.map (·.name) ∧
        b.FitsAll given members (fields.map (·.2))
  | .internal a, value => value = b.internal a

/-- One value for each parameter, in their order. -/
def FitsAll (b : Binder) (given : Partition) : List Parameter → List Value → Prop
  | [], [] => True
  | p :: rest, value :: values => b.Fits given p value ∧ b.FitsAll given rest values
  | _, _ => False

end

variable {b : Binder} {given : Partition}

theorem FitsAll.length_eq {l : List Parameter} {values : List Value}
    (h : b.FitsAll given l values) : values.length = l.length := by
  induction l generalizing values with
  | nil =>
    cases values with
    | nil => rfl
    | cons value values => exact absurd h (by simp [FitsAll])
  | cons p rest ih =>
    cases values with
    | nil => exact absurd h (by simp [FitsAll])
    | cons value values =>
      rw [FitsAll] at h
      rw [List.length_cons, List.length_cons, ih h.2]

theorem defaultOr_eq_ok {a : Attributes} {type : ValueType} {label : String}
    {otherwise : Except Fault Value} {value : Value} (hc : b.converters.Faithful)
    (htype : type.kind.Writable) (h : b.defaultOr a type label otherwise = .ok value) :
    value.HasKind type.kind ∨ otherwise = .ok value ∧ ∀ expression, a.default? = some expression →
      b.resolver.substitute expression = .ok none := by
  unfold defaultOr at h
  split at h
  · rename_i hnone
    exact .inr ⟨h, fun expression hsome => by simp [hnone] at hsome⟩
  · rename_i expression hdefault
    split at h
    · cases h
    · rename_i hunresolved
      refine .inr ⟨h, fun expression' hsome => ?_⟩
      obtain rfl : expression = expression' := Option.some.inj (hdefault.symm.trans hsome)
      exact hunresolved
    · exact .inl (Converters.hasKind_of_convert_text hc htype (Except.mapError_eq_ok_iff.1 h))

/-- A plain parameter is bound to a value of its kind, even if its type is nullable. -/
theorem hasKind_of_plainRule {a : Attributes} {type : ValueType} {index : Nat}
    {positional? : Option String} {value : Value} (hc : b.converters.Faithful)
    (htype : type.kind.Writable) (h : b.plainRule a type index positional? = .ok value) :
    value.HasKind type.kind := by
  unfold plainRule at h
  dsimp only at h
  split at h
  · exact Converters.hasKind_of_convert_text hc htype (Except.mapError_eq_ok_iff.1 h)
  · obtain hkind | ⟨hmissing, -⟩ := defaultOr_eq_ok hc htype h
    · exact hkind
    · cases hmissing

theorem fits_of_optionRule {a : Attributes} {type : ValueType} {value : Value}
    (hc : b.converters.Faithful) (htype : type.kind.Writable)
    (h : b.optionRule a type (given.options.last? a.name) = .ok value) :
    b.Fits given (.option a type) value := by
  rw [Fits]
  unfold optionRule at h
  dsimp only at h
  split at h
  · exact .inl (Converters.hasKind_of_convert_text hc htype (Except.mapError_eq_ok_iff.1 h))
  · split at h
    · rename_i hbool
      exact .inl (Converters.hasKind_of_convert_bool hbool (Except.mapError_eq_ok_iff.1 h))
    · cases h
  · rename_i hnone
    have htoken : ∀ t ∈ given.options.tokens, t.name ≠ a.name := by
      intro t ht
      have := List.find?_eq_none.1 hnone t (List.mem_reverse.2 ht)
      simpa using this
    obtain hkind | ⟨hrest, hdefault⟩ := defaultOr_eq_ok hc htype h
    · exact .inl hkind
    · split at hrest
      · rename_i hnullable
        cases hrest
        exact .inr ⟨rfl, hnullable, htoken, hdefault⟩
      · split at hrest
        · rename_i zero hzero
          cases hrest
          exact .inl (ValueType.hasKind_of_zero? hzero)
        · cases hrest

mutual

theorem fits_of_rule (hc : b.converters.Faithful) {p : Parameter}
    (htypes : ∀ entry ∈ p.typed, entry.2.kind.Writable) {index place : Nat} {value : Value}
    (h : b.rule given index place p = .ok value) : b.Fits given p value := by
  match p with
  | .plain a type =>
    rw [rule] at h
    rw [Fits]
    exact hasKind_of_plainRule hc (htypes (a, type) (by simp [typed])) h
  | .option a type =>
    rw [rule] at h
    exact fits_of_optionRule hc (htypes (a, type) (by simp [typed])) h
  | .internal a =>
    rw [rule] at h
    cases h
    rw [Fits, internal]
  | .bean a type members =>
    rw [rule] at h
    rw [Fits]
    split at h
    · rename_i hnull
      cases h
      exact .inl ⟨rfl, hnull.1⟩
    · obtain ⟨values, hvalues, rfl⟩ := Except.map_eq_ok_iff.1 h
      rw [typed] at htypes
      have hfits := fitsAll_of_rules hc htypes hvalues
      have hlength : (members.map (·.name)).length = values.length := by
        rw [List.length_map, hfits.length_eq]
      refine .inr ⟨_, rfl, List.map_fst_zip (Nat.le_of_eq hlength), ?_⟩
      rwa [List.map_snd_zip (Nat.le_of_eq hlength.symm)]

theorem fitsAll_of_rules (hc : b.converters.Faithful) {l : List Parameter}
    (htypes : ∀ entry ∈ typedOfAll l, entry.2.kind.Writable) {index place : Nat}
    {values : List Value} (h : b.rules given index place l = .ok values) :
    b.FitsAll given l values := by
  match l with
  | [] =>
    rw [rules] at h
    cases h
    rw [FitsAll]
    trivial
  | p :: rest =>
    rw [rules] at h
    obtain ⟨value, others, hvalue, hothers, rfl⟩ := Except.bind_cons_eq_ok_iff.1 h
    simp only [typedOfAll, List.mem_append] at htypes
    rw [FitsAll]
    exact ⟨fits_of_rule hc (fun entry hentry => htypes entry (.inl hentry)) hvalue,
      fitsAll_of_rules hc (fun entry hentry => htypes entry (.inr hentry)) hothers⟩

end

/-- **Types are kept.** With the stock converters, whatever their recognizers accept, and with types
as they can be written, each parameter of a command that the registry accepts is bound to a value
that fits it. -/
theorem bind_fits {commands : List Command} {registry : Registry}
    (hregistry : Registry.ofCommands commands = .ok registry) {command : Command}
    (hcommand : command ∈ registry.commands)
    (htypes : ∀ entry ∈ typedOfAll command.parameters,
      ∃ enums text, ValueType.read enums text = .ok entry.2)
    (resolver : Resolver) (internals : Table Value) (arguments : List String) :
    Converters.stock = .recognizing .stock ∧ ∀ (r : Recognizers) (values : List Value),
      Binder.bind ⟨.recognizing r, resolver, internals⟩ command.parameters arguments = .ok values →
        FitsAll ⟨.recognizing r, resolver, internals⟩ (.ofArguments arguments) command.parameters
          values := by
  refine ⟨Converters.stock_eq_recognizing, fun r values h => ?_⟩
  have hsound := Registry.sound_of_ofCommands hregistry hcommand
  have hrules := gives_iff.1 ((bind_eq_ok_iff hsound).1 h).1
  refine fitsAll_of_rules (Converters.faithful_recognizing r) (fun entry hentry => ?_) hrules
  obtain ⟨enums, text, hread⟩ := htypes entry hentry
  exact ValueType.writable_of_read hread

/-- A command with a plain parameter, options of several types, and a group. -/
def paintSample : Command where
  name := "paint"
  parameters :=
    [.plain { name := "count" } ⟨.int, true⟩,
      .option { name := "dry" } ⟨.bool, false⟩,
      .option { name := "tone" } ⟨.enum ⟨"Tone", ["LIGHT", "DARK"]⟩, false⟩,
      .option { name := "mark", default? := some "${mark:-x}" } ⟨.named "char", false⟩,
      .bean { name := "sheet" } "Sheet"
        [.option { name := "file" } ⟨.named "path", false⟩,
          .option { name := "note", default? := some "${note}" } ⟨.text, true⟩]]
  target := ⟨"Sample", "paint", none⟩
  action := fun _ => { result := .ok .null }

theorem written_paintSample {entry : Attributes × ValueType}
    (h : entry ∈ typedOfAll paintSample.parameters) :
    ∃ enums text, ValueType.read enums text = .ok entry.2 := by
  simp only [paintSample, typedOfAll, typed, List.append_nil, List.cons_append, List.nil_append,
    List.mem_cons, List.not_mem_nil, or_false] at h
  rcases h with rfl | rfl | rfl | rfl | rfl | rfl
  · exact ⟨[], "int?", rfl⟩
  · exact ⟨[], "boolean", rfl⟩
  · exact ⟨[⟨"Tone", ["LIGHT", "DARK"]⟩], "enum:Tone", rfl⟩
  · exact ⟨[], "char", rfl⟩
  · exact ⟨[], "path", rfl⟩
  · exact ⟨[], "string ?", rfl⟩

/-- Values from a token, a bare option and a default, and a null for an option that is left open. -/
theorem bind_fits_paint :
    Registry.ofCommands [paintSample] = .ok (.push .empty paintSample) ∧
      paintSample ∈ [paintSample] ∧
      (∀ entry ∈ typedOfAll paintSample.parameters,
        ∃ enums text, ValueType.read enums text = .ok entry.2) ∧
      Binder.bind ⟨.stock, ⟨[], ∅⟩, ∅⟩ paintSample.parameters
          ["--dry", "-3", "--tone=dark", "--file=a.png"] =
        .ok [.int (-3), .bool true, .enum "Tone" "DARK", .text "x",
          .bean "Sheet" [("file", .custom "path" "a.png"), ("note", .null)]] ∧
      FitsAll ⟨.stock, ⟨[], ∅⟩, ∅⟩ (.ofArguments ["--dry", "-3", "--tone=dark", "--file=a.png"])
        paintSample.parameters
        [.int (-3), .bool true, .enum "Tone" "DARK", .text "x",
          .bean "Sheet" [("file", .custom "path" "a.png"), ("note", .null)]] := by
  have hregistry : Registry.ofCommands [paintSample] = .ok (.push .empty paintSample) := rfl
  have hcommand : paintSample ∈ [paintSample] := List.mem_singleton.2 rfl
  have hbind : Binder.bind ⟨.stock, ⟨[], ∅⟩, ∅⟩ paintSample.parameters
      ["--dry", "-3", "--tone=dark", "--file=a.png"] =
        .ok [.int (-3), .bool true, .enum "Tone" "DARK", .text "x",
          .bean "Sheet" [("file", .custom "path" "a.png"), ("note", .null)]] := by cbv
  obtain ⟨hstock, hfits⟩ := bind_fits hregistry hcommand (fun _ => written_paintSample) ⟨[], ∅⟩ ∅
    ["--dry", "-3", "--tone=dark", "--file=a.png"]
  refine ⟨hregistry, hcommand, fun _ => written_paintSample, hbind, ?_⟩
  rw [hstock] at hbind ⊢
  exact hfits .stock _ hbind

end Binder

end CommandLine
