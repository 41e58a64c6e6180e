import CommandLine.Conversion.Stock
import CommandLine.Proofs.Binding.Supplied
import CommandLine.Proofs.Catalog.Origin

/-!
# The kinds of converted values

`Value.HasKind` says which values a kind of types has, and converters are `Faithful` if what they
make has the kind whose key they are registered under. The stock converters are, and it does not
matter which texts are dates, timestamps, regular expressions and globs (`faithful_recognizing`).
-/

namespace CommandLine

open ValueType (Kind)

/-! ## Values and kinds -/

/-- The value is one of those that types of the kind stand for. A character is a text, and a value
of any other named type carries the name. -/
inductive Value.HasKind : Value → Kind → Prop
  | bool (b : Bool) : HasKind (.bool b) .bool
  | int (n : Int) : HasKind (.int n) .int
  | float (x : Float) : HasKind (.float x) .float
  | text (s : String) : HasKind (.text s) .text
  | enum {type : EnumType} {constant : String} (h : constant ∈ type.constants) :
      HasKind (.enum type.name constant) (.enum type)
  | char (c : Char) : HasKind (.text (String.ofList [c])) (.named "char")
  | named {key : String} (h : key ≠ "char") (shown : String) :
      HasKind (.custom key shown) (.named key)

namespace ValueType

theorem hasKind_of_zero? {type : ValueType} {value : Value} (h : type.zero? = some value) :
    value.HasKind type.kind := by
  unfold zero? at h
  split at h
  · cases h
  · split at h
    all_goals
      rename_i hkind
      cases h
      try rw [hkind]
    · exact .bool false
    · exact .int 0
    · exact .float 0.0

end ValueType

/-! ## Conversion -/

/-- What the converter makes has the kind. -/
def Converter.Makes (converter : Converter) (kind : Kind) : Prop :=
  ∀ text value, converter text = .ok value → value.HasKind kind

namespace Converters

/-- What a converter makes has the kind whose key it is registered under. -/
def Faithful (c : Converters) : Prop :=
  ∀ kind : Kind, kind.Writable → (∀ type, kind ≠ .enum type) → ∀ converter,
    c.find? kind.key = some converter → converter.Makes kind

variable {c : Converters} {type : ValueType} {parameter : String} {value : Value}

theorem hasKind_of_convert_text (hc : c.Faithful) (htype : type.kind.Writable) {text : String}
    (h : c.convert (.text text) type parameter = .ok value) : value.HasKind type.kind := by
  cases convert_eq_ok_iff.1 h with
  | same hraw =>
    obtain ⟨kind, nullable⟩ := type
    cases kind <;> simp [Value.isNull, Kind.admits] at hraw
    exact .text text
  | constant hkind hmem =>
    rw [hkind]
    exact .enum hmem
  | made hkey hfind hmade =>
    obtain ⟨-, henum, rfl⟩ := ValueType.converterKey?_eq_some_iff.1 hkey
    exact hc type.kind htype henum _ hfind text value hmade

/-- A bare option of a type for booleans is a boolean. -/
theorem hasKind_of_convert_bool (hkind : type.kind = .bool) {b : Bool}
    (h : c.convert (.bool b) type parameter = .ok value) : value.HasKind type.kind := by
  unfold convert at h
  rw [hkind] at h ⊢
  cases h
  exact .bool b

theorem mem_of_getElem?_ofList {α : Type} {entries : List (String × α)}
    (hdistinct : entries.Pairwise fun a b => ¬ compare a.1 b.1 = .eq) {key : String} {value : α}
    (h : (Std.TreeMap.ofList entries : Table α)[key]? = some value) : (key, value) ∈ entries := by
  have hkey : (Std.TreeMap.ofList entries : Table α).contains key = true := by
    rw [Std.TreeMap.contains_eq_isSome_getElem?, h]
    rfl
  rw [Std.TreeMap.contains_ofList, List.contains_iff_mem] at hkey
  obtain ⟨⟨name, found⟩, hmem, rfl⟩ := List.mem_map.1 hkey
  have hfound : (Std.TreeMap.ofList entries : Table α)[name]? = some found :=
    Std.TreeMap.getElem?_ofList_of_mem (by simp) hdistinct hmem
  obtain rfl : found = value := Option.some.inj (hfound.symm.trans h)
  exact hmem

end Converters

/-! ## The stock converters -/

/-- Accepts a text, and says how it is shown, or refuses it. -/
abbrev Recognizer := String → Except Refusal String

/-- Makes a value of the named type of every text that the recognizer accepts. -/
def Recognizer.converter (key : String) (recognizer : Recognizer) : Converter := fun text =>
  (recognizer text).map (.custom key)

namespace Recognizer

/-- Reads a text without the blanks around it, and shows what it has read. -/
def reading {α : Type} (read? : List Char → Option α) (write : α → String)
    (refusal : String → Refusal) : Recognizer := fun text =>
  match read? (Text.trimChars text.toList) with
  | some a => .ok (write a)
  | none => .error (refusal text)

/-- Tests a text, and shows it as it is. -/
def testing (test : List Char → Bool) (refusal : String → Refusal) : Recognizer := fun text =>
  if test text.toList then .ok text else .error (refusal text)

theorem converter_reading {α : Type} {key : String} {read? : List Char → Option α}
    {write : α → String} {refusal : String → Refusal} {converter : Converter}
    (hread : ∀ text a, read? (Text.trimChars text.toList) = some a →
      converter text = .ok (.custom key (write a)))
    (hrefused : ∀ text, read? (Text.trimChars text.toList) = none →
      converter text = .error (refusal text)) :
    (reading read? write refusal).converter key = converter := by
  funext text
  unfold Recognizer.converter reading
  cases h : read? (Text.trimChars text.toList) with
  | none => exact (hrefused text h).symm
  | some a => exact (hread text a h).symm

theorem converter_testing (key : String) (test : List Char → Bool) (refusal : String → Refusal)
    (text : String) :
    (testing test refusal).converter key text =
      if test text.toList then .ok (.custom key text) else .error (refusal text) :=
  apply_ite (Except.map (Value.custom key)) (test text.toList = true) (.ok text)
    (.error (refusal text))

end Recognizer

/-- The recognizers of texts that are written in a notation of their own. -/
structure Recognizers where
  date : Recognizer
  datetime : Recognizer
  regex : Recognizer
  glob : Recognizer

/-- The recognizers of the stock converters. -/
def Recognizers.stock : Recognizers where
  date := .reading Date.read? Date.write .notDate
  datetime := .reading Timestamp.read? Timestamp.write .notTimestamp
  regex := .testing Pattern.isRegex .notRegex
  glob := .testing Pattern.isGlob .notGlob

namespace Converters

/-- The stock converters with any recognizers. -/
def recognizing (r : Recognizers) : Converters :=
  ⟨.ofList [("bool", Stock.bool), ("int", Stock.int), ("float", Stock.float),
    ("char", Stock.char), ("date", r.date.converter "date"),
    ("datetime", r.datetime.converter "datetime"), ("path", Stock.path),
    ("regex", r.regex.converter "regex"), ("glob", r.glob.converter "glob")]⟩

theorem stock_eq_recognizing : stock = recognizing .stock := by
  have hdate : Recognizers.stock.date.converter "date" = Stock.date :=
    Recognizer.converter_reading (fun text d h => by rw [Stock.date, h])
      (fun text h => by rw [Stock.date, h])
  have hdatetime : Recognizers.stock.datetime.converter "datetime" = Stock.datetime :=
    Recognizer.converter_reading (fun text t h => by rw [Stock.datetime, h])
      (fun text h => by rw [Stock.datetime, h])
  have hregex : Recognizers.stock.regex.converter "regex" = Stock.regex :=
    funext (Recognizer.converter_testing "regex" Pattern.isRegex .notRegex)
  have hglob : Recognizers.stock.glob.converter "glob" = Stock.glob :=
    funext (Recognizer.converter_testing "glob" Pattern.isGlob .notGlob)
  rw [recognizing, hdate, hdatetime, hregex, hglob, stock]

namespace Stock

theorem makes_bool : bool.Makes .bool := by
  intro text value h
  unfold bool at h
  split at h <;> cases h
  exact .bool _

theorem makes_int : int.Makes .int := by
  intro text value h
  unfold int at h
  split at h <;> cases h
  exact .int _

theorem makes_float : float.Makes .float := by
  intro text value h
  unfold float at h
  split at h <;> cases h
  exact .float _

theorem makes_char : char.Makes (.named "char") := by
  intro text value h
  unfold char at h
  split at h <;> cases h
  exact .char _

theorem makes_path : path.Makes (.named "path") := by
  intro text value h
  cases h
  exact .named (by decide) text

end Stock

theorem makes_converter {key : String} (hkey : key ≠ "char") (recognizer : Recognizer) :
    (recognizer.converter key).Makes (.named key) := by
  intro text value h
  obtain ⟨shown, -, rfl⟩ := Except.map_eq_ok_iff.1 h
  exact .named hkey shown

/-- The stock converters keep to their keys, whatever the recognizers accept. -/
theorem faithful_recognizing (r : Recognizers) : (recognizing r).Faithful := by
  intro kind hkind henum converter hfind
  have hmem := mem_of_getElem?_ofList (by simp) hfind
  cases kind with
  | bool =>
    obtain rfl : converter = Stock.bool := by simpa [Kind.key] using hmem
    exact Stock.makes_bool
  | int =>
    obtain rfl : converter = Stock.int := by simpa [Kind.key] using hmem
    exact Stock.makes_int
  | float =>
    obtain rfl : converter = Stock.float := by simpa [Kind.key] using hmem
    exact Stock.makes_float
  | text => simp [Kind.key] at hmem
  | enum type => exact absurd rfl (henum type)
  | bean type => exact hkind.elim
  | named key =>
    have hkey : key ∉ ["bool", "int", "float"] := hkind
    simp only [Kind.key, List.mem_cons, List.not_mem_nil, or_false, Prod.mk.injEq] at hmem
    rcases hmem with ⟨rfl, -⟩ | ⟨rfl, -⟩ | ⟨rfl, -⟩ | ⟨rfl, rfl⟩ | ⟨rfl, rfl⟩ | ⟨rfl, rfl⟩ |
      ⟨rfl, rfl⟩ | ⟨rfl, rfl⟩ | ⟨rfl, rfl⟩
    · exact absurd (by simp) hkey
    · exact absurd (by simp) hkey
    · exact absurd (by simp) hkey
    · exact Stock.makes_char
    · exact makes_converter (by decide) r.date
    · exact makes_converter (by decide) r.datetime
    · exact Stock.makes_path
    · exact makes_converter (by decide) r.regex
    · exact makes_converter (by decide) r.glob

end Converters

end CommandLine
